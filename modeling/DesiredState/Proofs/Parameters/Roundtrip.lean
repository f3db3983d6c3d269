import DesiredState.Load
import DesiredState.Proofs.Schema.Roundtrip
/-!
Parameters read from their own JSON text. All fields of a block are written, null for those without
a value, and all are found again by their names. Main statement: `parse_writeJson`, that parameters
come back as they were where nothing in them is lost in JSON and they do not nest too deep.
-/

set_option autoImplicit false
set_option relaxedAutoImplicit false

namespace DesiredState

def Value.dataOf {t : Ty} (v : Option (Value t)) : List Datum := (v.map Value.datum).toList

open Value (dataOf)

namespace Reading

variable {r : Reading}

private theorem namedEntries_map {names : List String} {ms : Members Json} (hnodup : ms.keys.Nodup)
    (hnames : ∀ m ∈ ms, m.1 ∈ names) :
    namedEntries names (ms.map fun m => (some m.1, m.2.node)) = .ok (ms.mapValues Json.node) := by
  induction ms with
  | nil => rfl
  | cons m ms ih =>
    obtain ⟨hm, hms⟩ := List.forall_mem_cons.1 hnames
    obtain ⟨hfresh, hrest⟩ := List.nodup_cons.1 hnodup
    have hnone : Members.get? m.1 (Members.mapValues Json.node ms) = none := by
      rw [Members.get?_mapValues, Members.get?_eq_none_iff.2 hfresh]
      rfl
    rw [List.map_cons, namedEntries, ih hrest hms]
    simp only [bind, Except.bind, if_pos hm, hnone]
    rfl

/-- The fields found are the members of an object. -/
def Found (fs : List (String × Node)) (j : Json) : Prop :=
  ∀ name, Members.get? name fs = (j.member? name).map Json.node

private theorem exists_found {names : List String} {j : Json} {ms : Members Json} (hj : j = .obj ms)
    (hkeys : ms.keys = names) (hnodup : names.Nodup) (hdepth : j.depth ≤ r.depth) :
    ∃ fs, r.blockFields names j.node = .ok fs ∧ Found fs j := by
  subst hj hkeys
  have hlevels : ¬ r.depth = 0 := by
    rw [Json.depth] at hdepth
    omega
  refine ⟨ms.mapValues Json.node, ?_, fun name => Members.get?_mapValues _ name ms⟩
  rw [Json.node_obj, blockFields, if_neg hlevels]
  exact namedEntries_map hnodup fun m hm => List.mem_map_of_mem hm

private theorem depth_le_below {j v : Json} (hdepth : j.depth ≤ r.depth) {name : String}
    (hv : j.member? name = some v) : v.depth ≤ r.below.depth := by
  have hlt := Json.depth_lt_of_member? hv
  have hbelow : r.below.depth = r.depth - 1 := rfl
  omega

section Fields

variable {fs : List (String × Node)} {j : Json} (h : Found fs j) {name : String}

include h

private theorem plain_of_member? {α : Type} {f : Node → Except Mismatch α} {v : Json}
    {x missing : α} (hv : j.member? name = some v) (hf : f v.node = .ok x) :
    plain fs name missing f = .ok x := by
  rw [plain, h name, hv]
  exact hf

private theorem optional_of_null {α : Type} {f : Node → Except Mismatch α}
    (hv : j.member? name = some .null) : optional fs name f = .ok none := by
  rw [optional, h name, hv]
  rfl

private theorem optional_of_member? {α : Type} {f : Node → Except Mismatch α} {v : Json} {x : α}
    (hv : j.member? name = some v) (hnull : v ≠ .null) (hf : f v.node = .ok x) :
    optional fs name f = .ok (some x) := by
  rw [optional, h name, hv]
  simp only [Option.map_some, Json.presence_node hnull, hf]
  rfl

private theorem plain_text {s missing : String} (hv : j.member? name = some (.str s)) :
    plain fs name missing text = .ok s :=
  plain_of_member? h hv rfl

private theorem optional_text {s : Option String} (hv : j.member? name = some (Json.ofText? s)) :
    optional fs name text = .ok s := by
  cases s with
  | none => exact optional_of_null h hv
  | some s => exact optional_of_member? h hv Json.noConfusion rfl

private theorem optional_bool {b : Option Bool} (hv : j.member? name = some (b.elim .null .bool)) :
    optional fs name bool = .ok b := by
  cases b with
  | none => exact optional_of_null h hv
  | some b => exact optional_of_member? h hv Json.noConfusion rfl

variable {t : Ty} (hdepth : j.depth ≤ r.depth)

include hdepth

private theorem plain_value {v missing : Value t} (hv : j.member? name = some v.toJson)
    (hlossless : v.datum.Lossless) :
    plain fs name missing (Value.read r.below.depth) = .ok v :=
  plain_of_member? h hv (Value.read_node_toJson hlossless (depth_le_below hdepth hv))

private theorem optional_value {v : Option (Value t)} (hv : j.member? name = some (Json.ofValue? v))
    (hlossless : ∀ d ∈ dataOf v, d.Lossless) :
    optional fs name (Value.read r.below.depth) = .ok v := by
  cases v with
  | none => exact optional_of_null h hv
  | some v =>
    have hdatum : v.datum.Lossless := hlossless _ List.mem_cons_self
    exact optional_of_member? h hv (Datum.toJson_ne_null_of_lossless hdatum)
      (Value.read_node_toJson hdatum (depth_le_below hdepth hv))

end Fields

end Reading

open Reading (Found exists_found plain optional text bool plain_of_member? plain_text plain_value
  optional_text optional_bool optional_value depth_le_below)

namespace Json

private theorem floatless_ofText? (s : Option String) : (ofText? s).floatless = true := by
  cases s <;> rfl

private theorem floatless_ofValue? {t : Ty} {v : Option (Value t)}
    (h : ∀ d ∈ dataOf v, d.Lossless) : (ofValue? v).floatless = true := by
  cases v with
  | none => rfl
  | some v => exact Value.floatless_toJson (h _ List.mem_cons_self)

end Json

open Json (floatless_ofText? floatless_ofValue?)

namespace StorageParameters

def data (p : StorageParameters) : List Datum :=
  dataOf p.labels ++ dataOf p.annotations ++ dataOf p.accessModes

private theorem read_node_toJson {p : StorageParameters} (hp : ∀ d ∈ p.data, d.Lossless)
    {r : Reading} (hdepth : p.toJson.depth ≤ r.depth) : read r p.toJson.node = .ok p := by
  obtain ⟨fs, hfs, h⟩ : ∃ fs, r.blockFields fieldNames p.toJson.node = .ok fs ∧
      Found fs p.toJson := exists_found rfl rfl (by decide) hdepth
  simp only [data, List.forall_mem_append, and_assoc] at hp
  obtain ⟨hd₁, hd₂, hd₃⟩ := hp
  have hname : plain fs "name" "" text = .ok p.name := plain_text h rfl
  have hlabels : optional fs "labels" (Value.read r.below.depth) = .ok p.labels :=
    optional_value h hdepth rfl hd₁
  have hannotations : optional fs "annotations" (Value.read r.below.depth) = .ok p.annotations :=
    optional_value h hdepth rfl hd₂
  have haccessModes : optional fs "accessModes" (Value.read r.below.depth) = .ok p.accessModes :=
    optional_value h hdepth rfl hd₃
  have hstorageClassName : optional fs "storageClassName" text = .ok p.storageClassName :=
    optional_text h rfl
  have hsize : optional fs "size" text = .ok p.size := optional_text h rfl
  rw [read, hfs]
  simp only [bind, Except.bind, hname, hlabels, hannotations, haccessModes, hstorageClassName,
    hsize]
  rfl

private theorem floatless_toJson {p : StorageParameters} (hp : ∀ d ∈ p.data, d.Lossless) :
    p.toJson.floatless = true := by
  simp only [data, List.forall_mem_append, and_assoc] at hp
  obtain ⟨hd₁, hd₂, hd₃⟩ := hp
  rw [toJson, Json.floatless_obj_iff]
  simp only [List.forall_mem_cons]
  exact ⟨rfl, floatless_ofValue? hd₁, floatless_ofValue? hd₂, floatless_ofValue? hd₃,
    floatless_ofText? _, floatless_ofText? _, List.forall_mem_nil _⟩

end StorageParameters

namespace ContainerParameters

def data (p : ContainerParameters) : List Datum :=
  dataOf p.command ++ dataOf p.args ++ dataOf p.env ++ dataOf p.ports ++ dataOf p.resources

private theorem read_node_toJson {p : ContainerParameters} (hp : ∀ d ∈ p.data, d.Lossless)
    {r : Reading} (hdepth : p.toJson.depth ≤ r.depth) : read r p.toJson.node = .ok p := by
  obtain ⟨fs, hfs, h⟩ : ∃ fs, r.blockFields fieldNames p.toJson.node = .ok fs ∧
      Found fs p.toJson := exists_found rfl rfl (by decide) hdepth
  simp only [data, List.forall_mem_append, and_assoc] at hp
  obtain ⟨hd₁, hd₂, hd₃, hd₄, hd₅⟩ := hp
  have himage : plain fs "image" "" text = .ok p.image := plain_text h rfl
  have himagePullPolicy : optional fs "imagePullPolicy" text = .ok p.imagePullPolicy :=
    optional_text h rfl
  have hcommand : optional fs "command" (Value.read r.below.depth) = .ok p.command :=
    optional_value h hdepth rfl hd₁
  have hargs : optional fs "args" (Value.read r.below.depth) = .ok p.args :=
    optional_value h hdepth rfl hd₂
  have henv : optional fs "env" (Value.read r.below.depth) = .ok p.env :=
    optional_value h hdepth rfl hd₃
  have hports : optional fs "ports" (Value.read r.below.depth) = .ok p.ports :=
    optional_value h hdepth rfl hd₄
  have hresources : optional fs "resources" (Value.read r.below.depth) = .ok p.resources :=
    optional_value h hdepth rfl hd₅
  have hpersistenceEnabled : optional fs "persistenceEnabled" bool = .ok p.persistenceEnabled :=
    optional_bool h rfl
  have hdataMountPath : optional fs "dataMountPath" text = .ok p.dataMountPath :=
    optional_text h rfl
  have hconfigMountPath : optional fs "configMountPath" text = .ok p.configMountPath :=
    optional_text h rfl
  rw [read, hfs]
  simp only [bind, Except.bind, himage, himagePullPolicy, hcommand, hargs, henv, hports, hresources,
    hpersistenceEnabled, hdataMountPath, hconfigMountPath]
  rfl

private theorem floatless_toJson {p : ContainerParameters} (hp : ∀ d ∈ p.data, d.Lossless) :
    p.toJson.floatless = true := by
  simp only [data, List.forall_mem_append, and_assoc] at hp
  obtain ⟨hd₁, hd₂, hd₃, hd₄, hd₅⟩ := hp
  have hpersistence : (p.persistenceEnabled.elim .null .bool : Json).floatless = true := by
    cases p.persistenceEnabled <;> rfl
  rw [toJson, Json.floatless_obj_iff]
  simp only [List.forall_mem_cons]
  exact ⟨rfl, floatless_ofText? _, floatless_ofValue? hd₁, floatless_ofValue? hd₂,
    floatless_ofValue? hd₃, floatless_ofValue? hd₄, floatless_ofValue? hd₅, hpersistence,
    floatless_ofText? _, floatless_ofText? _, List.forall_mem_nil _⟩

end ContainerParameters

namespace Parameters

def data (p : Parameters) : List Datum :=
  p.metadata.datum :: (dataOf p.owner ++ p.container.data ++ dataOf p.labels ++
    dataOf p.annotations ++ dataOf p.replicas ++ p.storage.data ++ dataOf p.extraVolumes ++
    dataOf p.affinity ++ dataOf p.nodeSelector ++ dataOf p.tolerations ++
    dataOf p.securityContext)

private theorem read_node_toJson {p : Parameters} (hp : ∀ d ∈ p.data, d.Lossless) {r : Reading}
    (hdepth : p.toJson.depth ≤ r.depth) : read r p.toJson.node = .ok p := by
  obtain ⟨fs, hfs, h⟩ : ∃ fs, r.blockFields fieldNames p.toJson.node = .ok fs ∧
      Found fs p.toJson := exists_found rfl rfl (by decide) hdepth
  simp only [data, List.forall_mem_cons, List.forall_mem_append, and_assoc] at hp
  obtain ⟨hd₁, hd₂, hcontainerData, hd₃, hd₄, hd₅, hstorageData, hd₆, hd₇, hd₈, hd₉, hd₁₀⟩ := hp
  have hmetadata : plain fs "metadata" unset.metadata (Value.read r.below.depth) =
      .ok p.metadata := plain_value h hdepth rfl hd₁
  have hns : plain fs "namespace" "" text = .ok p.ns := plain_text h rfl
  have hcontainer : plain fs "container" unset.container (ContainerParameters.read r.below) =
      .ok p.container := by
    have hmember : p.toJson.member? "container" = some p.container.toJson := rfl
    exact plain_of_member? h hmember
      (ContainerParameters.read_node_toJson hcontainerData (depth_le_below hdepth hmember))
  have hstorage : plain fs "storage" unset.storage (StorageParameters.read r.below) =
      .ok p.storage := by
    have hmember : p.toJson.member? "storage" = some p.storage.toJson := rfl
    exact plain_of_member? h hmember
      (StorageParameters.read_node_toJson hstorageData (depth_le_below hdepth hmember))
  have howner : optional fs "owner" (Value.read r.below.depth) = .ok p.owner :=
    optional_value h hdepth rfl hd₂
  have hlabels : optional fs "labels" (Value.read r.below.depth) = .ok p.labels :=
    optional_value h hdepth rfl hd₃
  have hannotations : optional fs "annotations" (Value.read r.below.depth) = .ok p.annotations :=
    optional_value h hdepth rfl hd₄
  have hreplicas : optional fs "replicas" (Value.read r.below.depth) = .ok p.replicas :=
    optional_value h hdepth rfl hd₅
  have hextraVolumes : optional fs "extraVolumes" (Value.read r.below.depth) = .ok p.extraVolumes :=
    optional_value h hdepth rfl hd₆
  have himagePullSecret : optional fs "imagePullSecret" text = .ok p.imagePullSecret :=
    optional_text h rfl
  have haffinity : optional fs "affinity" (Value.read r.below.depth) = .ok p.affinity :=
    optional_value h hdepth rfl hd₇
  have hnodeSelector : optional fs "nodeSelector" (Value.read r.below.depth) = .ok p.nodeSelector :=
    optional_value h hdepth rfl hd₈
  have htolerations : optional fs "tolerations" (Value.read r.below.depth) = .ok p.tolerations :=
    optional_value h hdepth rfl hd₉
  have hpriorityClassName : optional fs "priorityClassName" text = .ok p.priorityClassName :=
    optional_text h rfl
  have hadditionalConfig : optional fs "additionalConfig" text = .ok p.additionalConfig :=
    optional_text h rfl
  have hsecurityContext : optional fs "securityContext" (Value.read r.below.depth) =
      .ok p.securityContext := optional_value h hdepth rfl hd₁₀
  rw [read, hfs]
  simp only [bind, Except.bind, hmetadata, hns, hcontainer, hstorage, howner, hlabels, hannotations,
    hreplicas, hextraVolumes, himagePullSecret, haffinity, hnodeSelector, htolerations,
    hpriorityClassName, hadditionalConfig, hsecurityContext]
  rfl

private theorem floatless_toJson {p : Parameters} (hp : ∀ d ∈ p.data, d.Lossless) :
    p.toJson.floatless = true := by
  simp only [data, List.forall_mem_cons, List.forall_mem_append, and_assoc] at hp
  obtain ⟨hd₁, hd₂, hcontainer, hd₃, hd₄, hd₅, hstorage, hd₆, hd₇, hd₈, hd₉, hd₁₀⟩ := hp
  rw [toJson, Json.floatless_obj_iff]
  simp only [List.forall_mem_cons]
  exact ⟨Value.floatless_toJson hd₁, rfl, floatless_ofValue? hd₂,
    ContainerParameters.floatless_toJson hcontainer, floatless_ofValue? hd₃,
    floatless_ofValue? hd₄, floatless_ofValue? hd₅,
    StorageParameters.floatless_toJson hstorage, floatless_ofValue? hd₆, floatless_ofText? _,
    floatless_ofValue? hd₇, floatless_ofValue? hd₈, floatless_ofValue? hd₉, floatless_ofText? _,
    floatless_ofText? _, floatless_ofValue? hd₁₀, List.forall_mem_nil _⟩

theorem parse_compact {j : Json} (hj : j.inRange = true) {p : Parameters}
    (hp : Parameters.read .json j.reread.node = .ok p) :
    Parameters.parse .json j.compact = .ok p := by
  have hdocument : Json.Text.document true j.compact = .ok j.reread.node := by
    refine Json.Text.document_compact_eq_ok hj ?_
    intro h
    cases h
  have hnode : Node.ofText .json j.compact = .ok j.reread.node := by
    rw [Node.ofText, Node.ofJson, hdocument]
    rfl
  rw [Parameters.parse, hnode]
  simp only [bind, Except.bind, Reading.of, hp, Except.mapError]

/-- Parameters are read from the JSON text that is written of them, where nothing in them is lost in
JSON: their instants are whole seconds of years of four digits, their free-form data are not null
and without floats, and they do not nest too deep. -/
theorem parse_writeJson {p : Parameters} (hp : ∀ d ∈ p.data, d.Lossless)
    (hdepth : p.toJson.depth ≤ 127) :
    (writeJson (.ok p.toJson) >>= Parameters.parse .json) = .ok p := by
  have hfloatless := floatless_toJson hp
  have hread : Parameters.read .json p.toJson.reread.node = .ok p := by
    rw [Json.reread_of_floatless hfloatless]
    exact read_node_toJson hp hdepth
  have hwritten : writeJson (.ok p.toJson) = .ok p.toJson.compact := rfl
  have hparsed := parse_compact (Json.inRange_of_floatless hfloatless) hread
  simp only [hwritten, bind, Except.bind, hparsed]

def sparse : Parameters :=
  { unset with
    metadata := ((unset.metadata.put ObjectMeta.name (.ofText "a\"\n\\b")).put
      ObjectMeta.creationTimestamp (.ofTime ⟨1483228799, 1000000000⟩)).put
        ObjectMeta.managedFields (.ofItems [(Record.blank .managedFieldsEntry).put
          ⟨"fieldsV1", rfl⟩ ⟨.free (.obj [("f:spec", .arr [.null, .int 3])]), rfl⟩])
    container := { unset.container with
      imagePullPolicy := some "", command := some .emptyList, persistenceEnabled := some false }
    labels := some .emptyMap
    storage := { unset.storage with accessModes := some .emptyList, size := some "" }
    securityContext := some (Record.blank .podSecurityContext) }

theorem parse_writeJson_sparse :
    (∀ d ∈ sparse.data, d.Lossless) ∧ sparse.toJson.depth ≤ 127 ∧
      (writeJson (.ok sparse.toJson) >>= Parameters.parse .json) = .ok sparse := by
  have hdata : ∀ d ∈ sparse.data, d.Lossless := by decide
  have hdepth : sparse.toJson.depth ≤ 127 := by decide
  exact ⟨hdata, hdepth, parse_writeJson hdata hdepth⟩

end Parameters

end DesiredState
