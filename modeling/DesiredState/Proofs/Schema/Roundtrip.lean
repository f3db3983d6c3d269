import DesiredState.Proofs.Json.Floatless
import DesiredState.Proofs.Schema.Readable
import DesiredState.Proofs.Timestamp.Text
/-!
Typed data read from their own JSON values. Two kinds of leaves may lose something: an instant is
written in whole seconds, and free-form data may be null, which counts as missing, or contain
floats. Main statements: `Value.read_node_toJson`, that without these a value is read as it was, and
`Value.floatless_toJson`, that there is no float in what is written of it.
-/

set_option autoImplicit false
set_option relaxedAutoImplicit false

namespace DesiredState

namespace Datum

mutual
def leaves : Datum → List Datum
  | .bool b => [.bool b]
  | .int n => [.int n]
  | .text s => [.text s]
  | .time t => [.time t]
  | .free j => [.free j]
  | .list ds => itemLeaves ds
  | .fields ms => memberLeaves ms
def itemLeaves : List Datum → List Datum
  | [] => []
  | d :: ds => d.leaves ++ itemLeaves ds
def memberLeaves : List (String × Datum) → List Datum
  | [] => []
  | (_, d) :: ms => d.leaves ++ memberLeaves ms
end

private theorem leaves_list (ds : List Datum) : (Datum.list ds).leaves = ds.flatMap leaves := by
  rw [leaves]
  induction ds with
  | nil => rfl
  | cons d ds ih => rw [itemLeaves, ih, List.flatMap_cons]

private theorem leaves_fields (ms : Members Datum) :
    (Datum.fields ms).leaves = ms.flatMap fun m => m.2.leaves := by
  rw [leaves]
  induction ms with
  | nil => rfl
  | cons m ms ih => rw [memberLeaves, ih, List.flatMap_cons]

/-- A leaf of which the JSON value says everything: an instant only if it is a whole second of a
year of four digits, and free-form data only if they are not null and contain no floats. -/
def IsExact : Datum → Prop
  | .time t => t.IsPlain
  | .free j => j ≠ .null ∧ j.floatless = true
  | .bool _ | .int _ | .text _ | .list _ | .fields _ => True

instance (d : Datum) : Decidable d.IsExact :=
  match d with
  | .time t => inferInstanceAs (Decidable t.IsPlain)
  | .free j => inferInstanceAs (Decidable (j ≠ .null ∧ j.floatless = true))
  | .bool _ | .int _ | .text _ | .list _ | .fields _ => inferInstanceAs (Decidable True)

def Lossless (d : Datum) : Prop := ∀ leaf ∈ d.leaves, leaf.IsExact

instance (d : Datum) : Decidable d.Lossless := inferInstanceAs (Decidable (∀ leaf ∈ d.leaves, _))

private theorem lossless_list_iff {ds : List Datum} :
    (list ds).Lossless ↔ ∀ d ∈ ds, d.Lossless := by
  rw [Lossless, leaves_list]
  exact List.forall_mem_flatMap

private theorem lossless_fields_iff {ms : Members Datum} :
    (fields ms).Lossless ↔ ∀ m ∈ ms, m.2.Lossless := by
  rw [Lossless, leaves_fields]
  exact List.forall_mem_flatMap

private theorem isPlain_of_lossless {t : Timestamp} (h : (time t).Lossless) : t.IsPlain :=
  h _ List.mem_cons_self

private theorem ne_null_of_lossless {j : Json} (h : (free j).Lossless) : j ≠ .null :=
  (h _ List.mem_cons_self).1

private theorem floatless_of_lossless {j : Json} (h : (free j).Lossless) : j.floatless = true :=
  (h _ List.mem_cons_self).2

variable {d : Datum} {t : Ty}

theorem toJson_ne_null_of_lossless (h : d.Lossless) : d.toJson ≠ .null := by
  cases d with
  | free j => exact ne_null_of_lossless h
  | bool | int | text | time | list | fields =>
    intro hnull
    cases hnull

private theorem isInt64_of_hasType {n : Int} (h : (Datum.int n).hasType t = true) :
    isInt64 n = true := by
  cases t with
  | int32 => exact isInt64_of_isInt32 h
  | int64 => exact h
  | intOrText => exact isInt64_of_isInt32 h
  | _ => cases h

theorem floatless_toJson (ht : d.hasType t = true) (hd : d.Lossless) :
    d.toJson.floatless = true := by
  induction d using inductionOn generalizing t with
  | atom d ha =>
    cases d with
    | int n => exact inRange_of_isInt64 (isInt64_of_hasType ht)
    | free j => exact floatless_of_lossless hd
    | list ds => cases ha
    | fields ms => cases ha
    | bool | text | time => rfl
  | free j => exact floatless_of_lossless hd
  | list ds ih =>
    rw [toJson, itemsToJson_eq_map, Json.floatless_arr_iff]
    intro j hj
    obtain ⟨d, hmem, rfl⟩ := List.mem_map.1 hj
    cases t with
    | list t => exact ih d hmem (hasType_list_iff.1 ht d hmem) (lossless_list_iff.1 hd d hmem)
    | _ => cases ht
  | fields ms ih =>
    rw [toJson, fieldsToJson_eq_mapValues, Json.floatless_obj_iff]
    intro m hm
    obtain ⟨e, hmem, rfl⟩ := List.mem_map.1 hm
    cases t with
    | map t => exact ih e hmem ((hasType_map_iff.1 ht).2 e hmem) (lossless_fields_iff.1 hd e hmem)
    | object k =>
      obtain ⟨f, -, hf⟩ := (hasType_object_iff.1 ht).2.1 e hmem
      exact ih e hmem hf (lossless_fields_iff.1 hd e hmem)
    | _ => cases ht

end Datum

private theorem Members.Increasing.get?_reverse {α : Type} {ms : Members α} (h : Increasing ms)
    (k : String) : Members.get? k ms.reverse = Members.get? k ms := by
  cases hget : Members.get? k ms.reverse with
  | some v => exact (h.get?_of_mem (List.mem_reverse.1 (Members.mem_of_get? hget))).symm
  | none =>
    have hkeys : k ∉ Members.keys ms.reverse := Members.get?_eq_none_iff.1 hget
    rw [Members.keys, List.map_reverse, List.mem_reverse] at hkeys
    exact (Members.get?_eq_none_iff.2 hkeys).symm

private theorem Kind.get?_complete_of_field? {k : Kind} {found : String → Option Datum}
    {name : String} (h : k.field? name = none) : Members.get? name (k.complete found) = none := by
  cases hget : Members.get? name (k.complete found) with
  | none => rfl
  | some d =>
    obtain ⟨f, hf, hmember⟩ := List.mem_filterMap.1 (Members.mem_of_get? hget)
    obtain ⟨e, -, he⟩ := Option.map_eq_some_iff.1 hmember
    cases he
    rw [Kind.field?_of_mem hf] at h
    cases h

private theorem Kind.complete_members {k : Kind} {ms : Members Datum}
    (h : (Datum.fields ms).hasType (.object k) = true) : k.complete (ms.get? ·) = ms := by
  obtain ⟨hincreasing, hmembers, hrequired⟩ := Datum.hasType_object_iff.1 h
  apply (k.complete_increasing _).ext hincreasing
  intro name
  cases hf : k.field? name with
  | some f =>
    obtain ⟨hmem, rfl⟩ := Kind.mem_of_field? hf
    rw [Kind.get?_complete _ hmem]
    cases hget : ms.get? f.name with
    | some d => rfl
    | none =>
      -- A required field would have a member.
      cases hinitial : f.initial? with
      | none => rfl
      | some d =>
        have hsome := hrequired f hmem (by rw [hinitial]; rfl)
        rw [hget] at hsome
        cases hsome
  | none => rw [get?_complete_of_field? hf, get?_of_field? hf hmembers]

theorem Json.presence_node {j : Json} (h : j ≠ .null) : j.node.presence = .given := by
  cases j with
  | null => exact absurd rfl h
  | bool | int | float | str | arr | obj => rfl

namespace Node

variable {depth : Nat} {t : Ty}

private theorem read_scalar {s : Scalar} {d : Datum} (h : s.datum? t = some d) :
    (Node.scalar s).read depth t = .ok d := by
  rw [read, h]
  rfl

private theorem read_free (n : Node) : n.read depth .free = (n.toJson depth).map .free := by
  cases n with
  | scalar s =>
    rw [read, toJson, Scalar.datum?]
    cases s.value? <;> rfl
  | seq items => rw [read]
  | map entries => rw [read]

private theorem readItems_map {ds : List Datum} (h : ∀ d ∈ ds, d.toJson.node.read depth t = .ok d) :
    readItems depth t (ds.map fun d => d.toJson.node) = .ok ds := by
  induction ds with
  | nil => rfl
  | cons d ds ih =>
    obtain ⟨hd, hds⟩ := List.forall_mem_cons.1 h
    rw [List.map_cons, readItems, hd, ih hds]
    rfl

private theorem readEntries_map {ms : Members Datum}
    (h : ∀ m ∈ ms, m.2.toJson.node.read depth t = .ok m.2) :
    readEntries depth t (ms.map fun m => (some m.1, m.2.toJson.node)) = .ok ms := by
  induction ms with
  | nil => rfl
  | cons m ms ih =>
    obtain ⟨hm, hms⟩ := List.forall_mem_cons.1 h
    rw [List.map_cons, readEntries, hm, ih hms]
    rfl

private theorem readMembers_map {k : Kind} {ms : Members Datum}
    (h : ∀ m ∈ ms, m.2.toJson ≠ .null ∧ ∃ f, k.field? m.1 = some f ∧
      m.2.toJson.node.read depth f.type = .ok m.2) :
    readMembers depth k (ms.map fun m => (some m.1, m.2.toJson.node)) =
      .ok (ms.mapValues some) := by
  induction ms with
  | nil => rfl
  | cons m ms ih =>
    obtain ⟨⟨hnull, f, hf, hread⟩, hms⟩ := List.forall_mem_cons.1 h
    have hpresence : (if f.type.mayBeNull then m.2.toJson.node.presence else .given) =
        Presence.given := by
      rw [Json.presence_node hnull, ite_self]
    rw [List.map_cons, readMembers]
    simp only [hf, hpresence, hread, ih hms, bind, Except.bind]
    rfl

end Node

namespace Scalar

variable {t : Ty}

private theorem datum?_ofBool {b : Bool} (h : (Datum.bool b).hasType t = true) :
    (ofBool b).datum? t = some (.bool b) := by
  cases t with
  | bool => rfl
  | _ => cases h

private theorem datum?_ofInt {n : Int} (h : (Datum.int n).hasType t = true) :
    (ofInt n).datum? t = some (.int n) := by
  cases t with
  | int32 => exact congrArg (Option.map Datum.int) (Option.filter_some_pos h)
  | int64 => exact congrArg (Option.map Datum.int) (Option.filter_some_pos h)
  | intOrText => exact if_pos h
  | _ => cases h

private theorem datum?_ofText {s : String} (h : (Datum.text s).hasType t = true) :
    (ofText s).datum? t = some (.text s) := by
  cases t with
  | text | intOrText => rfl
  | literal w => exact congrArg (Option.map Datum.text) (Option.filter_some_pos h)
  | _ => cases h

private theorem datum?_ofText_render {x : Timestamp} (h : (Datum.time x).hasType t = true)
    (hx : x.IsPlain) : (ofText x.render).datum? t = some (.time x) := by
  cases t with
  | time =>
    simp only [datum?, ofText, Option.bind_some, Timestamp.parse?_render hx, Option.map_some]
  | _ => cases h

end Scalar

namespace Datum

variable {d : Datum} {t : Ty} {depth : Nat}

private theorem read_node_free {j : Json} (ht : (Datum.free j).hasType t = true)
    (hdepth : j.depth ≤ depth) : j.node.read depth t = .ok (.free j) := by
  cases t with
  | free =>
    rw [Node.read_free, Json.toJson_node ht hdepth]
    rfl
  | _ => cases ht

private theorem read_node_list {ds : List Datum} (hdepth : (Datum.list ds).toJson.depth ≤ depth)
    (h : ∀ d ∈ ds, ∀ n, d.toJson.depth ≤ n → d.toJson.node.read n t = .ok d) :
    (Datum.list ds).toJson.node.read depth (.list t) = .ok (.list ds) := by
  rw [toJson, itemsToJson_eq_map] at hdepth ⊢
  obtain ⟨n, rfl⟩ : ∃ n, depth = n + 1 := ⟨depth - 1, by rw [Json.depth] at hdepth; omega⟩
  rw [Json.depth_arr_le_iff] at hdepth
  have hitems : Node.readItems n t (ds.map fun d => d.toJson.node) = .ok ds :=
    Node.readItems_map fun d hd => h d hd n (hdepth _ (List.mem_map_of_mem hd))
  rw [Json.node_arr, List.map_map, Node.read, Function.comp_def, hitems]
  rfl

private theorem read_node_map {ms : Members Datum} (hms : Members.Increasing ms)
    (hdepth : (Datum.fields ms).toJson.depth ≤ depth)
    (h : ∀ m ∈ ms, ∀ n, m.2.toJson.depth ≤ n → m.2.toJson.node.read n t = .ok m.2) :
    (Datum.fields ms).toJson.node.read depth (.map t) = .ok (.fields ms) := by
  rw [toJson, fieldsToJson_eq_mapValues] at hdepth ⊢
  obtain ⟨n, rfl⟩ : ∃ n, depth = n + 1 := ⟨depth - 1, by rw [Json.depth] at hdepth; omega⟩
  rw [Json.depth_obj_le_iff] at hdepth
  have hentries : Node.readEntries n t (ms.map fun m => (some m.1, m.2.toJson.node)) = .ok ms :=
    Node.readEntries_map fun m hm => h m hm n (hdepth _ (List.mem_map_of_mem hm))
  rw [Json.node_obj, Members.mapValues, List.map_map, Node.read, Function.comp_def, hentries]
  simp only [Except.map, hms.ofList_eq]

private theorem read_node_object {k : Kind} {ms : Members Datum}
    (ht : (Datum.fields ms).hasType (.object k) = true)
    (hdepth : (Datum.fields ms).toJson.depth ≤ depth)
    (h : ∀ m ∈ ms, m.2.toJson ≠ .null ∧ ∀ u n, m.2.hasType u = true → m.2.toJson.depth ≤ n →
      m.2.toJson.node.read n u = .ok m.2) :
    (Datum.fields ms).toJson.node.read depth (.object k) = .ok (.fields ms) := by
  obtain ⟨hincreasing, hmembers, -⟩ := hasType_object_iff.1 ht
  rw [toJson, fieldsToJson_eq_mapValues] at hdepth ⊢
  obtain ⟨n, rfl⟩ : ∃ n, depth = n + 1 := ⟨depth - 1, by rw [Json.depth] at hdepth; omega⟩
  rw [Json.depth_obj_le_iff] at hdepth
  have hread : Node.readMembers n k (ms.map fun m => (some m.1, m.2.toJson.node)) =
      .ok (ms.mapValues some) := by
    apply Node.readMembers_map
    intro m hm
    obtain ⟨f, hf, hd⟩ := hmembers m hm
    obtain ⟨hnull, hvalue⟩ := h m hm
    exact ⟨hnull, f, hf, hvalue f.type n hd (hdepth _ (List.mem_map_of_mem hm))⟩
  have hfound : (fun name => (Members.get? name (ms.mapValues some).reverse).join) =
      (ms.get? ·) := by
    funext name
    rw [(hincreasing.mapValues some).get?_reverse, Members.get?_mapValues]
    cases ms.get? name <;> rfl
  rw [Json.node_obj, Members.mapValues, List.map_map, Node.read, Function.comp_def, hread]
  simp only [Except.map, hfound, Kind.complete_members ht]

/-- A datum of a type is read from the document of its JSON value. -/
theorem read_node_toJson (ht : d.hasType t = true) (hd : d.Lossless)
    (hdepth : d.toJson.depth ≤ depth) : d.toJson.node.read depth t = .ok d := by
  induction d using inductionOn generalizing t depth with
  | atom d ha =>
    cases d with
    | bool b => exact Node.read_scalar (Scalar.datum?_ofBool ht)
    | int n => exact Node.read_scalar (Scalar.datum?_ofInt ht)
    | text s => exact Node.read_scalar (Scalar.datum?_ofText ht)
    | time x =>
      exact Node.read_scalar (Scalar.datum?_ofText_render ht (isPlain_of_lossless hd))
    | free j => exact read_node_free ht hdepth
    | list ds => cases ha
    | fields ms => cases ha
  | free j => exact read_node_free ht hdepth
  | list ds ih =>
    cases t with
    | list t =>
      apply read_node_list hdepth
      intro d hmem n hn
      exact ih d hmem (hasType_list_iff.1 ht d hmem) (lossless_list_iff.1 hd d hmem) hn
    | _ => cases ht
  | fields ms ih =>
    cases t with
    | map t =>
      obtain ⟨hincreasing, hvalues⟩ := hasType_map_iff.1 ht
      apply read_node_map hincreasing hdepth
      intro m hm n hn
      exact ih m hm (hvalues m hm) (lossless_fields_iff.1 hd m hm) hn
    | object k =>
      apply read_node_object ht hdepth
      intro m hm
      refine ⟨toJson_ne_null_of_lossless (lossless_fields_iff.1 hd m hm), fun u n hu hn => ?_⟩
      exact ih m hm hu (lossless_fields_iff.1 hd m hm) hn
    | _ => cases ht

end Datum

namespace Value

variable {t : Ty} {v : Value t} {depth : Nat}

/-- A value is read from the document of its JSON value, if that loses nothing. -/
theorem read_node_toJson (hv : v.datum.Lossless) (hdepth : v.toJson.depth ≤ depth) :
    Value.read depth v.toJson.node = .ok v := by
  have hread := Datum.read_node_toJson v.hasType hv hdepth
  rw [Value.read]
  split
  · rename_i d hd
    rw [toJson, hread] at hd
    cases hd
    rfl
  · rename_i e he
    rw [toJson, hread] at he
    cases he

theorem floatless_toJson (hv : v.datum.Lossless) : v.toJson.floatless = true :=
  Datum.floatless_toJson v.hasType hv

end Value

end DesiredState
