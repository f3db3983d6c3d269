import DesiredState.Load
import DesiredState.Proofs.Cycle.Recorded
import DesiredState.Proofs.Json.Roundtrip
import DesiredState.Proofs.Parameters.Roundtrip
import DesiredState.Proofs.Schema.Readable
/-!
Whether a snapshot can be read back. A rendered object nests the volumes of its parameters three
levels deeper than the parameters do, and nothing else that callers nest at will. Main statement:
`snapshot_read_back`, that the snapshot of an object rendered from a text is read back exactly
where those volumes leave it the levels that a reader allows.
-/

set_option autoImplicit false
set_option relaxedAutoImplicit false

namespace DesiredState

namespace Reading

private theorem inRange_of_namedEntries {names : List String} {es : List (Option String × Node)}
    (hes : Node.inRangeEntries es = true) {fs : List (String × Node)}
    (h : namedEntries names es = .ok fs) : ∀ m ∈ fs, m.2.inRange = true := by
  induction es generalizing fs with
  | nil =>
    cases h
    simp
  | cons e es ih =>
    obtain ⟨k, n⟩ := e
    rw [Node.inRangeEntries, Bool.and_eq_true] at hes
    cases k with
    | none => cases h
    | some k =>
      obtain ⟨rest, hrest, h⟩ := ok_of_bind h
      have htail := ih hes.2 hrest
      split at h
      · split at h
        · cases h
        · cases h
          exact List.forall_mem_cons.2 ⟨hes.1, htail⟩
      · cases h
        exact htail

private theorem inRange_of_blockFields {r : Reading} {names : List String} {n : Node}
    (hn : n.inRange = true) {fs : List (String × Node)} (h : r.blockFields names n = .ok fs) :
    ∀ m ∈ fs, m.2.inRange = true := by
  cases n with
  | scalar s =>
    simp only [blockFields] at h
    split at h
    · cases h
      simp
    · cases h
  | seq items =>
    simp only [blockFields] at h
    split at h
    · cases h
    · split at h
      · cases h
      · split at h
        · cases h
        · cases h
          intro m hm
          exact Node.inRangeItems_iff.1 hn m.2 (List.of_mem_zip hm).2
  | map entries =>
    simp only [blockFields] at h
    split at h
    · cases h
    · exact inRange_of_namedEntries hn h

private theorem inRange_of_optional {t : Ty} {depth : Nat} {fs : List (String × Node)}
    {name : String} (hfs : ∀ m ∈ fs, m.2.inRange = true) {v : Value t}
    (h : optional fs name (Value.read depth) = .ok (some v)) : v.toJson.inRange = true := by
  rw [optional] at h
  split at h
  · cases h
  · rename_i n hn
    split at h
    · cases hv : (Value.read depth n : Except Mismatch (Value t)) with
      | error e =>
        rw [hv] at h
        cases h
      | ok w =>
        rw [hv] at h
        cases h
        exact Value.inRange_of_read (hfs _ (Members.mem_of_get? hn)) hv
    · cases h
    · cases h

end Reading

namespace Parameters

/-- How deep the additional volumes nest. -/
def volumeLevels (p : Parameters) : Nat := p.extraVolumes.elim 0 fun v => v.toJson.depth

private theorem exists_document {text : String} {p : Parameters}
    (h : Parameters.parse .json text = .ok p) :
    ∃ n, Json.Text.document true text = .ok n ∧ Parameters.read .json n = .ok p := by
  obtain ⟨n, hn, h⟩ := ok_of_bind h
  exact ⟨n, ok_of_mapError hn, ok_of_mapError h⟩

private theorem exists_blockFields {r : Reading} {n : Node} {p : Parameters}
    (h : Parameters.read r n = .ok p) : ∃ fs, r.blockFields fieldNames n = .ok fs ∧
      Reading.optional fs "extraVolumes" (Value.read r.below.depth) = .ok p.extraVolumes := by
  obtain ⟨fs, hfs, h⟩ := ok_of_bind h
  -- eight fields are read before the volumes, and seven after them
  obtain ⟨_, -, h⟩ := ok_of_bind h
  obtain ⟨_, -, h⟩ := ok_of_bind h
  obtain ⟨_, -, h⟩ := ok_of_bind h
  obtain ⟨_, -, h⟩ := ok_of_bind h
  obtain ⟨_, -, h⟩ := ok_of_bind h
  obtain ⟨_, -, h⟩ := ok_of_bind h
  obtain ⟨_, -, h⟩ := ok_of_bind h
  obtain ⟨_, -, h⟩ := ok_of_bind h
  obtain ⟨volumes, hvolumes, h⟩ := ok_of_bind h
  obtain ⟨_, -, h⟩ := ok_of_bind h
  obtain ⟨_, -, h⟩ := ok_of_bind h
  obtain ⟨_, -, h⟩ := ok_of_bind h
  obtain ⟨_, -, h⟩ := ok_of_bind h
  obtain ⟨_, -, h⟩ := ok_of_bind h
  obtain ⟨_, -, h⟩ := ok_of_bind h
  obtain ⟨_, -, h⟩ := ok_of_bind h
  cases h
  exact ⟨fs, hfs, hvolumes⟩

private theorem inRange_extraVolumes {text : String} {p : Parameters}
    (h : Parameters.parse .json text = .ok p) {v : Value (.list (.object .volume))}
    (hv : p.extraVolumes = some v) : v.toJson.inRange = true := by
  obtain ⟨n, hn, hread⟩ := exists_document h
  obtain ⟨fs, hfs, hvolumes⟩ := exists_blockFields hread
  rw [hv] at hvolumes
  exact Reading.inRange_of_optional
    (Reading.inRange_of_blockFields (Json.Text.inRange_of_document hn) hfs) hvolumes

end Parameters

namespace ObjectMeta

private theorem fieldsNestWithin :
    Value.fieldsNestWithin .objectMeta 3 ["managedFields"] = true := by decide +kernel

private theorem readable {m : ObjectMeta} (h : m.get? ObjectMeta.managedFields = none) :
    m.toJson.Readable 4 := by
  refine m.readable_of_fields fieldsNestWithin (Nat.le_refl 3) ?_
  simp only [List.forall_mem_singleton]
  intro v hv
  have hmember := Value.member?_toJson m ObjectMeta.managedFields
  rw [h] at hmember
  cases hmember.symm.trans hv

end ObjectMeta

namespace Synthesis

variable {s : Settings}

private theorem readable_configVolume (config : String) :
    (configVolume config).toJson.Readable 11 := by
  have hfields : Value.fieldsNestWithin .volume 10 ["ephemeral"] = true := by decide +kernel
  refine (configVolume config).readable_of_fields hfields (Nat.le_refl 10) ?_
  simp only [List.forall_mem_singleton]
  intro v hv
  have hnone : (Record.blank .volume).jsonMembers.get? "ephemeral" = none := by decide +kernel
  rw [Value.toJson_eq_obj, Json.member?, configVolume, Value.get?_jsonMembers_put,
    if_neg (by decide), Value.get?_jsonMembers_put, if_neg (by decide), hnone] at hv
  cases hv

private theorem readable_volumes {n : Nat} (hn : 11 ≤ n)
    (h : s.extraVolumes.toJson.Readable (n + 1)) :
    (Value.ofItems (volumes s)).toJson.Readable (n + 1) := by
  rw [Value.toJson_eq_arr] at h ⊢
  rw [Value.items_ofItems, Json.readable_arr_iff]
  rw [Json.readable_arr_iff] at h
  intro j hj
  obtain ⟨v, hv, rfl⟩ := List.mem_map.1 hj
  rcases List.mem_append.1 hv with hv | hv
  · exact h _ (List.mem_map_of_mem hv)
  · obtain ⟨config, -, rfl⟩ := List.mem_map.1 hv
    exact (readable_configVolume config).mono hn

private theorem member?_spec_template (claims : List VolumeClaim) (c : Container) :
    (spec s claims c).toJson.member? "template" = some (template s c).toJson := by
  have hmember := Value.member?_toJson (spec s claims c) StatefulSetSpec.template
  rw [Value.get?_eq_some_get, get_spec_template] at hmember
  exact hmember

private theorem member?_template_spec (c : Container) :
    (template s c).toJson.member? "spec" = some (pod s c).toJson := by
  have hmember := Value.member?_toJson (template s c) PodTemplate.spec
  rw [template, Value.get?_put_self] at hmember
  exact hmember

private theorem member?_template_metadata (c : Container) :
    (template s c).toJson.member? "metadata" = some (podMetadata s).toJson := by
  have hmember := Value.member?_toJson (template s c) PodTemplate.metadata
  rw [template, Value.get?_put_of_ne _ (by decide), Value.get?_put_self] at hmember
  exact hmember

private theorem member?_pod_volumes (c : Container) :
    (pod s c).toJson.member? "volumes" = (nonEmptyItems (volumes s)).map Value.toJson := by
  have hmember := Value.member?_toJson (pod s c) PodSpec.volumes
  rw [pod, Value.get?_set_of_ne _ (by decide), Value.get?_set_self] at hmember
  exact hmember

private theorem readable_pod {n : Nat} (hn : 20 ≤ n) (h : s.extraVolumes.toJson.Readable n)
    (c : Container) : (pod s c).toJson.Readable (n + 1) := by
  have hfields : Value.fieldsNestWithin .podSpec 20 ["volumes"] = true := by decide +kernel
  refine (pod s c).readable_of_fields hfields hn ?_
  simp only [List.forall_mem_singleton]
  intro v hv
  rw [member?_pod_volumes, nonEmptyItems] at hv
  split at hv
  · cases hv
  · cases hv
    obtain ⟨m, rfl⟩ : ∃ m, n = m + 1 := ⟨n - 1, by omega⟩
    exact readable_volumes (by omega) h

private theorem readable_template {n : Nat} (hn : 20 ≤ n) (h : s.extraVolumes.toJson.Readable n)
    (c : Container) : (template s c).toJson.Readable (n + 2) := by
  have hfields : Value.fieldsNestWithin .podTemplateSpec 0 ["metadata", "spec"] = true := by
    decide +kernel
  refine (template s c).readable_of_fields hfields (Nat.zero_le _) ?_
  intro name hname v hv
  rcases List.mem_pair.1 hname with rfl | rfl
  · rw [member?_template_metadata] at hv
    cases hv
    have hmanaged : (podMetadata s).get? ObjectMeta.managedFields = none := by
      rw [podMetadata, Value.get?_put_of_ne _ (by decide), Value.get?_put_of_ne _ (by decide)]
      rfl
    exact (ObjectMeta.readable hmanaged).mono (by omega)
  · rw [member?_template_spec] at hv
    cases hv
    exact readable_pod hn h c

private theorem readable_claim {claim : VolumeClaim} (h : volumeClaim s = .ok claim) :
    claim.toJson.Readable 11 := by
  have hfields : Value.fieldsNestWithin .persistentVolumeClaim 10 ["metadata"] = true := by
    decide +kernel
  obtain ⟨size, -, h⟩ := ok_of_bind h
  cases h
  refine Value.readable_of_fields _ hfields (Nat.le_refl 10) ?_
  simp only [List.forall_mem_singleton]
  intro v hv
  have hmember := Value.member?_toJson _ VolumeClaim.metadata |>.symm.trans hv
  rw [Value.get?_put_of_ne _ (by decide), Value.get?_put_self] at hmember
  cases hmember
  refine (ObjectMeta.readable ?_).mono (by omega)
  rw [Value.get?_set_of_ne _ (by decide), Value.get?_set_of_ne _ (by decide),
    Value.get?_put_of_ne _ (by decide)]
  rfl

private theorem readable_claims {claims : List VolumeClaim} (h : volumeClaims s = .ok claims) :
    (Value.ofItems claims).toJson.Readable 12 := by
  rw [Value.toJson_eq_arr, Value.items_ofItems, Json.readable_arr_iff]
  intro j hj
  obtain ⟨claim, hclaim, rfl⟩ := List.mem_map.1 hj
  obtain ⟨-, claim', hv, rfl⟩ | ⟨-, rfl⟩ := volumeClaims_cases h
  · rw [List.mem_singleton.1 hclaim]
    exact readable_claim hv
  · cases hclaim

private theorem readable_spec {n : Nat} (hn : 20 ≤ n) (h : s.extraVolumes.toJson.Readable n)
    {claims : List VolumeClaim} (hclaims : volumeClaims s = .ok claims) (c : Container) :
    (spec s claims c).toJson.Readable (n + 3) := by
  have hfields : Value.fieldsNestWithin .statefulSetSpec 10
      ["template", "volumeClaimTemplates"] = true := by decide +kernel
  refine (spec s claims c).readable_of_fields hfields (by omega) ?_
  intro name hname v hv
  rcases List.mem_pair.1 hname with rfl | rfl
  · rw [member?_spec_template] at hv
    cases hv
    exact readable_template hn h c
  · have hmember := Value.member?_toJson (spec s claims c) StatefulSetSpec.volumeClaimTemplates
    rw [spec, Value.get?_set_self, nonEmptyItems] at hmember
    have heq := hmember.symm.trans hv
    split at heq
    · cases heq
    · cases heq
      exact (readable_claims hclaims).mono (by omega)

private theorem levels_lt_depth_spec (hne : s.extraVolumes.items ≠ []) (claims : List VolumeClaim)
    (c : Container) : s.extraVolumes.toJson.depth + 3 ≤ (spec s claims c).toJson.depth := by
  have hvolumes : s.extraVolumes.toJson.depth ≤ (Value.ofItems (volumes s)).toJson.depth := by
    rw [Value.toJson_eq_arr, Value.toJson_eq_arr, Value.items_ofItems, Json.depth, Json.depth,
      Nat.add_le_add_iff_right, Json.depthList_le_iff]
    intro j hj
    refine Json.depthList_le_iff.1 (Nat.le_refl _) j ?_
    rw [volumes, List.map_append]
    exact List.mem_append_left _ hj
  have hmember : (pod s c).toJson.member? "volumes" =
      some (Value.ofItems (volumes s)).toJson := by
    have hempty : (volumes s).isEmpty = false := by
      rw [volumes, List.isEmpty_eq_false_iff]
      exact List.append_ne_nil_of_left_ne_nil hne _
    rw [member?_pod_volumes, nonEmptyItems, hempty]
    rfl
  have hpod := Json.depth_lt_of_member? hmember
  have htemplate := Json.depth_lt_of_member? (member?_template_spec (s := s) c)
  have hspec := Json.depth_lt_of_member? (member?_spec_template (s := s) claims c)
  omega

end Synthesis

namespace Snapshot

private theorem readable_otherAnnotations {key : String} {n : Nat} {a v : Json} (h : a.Readable n)
    (hv : otherAnnotations key a = some v) : v.Readable n := by
  cases a with
  | obj annotations =>
    obtain ⟨n, rfl⟩ : ∃ m, n = m + 1 := ⟨n - 1, by
      have hle := h.depth_le
      rw [Json.depth] at hle
      omega⟩
    simp only [otherAnnotations] at hv
    split at hv
    · cases hv
    · cases hv
      rw [Json.readable_obj_iff] at h ⊢
      exact fun m hm => h m (List.mem_filter.1 hm).1
  | _ =>
    cases hv
    exact h

private theorem readable_authored (key : String) (m : ObjectMeta) :
    (authored key m.toJson).Readable 4 := by
  refine Json.readable_of_member? (ordered_authored key m.ordered_toJson)
    (isObject_authored key m) fun k v hv => ?_
  rw [member?_authored] at hv
  split at hv
  · cases hv
  · rename_i howned
    have hk : k ∉ ["managedFields"] := by
      intro hk
      rw [List.mem_singleton.1 hk] at howned
      exact howned (by decide)
    split at hv
    · obtain ⟨a, ha, hv⟩ := Option.bind_eq_some_iff.1 hv
      exact readable_otherAnnotations (m.readable_of_member? ObjectMeta.fieldsNestWithin hk ha) hv
    · exact m.readable_of_member? ObjectMeta.fieldsNestWithin hk hv

private theorem readable_ofJson (key : String) {o : StatefulSet} {r : Record .statefulSetSpec}
    (hr : o.get? StatefulSet.spec = some r) {n : Nat} (hn : 4 ≤ n) (h : r.toJson.Readable n) :
    (ofJson key o.toJson).Readable (n + 1) := by
  have hfields : Value.fieldsNestWithin .statefulSet 0 ["metadata", "spec", "status"] = true := by
    decide +kernel
  refine Json.readable_of_member? (ordered_ofJson key o.ordered_toJson)
    (isObject_ofJson key o) fun k v hv => ?_
  by_cases hmetadata : k = "metadata"
  · rw [hmetadata, member?_ofJson_metadata] at hv
    cases hv
    exact (readable_authored key _).mono hn
  · by_cases hstatus : k = "status"
    · rw [hstatus, ofJson, Json.member?_mapMember, if_neg (by decide), Json.member?_dropMember,
        if_pos rfl] at hv
      cases hv
    · rw [member?_ofJson hmetadata hstatus] at hv
      by_cases hspec : k = "spec"
      · have hmember := Value.member?_toJson o StatefulSet.spec
        rw [hr] at hmember
        rw [hspec] at hv
        cases hmember.symm.trans hv
        exact h
      · have hk : k ∉ ["metadata", "spec", "status"] := by simp [hmetadata, hspec, hstatus]
        exact (o.readable_of_member? hfields hk hv).mono (Nat.zero_le n)

/-- A snapshot that does not nest too deep is read back. -/
private theorem read_of_readable {key : String} {o x : StatefulSet} (hc : Carries key o x)
    (h : (ofJson key x.toJson).Readable Json.Text.maxDepth) :
    read key o.subject = .ok (some (ofJson key x.toJson).reread) := by
  have hp := Json.parse_compact (ordered_ofJson key x.ordered_toJson) h.inRange h.depth_le
  obtain ⟨ms, hms⟩ := Json.exists_obj_of_members? (isObject_ofJson key x)
  have hobject : (ofJson key x.toJson).reread = .obj (Members.mapValues Json.reread ms) := by
    rw [hms, Json.reread_obj]
  rw [hobject] at hp ⊢
  exact read_of_parse hc hp

/-- A snapshot that nests too deep is not. -/
private theorem read_of_deep {key : String} {o x : StatefulSet} (hc : Carries key o x)
    (h : Json.Text.maxDepth < (ofJson key x.toJson).depth) :
    ∃ detail, read key o.subject = .error (.brokenSnapshot key detail) := by
  obtain ⟨detail, hp⟩ := Json.parse_compact_of_deep (ordered_ofJson key x.ordered_toJson) h
  refine ⟨detail, ?_⟩
  rw [Carries] at hc
  rw [read, hc]
  simp only [Value.text_ofText, hp]

end Snapshot

def Json.nested : Nat → Json
  | 0 => .arr []
  | n + 1 => .arr [nested n]

/-- Parameters with one additional volume. The claim it is made from carries free-form data that
nest so many levels. -/
def Json.parametersOfClaim (levels : Nat) : Json :=
  .obj [("metadata", .obj [("name", .str "db")]), ("namespace", .str "prod"),
    ("extraVolumes", .arr [.obj [("name", .str "scratch"), ("ephemeral", .obj
      [("volumeClaimTemplate", .obj [("metadata", .obj [("managedFields", .arr
        [.obj [("fieldsV1", .nested levels)]])])])])]])]

private theorem exists_rendered {j : Json} (hj : j.inRange = true) {levels : Nat}
    (h : (Parameters.read .json j.reread.node).toOption.any (fun p =>
      decide (p.volumeLevels = levels) && (render p).toOption.isSome) = true) :
    ∃ p o, Parameters.parse .json j.compact = .ok p ∧ render p = .ok o ∧
      p.volumeLevels = levels := by
  cases hp : Parameters.read .json j.reread.node with
  | error e =>
    rw [hp] at h
    cases h
  | ok p =>
    rw [hp] at h
    simp only [Except.toOption, Option.any_some, Bool.and_eq_true, decide_eq_true_eq] at h
    cases ho : render p with
    | error e =>
      rw [ho] at h
      cases h.2
    | ok o => exact ⟨p, o, Parameters.parse_compact hj hp, ho, h.1⟩

section Rendered

variable {p : Parameters} {o : StatefulSet}

private theorem readable_ofJson_of_render {text : String} (hp : Parameters.parse .json text = .ok p)
    (ho : render p = .ok o) (key : String) (h : p.volumeLevels + 4 ≤ Json.Text.maxDepth) :
    (Snapshot.ofJson key o.toJson).Readable Json.Text.maxDepth := by
  have hmax : Json.Text.maxDepth = 127 := rfl
  have hvolumes : p.settings.extraVolumes.toJson.Readable 123 := by
    have hsettings : p.settings.extraVolumes = p.extraVolumes.getD .emptyList := rfl
    rw [hsettings]
    cases hv : p.extraVolumes with
    | none =>
      have hempty : (Value.emptyList : Value (.list (.object .volume))).toJson = .arr [] := rfl
      rw [Option.getD_none, hempty, Json.readable_arr_iff]
      simp
    | some v =>
      refine ⟨Parameters.inRange_extraVolumes hp hv, ?_⟩
      rw [Parameters.volumeLevels, hv, Option.elim_some] at h
      rw [Option.getD_some]
      omega
  obtain ⟨-, claims, c, hclaims, -, hspec⟩ := render_eq_ok ho
  exact Snapshot.readable_ofJson key hspec (by omega)
    (Synthesis.readable_spec (by omega) hvolumes hclaims c)

private theorem volumeLevels_le_depth (ho : render p = .ok o) (key : String)
    (h : 2 ≤ p.volumeLevels) : p.volumeLevels + 4 ≤ (Snapshot.ofJson key o.toJson).depth := by
  obtain ⟨-, claims, c, -, -, hspec⟩ := render_eq_ok ho
  cases hv : p.extraVolumes with
  | none =>
    rw [Parameters.volumeLevels, hv, Option.elim_none] at h
    omega
  | some v =>
    have hsettings : p.settings.extraVolumes = v := by
      have hgetD : p.settings.extraVolumes = p.extraVolumes.getD .emptyList := rfl
      rw [hgetD, hv, Option.getD_some]
    have hlevels : p.volumeLevels = v.toJson.depth := by rw [Parameters.volumeLevels, hv]; rfl
    have hne : p.settings.extraVolumes.items ≠ [] := by
      intro hnil
      rw [hsettings] at hnil
      rw [hlevels, Value.toJson_eq_arr, hnil] at h
      exact absurd h (by decide)
    have hdeep := Synthesis.levels_lt_depth_spec hne claims c
    have hmember : (Snapshot.ofJson key o.toJson).member? "spec" =
        some (Synthesis.spec p.settings claims c).toJson := by
      have hget := Value.member?_toJson o StatefulSet.spec
      rw [hspec] at hget
      rw [Snapshot.member?_ofJson (by decide) (by decide)]
      exact hget
    have hsnapshot := Json.depth_lt_of_member? hmember
    rw [hsettings] at hdeep
    omega

/-- The snapshot of an object that is rendered from a JSON text is read back, its floats as they
read back, if the additional volumes nest at most four levels less than a reader allows; it is not
if they nest deeper, although the text itself was read. -/
theorem snapshot_read_back {text : String} (hp : Parameters.parse .json text = .ok p)
    (ho : render p = .ok o) (key : String) :
    ∃ r, Snapshot.record key o = .ok r ∧
      (p.volumeLevels + 4 ≤ Json.Text.maxDepth →
        Snapshot.read key r.subject = .ok (some (Snapshot.ofJson key o.toJson).reread)) ∧
      (Json.Text.maxDepth < p.volumeLevels + 4 →
        ∃ detail, Snapshot.read key r.subject = .error (.brokenSnapshot key detail)) := by
  obtain ⟨r, hr, -⟩ := Snapshot.record_eq_ok key o
  have hcarries := Snapshot.carries_record hr
  refine ⟨r, hr, fun hlevels => ?_, fun hdeep => ?_⟩
  · exact Snapshot.read_of_readable hcarries (readable_ofJson_of_render hp ho key hlevels)
  · have hmax : Json.Text.maxDepth = 127 := rfl
    have hdepth := volumeLevels_le_depth ho key (by omega)
    exact Snapshot.read_of_deep hcarries (by omega)

/-- With four levels to spare the snapshot is read back. -/
theorem snapshot_read_back_of_claim : ∃ p o r,
    Parameters.parse .json (Json.parametersOfClaim 115).compact = .ok p ∧ render p = .ok o ∧
      p.volumeLevels = 123 ∧ Snapshot.record Snapshot.defaultKey o = .ok r ∧
        Snapshot.read Snapshot.defaultKey r.subject =
          .ok (some (Snapshot.ofJson Snapshot.defaultKey o.toJson).reread) := by
  have hrange : (Json.parametersOfClaim 115).inRange = true := by decide +kernel
  have htest : (Parameters.read .json (Json.parametersOfClaim 115).reread.node).toOption.any
      (fun p => decide (p.volumeLevels = 123) && (render p).toOption.isSome) = true := by
    decide +kernel
  obtain ⟨p, o, hp, ho, hlevels⟩ := exists_rendered hrange htest
  obtain ⟨r, hr, hread, -⟩ := snapshot_read_back hp ho Snapshot.defaultKey
  exact ⟨p, o, r, hp, ho, hlevels, hr, hread (by rw [hlevels]; decide)⟩

/-- With one level more the text is read and the object rendered, and its snapshot is written, but
it is not read back. -/
theorem deep_snapshot_not_read_back : ∃ p o r,
    Parameters.parse .json (Json.parametersOfClaim 116).compact = .ok p ∧ render p = .ok o ∧
      Snapshot.record Snapshot.defaultKey o = .ok r ∧
        ∀ snapshot, Snapshot.read Snapshot.defaultKey r.subject ≠ .ok snapshot := by
  have hrange : (Json.parametersOfClaim 116).inRange = true := by decide +kernel
  have htest : (Parameters.read .json (Json.parametersOfClaim 116).reread.node).toOption.any
      (fun p => decide (p.volumeLevels = 124) && (render p).toOption.isSome) = true := by
    decide +kernel
  obtain ⟨p, o, hp, ho, hlevels⟩ := exists_rendered hrange htest
  obtain ⟨r, hr, -⟩ := Snapshot.record_eq_ok Snapshot.defaultKey o
  have hdepth := volumeLevels_le_depth ho Snapshot.defaultKey (by omega)
  have hmax : Json.Text.maxDepth = 127 := rfl
  obtain ⟨detail, hread⟩ := Snapshot.read_of_deep (Snapshot.carries_record hr)
    (show Json.Text.maxDepth < _ by omega)
  refine ⟨p, o, r, hp, ho, hr, fun snapshot h => ?_⟩
  cases hread.symm.trans h

end Rendered

end DesiredState
