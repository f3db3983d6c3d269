import DesiredState.Proofs.Json.Floatless
import DesiredState.Proofs.Patch.Authored
/-!
The snapshot of an object is what is read from the object that it was recorded on, and recording it
once more changes nothing. Main statements: `isSnapshot_iff`, what a snapshot is, member by member;
and `snapshot_survives`.
-/

set_option autoImplicit false
set_option relaxedAutoImplicit false

namespace DesiredState

namespace Snapshot

open StatefulSet (Annotated)

/-- The value is the snapshot of a whole object: it has no status, none of the metadata that the
store owns and no annotation of the key, and otherwise the members of the object; annotations of
which none are left are dropped. -/
structure IsSnapshot (key : String) (whole snapshot : Json) : Prop where
  ordered : snapshot.ordered = true
  isObject : snapshot.members?.isSome = true
  members : ∀ k, k ≠ "metadata" →
    snapshot.member? k = if k = "status" then none else whole.member? k
  hasMetadata : ∃ ms : Members Json, snapshot.member? "metadata" = some (.obj ms)
  metadata : ∀ k, k ≠ "annotations" →
    snapshot.at? ["metadata", k] = if k ∈ storeOwned then none else whole.at? ["metadata", k]
  annotations : ∀ a, snapshot.at? ["metadata", "annotations", a] =
    if a = key then none else whole.at? ["metadata", "annotations", a]
  nonempty : ∀ j, snapshot.at? ["metadata", "annotations"] = some j →
    ∃ m, ∃ ms : Members Json, j = .obj (m :: ms)

private theorem isSnapshot_ofJson (key : String) (x : StatefulSet) :
    IsSnapshot key x.toJson (ofJson key x.toJson) where
  ordered := ordered_ofJson key x.ordered_toJson
  isObject := isObject_ofJson key x
  members k hk := by
    split
    · rename_i hs
      rw [ofJson, Json.member?_mapMember, if_neg hk, Json.member?_dropMember, if_pos hs]
    · rename_i hs
      exact member?_ofJson hk hs key _
  hasMetadata := by
    obtain ⟨ms, hms⟩ := Json.exists_obj_of_members?
      (isObject_authored key (x.get StatefulSet.metadata))
    exact ⟨ms, (member?_ofJson_metadata key x).trans (congrArg some hms)⟩
  metadata k hk := by
    rw [Json.at?_cons, Json.at?_cons, member?_ofJson_metadata, StatefulSet.member?_toJson_metadata,
      Option.bind_some, Option.bind_some, Json.at?_singleton, Json.at?_singleton,
      member?_authored, if_neg hk]
  annotations a := by
    rw [at?_ofJson_annotations, StatefulSet.at?_toJson_annotations]
  nonempty j hj := by
    rw [Json.at?_cons, member?_ofJson_metadata, Option.bind_some, Json.at?_singleton,
      member?_authored_annotations] at hj
    generalize Members.erase key x.annotationMembers = rest at hj
    cases rest with
    | nil => cases hj
    | cons m ms =>
      cases hj
      exact ⟨m, ms, rfl⟩

private theorem eq_of_bind_member? {a b : Option Json}
    (ha : ∀ j, a = some j → j.ordered = true ∧ ∃ m, ∃ ms : Members Json, j = .obj (m :: ms))
    (hb : ∀ j, b = some j → j.ordered = true ∧ ∃ m, ∃ ms : Members Json, j = .obj (m :: ms))
    (h : ∀ k, a.bind (Json.member? k) = b.bind (Json.member? k)) : a = b := by
  have hmissing : ∀ m (ms : Members Json), ∃ k, (Json.obj (m :: ms)).member? k ≠ none := by
    intro m ms
    refine ⟨m.1, ?_⟩
    rw [Json.member?, Members.get?_cons, if_pos rfl]
    exact Option.some_ne_none _
  cases a with
  | none =>
    cases b with
    | none => rfl
    | some j =>
      obtain ⟨-, m, ms, rfl⟩ := hb j rfl
      obtain ⟨k, hk⟩ := hmissing m ms
      exact absurd (h k).symm hk
  | some i =>
    obtain ⟨hi, m, ms, rfl⟩ := ha i rfl
    cases b with
    | none =>
      obtain ⟨k, hk⟩ := hmissing m ms
      exact absurd (h k) hk
    | some j =>
      obtain ⟨hj, n, ns, rfl⟩ := hb j rfl
      rw [Json.eq_of_member? hi hj rfl rfl h]

namespace IsSnapshot

variable {key : String} {whole s t : Json} {ms ns : Members Json}

private theorem ordered_metadata (hs : IsSnapshot key whole s)
    (hms : s.member? "metadata" = some (.obj ms)) : (Json.obj ms).ordered = true := by
  obtain ⟨us, rfl⟩ := Json.exists_obj_of_members? hs.isObject
  exact Json.ordered_of_get? hs.ordered hms

private theorem exists_cons_of_annotations (hs : IsSnapshot key whole s)
    (hms : s.member? "metadata" = some (.obj ms)) {j : Json} (hj : ms.get? "annotations" = some j) :
    j.ordered = true ∧ ∃ m, ∃ rest : Members Json, j = .obj (m :: rest) := by
  refine ⟨Json.ordered_of_get? (hs.ordered_metadata hms) hj, hs.nonempty j ?_⟩
  rw [Json.at?_cons, hms, Option.bind_some, Json.at?_singleton]
  exact hj

private theorem annotations_eq (hs : IsSnapshot key whole s) (ht : IsSnapshot key whole t)
    (hms : s.member? "metadata" = some (.obj ms)) (hns : t.member? "metadata" = some (.obj ns)) :
    ms.get? "annotations" = ns.get? "annotations" := by
  apply eq_of_bind_member? (fun _ => hs.exists_cons_of_annotations hms)
    (fun _ => ht.exists_cons_of_annotations hns)
  intro a
  have hlookup := (hs.annotations a).trans (ht.annotations a).symm
  rw [Json.at?_cons, Json.at?_cons, hms, hns, Option.bind_some, Option.bind_some,
    Json.at?_cons, Json.at?_cons, Json.member?, Json.member?] at hlookup
  simpa only [Json.at?_singleton] using hlookup

private theorem unique (hs : IsSnapshot key whole s) (ht : IsSnapshot key whole t) : s = t := by
  obtain ⟨ms, hms⟩ := hs.hasMetadata
  obtain ⟨ns, hns⟩ := ht.hasMetadata
  have hmetadata : Json.obj ms = Json.obj ns := by
    apply Json.eq_of_member? (hs.ordered_metadata hms) (ht.ordered_metadata hns) rfl rfl
    intro k
    by_cases hk : k = "annotations"
    · rw [hk]
      exact hs.annotations_eq ht hms hns
    · have hlookup := (hs.metadata k hk).trans (ht.metadata k hk).symm
      rw [Json.at?_cons, Json.at?_cons, hms, hns, Option.bind_some, Option.bind_some,
        Json.at?_singleton, Json.at?_singleton] at hlookup
      exact hlookup
  apply Json.eq_of_member? hs.ordered ht.ordered hs.isObject ht.isObject
  intro k
  by_cases hk : k = "metadata"
  · rw [hk, hms, hns, hmetadata]
  · rw [hs.members k hk, ht.members k hk]

end IsSnapshot

theorem isSnapshot_iff (key : String) (x : StatefulSet) (j : Json) :
    IsSnapshot key x.toJson j ↔ j = ofJson key x.toJson := by
  constructor
  · intro hj
    exact hj.unique (isSnapshot_ofJson key x)
  · rintro rfl
    exact isSnapshot_ofJson key x

private theorem record_annotated {key : String} {x r : StatefulSet}
    (h : Annotated key (ofJson key x.toJson).compact x r) : record key r = .ok r := by
  obtain ⟨r', hr', -⟩ := record_eq_ok key r
  have hagain := annotated_of_record hr'
  rw [ofJson_annotated h] at hagain
  have hsame : Annotated key (ofJson key x.toJson).compact x r' := by
    refine ⟨hagain.members.trans h.members, hagain.metadata.trans h.metadata, ?_⟩
    intro a
    rw [hagain.annotation, h.annotation]
    split <;> rfl
  rw [hr', hsame.unique h]

private theorem floatless_authored (key : String) {j : Json} (h : j.floatless = true) :
    (authored key j).floatless = true :=
  authored_keeps (P := fun j => j.floatless = true) Json.floatless_dropMember
    Json.floatless_of_get? Json.floatless_insert key h

private theorem floatless_ofJson (key : String) {j : Json} (h : j.floatless = true) :
    (ofJson key j).floatless = true :=
  Json.floatless_mapMember (fun _ => floatless_authored key) (Json.floatless_dropMember h _) _

private theorem read_of_floatless {key : String} {o x : StatefulSet} (hc : Carries key o x)
    (h : x.toJson.floatless = true) (hdepth : (ofJson key x.toJson).depth ≤ Json.Text.maxDepth) :
    read key o.subject = .ok (some (ofJson key x.toJson)) := by
  have hordered := ordered_ofJson key x.ordered_toJson
  have hfloatless := floatless_ofJson key h
  exact read_of_parse_self hc (Json.parse_compact_of_floatless hordered hfloatless hdepth)

/-- The snapshot of an object without floats survives being recorded on it, if it does not nest too
deep. Recording changes the annotation of the key only, whatever stood there; what is read then is
the snapshot of the object as it was, which is also that of the object as it is now; and so
recording once more changes nothing. -/
theorem snapshot_survives (key : String) (x : StatefulSet) (hfloatless : x.toJson.floatless = true)
    (hdepth : (ofJson key x.toJson).depth ≤ 127) :
    ∃ snapshot r, take key x.subject = .ok snapshot ∧
      (∀ j, IsSnapshot key x.toJson j ↔ j = snapshot) ∧
      record key x = .ok r ∧ (∀ o, Annotated key snapshot.compact x o ↔ o = r) ∧
      read key r.subject = .ok (some snapshot) ∧ take key r.subject = .ok snapshot ∧
      record key r = .ok r := by
  obtain ⟨r, hr, -⟩ := record_eq_ok key x
  have hannotated := annotated_of_record hr
  have htake : ∀ o : StatefulSet, take key o.subject = .ok (ofJson key o.toJson) := fun _ => rfl
  refine ⟨ofJson key x.toJson, r, htake x, isSnapshot_iff key x, hr, ?_, ?_, ?_, ?_⟩
  · intro o
    constructor
    · intro ho
      exact ho.unique hannotated
    · rintro rfl
      exact hannotated
  · exact read_of_floatless (carries_record hr) hfloatless hdepth
  · rw [htake, ofJson_annotated hannotated]
  · exact record_annotated hannotated

def annotatedObject : StatefulSet :=
  let annotations := (Value.emptyMap.insert "team" (.ofText "core")).insert "applied"
    (.ofText "before")
  let metadata := ((Record.blank .objectMeta).put ObjectMeta.uid (.ofText "u1")).put
    ObjectMeta.annotations annotations
  let spec := (Record.blank .statefulSetSpec).put StatefulSetSpec.replicas
    (.ofInt32 3 (Eq.refl true))
  (((Record.blank .statefulSet).put StatefulSet.metadata metadata).put StatefulSet.spec spec).put
    StatefulSet.status (Record.blank .statefulSetStatus)

theorem snapshot_survives_rewritten :
    annotatedObject.toJson.floatless = true ∧
    (ofJson "applied" annotatedObject.toJson).depth ≤ 127 ∧
    ∃ snapshot r, take "applied" annotatedObject.subject = .ok snapshot ∧
      (∀ j, IsSnapshot "applied" annotatedObject.toJson j ↔ j = snapshot) ∧
      record "applied" annotatedObject = .ok r ∧
      (∀ o, Annotated "applied" snapshot.compact annotatedObject o ↔ o = r) ∧
      read "applied" r.subject = .ok (some snapshot) ∧
      take "applied" r.subject = .ok snapshot ∧ record "applied" r = .ok r := by
  have hfloatless : annotatedObject.toJson.floatless = true := by decide +kernel
  have hdepth : (ofJson "applied" annotatedObject.toJson).depth ≤ 127 := by decide +kernel
  exact ⟨hfloatless, hdepth, snapshot_survives "applied" annotatedObject hfloatless hdepth⟩

end Snapshot

end DesiredState
