import DesiredState.Proofs.Patch.Path
import DesiredState.Proofs.Patch.Snapshot
/-!
What a snapshot records of an object, member by member, and what recording it changes. Main
statements: `member?_authored` and `at?_ofJson_annotations`, what it holds of the metadata and of
the annotations; `ofJson_congr`, that objects that differ in what the store owns and in the snapshot
alone have the same snapshot; and `annotated_of_record`, that recording one writes a single
annotation.
-/

set_option autoImplicit false
set_option relaxedAutoImplicit false

namespace DesiredState

namespace StatefulSet

/-- The value of an annotation, if there is one of the key. -/
def annotationText? (o : StatefulSet) (a : String) : Option (Value .text) :=
  o.subject.annotations.bind (·.at? a)

def annotationMembers (o : StatefulSet) : Members Json :=
  Members.mapValues Value.toJson (o.subject.annotations.elim [] Value.entries)

private theorem get?_annotationMembers (o : StatefulSet) (a : String) :
    o.annotationMembers.get? a = (o.annotationText? a).map Value.toJson := by
  rw [annotationMembers, Members.get?_mapValues, annotationText?]
  cases o.subject.annotations <;> rfl

private theorem increasing_annotationMembers (o : StatefulSet) :
    Members.Increasing o.annotationMembers := by
  refine Members.Increasing.mapValues ?_ _
  cases o.subject.annotations with
  | none => exact Members.increasing_nil
  | some v => exact v.entries_increasing

/-- Objects that are the same but for their annotations, and have some, are the same where they have
the same ones. -/
theorem eq_of_annotationText? {o x : StatefulSet} (hmembers : Value.SameBut ["metadata"] o x)
    (hmetadata : Value.SameBut ["annotations"] (o.get metadata) (x.get metadata))
    (hannotations : ∀ a, o.annotationText? a = x.annotationText? a) {a : String}
    (ha : (o.annotationText? a).isSome = true) : o = x := by
  have hmaps : o.subject.annotations = x.subject.annotations := by
    have hx : (x.annotationText? a).isSome = true := hannotations a ▸ ha
    obtain ⟨v, hv⟩ := Option.isSome_iff_exists.1 (Option.isSome_of_isSome_bind ha)
    obtain ⟨w, hw⟩ := Option.isSome_iff_exists.1 (Option.isSome_of_isSome_bind hx)
    simp only [annotationText?, hv, hw, Option.bind_some] at hannotations
    rw [hv, hw, Value.eq_of_at? hannotations]
  have hsame : o.get metadata = x.get metadata := by
    have hbut : Value.SameBut [ObjectMeta.annotations.name] (o.get metadata) (x.get metadata) :=
      hmetadata
    exact hbut.eq hmaps
  have hbut : Value.SameBut [metadata.name] o x := hmembers
  apply hbut.eq
  rw [Value.get?_eq_some_get, Value.get?_eq_some_get, hsame]

/-- The object `r` is `x` with a text under an annotation key, and differs from it in nothing else.
-/
structure Annotated (key text : String) (x r : StatefulSet) : Prop where
  members : Value.SameBut ["metadata"] r x
  metadata : Value.SameBut ["annotations"] (r.get metadata) (x.get metadata)
  annotation : ∀ a, r.annotationText? a = if a = key then some (.ofText text) else
    x.annotationText? a

/-- There is one object that is annotated so. -/
theorem Annotated.unique {key text : String} {x r o : StatefulSet} (hr : Annotated key text x r)
    (ho : Annotated key text x o) : r = o := by
  have hannotations : ∀ a, r.annotationText? a = o.annotationText? a := by
    intro a
    rw [hr.annotation, ho.annotation]
  have hkey : (r.annotationText? key).isSome = true := by
    rw [hr.annotation, if_pos rfl]
    rfl
  exact eq_of_annotationText? (hr.members.trans ho.members.symm)
    (hr.metadata.trans ho.metadata.symm) hannotations hkey

theorem member?_toJson_metadata (o : StatefulSet) :
    o.toJson.member? "metadata" = some (o.get metadata).toJson := by
  have hget : o.toJson.member? "metadata" = (o.get? metadata).map Value.toJson :=
    Value.member?_toJson o metadata
  rwa [Value.get?_eq_some_get] at hget

theorem at?_toJson_annotations (o : StatefulSet) (a : String) :
    o.toJson.at? ["metadata", "annotations", a] = (o.annotationText? a).map Value.toJson := by
  have hmap : (o.get metadata).toJson.member? "annotations" =
      o.subject.annotations.map Value.toJson :=
    Value.member?_toJson _ ObjectMeta.annotations
  rw [Json.at?_cons, member?_toJson_metadata, Option.bind_some, Json.at?_cons, hmap,
    ← get?_annotationMembers, annotationMembers]
  cases o.subject.annotations with
  | none => rfl
  | some v =>
    rw [Option.map_some, Option.bind_some, Json.at?_singleton, Value.toJson_eq_map]
    rfl

end StatefulSet

namespace Snapshot

/-- The annotations that a snapshot keeps: all but its own, unless none are left. -/
def otherAnnotations (key : String) : Json → Option Json
  | .obj annotations =>
    let rest := Members.erase key annotations
    if rest.isEmpty then none else some (.obj rest)
  | j => some j

theorem member?_authored (key k : String) (j : Json) :
    (authored key j).member? k =
      if k ∈ storeOwned then none
      else if k = "annotations" then (j.member? k).bind (otherAnnotations key)
      else j.member? k := by
  cases j with
  | obj ms =>
    have hbare := Members.get?_foldl_erase storeOwned ms
    have hannotations := hbare "annotations"
    rw [if_neg (by decide)] at hannotations
    rw [authored]
    generalize storeOwned.foldl (fun ms k => Members.erase k ms) ms = bare at hbare hannotations
    simp only
    by_cases hk : k = "annotations"
    · subst hk
      rw [if_neg (by decide), if_pos rfl]
      cases ha : Members.get? "annotations" bare with
      | none =>
        rw [Json.member?, Json.member?, ← hannotations, ha]
        rfl
      | some a =>
        rw [Json.member?, ← hannotations, ha, Option.bind_some]
        cases a with
        | obj annotations =>
          simp only [otherAnnotations]
          split
          · exact Members.get?_erase_self _ _
          · exact Members.get?_insert_self _ _ _
        | _ => exact ha
    · rw [if_neg hk, Json.member?, ← hbare]
      split
      · split
        · exact Members.get?_erase_of_ne hk _
        · exact Members.get?_insert_of_ne hk _ _
      · rfl
  | _ =>
    simp only [authored, Json.member?, Option.bind_none, ite_self]

theorem member?_ofJson_metadata (key : String) (o : StatefulSet) :
    (ofJson key o.toJson).member? "metadata" =
      some (authored key (o.get StatefulSet.metadata).toJson) := by
  rw [ofJson, Json.member?_mapMember, if_pos rfl, Json.member?_dropMember, if_neg (by decide),
    StatefulSet.member?_toJson_metadata]
  rfl

theorem member?_authored_annotations (key : String) (o : StatefulSet) :
    (authored key (o.get StatefulSet.metadata).toJson).member? "annotations" =
      if (Members.erase key o.annotationMembers).isEmpty then none
      else some (.obj (Members.erase key o.annotationMembers)) := by
  have hannotations : (o.get StatefulSet.metadata).toJson.member? "annotations" =
      o.subject.annotations.map Value.toJson :=
    Value.member?_toJson _ ObjectMeta.annotations
  rw [member?_authored, if_neg (by decide), if_pos rfl, hannotations,
    StatefulSet.annotationMembers]
  cases o.subject.annotations with
  | none => rfl
  | some v =>
    rw [Option.map_some, Value.toJson_eq_map]
    rfl

theorem at?_ofJson_annotations (key : String) (o : StatefulSet) (a : String) :
    (ofJson key o.toJson).at? ["metadata", "annotations", a] =
      if a = key then none else (o.annotationText? a).map Value.toJson := by
  have hget : Members.get? a (Members.erase key o.annotationMembers) =
      if a = key then none else (o.annotationText? a).map Value.toJson := by
    split
    · rename_i he
      rw [he, Members.get?_erase_self]
    · rename_i hne
      rw [Members.get?_erase_of_ne hne, StatefulSet.get?_annotationMembers]
  rw [Json.at?_cons, member?_ofJson_metadata, Option.bind_some, Json.at?_cons,
    member?_authored_annotations, ← hget]
  generalize Members.erase key o.annotationMembers = rest
  cases rest with
  | nil => rfl
  | cons m ms =>
    simp only [List.isEmpty_cons, Bool.false_eq_true, if_false, Option.bind_some, Json.at?_cons,
      Json.member?]
    cases Members.get? a (m :: ms) <;> rfl

private theorem authored_congr {key : String} {o x : StatefulSet}
    (hmetadata : ∀ k, k ∉ storeOwned → k ≠ "annotations" →
      (o.get StatefulSet.metadata).jsonMembers.get? k =
        (x.get StatefulSet.metadata).jsonMembers.get? k)
    (hannotations : ∀ a, a ≠ key → o.annotationText? a = x.annotationText? a) :
    authored key (o.get StatefulSet.metadata).toJson =
      authored key (x.get StatefulSet.metadata).toJson := by
  have hannotated : Members.erase key o.annotationMembers =
      Members.erase key x.annotationMembers := by
    refine (o.increasing_annotationMembers.erase key).ext
      (x.increasing_annotationMembers.erase key) fun a => ?_
    by_cases ha : a = key
    · rw [ha, Members.get?_erase_self, Members.get?_erase_self]
    · rw [Members.get?_erase_of_ne ha, Members.get?_erase_of_ne ha,
        StatefulSet.get?_annotationMembers, StatefulSet.get?_annotationMembers, hannotations a ha]
  refine Json.eq_of_member? (ordered_authored key (Value.ordered_toJson _))
    (ordered_authored key (Value.ordered_toJson _)) (isObject_authored key _)
    (isObject_authored key _) fun k => ?_
  by_cases ha : k = "annotations"
  · rw [ha, member?_authored_annotations, member?_authored_annotations, hannotated]
  · rw [member?_authored, member?_authored]
    split
    · rfl
    · rename_i hk
      rw [Value.toJson_eq_obj, Value.toJson_eq_obj]
      exact hmetadata k hk ha

/-- Objects that differ in nothing but what the store owns, and that carry the same annotations,
have the same snapshot. -/
theorem ofJson_congr {key : String} {o x : StatefulSet}
    (hmembers : ∀ k, k ≠ "metadata" → o.jsonMembers.get? k = x.jsonMembers.get? k)
    (hmetadata : ∀ k, k ∉ storeOwned → k ≠ "annotations" →
      (o.get StatefulSet.metadata).jsonMembers.get? k =
        (x.get StatefulSet.metadata).jsonMembers.get? k)
    (hannotations : ∀ a, a ≠ key → o.annotationText? a = x.annotationText? a) :
    ofJson key o.toJson = ofJson key x.toJson := by
  have hsame := authored_congr hmetadata hannotations
  refine Json.eq_of_member? (ordered_ofJson key o.ordered_toJson)
    (ordered_ofJson key x.ordered_toJson) (isObject_ofJson key o) (isObject_ofJson key x)
    fun k => ?_
  by_cases hm : k = "metadata"
  · rw [hm, member?_ofJson_metadata, member?_ofJson_metadata, hsame]
  · rw [ofJson, ofJson, Json.member?_mapMember, Json.member?_mapMember, if_neg hm, if_neg hm,
      Json.member?_dropMember, Json.member?_dropMember, Value.toJson_eq_obj, Value.toJson_eq_obj]
    split
    · rfl
    · exact hmembers k hm

/-- Recording writes one annotation, the text of the snapshot. -/
theorem annotated_of_record {key : String} {x r : StatefulSet} (h : record key x = .ok r) :
    StatefulSet.Annotated key (ofJson key x.toJson).compact x r := by
  obtain ⟨r', hr', -, -, -, hannotations⟩ := record_eq_ok key x
  cases h.symm.trans hr'
  cases hr'
  refine ⟨?_, ?_, ?_⟩
  · exact Value.sameBut_put x StatefulSet.metadata _
  · rw [Value.get_put_self]
    exact Value.sameBut_put _ ObjectMeta.annotations _
  · intro a
    rw [StatefulSet.annotationText?, hannotations, Option.bind_some, Value.at?_insert,
      StatefulSet.annotationText?]
    cases x.subject.annotations with
    | none => rfl
    | some v => rfl

theorem ofJson_annotated {key text : String} {x r : StatefulSet}
    (h : StatefulSet.Annotated key text x r) : ofJson key r.toJson = ofJson key x.toJson := by
  apply ofJson_congr
  · intro k hk
    apply h.members.get?_jsonMembers
    rwa [List.mem_singleton]
  · intro k _ hk
    apply h.metadata.get?_jsonMembers
    rwa [List.mem_singleton]
  · intro a ha
    rw [h.annotation, if_neg ha]

end Snapshot

end DesiredState
