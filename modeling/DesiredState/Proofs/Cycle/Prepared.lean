import DesiredState.Cycle.Basic
import DesiredState.Proofs.Patch.Authored
/-!
What a cycle makes of the desired object before it is written in place of a stored one: metadata
that the store owns are copied, and the annotations of other writers are carried over. Main
statements: `annotationText?_replacement`, and `ofJson_replacement_eq_iff`, when the snapshot of the
replacing object is that of the desired one.
-/

set_option autoImplicit false
set_option relaxedAutoImplicit false

namespace DesiredState

section Prepared

variable (stored desired : StatefulSet)

theorem get?_copyStoreOwned_spec :
    (copyStoreOwned stored desired).get? StatefulSet.spec = desired.get? StatefulSet.spec :=
  Value.get?_put_of_ne _ (by decide) _

private theorem objectName_copyStoreOwned :
    (copyStoreOwned stored desired).objectName = desired.objectName := by
  rw [StatefulSet.objectName, copyStoreOwned, Value.get_put_self, ObjectMeta.text?,
    Value.get?_set_of_ne _ (by decide), Value.get?_set_of_ne _ (by decide),
    Value.get?_set_of_ne _ (by decide)]
  rfl

private theorem version?_copyStoreOwned :
    (copyStoreOwned stored desired).version? = stored.version? := by
  rw [StatefulSet.version?, copyStoreOwned, Value.get_put_self, ObjectMeta.text?,
    Value.get?_set_of_ne _ (by decide), Value.get?_set_of_ne _ (by decide), Value.get?_set_self]
  rfl

private theorem get?_carryAnnotations_spec :
    (carryAnnotations stored desired).get? StatefulSet.spec = desired.get? StatefulSet.spec := by
  rw [carryAnnotations]
  split
  · rfl
  · exact Value.get?_put_of_ne _ (by decide) _

private theorem objectName_carryAnnotations :
    (carryAnnotations stored desired).objectName = desired.objectName := by
  rw [carryAnnotations]
  split
  · rfl
  · rw [StatefulSet.objectName, Value.get_put_self, ObjectMeta.text?,
      Value.get?_put_of_ne _ (by decide)]
    rfl

private theorem version?_carryAnnotations :
    (carryAnnotations stored desired).version? = desired.version? := by
  rw [carryAnnotations]
  split
  · rfl
  · rw [StatefulSet.version?, Value.get_put_self, ObjectMeta.text?,
      Value.get?_put_of_ne _ (by decide)]
    rfl

end Prepared

/-- The object that replaces a stored one. -/
def replacement (stored desired : StatefulSet) : StatefulSet :=
  carryAnnotations stored (copyStoreOwned stored desired)

theorem get?_replacement_spec (stored desired : StatefulSet) :
    (replacement stored desired).get? StatefulSet.spec = desired.get? StatefulSet.spec := by
  rw [replacement, get?_carryAnnotations_spec, get?_copyStoreOwned_spec]

theorem objectName_replacement (stored desired : StatefulSet) :
    (replacement stored desired).objectName = desired.objectName := by
  rw [replacement, objectName_carryAnnotations, objectName_copyStoreOwned]

theorem version?_replacement (stored desired : StatefulSet) :
    (replacement stored desired).version? = stored.version? := by
  rw [replacement, version?_carryAnnotations, version?_copyStoreOwned]

private theorem annotations_carryAnnotations (stored desired : StatefulSet) :
    (carryAnnotations stored desired).subject.annotations =
      stored.subject.annotations.elim desired.subject.annotations fun theirs =>
        some ((desired.subject.annotations.getD .emptyMap).union theirs) := by
  rw [carryAnnotations]
  cases h : (stored.get StatefulSet.metadata).get? ObjectMeta.annotations with
  | none =>
    have hs : stored.subject.annotations = none := h
    rw [hs]
    rfl
  | some theirs =>
    have hs : stored.subject.annotations = some theirs := h
    rw [hs, StatefulSet.subject]
    simp only [Value.get_put_self, Value.get?_put_self]
    rfl

section Replacing

variable (stored desired : StatefulSet)

private theorem annotations_copyStoreOwned :
    (copyStoreOwned stored desired).subject.annotations = desired.subject.annotations := by
  rw [StatefulSet.subject, copyStoreOwned]
  simp only [Value.get_put_self]
  rw [Value.get?_set_of_ne _ (by decide), Value.get?_set_of_ne _ (by decide),
    Value.get?_set_of_ne _ (by decide)]
  rfl

theorem annotationText?_replacement (a : String) :
    (replacement stored desired).annotationText? a =
      (desired.annotationText? a).or (stored.annotationText? a) := by
  rw [StatefulSet.annotationText?, replacement, annotations_carryAnnotations,
    annotations_copyStoreOwned, StatefulSet.annotationText?, StatefulSet.annotationText?]
  cases stored.subject.annotations with
  | none =>
    rw [Option.elim_none, Option.bind_none, Option.or_none]
  | some theirs =>
    rw [Option.elim_some, Option.bind_some, Option.bind_some, Value.at?_union]
    cases desired.subject.annotations <;> rfl

/-- Whatever was annotated on the object that is replaced is annotated on the one that replaces it,
snapshot included. -/
theorem isSome_annotationText?_of_record {stored desired} {key : String} {r : StatefulSet}
    (hr : Snapshot.record key (replacement stored desired) = .ok r) {a : String}
    (ha : (stored.annotationText? a).isSome = true) : (r.annotationText? a).isSome = true := by
  have hannotated := Snapshot.annotated_of_record hr
  rw [hannotated.annotation, annotationText?_replacement]
  split
  · rfl
  · rw [Option.isSome_or, ha, Bool.or_true]

theorem sameBut_replacement :
    Value.SameBut ["metadata"] (replacement stored desired) desired := by
  have hput (o : StatefulSet) (m : ObjectMeta) :
      Value.SameBut ["metadata"] (o.put StatefulSet.metadata m) o :=
    Value.sameBut_put o StatefulSet.metadata m
  have hcopied : Value.SameBut ["metadata"] (copyStoreOwned stored desired) desired :=
    hput desired _
  rw [replacement, carryAnnotations]
  split
  · exact hcopied
  · exact (hput _ _).trans hcopied

/-- The metadata that are copied from the stored object. -/
def copiedMetadata : List String := ["resourceVersion", "creationTimestamp", "managedFields"]

private theorem copiedMetadata_subset : copiedMetadata ⊆ Snapshot.storeOwned := by
  decide

private theorem get?_metadata_copyStoreOwned (name : String) :
    ((copyStoreOwned stored desired).get StatefulSet.metadata).members.get? name =
      if name ∈ copiedMetadata then (stored.get StatefulSet.metadata).members.get? name
      else (desired.get StatefulSet.metadata).members.get? name := by
  have hcopy {t : Ty} (s : Slot .objectMeta t false) (m : ObjectMeta) :
      (m.set s ((stored.get StatefulSet.metadata).get? s)).members.get? name =
        if name = s.name then (stored.get StatefulSet.metadata).members.get? name
        else m.members.get? name := by
    rw [Value.get?_members_set]
    split
    · rename_i hname
      rw [hname, Value.get?_members]
    · rfl
  rw [copyStoreOwned, Value.get_put_self, hcopy ObjectMeta.managedFields,
    hcopy ObjectMeta.creationTimestamp, hcopy ObjectMeta.resourceVersion]
  have hnames : name ∈ copiedMetadata ↔ name = ObjectMeta.resourceVersion.name ∨
      name = ObjectMeta.creationTimestamp.name ∨ name = ObjectMeta.managedFields.name := by
    rw [copiedMetadata, List.mem_cons, List.mem_cons, List.mem_singleton]
    exact Iff.rfl
  rw [if_congr hnames rfl rfl]
  split_ifs <;> simp_all

/-- Of the metadata, what is copied is that of the stored object, and everything else but the
annotations that of the desired one. -/
theorem get?_metadata_replacement {name : String} (ha : name ≠ "annotations") :
    ((replacement stored desired).get StatefulSet.metadata).members.get? name =
      if name ∈ copiedMetadata then (stored.get StatefulSet.metadata).members.get? name
      else (desired.get StatefulSet.metadata).members.get? name := by
  rw [← get?_metadata_copyStoreOwned, replacement, carryAnnotations]
  split
  · rfl
  · rw [Value.get_put_self, Value.get?_members_put]
    exact if_neg ha

/-- The snapshot of the replacing object is that of the desired one where every annotation on the
stored object, but for the snapshot, is one that the desired object sets. -/
theorem ofJson_replacement_eq_iff (key : String) :
    Snapshot.ofJson key (replacement stored desired).toJson =
        Snapshot.ofJson key desired.toJson ↔
      ∀ a, a ≠ key → (stored.annotationText? a).isSome = true →
        (desired.annotationText? a).isSome = true := by
  constructor
  · intro hsame a ha hstored
    have hat := congrArg (Json.at? ["metadata", "annotations", a]) hsame
    rw [Snapshot.at?_ofJson_annotations, Snapshot.at?_ofJson_annotations, if_neg ha, if_neg ha,
      annotationText?_replacement] at hat
    have hsome := congrArg Option.isSome hat
    rw [Option.isSome_map, Option.isSome_map, Option.isSome_or, hstored, Bool.or_true] at hsome
    exact hsome.symm
  · intro howned
    have hmembers := sameBut_replacement stored desired
    refine Snapshot.ofJson_congr (fun k hk => ?_) (fun k hk ha => ?_) fun a ha => ?_
    · exact hmembers.get?_jsonMembers (by rwa [List.mem_singleton])
    · have hnotCopied : k ∉ copiedMetadata := fun hin => hk (copiedMetadata_subset hin)
      rw [Value.jsonMembers, Value.jsonMembers, Members.get?_mapValues, Members.get?_mapValues,
        get?_metadata_replacement stored desired ha, if_neg hnotCopied]
    · rw [annotationText?_replacement]
      cases hdesired : desired.annotationText? a with
      | some v => rfl
      | none =>
        cases hstored : stored.annotationText? a with
        | none => rfl
        | some v =>
          have hsome := howned a ha (by rw [hstored]; rfl)
          rw [hdesired] at hsome
          cases hsome

end Replacing

end DesiredState
