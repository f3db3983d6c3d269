import DesiredState.Proofs.Patch.Compared
/-!
What a comparison by the default rules does not look at. Main statement: `calculate_congr`, that
status, metadata and what a server fills in on volume claim templates have no influence on a patch,
but for the snapshot in the annotations of the stored object.
-/

set_option autoImplicit false
set_option relaxedAutoImplicit false

namespace DesiredState

open Value (SameBut)

/-- Volume claim templates that differ at most in their status, in the time of their creation and,
where both have a specification, in its volume mode. -/
structure VolumeClaim.Alike (a b : VolumeClaim) : Prop where
  metadata : SameBut ["creationTimestamp"] (a.get VolumeClaim.metadata) (b.get VolumeClaim.metadata)
  spec : Option.Rel (SameBut ["volumeMode"]) (a.get? VolumeClaim.spec) (b.get? VolumeClaim.spec)

/-- Specifications that differ at most within their volume claim templates, which are alike one by
one. -/
structure StatefulSetSpec.Alike (a b : Record .statefulSetSpec) : Prop where
  others : SameBut ["volumeClaimTemplates"] a b
  claims : Option.Rel (fun cs ds => List.Forall₂ VolumeClaim.Alike cs.items ds.items)
    (a.get? StatefulSetSpec.volumeClaimTemplates) (b.get? StatefulSetSpec.volumeClaimTemplates)

def StatefulSet.Alike (a b : StatefulSet) : Prop :=
  Option.Rel StatefulSetSpec.Alike (a.get? StatefulSet.spec) (b.get? StatefulSet.spec)

private theorem map_eq_map_of_rel {α β γ : Type} {R : α → β → Prop} {f : α → γ} {g : β → γ}
    (hR : ∀ a b, R a b → f a = g b) {a : Option α} {b : Option β} (h : Option.Rel R a b) :
    a.map f = b.map g := by
  cases h with
  | none => rfl
  | some hab => exact congrArg some (hR _ _ hab)

namespace IgnoreRule

open ServerDefaults (comparedClaim member?_comparedClaim ordered_comparedClaim
  isObject_comparedClaim dropMember_toJson_congr member?_compared_spec)

private theorem comparedClaim_congr {a b : VolumeClaim} (h : VolumeClaim.Alike a b) :
    comparedClaim a.toJson = comparedClaim b.toJson := by
  refine Json.eq_of_member? (ordered_comparedClaim a) (ordered_comparedClaim b)
    (isObject_comparedClaim a) (isObject_comparedClaim b) fun name => ?_
  rw [member?_comparedClaim, member?_comparedClaim]
  by_cases hbare : name ∈ ["apiVersion", "kind", "status"]
  · rw [if_pos hbare, if_pos hbare]
  rw [if_neg hbare, if_neg hbare]
  by_cases hm : name = "metadata"
  · subst hm
    have hmetadata (c : VolumeClaim) : c.toJson.member? "metadata" =
        some (c.get VolumeClaim.metadata).toJson := by
      rw [← Option.map_some, ← Value.get?_eq_some_get]
      exact Value.member?_toJson c VolumeClaim.metadata
    rw [if_pos rfl, if_pos rfl, hmetadata, hmetadata, Option.map_some, Option.map_some,
      dropMember_toJson_congr h.metadata]
  rw [if_neg hm, if_neg hm]
  by_cases hs : name = "spec"
  · subst hs
    have hspec (c : VolumeClaim) : c.toJson.member? "spec" =
        (c.get? VolumeClaim.spec).map Value.toJson := Value.member?_toJson c VolumeClaim.spec
    rw [if_pos rfl, if_pos rfl, hspec, hspec, Option.map_map, Option.map_map]
    exact map_eq_map_of_rel (fun _ _ => dropMember_toJson_congr) h.spec
  rw [if_neg hs, if_neg hs]
  have hother (c : VolumeClaim) : c.toJson.member? name = none := by
    rw [Value.toJson_eq_obj]
    refine Value.get?_jsonMembers_of_field? c (Kind.field?_eq_none
      (show (Kind.fields .persistentVolumeClaim).all (fun f =>
        f.name ∈ ["apiVersion", "kind", "metadata", "spec", "status"]) = true by decide +kernel) ?_)
    simp_all
  rw [hother, hother]

private theorem compared_congr {a b : Record .statefulSetSpec} (h : StatefulSetSpec.Alike a b) :
    compared a.toJson = compared b.toJson := by
  have hobj (s : Record .statefulSetSpec) : (compared s.toJson).members?.isSome = true := by
    rw [members?_compared, Value.toJson_eq_obj]
    rfl
  refine Json.eq_of_member? (ordered_compared a.ordered_toJson) (ordered_compared b.ordered_toJson)
    (hobj a) (hobj b) fun name => ?_
  rw [member?_compared_spec, member?_compared_spec]
  by_cases hn : name = "volumeClaimTemplates"
  · rw [if_pos hn, if_pos hn]
    refine map_eq_map_of_rel (fun cs ds hall => congrArg Json.arr ?_) h.claims
    have hcompared := List.forall₂_map_left_iff.2 (List.forall₂_map_right_iff.2
      (hall.imp fun _ _ => comparedClaim_congr))
    rwa [List.forall₂_eq_eq_eq] at hcompared
  · rw [if_neg hn, if_neg hn]
    exact h.others.get?_jsonMembers fun hmem => hn (List.mem_singleton.1 hmem)

private theorem applyAll_defaults_congr {a b : StatefulSet} (h : StatefulSet.Alike a b) :
    applyAll defaults a.toJson = applyAll defaults b.toJson := by
  have hspec : (a.get? StatefulSet.spec).map (fun s => compared s.toJson) =
      (b.get? StatefulSet.spec).map (fun s => compared s.toJson) :=
    map_eq_map_of_rel (R := StatefulSetSpec.Alike) (fun _ _ => compared_congr) h
  have hleft (o : StatefulSet) : applyAll defaults o.toJson =
      .obj (((o.get? StatefulSet.spec).map fun s => compared s.toJson).elim []
        fun spec => [("spec", spec)]) := by
    rw [applyAll_defaults_toJson, Option.elim_map]
    rfl
  rw [hleft, hleft, hspec]

end IgnoreRule

namespace Patch

private theorem calculate_subject (key : String) (rules : List IgnoreRule)
    (stored desired : StatefulSet) : calculate key rules stored.subject desired.subject =
      (Snapshot.read key stored.subject).map fun applied =>
        ⟨Json.diff (appliedBefore rules applied) (IgnoreRule.applyAll rules desired.toJson)
          (IgnoreRule.applyAll rules stored.toJson)⟩ := by
  rw [calculate]
  cases Snapshot.read key stored.subject <;> rfl

/-- By the default rules a comparison gives the same patch, or the same error, for StatefulSets that
are alike, as long as the stored ones carry the same snapshot. -/
theorem calculate_congr (key : String) {current current' modified modified' : StatefulSet}
    (hcurrent : StatefulSet.Alike current current')
    (hsnapshot : current.subject.annotations.bind (·.at? key) =
      current'.subject.annotations.bind (·.at? key))
    (hmodified : StatefulSet.Alike modified modified') :
    calculate key IgnoreRule.defaults current.subject modified.subject =
      calculate key IgnoreRule.defaults current'.subject modified'.subject := by
  have hread : Snapshot.read key current.subject = Snapshot.read key current'.subject := by
    rw [Snapshot.read, Snapshot.read, hsnapshot]
  rw [calculate_subject, calculate_subject, hread, IgnoreRule.applyAll_defaults_congr hcurrent,
    IgnoreRule.applyAll_defaults_congr hmodified]

private def wantedClaim : VolumeClaim :=
  ((Record.blank .persistentVolumeClaim).put VolumeClaim.metadata
    ((Record.blank .objectMeta).put ObjectMeta.name (.ofText "data"))).put VolumeClaim.spec
      (Record.blank .persistentVolumeClaimSpec)

private def servedClaim : VolumeClaim :=
  let m := (wantedClaim.get VolumeClaim.metadata).put ObjectMeta.creationTimestamp
    (.ofTime ⟨1735689600, 0⟩)
  let spec := (Record.blank .persistentVolumeClaimSpec).put VolumeClaim.volumeMode
    (.ofText "Filesystem")
  ((wantedClaim.put VolumeClaim.metadata m).put VolumeClaim.spec spec).put VolumeClaim.status
    ((Record.blank .persistentVolumeClaimStatus).put VolumeClaim.phase (.ofText "Pending"))

private def claiming (m : ObjectMeta) (c : VolumeClaim) : StatefulSet :=
  ((Record.blank .statefulSet).put StatefulSet.metadata m).put StatefulSet.spec
    ((Record.blank .statefulSetSpec).put StatefulSetSpec.volumeClaimTemplates (.ofItems [c]))

private theorem alike_claiming (m m' : ObjectMeta) :
    StatefulSet.Alike (claiming m servedClaim) (claiming m' wantedClaim) := by
  have hclaim : VolumeClaim.Alike servedClaim wantedClaim := by
    constructor
    · rw [servedClaim, Value.get_put_of_ne _ (by decide), Value.get_put_of_ne _ (by decide),
        Value.get_put_self]
      exact Value.sameBut_put _ ObjectMeta.creationTimestamp _
    · rw [servedClaim, wantedClaim, Value.get?_put_of_ne _ (by decide), Value.get?_put_self,
        Value.get?_put_self]
      exact .some (Value.sameBut_put _ VolumeClaim.volumeMode _)
  rw [StatefulSet.Alike, claiming, claiming, Value.get?_put_self, Value.get?_put_self]
  refine .some ⟨fun name hn => ?_, ?_⟩
  · have hput (c : VolumeClaim) := Value.sameBut_put (Record.blank .statefulSetSpec)
      StatefulSetSpec.volumeClaimTemplates (.ofItems [c]) name hn
    rw [hput, hput]
  · rw [Value.get?_put_self, Value.get?_put_self]
    refine .some ?_
    rw [Value.items_ofItems, Value.items_ofItems]
    exact .cons hclaim .nil

private def annotated (key value : String) (m : ObjectMeta) : ObjectMeta :=
  m.put ObjectMeta.annotations (Value.emptyMap.insert key (.ofText value))

/-- A claim that the server filled in, labels, and metadata of the desired object make no difference
to a comparison with the same snapshot. -/
theorem calculate_congr_of_served_claim :
    let m := annotated Snapshot.defaultKey "\x7b\x7d" (Record.blank .objectMeta)
    let labelled := m.put ObjectMeta.labels (Value.emptyMap.insert "team" (.ofText "data"))
    let named := (Record.blank .objectMeta).put ObjectMeta.name (.ofText "db")
    calculate Snapshot.defaultKey IgnoreRule.defaults (claiming labelled servedClaim).subject
        (claiming named servedClaim).subject =
      calculate Snapshot.defaultKey IgnoreRule.defaults (claiming m wantedClaim).subject
        (claiming (annotated "note" "x" named) wantedClaim).subject := by
  intro m labelled named
  refine calculate_congr Snapshot.defaultKey (alike_claiming _ _) ?_ (alike_claiming _ _)
  have hmetadata (m : ObjectMeta) (c : VolumeClaim) :
      (claiming m c).subject.annotations = m.get? ObjectMeta.annotations := by
    rw [claiming, StatefulSet.subject, Value.get_put_of_ne _ (by decide), Value.get_put_self]
  rw [hmetadata, hmetadata, Value.get?_put_of_ne _ (by decide)]

end Patch

end DesiredState
