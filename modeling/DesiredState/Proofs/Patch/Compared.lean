import DesiredState.Proofs.Patch.Known
import DesiredState.Proofs.Patch.Snapshot
import DesiredState.Proofs.Store.Filled
/-!
Specifications as they are compared, and the patches between them. Main statements:
`compared_merge`, that a patch says nothing about what is ignored, and `same_known_of_calculate`,
that the patch merged into the stored specification gives the desired one, but for what only the
stored one has.
-/

set_option autoImplicit false
set_option relaxedAutoImplicit false

namespace DesiredState

namespace IgnoreRule

open ServerDefaults (comparedClaim member?_comparedClaim ordered_comparedClaim
  isObject_comparedClaim)

def comparedSpec (j : Json) : Json := compared (j.memberOrNull "spec")

def comparedClaims : Json → Json
  | .arr claims => .arr (claims.map comparedClaim)
  | other => other

theorem member?_compared (spec : Json) (k : String) :
    (compared spec).member? k =
      if k = "volumeClaimTemplates" then (spec.member? k).map comparedClaims
      else spec.member? k := by
  rw [compared, dropFromSpec, dropFromSpec, Json.member?_mapMember, Json.member?_mapMember]
  split
  · rw [Option.map_map]
    refine congrArg (fun f => (spec.member? k).map f) (funext fun j => ?_)
    cases j with
    | arr claims =>
      simp only [Function.comp_apply, List.map_map]
      rfl
    | _ => rfl
  · rfl

theorem members?_compared (spec : Json) :
    (compared spec).members?.isSome = spec.members?.isSome := by
  cases spec <;> rfl

private theorem comparedClaim_comparedClaim (c : VolumeClaim) :
    comparedClaim (comparedClaim c.toJson) = comparedClaim c.toJson := by
  have hordered := ordered_comparedClaim c
  have hobject := isObject_comparedClaim c
  refine Json.eq_of_member? ?_ hordered ?_ hobject fun k => ?_
  · exact ordered_dropFromClaim _ (ordered_dropFromClaim _ hordered)
  · obtain ⟨ms, hms⟩ := Json.exists_obj_of_members? hobject
    rw [hms]
    rfl
  · rw [member?_comparedClaim, member?_comparedClaim]
    by_cases hbare : k ∈ ["apiVersion", "kind", "status"]
    · rw [if_pos hbare, if_pos hbare]
    rw [if_neg hbare, if_neg hbare]
    have htwice (name : String) : Json.dropMember name ∘ Json.dropMember name =
        Json.dropMember name := funext (Json.dropMember_dropMember name)
    by_cases hm : k = "metadata"
    · rw [if_pos hm, if_pos hm, Option.map_map, htwice]
    rw [if_neg hm, if_neg hm]
    by_cases hs : k = "spec"
    · rw [if_pos hs, if_pos hs, Option.map_map, htwice]
    · rw [if_neg hs, if_neg hs]

private theorem comparedClaims_of_member? {d : Record .statefulSetSpec} {claims : Json}
    (h : (compared d.toJson).member? "volumeClaimTemplates" = some claims) :
    claims.members? = none ∧ comparedClaims claims = claims := by
  rw [ServerDefaults.member?_compared_spec, if_pos rfl] at h
  obtain ⟨cs, -, rfl⟩ := Option.map_eq_some_iff.1 h
  refine ⟨rfl, ?_⟩
  rw [comparedClaims, List.map_map]
  congr 1
  exact List.map_congr_left fun c _ => comparedClaim_comparedClaim c

private theorem comparedClaims_of_patch {d : Record .statefulSetSpec} {applied spec q : Json}
    {ps : Members Json}
    (hdiff : Json.diff applied (compared d.toJson) (compared spec) = some (.obj ps))
    (hq : ps.get? "volumeClaimTemplates" = some q) :
    q = .null ∨ (q.members? = none ∧ comparedClaims q = q) := by
  obtain ⟨ms, hms, him⟩ := ServerDefaults.exists_compared_eq_obj d
  have hclaims := @comparedClaims_of_member? d
  rw [hms] at hdiff hclaims
  obtain ⟨ps', hps, -, hentries⟩ := Json.exists_obj_of_diff_obj him hdiff
  cases hps
  obtain hnull | ⟨m, hm, hpatch⟩ := hentries _ q hq
  · exact .inl hnull
  · obtain ⟨hatom, hsame⟩ := hclaims hm
    -- the templates are an array, which is replaced as a whole
    have hqm : q = m := hpatch.elim id fun ⟨a, c, hac⟩ => Json.eq_of_diff_eq_some hatom hac
    exact .inr (hqm ▸ ⟨hatom, hsame⟩)

theorem compared_merge {d : Record .statefulSetSpec} {applied spec p : Json}
    (hspec : spec.ordered = true)
    (hdiff : Json.diff applied (compared d.toJson) (compared spec) = some p) :
    compared (spec.merge p) = (compared spec).merge p := by
  have hd : (compared d.toJson).ordered = true := ordered_compared d.ordered_toJson
  have hp : p.ordered = true := Json.ordered_of_diff_eq_some hd hdiff
  obtain ⟨ms, hms, him⟩ := ServerDefaults.exists_compared_eq_obj d
  obtain ⟨ps, rfl, hip, -⟩ := Json.exists_obj_of_diff_obj him (hms ▸ hdiff)
  refine Json.eq_of_member? (ordered_compared (Json.ordered_merge hspec hp))
    (Json.ordered_merge (ordered_compared hspec) hp) ?_ ?_ fun k => ?_
  · rw [members?_compared, Json.merge_obj]
    rfl
  · rw [Json.merge_obj]
    rfl
  · rw [member?_compared, Json.member?_merge_obj hip, Json.member?_merge_obj hip,
      Json.memberOrNull, Json.memberOrNull, member?_compared]
    by_cases hk : k = "volumeClaimTemplates"
    · rw [if_pos hk, if_pos hk]
      cases hpk : Members.get? k ps with
      | none => rfl
      | some q =>
        rw [Option.elim_some, Option.elim_some]
        obtain rfl | ⟨hatom, hsame⟩ := comparedClaims_of_patch hdiff (hk ▸ hpk)
        · rfl
        · rw [Json.merge_of_members? _ hatom, Json.merge_of_members? _ hatom]
          split
          · rfl
          · rw [Option.map_some, hsame]
    · rw [if_neg hk, if_neg hk]

theorem comparedSpec_of_spec {o : StatefulSet} {s : Record .statefulSetSpec}
    (h : o.get? StatefulSet.spec = some s) : comparedSpec o.toJson = compared s.toJson := by
  have hspec : o.toJson.member? "spec" = (o.get? StatefulSet.spec).map Value.toJson :=
    Value.member?_toJson o StatefulSet.spec
  rw [comparedSpec, Json.memberOrNull, hspec, h]
  rfl

private theorem memberOrNull_applyAll_defaults (j : Json) :
    (applyAll defaults j).memberOrNull "spec" = comparedSpec j := by
  rw [Json.memberOrNull, member?_applyAll_defaults, if_neg (by decide), if_pos rfl, comparedSpec,
    Json.memberOrNull]
  cases j.member? "spec" <;> rfl

end IgnoreRule

namespace Patch

open IgnoreRule (compared comparedSpec)

private theorem memberOrNull_appliedBefore (applied : Option Json) :
    (appliedBefore IgnoreRule.defaults applied).memberOrNull "spec" =
      comparedSpec (applied.getD .null) := by
  cases applied with
  | none => rfl
  | some a => exact IgnoreRule.memberOrNull_applyAll_defaults a

theorem exists_spec_unchanged {key : String} {stored desired : StatefulSet}
    {d : Record .statefulSetSpec} {patch : Patch} (hd : desired.get? StatefulSet.spec = some d)
    (hcalc : calculate key IgnoreRule.defaults stored.subject desired.subject = .ok patch)
    (hempty : patch.isEmpty = true) :
    ∃ applied, Snapshot.read key stored.subject = .ok applied ∧
      Json.diff (comparedSpec (applied.getD .null)) (compared d.toJson)
        (comparedSpec stored.toJson) = none := by
  obtain ⟨applied, c, m, hread, hc, hm, rfl⟩ := calculate_eq_ok_iff.1 hcalc
  cases hc
  cases hm
  obtain ⟨cs, hcs⟩ := Json.exists_obj_of_members?
    (IgnoreRule.isObject_applyAll_defaults_toJson stored)
  rw [isEmpty, IgnoreRule.applyAll_defaults_toJson desired, hd, hcs,
    Option.isNone_iff_eq_none] at hempty
  have hspec := ((Json.diff_obj_eq_none_iff (List.pairwise_singleton _ _)).1 hempty).1 "spec" _ rfl
  rw [memberOrNull_appliedBefore, ← Json.memberOrNull_obj, ← hcs,
    IgnoreRule.memberOrNull_applyAll_defaults] at hspec
  exact ⟨applied, hread, hspec⟩

private theorem exists_spec_change {key : String} {stored desired : StatefulSet}
    {d : Record .statefulSetSpec} {patch : Patch} (hd : desired.get? StatefulSet.spec = some d)
    (hcalc : calculate key IgnoreRule.defaults stored.subject desired.subject = .ok patch)
    (hchanged : patch.isEmpty = false) :
    ∃ applied p, Snapshot.read key stored.subject = .ok applied ∧
      patch.change? = some (.obj [("spec", p)]) ∧
      Json.diff (comparedSpec (applied.getD .null)) (compared d.toJson)
        (comparedSpec stored.toJson) = some p := by
  obtain ⟨applied, c, m, hread, hc, hm, rfl⟩ := calculate_eq_ok_iff.1 hcalc
  cases hc
  cases hm
  have hdesired : IgnoreRule.applyAll IgnoreRule.defaults desired.toJson =
      .obj [("spec", compared d.toJson)] := by
    rw [IgnoreRule.applyAll_defaults_toJson, hd]
    rfl
  obtain ⟨cs, hcs⟩ := Json.exists_obj_of_members?
    (IgnoreRule.isObject_applyAll_defaults_toJson stored)
  have hstored : (Members.get? "spec" cs).getD .null = comparedSpec stored.toJson := by
    rw [← Json.memberOrNull_obj, ← hcs, IgnoreRule.memberOrNull_applyAll_defaults]
  have hother : ∀ k, k ≠ "spec" → Members.get? k cs = none := by
    intro k hk
    have hmember := IgnoreRule.member?_applyAll_defaults_toJson stored k
    rw [hcs, if_neg hk] at hmember
    exact hmember
  rw [hdesired, hcs] at hchanged ⊢
  cases hchange : Json.diff (appliedBefore IgnoreRule.defaults applied)
      (.obj [("spec", compared d.toJson)]) (.obj cs) with
  | none =>
    rw [isEmpty, hchange] at hchanged
    cases hchanged
  | some change =>
    obtain ⟨p, rfl, hp⟩ := Json.exists_of_diff_singleton hother hchange
    rw [memberOrNull_appliedBefore, hstored] at hp
    exact ⟨applied, p, hread, rfl, hp⟩

/-- Merged into the stored specification, the patch gives the desired one, but for what neither the
desired specification has nor the one applied last. -/
theorem same_known_of_calculate {key : String} {stored desired : StatefulSet}
    {d : Record .statefulSetSpec} {patch : Patch} (hd : desired.get? StatefulSet.spec = some d)
    (hcalc : calculate key IgnoreRule.defaults stored.subject desired.subject = .ok patch)
    (hchanged : patch.isEmpty = false) :
    ∃ applied change, Snapshot.read key stored.subject = .ok applied ∧
      patch.change? = some change ∧
      (compared d.toJson).content.same (Json.known (comparedSpec (applied.getD .null))
        (compared d.toJson) (comparedSpec (stored.toJson.merge change))).content = true := by
  obtain ⟨applied, p, hread, hchange, hdiff⟩ := exists_spec_change hd hcalc hchanged
  refine ⟨applied, _, hread, hchange, ?_⟩
  have hdo : (compared d.toJson).ordered = true := IgnoreRule.ordered_compared d.ordered_toJson
  have hpo : p.ordered = true := Json.ordered_of_diff_eq_some hdo hdiff
  obtain ⟨ms, hms, him⟩ := ServerDefaults.exists_compared_eq_obj d
  obtain ⟨ps, rfl, -, -⟩ := Json.exists_obj_of_diff_obj him (hms ▸ hdiff)
  have hstored : (stored.toJson.memberOrNull "spec").ordered = true := by
    have ho := stored.ordered_toJson
    rw [Value.toJson_eq_obj] at ho ⊢
    exact Json.ordered_getD ho "spec"
  have hmerged : comparedSpec (stored.toJson.merge (.obj [("spec", .obj ps)])) =
      (comparedSpec stored.toJson).merge (.obj ps) := by
    rw [comparedSpec, Json.memberOrNull,
      Json.member?_merge_obj (List.pairwise_singleton _ _)]
    exact IgnoreRule.compared_merge hstored hdiff
  have hconverged := Json.diff_merge hdo (comparedSpec (applied.getD .null))
    (comparedSpec stored.toJson)
  rw [hdiff, Option.elim_some] at hconverged
  have halike := Json.alike_known_of_diff hdo
    (Json.ordered_merge (IgnoreRule.ordered_compared hstored) hpo) hconverged
  rw [hmerged]
  rw [Json.merge_obj, hms] at halike ⊢
  exact halike.same_content_of_obj

end Patch

end DesiredState
