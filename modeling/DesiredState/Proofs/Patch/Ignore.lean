import DesiredState.Patch.Ignore
import DesiredState.Proofs.Json.Shape
/-!
What the ignore rules leave of a value. Main statements: rules keep objects ordered
(`ordered_applyAll`), they look at the shape alone (`shape_applyAll`), and the members that the
default rules leave (`member?_applyAll_defaults`).
-/

set_option autoImplicit false
set_option relaxedAutoImplicit false

namespace DesiredState

namespace Json

theorem member?_dropMember (k k' : String) (j : Json) :
    (j.dropMember k').member? k = if k = k' then none else j.member? k := by
  cases j with
  | obj ms =>
    split
    · rename_i he
      subst he
      exact Members.get?_erase_self k ms
    · rename_i hne
      exact Members.get?_erase_of_ne hne ms
  | _ => simp [dropMember, member?]

theorem dropMember_dropMember (k : String) (j : Json) :
    (j.dropMember k).dropMember k = j.dropMember k := by
  cases j with
  | obj ms => simp [dropMember, Members.erase, List.filter_filter]
  | _ => rfl

theorem member?_mapMember (k k' : String) (f : Json → Json) (j : Json) :
    (j.mapMember k' f).member? k = if k = k' then (j.member? k).map f else j.member? k := by
  cases j with
  | obj ms =>
    simp only [mapMember, member?]
    induction ms with
    | nil => simp
    | cons m ms ih =>
      obtain ⟨l, j⟩ := m
      rw [List.map_cons]
      by_cases hl : l = k' <;> by_cases hk : k = l <;> simp_all [Members.get?_cons]
  | _ => simp [mapMember, member?]

theorem ordered_dropMember {j : Json} (h : j.ordered = true) (k : String) :
    (j.dropMember k).ordered = true := by
  cases j with
  | obj ms =>
    have ho := ordered_obj_iff.1 h
    exact ordered_obj_iff.2 ⟨ho.1.erase k, fun m hm => ho.2 m (List.mem_filter.1 hm).1⟩
  | _ => exact h

theorem ordered_mapMember {f : Json → Json} (hf : ∀ j, j.ordered = true → (f j).ordered = true)
    {j : Json} (h : j.ordered = true) (k : String) : (j.mapMember k f).ordered = true := by
  cases j with
  | obj ms =>
    have ho := ordered_obj_iff.1 h
    refine ordered_obj_iff.2 ⟨List.pairwise_map.2 (ho.1.imp fun {a b} hab => ?_), fun m hm => ?_⟩
    · split <;> split <;> exact hab
    · obtain ⟨n, hn, rfl⟩ := List.mem_map.1 hm
      split
      · exact hf _ (ho.2 n hn)
      · exact ho.2 n hn
  | _ => exact h

private theorem shape_dropMember (k : String) (j : Json) :
    (j.dropMember k).shape = j.shape.dropMember k := by
  cases j with
  | obj ms =>
    rw [shape_obj]
    simp only [dropMember]
    rw [shape_obj]
    congr 1
    simp [Members.erase, Members.mapValues, List.filter_map, Function.comp_def]
  | arr items => simp only [shape_arr, dropMember]
  | null | bool | int | float | str => rfl

private theorem shape_mapMember {f : Json → Json} (hf : ∀ j, (f j).shape = f j.shape) (k : String)
    (j : Json) : (j.mapMember k f).shape = j.shape.mapMember k f := by
  cases j with
  | obj ms =>
    rw [shape_obj]
    simp only [mapMember]
    rw [shape_obj]
    congr 1
    simp only [Members.mapValues, List.map_map]
    refine List.map_congr_left fun m _ => ?_
    by_cases hm : m.1 = k <;> simp [hm, hf]
  | arr items => simp only [shape_arr, mapMember]
  | null | bool | int | float | str => rfl

end Json

namespace IgnoreRule

private theorem ordered_dropPath (p : List String) {j : Json} (h : j.ordered = true) :
    (dropPath p j).ordered = true := by
  induction p generalizing j with
  | nil => exact h
  | cons a p ih =>
    cases p with
    | nil => exact Json.ordered_dropMember h a
    | cons b p => exact Json.ordered_mapMember (fun j hj => ih hj) h a

private theorem shape_dropPath (p : List String) (j : Json) :
    (dropPath p j).shape = dropPath p j.shape := by
  induction p generalizing j with
  | nil => rfl
  | cons a p ih =>
    cases p with
    | nil => exact Json.shape_dropMember a j
    | cons b p => exact Json.shape_mapMember ih a j

def dropFromClaim (rule : IgnoreRule) (claim : Json) : Json :=
  rule.claimPaths.foldl (fun c p => dropPath p c) claim

def dropFromSpec (rule : IgnoreRule) (spec : Json) : Json :=
  spec.mapMember "volumeClaimTemplates" fun
    | .arr claims => .arr (claims.map rule.dropFromClaim)
    | other => other

theorem apply_claimTypeMetaAndStatus (j : Json) :
    apply .claimTypeMetaAndStatus j = j.mapMember "spec" claimTypeMetaAndStatus.dropFromSpec := rfl

theorem apply_claimVolatile (j : Json) :
    apply .claimVolatile j = j.mapMember "spec" claimVolatile.dropFromSpec := rfl

theorem ordered_dropFromClaim (rule : IgnoreRule) {j : Json} (h : j.ordered = true) :
    (rule.dropFromClaim j).ordered = true := by
  unfold dropFromClaim
  induction rule.claimPaths generalizing j with
  | nil => exact h
  | cons p ps ih => exact ih (ordered_dropPath p h)

private theorem shape_dropFromClaim (rule : IgnoreRule) (j : Json) :
    (rule.dropFromClaim j).shape = rule.dropFromClaim j.shape := by
  unfold dropFromClaim
  induction rule.claimPaths generalizing j with
  | nil => rfl
  | cons p ps ih => rw [List.foldl_cons, List.foldl_cons, ih, shape_dropPath]

private theorem ordered_dropFromSpec (rule : IgnoreRule) {j : Json} (h : j.ordered = true) :
    (rule.dropFromSpec j).ordered = true := by
  refine Json.ordered_mapMember (fun j hj => ?_) h _
  cases j with
  | arr claims =>
    refine Json.orderedList_iff.2 fun i hi => ?_
    obtain ⟨c, hc, rfl⟩ := List.mem_map.1 hi
    exact rule.ordered_dropFromClaim (Json.ordered_of_mem_arr hj hc)
  | _ => exact hj

private theorem shape_dropFromSpec (rule : IgnoreRule) (j : Json) :
    (rule.dropFromSpec j).shape = rule.dropFromSpec j.shape := by
  refine Json.shape_mapMember (fun j => ?_) _ j
  cases j with
  | arr claims =>
    simp only [Json.shape_arr, List.map_map]
    congr 1
    exact List.map_congr_left fun c _ => rule.shape_dropFromClaim c
  | obj ms => simp only [Json.shape_obj]
  | null | bool | int | float | str => rfl

private theorem ordered_apply (rule : IgnoreRule) {j : Json} (h : j.ordered = true) :
    (rule.apply j).ordered = true := by
  cases rule with
  | status => exact ordered_dropPath _ h
  | field path => exact ordered_dropPath _ h
  | claimTypeMetaAndStatus => exact Json.ordered_mapMember (fun _ => ordered_dropFromSpec _) h _
  | claimVolatile => exact Json.ordered_mapMember (fun _ => ordered_dropFromSpec _) h _

private theorem shape_apply (rule : IgnoreRule) (j : Json) :
    (rule.apply j).shape = rule.apply j.shape := by
  cases rule with
  | status => exact shape_dropPath _ j
  | field path => exact shape_dropPath _ j
  | claimTypeMetaAndStatus => exact Json.shape_mapMember (shape_dropFromSpec _) _ j
  | claimVolatile => exact Json.shape_mapMember (shape_dropFromSpec _) _ j

theorem ordered_applyAll (rules : List IgnoreRule) {j : Json} (h : j.ordered = true) :
    (applyAll rules j).ordered = true := by
  unfold applyAll
  induction rules generalizing j with
  | nil => exact h
  | cons rule rules ih => exact ih (rule.ordered_apply h)

theorem shape_applyAll (rules : List IgnoreRule) (j : Json) :
    (applyAll rules j).shape = applyAll rules j.shape := by
  unfold applyAll
  induction rules generalizing j with
  | nil => rfl
  | cons rule rules ih => rw [List.foldl_cons, List.foldl_cons, ih, shape_apply]

theorem shape_applyAll_congr (rules : List IgnoreRule) {a b : Json} (h : a.shape = b.shape) :
    (applyAll rules a).shape = (applyAll rules b).shape := by
  rw [shape_applyAll, shape_applyAll, h]

def compared (spec : Json) : Json :=
  claimVolatile.dropFromSpec (claimTypeMetaAndStatus.dropFromSpec spec)

theorem ordered_compared {spec : Json} (h : spec.ordered = true) :
    (compared spec).ordered = true :=
  ordered_dropFromSpec _ (ordered_dropFromSpec _ h)

private theorem segments_kind : segments "kind" = ["kind"] := by decide +kernel
private theorem segments_apiVersion : segments "apiVersion" = ["apiVersion"] := by decide +kernel
private theorem segments_metadata : segments "metadata" = ["metadata"] := by decide +kernel

private theorem applyAll_defaults (j : Json) :
    applyAll defaults j =
      ((((((j.dropMember "status").mapMember "spec" claimTypeMetaAndStatus.dropFromSpec).mapMember
        "spec" claimVolatile.dropFromSpec).dropMember "kind").dropMember "apiVersion").dropMember
          "metadata") := by
  simp only [applyAll, defaults, List.foldl_cons, List.foldl_nil, apply_claimTypeMetaAndStatus,
    apply_claimVolatile]
  simp only [apply, segments_kind, segments_apiVersion, segments_metadata, dropPath]

theorem member?_applyAll_defaults (k : String) (j : Json) :
    (applyAll defaults j).member? k =
      if k ∈ ["apiVersion", "kind", "metadata", "status"] then none
      else if k = "spec" then (j.member? k).map compared
      else j.member? k := by
  rw [applyAll_defaults]
  simp only [Json.member?_dropMember, Json.member?_mapMember, List.mem_cons, List.not_mem_nil,
    or_false]
  by_cases hm : k = "metadata"
  · simp [hm]
  by_cases ha : k = "apiVersion"
  · simp [ha]
  by_cases hk : k = "kind"
  · simp [hk]
  by_cases hst : k = "status"
  · simp [hst]
  by_cases hsp : k = "spec"
  · simp only [hsp, String.reduceEq, or_self, if_false, if_true, Option.map_map]
    rfl
  · simp [hm, ha, hk, hst, hsp]

theorem members?_applyAll_defaults (j : Json) :
    (applyAll defaults j).members?.isSome = j.members?.isSome := by
  rw [applyAll_defaults]
  cases j <;> rfl

end IgnoreRule

end DesiredState
