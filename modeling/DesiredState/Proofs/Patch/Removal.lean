import DesiredState.Proofs.Patch.Agreement
import DesiredState.Proofs.Patch.Ignore
/-!
Which nodes the ignore rules drop, position by position. Main statements: `eq_of_sameNodes`, that a
value is determined by its nodes, and `applyAll_survives`, that a node survives a list of rules
exactly where none of them designates its position or one above it.
-/

set_option autoImplicit false
set_option relaxedAutoImplicit false

namespace DesiredState

namespace Json

/-- A value without what is below it; of an array the length is left. -/
def root : Json → Json
  | .arr items => .arr (items.map fun _ => .null)
  | .obj _ => .obj []
  | j => j

/-- The values hold the same nodes at the same positions. -/
def SameNodes (a b : Json) : Prop :=
  ∀ position, (a.find? position).map root = (b.find? position).map root

private theorem SameNodes.child {a b : Json} (h : SameNodes a b) (s : Step) :
    Option.Rel SameNodes (a.child? s) (b.child? s) := by
  have hbelow : ∀ position, ((a.child? s).bind (find? position)).map root =
      ((b.child? s).bind (find? position)).map root := fun position => h (s :: position)
  have hroot := hbelow []
  cases ha : a.child? s with
  | none =>
    cases hb : b.child? s with
    | none => exact .none
    | some y =>
      rw [ha, hb] at hroot
      cases hroot
  | some x =>
    cases hb : b.child? s with
    | none =>
      rw [ha, hb] at hroot
      cases hroot
    | some y =>
      rw [ha, hb] at hbelow
      exact .some hbelow

private theorem eq_of_rel {α : Type} {R : α → α → Prop} {x y : Option α} (h : Option.Rel R x y)
    (he : ∀ a, x = some a → ∀ b, y = some b → R a b → a = b) : x = y := by
  cases h with
  | none => rfl
  | some hab => exact congrArg some (he _ rfl _ rfl hab)

/-- A value is determined by its nodes. -/
theorem eq_of_sameNodes {a b : Json} (ha : a.ordered = true) (hb : b.ordered = true)
    (h : SameNodes a b) : a = b := by
  have hroot : a.root = b.root := Option.some.inj (h [])
  induction a using inductionOn generalizing b with
  | atom a hatom =>
    cases a with
    | arr | obj => cases hatom
    | _ => cases b <;> first | exact hroot | cases hroot
  | arr items ih =>
    cases b with
    | arr items' =>
      congr 1
      refine List.ext_getElem? fun i => ?_
      refine eq_of_rel (h.child (.index i)) fun x hx y hy hxy => ?_
      have hmem : x ∈ items := List.mem_of_getElem? hx
      have hmem' : y ∈ items' := List.mem_of_getElem? hy
      exact ih x hmem (ordered_of_mem_arr ha hmem) (ordered_of_mem_arr hb hmem') hxy
        (Option.some.inj (hxy []))
    | _ => cases hroot
  | obj ms ih =>
    cases b with
    | obj ms' =>
      congr 1
      refine (increasing_of_ordered ha).ext (increasing_of_ordered hb) fun k => ?_
      refine eq_of_rel (h.child (.key k)) fun x hx y hy hxy => ?_
      exact ih _ (Members.mem_of_get? hx) (ordered_of_get? ha hx) (ordered_of_get? hb hy) hxy
        (Option.some.inj (hxy []))
    | _ => cases hroot

/-- The function drops the nodes at some positions and leaves all others where they are. -/
structure Drops (f : Json → Json) (D : List Step → Prop) : Prop where
  dropped : ∀ {j : Json} {position : List Step}, D position → (f j).find? position = none
  kept : ∀ {j : Json} {position : List Step}, ¬ D position →
    ((f j).find? position).map root = (j.find? position).map root

private theorem Drops.congr {f : Json → Json} {D E : List Step → Prop} (h : Drops f D)
    (he : ∀ position, D position ↔ E position) : Drops f E where
  dropped hp := h.dropped ((he _).2 hp)
  kept hp := h.kept fun hd => hp ((he _).1 hd)

private theorem drops_id : Drops (fun j => j) fun _ => False where
  dropped hp := hp.elim
  kept _ := rfl

private theorem Drops.comp {f g : Json → Json} {D E : List Step → Prop} (hf : Drops f D)
    (hg : Drops g E) : Drops (fun j => g (f j)) fun position => D position ∨ E position where
  dropped {j position} hp := by
    by_cases he : E position
    · exact hg.dropped he
    · have hroot := hg.kept (j := f j) he
      rw [hf.dropped (hp.resolve_right he)] at hroot
      exact Option.map_eq_none_iff.1 hroot
  kept {j position} hp := by
    obtain ⟨hd, he⟩ := not_or.1 hp
    rw [hg.kept he, hf.kept hd]

private theorem root_dropMember (k : String) (j : Json) : (j.dropMember k).root = j.root := by
  cases j <;> rfl

private theorem child?_dropMember (k : String) (j : Json) (s : Step) :
    (j.dropMember k).child? s = if s = .key k then none else j.child? s := by
  cases s with
  | key l =>
    rw [child?, member?_dropMember]
    simp only [Step.key.injEq]
    rfl
  | index i =>
    rw [if_neg (by simp)]
    cases j <;> rfl

private theorem drops_dropMember (k : String) :
    Drops (dropMember k) fun position => [.key k] <+: position where
  dropped {j position} hp := by
    obtain ⟨below, rfl⟩ := hp
    rw [List.singleton_append, find?_cons, child?_dropMember, if_pos rfl]
    rfl
  kept {j position} hp := by
    cases position with
    | nil => exact congrArg some (root_dropMember k j)
    | cons s below =>
      have hs : s ≠ .key k := by
        rintro rfl
        exact hp ⟨below, rfl⟩
      rw [find?_cons, find?_cons, child?_dropMember, if_neg hs]

def Below (s : Step) (D : List Step → Prop) (position : List Step) : Prop :=
  ∃ rest, position = s :: rest ∧ D rest

private theorem root_mapMember (k : String) (f : Json → Json) (j : Json) :
    (j.mapMember k f).root = j.root := by
  cases j <;> rfl

private theorem child?_mapMember (k : String) (f : Json → Json) (j : Json) (s : Step) :
    (j.mapMember k f).child? s = if s = .key k then (j.child? s).map f else j.child? s := by
  cases s with
  | key l =>
    rw [child?, member?_mapMember]
    simp only [Step.key.injEq]
    rfl
  | index i =>
    rw [if_neg (by simp)]
    cases j <;> rfl

private theorem Drops.mapMember {f : Json → Json} {D : List Step → Prop} (h : Drops f D)
    (k : String) : Drops (mapMember k f) (Below (.key k) D) where
  dropped {j position} hp := by
    obtain ⟨rest, rfl, hrest⟩ := hp
    rw [find?_cons, child?_mapMember, if_pos rfl]
    cases j.child? (.key k) with
    | none => rfl
    | some x => exact h.dropped hrest
  kept {j position} hp := by
    cases position with
    | nil => exact congrArg some (root_mapMember k f j)
    | cons s rest =>
      rw [find?_cons, find?_cons, child?_mapMember]
      split
      · rename_i hs
        have hrest : ¬ D rest := fun hd => hp ⟨rest, hs ▸ rfl, hd⟩
        cases j.child? s with
        | none => rfl
        | some x => exact h.kept hrest
      · rfl

/-- Applies a function to every item of an array. -/
def mapItems (f : Json → Json) : Json → Json
  | .arr items => .arr (items.map f)
  | j => j

private theorem child?_mapItems_key (f : Json → Json) (j : Json) (k : String) :
    (mapItems f j).child? (.key k) = j.child? (.key k) := by
  cases j <;> rfl

private theorem child?_mapItems_index (f : Json → Json) (j : Json) (i : Nat) :
    (mapItems f j).child? (.index i) = (j.child? (.index i)).map f := by
  cases j with
  | arr items => exact List.getElem?_map
  | _ => rfl

private theorem root_mapItems (f : Json → Json) (j : Json) : (mapItems f j).root = j.root := by
  cases j with
  | arr items =>
    simp only [mapItems, root, List.map_map]
    rfl
  | _ => rfl

private theorem Drops.mapItems {f : Json → Json} {D : List Step → Prop} (h : Drops f D) :
    Drops (mapItems f) fun position => ∃ i, Below (.index i) D position where
  dropped {j position} hp := by
    obtain ⟨i, rest, rfl, hrest⟩ := hp
    rw [find?_cons, child?_mapItems_index]
    cases j.child? (.index i) with
    | none => rfl
    | some x => exact h.dropped hrest
  kept {j position} hp := by
    cases position with
    | nil => exact congrArg some (root_mapItems f j)
    | cons s rest =>
      rw [find?_cons, find?_cons]
      cases s with
      | key k => rw [child?_mapItems_key]
      | index i =>
        have hrest : ¬ D rest := fun hd => hp ⟨i, rest, rfl, hd⟩
        rw [child?_mapItems_index]
        cases j.child? (.index i) with
        | none => rfl
        | some x => exact h.kept hrest

private theorem Drops.foldl {α : Type} {f : α → Json → Json} {D : α → List Step → Prop}
    {xs : List α} (h : ∀ a ∈ xs, Drops (f a) (D a)) :
    Drops (fun j => xs.foldl (fun j a => f a j) j) fun position => ∃ a ∈ xs, D a position := by
  induction xs with
  | nil => exact drops_id.congr fun position => by simp
  | cons a xs ih =>
    have hrest := ih fun b hb => h b (List.mem_cons_of_mem a hb)
    refine ((h a List.mem_cons_self).comp hrest).congr fun position => ?_
    rw [List.exists_mem_cons_iff]

end Json

namespace IgnoreRule

open Json

private theorem drops_dropPath {names : List String} (h : names ≠ []) :
    Drops (dropPath names) fun position => names.map .key <+: position := by
  induction names with
  | nil => exact absurd rfl h
  | cons name rest ih =>
    cases rest with
    | nil => exact drops_dropMember name
    | cons name' rest =>
      exact ((ih (List.cons_ne_nil _ _)).mapMember name).congr fun _ => List.cons_prefix_iff.symm

def claimAt (i : Nat) : List Step := [.key "spec", .key "volumeClaimTemplates", .index i]

/-- A rule designates a position: a dotted path the one that its names lead to, if there are any,
and a rule for claim templates the same ones in every claim template. -/
inductive Designates : IgnoreRule → List Step → Prop where
  | status : Designates .status [.key "status"]
  | field {path : String} {names : List String}
      (hnames : names = ((path.toList.splitOn '.').filter (· ≠ [])).map String.ofList)
      (hne : names ≠ []) : Designates (.field path) (names.map .key)
  | claimKind (i : Nat) : Designates .claimTypeMetaAndStatus (claimAt i ++ [.key "kind"])
  | claimApiVersion (i : Nat) :
      Designates .claimTypeMetaAndStatus (claimAt i ++ [.key "apiVersion"])
  | claimStatus (i : Nat) : Designates .claimTypeMetaAndStatus (claimAt i ++ [.key "status"])
  | claimCreationTimestamp (i : Nat) :
      Designates .claimVolatile (claimAt i ++ [.key "metadata", .key "creationTimestamp"])
  | claimVolumeMode (i : Nat) :
      Designates .claimVolatile (claimAt i ++ [.key "spec", .key "volumeMode"])

/-- A rule of the list designates the position, or one above it. -/
def Designated (rules : List IgnoreRule) (position : List Step) : Prop :=
  ∃ rule ∈ rules, ∃ designated, rule.Designates designated ∧ designated <+: position

private theorem drops_onClaimTemplates {f : Json → Json} {D : List Step → Prop} (h : Drops f D) :
    Drops (onClaimTemplates f) fun position => ∃ i rest, position = claimAt i ++ rest ∧ D rest := by
  refine ((h.mapItems.mapMember "volumeClaimTemplates").mapMember "spec").congr fun position => ?_
  constructor
  · rintro ⟨_, rfl, _, rfl, i, rest, rfl, hrest⟩
    exact ⟨i, rest, rfl, hrest⟩
  · rintro ⟨i, rest, rfl, hrest⟩
    exact ⟨_, rfl, _, rfl, i, rest, rfl, hrest⟩

private theorem claimPaths_ne_nil {rule : IgnoreRule} {names : List String}
    (h : names ∈ rule.claimPaths) : names ≠ [] := by
  cases rule with
  | status | field => cases h
  | claimTypeMetaAndStatus | claimVolatile => revert h; revert names; decide

private theorem drops_dropFromClaim (rule : IgnoreRule) :
    Drops rule.dropFromClaim fun position =>
      ∃ names ∈ rule.claimPaths, names.map .key <+: position :=
  Drops.foldl fun _ hn => drops_dropPath (claimPaths_ne_nil hn)

private theorem splitAtDots_ne_nil (cs : List Char) : splitAtDots cs ≠ [] := by
  cases cs with
  | nil => exact List.cons_ne_nil _ _
  | cons c cs =>
    rw [splitAtDots]
    split
    · exact List.cons_ne_nil _ _
    · split <;> exact List.cons_ne_nil _ _

private theorem splitAtDots_eq_splitOn (cs : List Char) : splitAtDots cs = cs.splitOn '.' := by
  induction cs with
  | nil => rfl
  | cons c cs ih =>
    rw [splitAtDots, List.splitOn, List.splitOnP_cons_eq_if_modifyHead]
    by_cases hc : c = '.'
    · rw [if_pos hc, if_pos (beq_iff_eq.2 hc), ih]
      rfl
    · rw [if_neg hc, if_neg fun h => hc (beq_iff_eq.1 h)]
      obtain ⟨part, parts, hparts⟩ := List.exists_cons_of_ne_nil (splitAtDots_ne_nil cs)
      have hrest : cs.splitOnP (· == '.') = part :: parts := ih.symm.trans hparts
      rw [hparts, hrest]
      rfl

private theorem designates_claim_iff {rule : IgnoreRule}
    (h : rule = .claimTypeMetaAndStatus ∨ rule = .claimVolatile) {position : List Step} :
    rule.Designates position ↔
      ∃ i, ∃ names ∈ rule.claimPaths, position = claimAt i ++ names.map .key := by
  obtain rfl | rfl := h
  · constructor
    · rintro (_ | _ | i | i | i)
      · exact ⟨i, ["kind"], by decide, rfl⟩
      · exact ⟨i, ["apiVersion"], by decide, rfl⟩
      · exact ⟨i, ["status"], by decide, rfl⟩
    · rintro ⟨i, names, hnames, rfl⟩
      simp only [claimPaths, List.mem_cons, List.not_mem_nil, or_false] at hnames
      obtain rfl | rfl | rfl := hnames
      · exact .claimKind i
      · exact .claimApiVersion i
      · exact .claimStatus i
  · constructor
    · rintro (_ | _ | _ | _ | _ | i | i)
      · exact ⟨i, ["metadata", "creationTimestamp"], by decide, rfl⟩
      · exact ⟨i, ["spec", "volumeMode"], by decide, rfl⟩
    · rintro ⟨i, names, hnames, rfl⟩
      simp only [claimPaths, List.mem_cons, List.not_mem_nil, or_false] at hnames
      obtain rfl | rfl := hnames
      · exact .claimCreationTimestamp i
      · exact .claimVolumeMode i

private theorem drops_onClaims {rule : IgnoreRule}
    (h : rule = .claimTypeMetaAndStatus ∨ rule = .claimVolatile) :
    Drops (onClaimTemplates rule.dropFromClaim) fun position =>
      ∃ designated, rule.Designates designated ∧ designated <+: position := by
  refine (drops_onClaimTemplates rule.drops_dropFromClaim).congr fun position => ?_
  constructor
  · rintro ⟨i, _, rfl, names, hnames, more, rfl⟩
    exact ⟨_, (designates_claim_iff h).2 ⟨i, names, hnames, rfl⟩, more, List.append_assoc _ _ _⟩
  · rintro ⟨_, hdesignates, more, rfl⟩
    obtain ⟨i, names, hnames, rfl⟩ := (designates_claim_iff h).1 hdesignates
    exact ⟨i, _, List.append_assoc _ _ _, names, hnames, more, rfl⟩

private theorem drops_field (path : String) :
    Drops (apply (.field path)) fun position =>
      ∃ designated, (field path).Designates designated ∧ designated <+: position := by
  have hsegments : segments path =
      ((path.toList.splitOn '.').filter (· ≠ [])).map String.ofList := by
    rw [segments, splitAtDots_eq_splitOn]
  by_cases hne : segments path = []
  · have happly : apply (.field path) = fun j => j := funext fun j => by rw [apply, hne, dropPath]
    rw [happly]
    refine drops_id.congr fun position => iff_of_false not_false ?_
    rintro ⟨designated, hdesignates, -⟩
    cases hdesignates with
    | field hnames hnonempty => exact hnonempty (hnames.trans (hsegments.symm.trans hne))
  · refine (drops_dropPath hne).congr fun position => ⟨fun h => ⟨_, .field hsegments hne, h⟩, ?_⟩
    rintro ⟨designated, hdesignates, hprefix⟩
    cases hdesignates with
    | field hnames _ => rwa [hsegments, ← hnames]

private theorem drops_apply (rule : IgnoreRule) :
    Drops rule.apply fun position =>
      ∃ designated, rule.Designates designated ∧ designated <+: position := by
  cases rule with
  | status =>
    refine (drops_dropMember "status").congr fun position => ⟨fun h => ⟨_, .status, h⟩, ?_⟩
    rintro ⟨_, ⟨⟩, hprefix⟩
    exact hprefix
  | field path => exact drops_field path
  | claimTypeMetaAndStatus => exact drops_onClaims (.inl rfl)
  | claimVolatile => exact drops_onClaims (.inr rfl)

private theorem drops_applyAll (rules : List IgnoreRule) :
    Drops (applyAll rules) (Designated rules) :=
  Drops.foldl fun rule _ => drops_apply rule

/-- Rules leave the same of a value where they designate the same. -/
private theorem applyAll_congr {rules rules' : List IgnoreRule} {v : Json} (hv : v.ordered = true)
    (h : ∀ position, Designated rules' position ↔ Designated rules position) :
    applyAll rules' v = applyAll rules v := by
  have hdrops := (drops_applyAll rules').congr h
  refine eq_of_sameNodes (ordered_applyAll rules' hv) (ordered_applyAll rules hv) fun position => ?_
  by_cases hp : Designated rules position
  · rw [hdrops.dropped hp, (drops_applyAll rules).dropped hp]
  · rw [hdrops.kept hp, (drops_applyAll rules).kept hp]

private theorem applyAll_applyAll (rules : List IgnoreRule) (v : Json) :
    applyAll rules (applyAll rules v) = applyAll (rules ++ rules) v :=
  List.foldl_append.symm

/-- A node survives a list of rules, where it is and as it is, exactly if no rule of the list
designates its position or one above it. So neither the order nor the repetition of the rules
matters, and applying them again changes nothing. Keys are unique, as in any value that was read. -/
theorem applyAll_survives (rules : List IgnoreRule) (v : Json) :
    (∀ position, ((applyAll rules v).find? position).isSome = true ↔
      (v.find? position).isSome = true ∧ ¬ Designated rules position) ∧
    (∀ position survivor, (applyAll rules v).find? position = some survivor →
      ∃ j, v.find? position = some j ∧ survivor.root = j.root) ∧
    (v.ordered = true →
      (∀ rules' : List IgnoreRule, (∀ rule, rule ∈ rules' ↔ rule ∈ rules) →
        applyAll rules' v = applyAll rules v) ∧
      applyAll rules (applyAll rules v) = applyAll rules v) := by
  have hdrops := drops_applyAll rules
  refine ⟨fun position => ?_, fun position survivor hs => ?_, fun hv => ⟨fun rules' h => ?_, ?_⟩⟩
  · by_cases hp : Designated rules position
    · rw [hdrops.dropped hp]
      exact iff_of_false Bool.false_ne_true fun h => h.2 hp
    · rw [← Option.isSome_map, hdrops.kept hp, Option.isSome_map]
      exact (and_iff_left hp).symm
  · have hp : ¬ Designated rules position := by
      intro hp
      rw [hdrops.dropped hp] at hs
      cases hs
    have hroot := hdrops.kept (j := v) hp
    rw [hs, Option.map_some, eq_comm, Option.map_eq_some_iff] at hroot
    obtain ⟨j, hj, he⟩ := hroot
    exact ⟨j, hj, he.symm⟩
  · exact applyAll_congr hv fun position => exists_congr fun rule => and_congr_left fun _ => h rule
  · rw [applyAll_applyAll]
    refine applyAll_congr hv fun position => exists_congr fun rule => and_congr_left fun _ => ?_
    rw [List.mem_append, or_self]

private def claimingJson : Json :=
  .obj [("spec", .obj [("replicas", .int 1), ("volumeClaimTemplates",
    .arr [.obj [("kind", .str "PersistentVolumeClaim"), ("spec", .obj
      [("storageClassName", .str "fast"), ("volumeMode", .str "Filesystem")])], .null])])]

/-- Rules of which one drops what is above the positions of another, in two orders. -/
theorem overlapping_rules_in_any_order :
    claimingJson.ordered = true ∧
    (∀ rule, rule ∈ [claimVolatile, field "spec.volumeClaimTemplates", claimVolatile] ↔
      rule ∈ [field "spec.volumeClaimTemplates", claimVolatile]) ∧
    applyAll [claimVolatile, field "spec.volumeClaimTemplates", claimVolatile] claimingJson =
      applyAll [field "spec.volumeClaimTemplates", claimVolatile] claimingJson := by
  have hrules : ∀ rule, rule ∈ [claimVolatile, field "spec.volumeClaimTemplates", claimVolatile] ↔
      rule ∈ [field "spec.volumeClaimTemplates", claimVolatile] := by
    intro rule
    simp only [List.mem_cons, List.not_mem_nil, or_false]
    tauto
  have hordered : claimingJson.ordered = true := by decide
  exact ⟨hordered, hrules, ((applyAll_survives _ claimingJson).2.2 hordered).1 _ hrules⟩

end IgnoreRule

end DesiredState
