import DesiredState.Patch.Engine
import DesiredState.Proofs.Json.Floatless
import DesiredState.Proofs.Patch.Ignore
import DesiredState.Proofs.Patch.Merge
import DesiredState.Proofs.Schema.Json
/-!
Applying the patch that a comparison gives. Main statement: `calculate_converges`, once the patch
was merged into the stored value the same comparison finds nothing to change; a patch that says so
reads as an empty object, and of StatefulSets no other does.
-/

set_option autoImplicit false
set_option relaxedAutoImplicit false

namespace DesiredState

private theorem IgnoreRule.members?_apply (rule : IgnoreRule) (j : Json) :
    (rule.apply j).members?.isSome = j.members?.isSome := by
  have hpath : ∀ p : List String, (dropPath p j).members?.isSome = j.members?.isSome := by
    intro p
    cases p with
    | nil => rfl
    | cons a p => cases p <;> cases j <;> rfl
  cases rule with
  | status => exact hpath _
  | field path => exact hpath _
  | claimTypeMetaAndStatus | claimVolatile => cases j <;> rfl

private theorem IgnoreRule.members?_applyAll (rules : List IgnoreRule) (j : Json) :
    (applyAll rules j).members?.isSome = j.members?.isSome := by
  unfold applyAll
  induction rules generalizing j with
  | nil => rfl
  | cons rule rules ih => rw [List.foldl_cons, ih, rule.members?_apply]

theorem Json.exists_obj_of_members? {j : Json} (h : j.members?.isSome = true) :
    ∃ ms, j = .obj ms := by
  cases j <;> simp_all [members?]

private theorem Json.compact_obj_eq_empty_iff {ms : Members Json} :
    (Json.obj ms).compact = "\x7b\x7d" ↔ ms = [] := by
  constructor
  · intro h
    have hc : (Json.obj ms).chars = ['\x7b', '\x7d'] := by
      rw [← String.toList_ofList (l := (Json.obj ms).chars)]
      exact congrArg String.toList h
    match ms with
    | [] => rfl
    | [(k, j)] => simp [chars, memberChars, quote] at hc
    | (k, j) :: m :: ms => simp [chars, memberChars, quote] at hc
  · rintro rfl
    decide

namespace Patch

variable {key : String} {rules : List IgnoreRule}

def appliedBefore (rules : List IgnoreRule) (applied : Option Json) : Json :=
  applied.elim .null (IgnoreRule.applyAll rules)

/-- A comparison that succeeds is the difference of the three prepared values. -/
theorem calculate_eq_ok_iff {current modified : Subject} {p : Patch} :
    calculate key rules current modified = .ok p ↔
      ∃ applied c m, Snapshot.read key current = .ok applied ∧ current.json = .ok c ∧
        modified.json = .ok m ∧
        p = ⟨Json.diff (appliedBefore rules applied) (IgnoreRule.applyAll rules m)
          (IgnoreRule.applyAll rules c)⟩ := by
  unfold calculate
  cases ha : Snapshot.read key current with
  | error e => simp [bind, Except.bind]
  | ok applied =>
    cases hc : current.json with
    | error e => simp [bind, Except.bind, Except.mapError]
    | ok c =>
      cases hm : modified.json with
      | error e => simp [bind, Except.bind, Except.mapError]
      | ok m =>
        simp [bind, Except.bind, Except.mapError, pure, Except.pure, appliedBefore,
          eq_comm (a := p)]

private theorem text_of_isEmpty {p : Patch} (h : p.isEmpty = true) : p.text = "\x7b\x7d" := by
  obtain ⟨change⟩ := p
  cases change with
  | none => exact Json.compact_obj_eq_empty_iff.2 rfl
  | some j => simp [isEmpty] at h

private theorem isEmpty_iff_text_of_obj {o : Json} {ms cs : Members Json} :
    (Patch.mk (Json.diff o (.obj ms) (.obj cs))).isEmpty = true ↔
      (Patch.mk (Json.diff o (.obj ms) (.obj cs))).text = "\x7b\x7d" := by
  refine ⟨text_of_isEmpty, fun h => ?_⟩
  rw [Json.diff_obj_obj] at h ⊢
  split
  · rfl
  · rename_i hne
    rw [if_neg hne, text, Option.getD_some, Json.compact_obj_eq_empty_iff] at h
    rw [h] at hne
    exact absurd rfl hne

/-- Merging the patch of a comparison into the stored value leaves nothing to change, by the same
snapshot and the same rules; without floats, and as deep as the parser goes, what is merged is what
the text of the patch is read as. A comparison that finds nothing gives the empty object for a
patch, and of StatefulSets no other does. Keys are unique, as in any value that was read: the
members of the desired value are in order. -/
theorem calculate_converges (key : String) (rules : List IgnoreRule) :
    (∀ (current modified : Subject) (applied : Option Json) (c m : Json) (p : Patch),
      Snapshot.read key current = .ok applied → current.json = .ok c → modified.json = .ok m →
      m.ordered = true → calculate key rules current modified = .ok p →
      (p.isEmpty = false → ∃ change, p.change? = some change ∧ p.text = change.compact ∧
        Json.diff (appliedBefore rules applied) (IgnoreRule.applyAll rules m)
          ((IgnoreRule.applyAll rules c).merge change) = none ∧
        (change.floatless = true → change.depth ≤ Json.Text.maxDepth →
          Json.parse p.text = .ok change)) ∧
      (p.isEmpty = true → p.text = "\x7b\x7d")) ∧
    ∀ (stored desired : StatefulSet) (p : Patch),
      calculate key rules stored.subject desired.subject = .ok p →
        (p.isEmpty = true ↔ p.text = "\x7b\x7d") := by
  constructor
  · intro current modified applied c m p ha hc hm ho hp
    obtain ⟨applied', c', m', ha', hc', hm', rfl⟩ := calculate_eq_ok_iff.1 hp
    cases ha.symm.trans ha'
    cases hc.symm.trans hc'
    cases hm.symm.trans hm'
    refine ⟨fun hne => ?_, text_of_isEmpty⟩
    have hordered := IgnoreRule.ordered_applyAll rules ho
    have hmerge := Json.diff_merge hordered (appliedBefore rules applied)
      (IgnoreRule.applyAll rules c)
    cases hd : Json.diff (appliedBefore rules applied) (IgnoreRule.applyAll rules m)
        (IgnoreRule.applyAll rules c) with
    | none => simp [isEmpty, hd] at hne
    | some change =>
      rw [hd, Option.elim_some] at hmerge
      exact ⟨change, rfl, rfl, hmerge,
        Json.parse_compact_of_floatless (Json.ordered_of_diff_eq_some hordered hd)⟩
  · intro stored desired p hp
    obtain ⟨applied, c, m, -, hc, hm, rfl⟩ := calculate_eq_ok_iff.1 hp
    have hobj : ∀ {o : StatefulSet} {j : Json}, o.subject.json = .ok j →
        ∃ ms, IgnoreRule.applyAll rules j = .obj ms := by
      intro o j hj
      cases hj
      refine Json.exists_obj_of_members? ?_
      rw [IgnoreRule.members?_applyAll, o.toJson_eq_obj]
      rfl
    obtain ⟨cs, hcs⟩ := hobj hc
    obtain ⟨ms, hms⟩ := hobj hm
    rw [hcs, hms]
    exact isEmpty_iff_text_of_obj

private def storedPair : Subject :=
  ⟨some (.ofEntries [("applied", .ofText "\x7b\"b\":1\x7d")] (by decide)),
    .ok (.obj [("a", .int 1), ("b", .int 1)])⟩

private def desiredTree : Subject :=
  ⟨none, .ok (.obj [("a", .obj [("x", .null), ("y", .int 2)])])⟩

/-- A number gives way to an object with a null member, and a member that was dropped is removed:
merged, the patch leaves `\x7b"a":\x7b"y":2\x7d\x7d`. -/
theorem calculate_converges_with_null_and_drop :
    ∃ change, calculate "applied" [] storedPair desiredTree = .ok ⟨some change⟩ ∧
      Json.diff (.obj [("b", .int 1)]) (.obj [("a", .obj [("x", .null), ("y", .int 2)])])
        ((Json.obj [("a", .int 1), ("b", .int 1)]).merge change) = none ∧
      Json.parse (Patch.mk (some change)).text = .ok change := by
  have hread : Snapshot.read "applied" storedPair = .ok (some (.obj [("b", .int 1)])) := by
    decide +kernel
  have hp : calculate "applied" [] storedPair desiredTree =
      .ok ⟨some (.obj [("a", .obj [("x", .null), ("y", .int 2)]), ("b", .null)])⟩ := by
    decide +kernel
  obtain ⟨change, hchange, -, hnone, hparse⟩ := ((calculate_converges "applied" []).1 _ _ _ _ _ _
    hread rfl rfl (by decide) hp).1 rfl
  cases hchange
  exact ⟨_, hp, hnone, hparse (by decide) (by decide)⟩

end Patch

end DesiredState
