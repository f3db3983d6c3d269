import DesiredState.Proofs.Patch.Diff
/-!
When a comparison finds nothing to change, position by position. Main statement: `diff_eq_none_iff`,
a three-way difference is empty exactly where the stored value agrees with the desired one at every
position that the desired one has, and nothing that was dropped is still stored.
-/

set_option autoImplicit false
set_option relaxedAutoImplicit false

namespace DesiredState.Json

inductive Step where
  | key (k : String)
  | index (i : Nat)
deriving DecidableEq

def child? : Step → Json → Option Json
  | .key k, j => j.member? k
  | .index i, j => j.itemsOrNone[i]?

def find? : List Step → Json → Option Json
  | [], j => some j
  | s :: position, j => (j.child? s).bind (find? position)

private theorem child?_of_isAtom {j : Json} (h : j.isAtom = true) (s : Step) :
    j.child? s = none := by
  cases s <;> cases j <;> first | rfl | cases h

theorem find?_cons (s : Step) (position : List Step) (j : Json) :
    j.find? (s :: position) = (j.child? s).bind (find? position) := rfl

def Missing (j : Option Json) : Prop := j.getD .null = .null

/-- What the stored value holds at a position leaves nothing to change there, for what the value
applied last and the desired one hold at that position. -/
def AgreesAt (applied : Option Json) : (modified : Json) → (current : Option Json) → Prop
  | .null, c => Missing c
  | .arr [], c => Missing c ∨ c = some (.arr [])
  | .arr (m :: ms), c => ∃ cs, c = some (.arr cs) ∧ cs.length = (m :: ms).length
  | .obj ms, c =>
    (Missing c ∨ ∃ cs, c = some (.obj cs)) ∧
      ∀ cs as, c = some (.obj cs) → applied = some (.obj as) →
        ∀ k ∈ Members.keys as, Members.get? k ms = none → Missing (Members.get? k cs)
  | m, c => ∃ j, c = some j ∧ m.same j = true

/-- The stored value agrees with the desired one at every position of the desired one. -/
def Agrees (applied : Option Json) (modified : Json) (current : Option Json) : Prop :=
  ∀ position m, modified.find? position = some m →
    AgreesAt (applied.bind (find? position)) m (current.bind (find? position))

private theorem agrees_iff {applied current : Option Json} {m : Json} :
    Agrees applied m current ↔ AgreesAt applied m current ∧
      ∀ s m', m.child? s = some m' →
        Agrees (applied.bind (child? s)) m' (current.bind (child? s)) := by
  constructor
  · intro h
    refine ⟨?_, fun s m' hs position j hj => ?_⟩
    · have hroot := h [] m rfl
      simpa only [find?, Option.bind_some, Option.bind_fun_some] using hroot
    · have hbelow := h (s :: position) j (by rw [find?_cons, hs, Option.bind_some, hj])
      rwa [Option.bind_assoc, Option.bind_assoc]
  · rintro ⟨hroot, hbelow⟩ position j hj
    cases position with
    | nil =>
      cases hj
      simpa only [find?, Option.bind_fun_some] using hroot
    | cons s position =>
      rw [find?_cons, Option.bind_eq_some_iff] at hj
      obtain ⟨m', hs, hj⟩ := hj
      have h := hbelow s m' hs position j hj
      rwa [Option.bind_assoc, Option.bind_assoc] at h

private theorem null_same_iff {j : Json} : Json.null.same j = true ↔ j = .null := by
  cases j <;> simp [same]

private theorem agreesAt_atom_iff {m : Json} (h : m.isAtom = true) {applied current : Option Json} :
    AgreesAt applied m current ↔ m.same (current.getD .null) = true := by
  cases m with
  | arr | obj => cases h
  | null => exact null_same_iff.symm
  | bool | int | float | str =>
    cases current with
    | none =>
      refine iff_of_false ?_ fun hsame => Bool.noConfusion hsame
      rintro ⟨j, hj, -⟩
      cases hj
    | some c =>
      constructor
      · rintro ⟨j, hj, hsame⟩
        cases hj
        exact hsame
      · exact fun hsame => ⟨c, rfl, hsame⟩

private theorem agreesAt_arr_iff {ms : List Json} {applied current : Option Json} :
    AgreesAt applied (.arr ms) current ↔
      (Missing current ∧ ms = []) ∨ ∃ cs, current = some (.arr cs) ∧ cs.length = ms.length := by
  cases ms <;> simp [AgreesAt]

private theorem agreesAt_obj_obj_iff {ms cs : Members Json} {applied : Option Json} :
    AgreesAt applied (.obj ms) (some (.obj cs)) ↔
      ∀ k ∈ (applied.getD .null).membersOrNone.keys, ms.get? k = none →
        Missing (cs.get? k) := by
  cases applied with
  | none => simp [AgreesAt, membersOrNone, members?, Members.keys]
  | some a => cases a <;> simp [AgreesAt, membersOrNone, members?, Members.keys]

private theorem sameItemsAfter_iff {as ms cs : List Json} :
    sameItemsAfter as ms cs = true ↔ cs.length = ms.length ∧
      ∀ (i : Nat) m, ms[i]? = some m →
        diff (as[i]?.getD .null) m (cs[i]?.getD .null) = none := by
  induction ms generalizing as cs with
  | nil => cases cs <;> simp [sameItemsAfter]
  | cons m ms ih =>
    cases cs with
    | nil => simp [sameItemsAfter]
    | cons c cs =>
      have hhead : as.headD .null = as[0]?.getD .null := by cases as <;> rfl
      have htail : ∀ i : Nat, as.tail[i]? = as[i + 1]? := fun i => by cases as <;> simp
      rw [sameItemsAfter, Bool.and_eq_true, Option.isNone_iff_eq_none, ih, hhead]
      simp only [htail, List.length_cons, Nat.add_right_cancel_iff]
      constructor
      · rintro ⟨hfirst, hlength, hrest⟩
        refine ⟨hlength, fun i j hj => ?_⟩
        cases i with
        | zero =>
          cases hj
          exact hfirst
        | succ i => exact hrest i j hj
      · rintro ⟨hlength, hall⟩
        exact ⟨hall 0 m rfl, hlength, fun i j hj => hall (i + 1) j hj⟩

private theorem getD_bind_index (j : Option Json) (i : Nat) :
    (j.bind (child? (.index i))).getD .null = ((j.getD .null).itemsOrNone[i]?).getD .null := by
  cases j <;> rfl

private theorem diff_arr_eq_none_iff (applied current : Option Json) (ms : List Json) :
    diff (applied.getD .null) (.arr ms) (current.getD .null) = none ↔
      AgreesAt applied (.arr ms) current ∧ ∀ (i : Nat) m, ms[i]? = some m →
        diff ((applied.bind (child? (.index i))).getD .null) m
          ((current.bind (child? (.index i))).getD .null) = none := by
  simp only [getD_bind_index]
  -- where nothing is stored only an empty array needs no patch, and it has no items to look at
  by_cases hmissing : Missing current
  · have hc : current.getD .null = .null := hmissing
    have hno : ∀ cs, current ≠ some (.arr cs) := by
      rintro cs rfl
      cases hc
    rw [hc, diff_null_right, agreesAt_arr_iff]
    cases ms <;> simp [isBlank, hmissing, hno]
  · obtain ⟨c, rfl⟩ : ∃ c, current = some c := by
      cases current with
      | none => exact absurd rfl hmissing
      | some c => exact ⟨c, rfl⟩
    rw [Option.getD_some]
    cases hc : c.items? with
    | none =>
      rw [diff_arr_of_items? _ _ hc hmissing]
      refine iff_of_false (Option.some_ne_none _) fun h => ?_
      obtain ⟨hnull, -⟩ | ⟨cs, hcs, -⟩ := agreesAt_arr_iff.1 h.1
      · exact hmissing hnull
      · cases hcs
        cases hc
    | some cs =>
      obtain rfl := eq_arr_of_items? hc
      rw [diff_arr_arr, ite_eq_left_iff, agreesAt_arr_iff]
      simp [hmissing, sameItemsAfter_iff, itemsOrNone, items?]

private theorem diff_obj_null_eq_none_iff (applied : Json) {ms : Members Json}
    (hi : Members.Increasing ms) :
    diff applied (.obj ms) .null = none ↔
      ∀ k m, ms.get? k = some m → diff (applied.memberOrNull k) m .null = none := by
  simp only [diff_null_right, ite_eq_left_iff, reduceCtorEq, imp_false, not_not]
  rw [isBlank_obj_iff]
  constructor
  · intro h k m hm
    exact h _ (Members.mem_of_get? hm)
  · rintro h ⟨k, m⟩ hm
    exact h k m (hi.get?_of_mem hm)

private theorem diff_obj_eq_none_iff_members (applied current : Option Json) {ms : Members Json}
    (hi : Members.Increasing ms) :
    diff (applied.getD .null) (.obj ms) (current.getD .null) = none ↔
      AgreesAt applied (.obj ms) current ∧ ∀ k m, ms.get? k = some m →
        diff ((applied.bind (member? k)).getD .null) m
          ((current.bind (member? k)).getD .null) = none := by
  simp only [getD_bind_member]
  by_cases hmissing : Missing current
  · have hc : current.getD .null = .null := hmissing
    have hagrees : AgreesAt applied (.obj ms) current := by
      refine ⟨.inl hmissing, ?_⟩
      rintro cs as rfl
      cases hc
    rw [hc, diff_obj_null_eq_none_iff _ hi]
    exact (and_iff_right hagrees).symm
  · obtain ⟨c, rfl⟩ : ∃ c, current = some c := by
      cases current with
      | none => exact absurd rfl hmissing
      | some c => exact ⟨c, rfl⟩
    rw [Option.getD_some]
    cases hc : c.members? with
    | none =>
      rw [diff_obj_of_members? _ _ hc hmissing]
      refine iff_of_false (Option.some_ne_none _) fun h => ?_
      obtain hnull | ⟨cs, hcs⟩ := h.1.1
      · exact hmissing hnull
      · cases hcs
        cases hc
    | some cs =>
      obtain rfl := eq_obj_of_members? hc
      rw [diff_obj_eq_none_iff hi, agreesAt_obj_obj_iff]
      exact and_comm

/-- The same for all values at once: nothing has to change exactly where the stored value agrees
with the desired one. -/
private theorem diff_eq_none_iff_agrees {m : Json} (hm : m.ordered = true)
    (applied current : Option Json) :
    diff (applied.getD .null) m (current.getD .null) = none ↔ Agrees applied m current := by
  -- the value applied last and the stored one are followed into the desired one, so both vary
  induction m using inductionOn generalizing applied current with
  | atom m ha =>
    have hend : ∀ s m', m.child? s = some m' →
        Agrees (applied.bind (child? s)) m' (current.bind (child? s)) := by
      intro s m' hs
      rw [child?_of_isAtom ha] at hs
      cases hs
    rw [agrees_iff, agreesAt_atom_iff ha, diff_of_isAtom _ ha, and_iff_left hend]
    simp
  | arr ms ih =>
    rw [agrees_iff, diff_arr_eq_none_iff]
    refine and_congr_right fun _ => ⟨fun h s m hs => ?_, fun h i m hm' => ?_⟩
    · cases s with
      | key k => cases hs
      | index i =>
        have hmem : m ∈ ms := List.mem_of_getElem? hs
        exact (ih m hmem (ordered_of_mem_arr hm hmem) _ _).1 (h i m hs)
    · have hmem : m ∈ ms := List.mem_of_getElem? hm'
      exact (ih m hmem (ordered_of_mem_arr hm hmem) _ _).2 (h (.index i) m hm')
  | obj ms ih =>
    rw [agrees_iff, diff_obj_eq_none_iff_members _ _ (increasing_of_ordered hm)]
    refine and_congr_right fun _ => ⟨fun h s m hs => ?_, fun h k m hk => ?_⟩
    · cases s with
      | key k =>
        exact (ih _ (Members.mem_of_get? hs) (ordered_of_get? hm hs) _ _).1 (h k m hs)
      | index i => cases hs
    · exact (ih _ (Members.mem_of_get? hk) (ordered_of_get? hm hk) _ _).2 (h (.key k) m hk)

/-- A comparison finds nothing to change exactly where, at every position of the desired value, the
stored value holds what `AgreesAt` asks for. Keys of the desired value are unique, as in any value
that was read. -/
theorem diff_eq_none_iff {modified : Json} (h : modified.ordered = true)
    (applied : Option Json) (current : Json) :
    diff (applied.getD .null) modified current = none ↔
      ∀ position m, modified.find? position = some m →
        AgreesAt (applied.bind (find? position)) m (current.find? position) :=
  diff_eq_none_iff_agrees h applied (some current)

private def appliedPod : Json := .obj [("grace", .int 30), ("image", .str "postgres")]

private def desiredPod : Json :=
  .obj [("image", .str "postgres"), ("ports", .arr [.obj [("port", .int 5432)]]),
    ("volumes", .arr [])]

private def servedPod (more : Members Json) : Json :=
  .obj (more ++ [("image", .str "postgres"),
    ("ports", .arr [.obj [("port", .int 5432), ("protocol", .str "TCP")]])])

/-- What a server fills in is left alone at every position, but a member that was applied and is not
desired may not be stored any more. -/
theorem agreement_of_filled_in_not_of_dropped :
    (∀ position m, desiredPod.find? position = some m →
      AgreesAt ((some appliedPod).bind (find? position)) m
        ((servedPod [("dns", .str "ClusterFirst")]).find? position)) ∧
    ¬ ∀ position m, desiredPod.find? position = some m →
      AgreesAt ((some appliedPod).bind (find? position)) m
        ((servedPod [("grace", .int 30)]).find? position) := by
  refine ⟨(diff_eq_none_iff (by decide) (some appliedPod) _).1 (by decide +kernel), fun h => ?_⟩
  have hnone := (diff_eq_none_iff (by decide) (some appliedPod) _).2 h
  revert hnone
  decide +kernel

end DesiredState.Json
