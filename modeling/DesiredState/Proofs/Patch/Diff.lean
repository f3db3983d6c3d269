import DesiredState.Proofs.Json.Basic
/-!
What a three-way difference holds, node by node. Main statements: `get?_patchMembers`, the entry of
a patch under each key; `diff_obj_eq_none_iff`, when two objects differ in nothing; and
`diff_self`, that a value never differs from itself, whatever was applied last.
-/

set_option autoImplicit false
set_option relaxedAutoImplicit false

namespace DesiredState.Json

/-- The members of the patch between two objects: the changes, and null for what was dropped. -/
def patchMembers (applied : Json) (ms cs : Members Json) : Members Json :=
  (droppedKeys applied.membersOrNone ms cs).foldl (fun p k => Members.insert k .null p)
    (diffMembers applied ms cs)

theorem diff_obj_obj (applied : Json) (ms cs : Members Json) :
    diff applied (.obj ms) (.obj cs) =
      if (patchMembers applied ms cs).isEmpty then none
      else some (.obj (patchMembers applied ms cs)) := by
  simp [diff, patchMembers]

theorem diff_arr_arr (applied : Json) (ms cs : List Json) :
    diff applied (.arr ms) (.arr cs) =
      if sameItemsAfter applied.itemsOrNone ms cs then none else some (.arr ms) := by
  simp [diff]

theorem diff_null_right (applied m : Json) :
    diff applied m .null = if m.isBlank then none else some m := by
  cases m <;> simp [diff, isBlank, isNull]

theorem diff_of_isAtom (applied : Json) {m : Json} (hm : m.isAtom = true) (c : Json) :
    diff applied m c = if m.same c then none else some m := by
  cases m <;> cases c <;> simp_all [diff, isAtom, isBlank, isNull, same]

theorem diff_obj_of_members? (applied : Json) (ms : Members Json) {c : Json}
    (hc : c.members? = none) (hn : c ≠ .null) : diff applied (.obj ms) c = some (.obj ms) := by
  cases c <;> simp_all [diff, members?, isNull, same]

theorem diff_arr_of_items? (applied : Json) (ms : List Json) {c : Json}
    (hc : c.items? = none) (hn : c ≠ .null) : diff applied (.arr ms) c = some (.arr ms) := by
  cases c <;> simp_all [diff, items?, isNull, same]

theorem isBlank_of_diff_null {applied m : Json} (h : diff applied m .null = none) :
    m.isBlank = true := by
  rw [diff_null_right] at h
  by_contra hblank
  rw [if_neg hblank] at h
  cases h

theorem eq_null_or_obj_of_diff {applied c : Json} {ms : Members Json}
    (h : diff applied (.obj ms) c = none) : c = .null ∨ ∃ cs, c = .obj cs := by
  by_cases hn : c = .null
  · exact .inl hn
  · cases hc : c.members? with
    | none =>
      rw [diff_obj_of_members? applied ms hc hn] at h
      cases h
    | some cs => exact .inr ⟨cs, eq_obj_of_members? hc⟩

theorem eq_null_or_arr_of_diff {applied c : Json} {ms : List Json}
    (h : diff applied (.arr ms) c = none) : c = .null ∨ ∃ cs, c = .arr cs := by
  by_cases hn : c = .null
  · exact .inl hn
  · cases hc : c.items? with
    | none =>
      rw [diff_arr_of_items? applied ms hc hn] at h
      cases h
    | some cs => exact .inr ⟨cs, eq_arr_of_items? hc⟩

theorem eq_of_diff_eq_some {applied m c p : Json} (hm : m.members? = none)
    (h : diff applied m c = some p) : p = m := by
  cases m with
  | obj ms => cases hm
  | arr ms =>
    by_cases hn : c = .null
    · subst hn
      rw [diff_null_right] at h
      split at h <;> simp_all
    · cases hc : c.items? with
      | none => rw [diff_arr_of_items? applied ms hc hn] at h; exact (Option.some.inj h).symm
      | some cs =>
        cases c <;> simp_all [items?]
        rw [diff_arr_arr] at h
        split at h <;> simp_all
  | null | bool | int | float | str =>
    rw [diff_of_isAtom applied rfl] at h
    split at h <;> simp_all

private theorem diffMembers_eq_filterMap (applied : Json) (ms cs : Members Json) :
    diffMembers applied ms cs = ms.filterMap fun m =>
      (diff (applied.memberOrNull m.1) m.2 ((cs.get? m.1).getD .null)).map (m.1, ·) := by
  induction ms with
  | nil => rw [diffMembers, List.filterMap_nil]
  | cons m ms ih =>
    obtain ⟨k, j⟩ := m
    rw [diffMembers, List.filterMap_cons, ih]
    cases diff (applied.memberOrNull k) j ((cs.get? k).getD .null) <;> rfl

theorem getD_bind_member (j : Option Json) (k : String) :
    (j.bind (member? k)).getD .null = (j.getD .null).memberOrNull k := by
  cases j <;> rfl

private theorem mem_droppedKeys {applied ms cs : Members Json} {k : String} :
    k ∈ droppedKeys applied ms cs ↔
      k ∈ applied.keys ∧ ms.get? k = none ∧ (cs.get? k).getD .null ≠ .null := by
  simp [droppedKeys, ← isNull_iff]

theorem increasing_patchMembers {applied : Json} {ms cs : Members Json}
    (h : Members.Increasing ms) : Members.Increasing (patchMembers applied ms cs) := by
  refine Members.Increasing.foldl_insert ?_ _ _
  rw [diffMembers_eq_filterMap]
  exact h.filterMap fun k m => diff (applied.memberOrNull k) m ((cs.get? k).getD .null)

theorem get?_patchMembers_of_some {applied : Json} {ms cs : Members Json}
    (h : Members.Increasing ms) {k : String} {m : Json} (hm : ms.get? k = some m) :
    (patchMembers applied ms cs).get? k =
      diff (applied.memberOrNull k) m ((cs.get? k).getD .null) := by
  have hk : k ∉ droppedKeys applied.membersOrNone ms cs := fun hd => by
    rw [(mem_droppedKeys.1 hd).2.1] at hm
    cases hm
  rw [patchMembers, Members.get?_foldl_insert, if_neg hk, diffMembers_eq_filterMap,
    h.get?_filterMap fun k m => diff (applied.memberOrNull k) m ((cs.get? k).getD .null), hm,
    Option.bind_some]

theorem get?_patchMembers_of_none {applied : Json} {ms cs : Members Json}
    (h : Members.Increasing ms) {k : String} (hm : ms.get? k = none) :
    (patchMembers applied ms cs).get? k =
      if k ∈ applied.membersOrNone.keys ∧ (cs.get? k).getD .null ≠ .null then some .null
      else none := by
  rw [patchMembers, Members.get?_foldl_insert, diffMembers_eq_filterMap,
    h.get?_filterMap fun k m => diff (applied.memberOrNull k) m ((cs.get? k).getD .null), hm,
    Option.bind_none]
  simp only [mem_droppedKeys, hm, true_and]

theorem diff_obj_eq_none_iff {applied : Json} {ms cs : Members Json}
    (h : Members.Increasing ms) :
    diff applied (.obj ms) (.obj cs) = none ↔
      (∀ k m, ms.get? k = some m →
        diff (applied.memberOrNull k) m ((cs.get? k).getD .null) = none) ∧
      ∀ k ∈ applied.membersOrNone.keys, ms.get? k = none → (cs.get? k).getD .null = .null := by
  have hnone : diff applied (.obj ms) (.obj cs) = none ↔
      ∀ k, (patchMembers applied ms cs).get? k = none := by
    rw [diff_obj_obj, ← Members.eq_nil_iff_get?]
    split <;> simp_all
  rw [hnone]
  constructor
  · intro hp
    refine ⟨fun k m hm => ?_, fun k hk hm => ?_⟩
    · rw [← get?_patchMembers_of_some h hm]
      exact hp k
    · have hpk := hp k
      rw [get?_patchMembers_of_none h hm] at hpk
      by_contra hc
      rw [if_pos ⟨hk, hc⟩] at hpk
      cases hpk
  · rintro ⟨hc, hd⟩ k
    cases hm : ms.get? k with
    | some m => rw [get?_patchMembers_of_some h hm, hc k m hm]
    | none =>
      rw [get?_patchMembers_of_none h hm, if_neg]
      exact fun hk => hk.2 (hd k hk.1 hm)

/-- The patch for a desired object is an object; a member of it is null, or the desired member, or
the patch for that member. -/
theorem exists_obj_of_diff_obj {applied c p : Json} {ms : Members Json}
    (h : Members.Increasing ms) (hdiff : diff applied (.obj ms) c = some p) :
    ∃ ps, p = .obj ps ∧ Members.Increasing ps ∧ ∀ k q, Members.get? k ps = some q →
      q = .null ∨ ∃ m, ms.get? k = some m ∧ (q = m ∨ ∃ a d, diff a m d = some q) := by
  have hwhole : p = .obj ms → ∃ ps, p = .obj ps ∧ Members.Increasing ps ∧
      ∀ k q, Members.get? k ps = some q →
        q = .null ∨ ∃ m, ms.get? k = some m ∧ (q = m ∨ ∃ a d, diff a m d = some q) :=
    fun hp => ⟨ms, hp, h, fun k q hq => .inr ⟨q, hq, .inl rfl⟩⟩
  by_cases hn : c = .null
  · subst hn
    rw [diff_null_right] at hdiff
    split at hdiff
    · cases hdiff
    · exact hwhole (Option.some.inj hdiff).symm
  cases hi : c.members? with
  | none =>
    rw [diff_obj_of_members? applied ms hi hn] at hdiff
    exact hwhole (Option.some.inj hdiff).symm
  | some cs =>
    obtain rfl := eq_obj_of_members? hi
    rw [diff_obj_obj] at hdiff
    split at hdiff
    · cases hdiff
    · refine ⟨_, (Option.some.inj hdiff).symm, increasing_patchMembers h, fun k q hq => ?_⟩
      cases hk : ms.get? k with
      | some m =>
        rw [get?_patchMembers_of_some h hk] at hq
        exact .inr ⟨m, rfl, .inr ⟨_, _, hq⟩⟩
      | none =>
        rw [get?_patchMembers_of_none h hk] at hq
        split at hq
        · exact .inl (Option.some.inj hq).symm
        · cases hq

theorem exists_of_diff_singleton {applied m change : Json} {k : String} {cs : Members Json}
    (hother : ∀ l, l ≠ k → cs.get? l = none)
    (h : diff applied (.obj [(k, m)]) (.obj cs) = some change) :
    ∃ p, change = .obj [(k, p)] ∧
      diff (applied.memberOrNull k) m ((cs.get? k).getD .null) = some p := by
  have hdropped : droppedKeys applied.membersOrNone [(k, m)] cs = [] := by
    refine List.eq_nil_iff_forall_not_mem.2 fun l hl => ?_
    obtain ⟨-, hmissing, hfound⟩ := mem_droppedKeys.1 hl
    have hlk : l ≠ k := by
      rintro rfl
      rw [Members.get?_cons, if_pos rfl] at hmissing
      cases hmissing
    rw [hother l hlk] at hfound
    exact hfound rfl
  rw [diff_obj_obj, patchMembers, hdropped, List.foldl_nil, diffMembers, diffMembers] at h
  cases hp : diff (applied.memberOrNull k) m ((cs.get? k).getD .null) with
  | none =>
    rw [hp] at h
    cases h
  | some p =>
    rw [hp] at h
    exact ⟨p, (Option.some.inj h).symm, rfl⟩

theorem ordered_of_diff_eq_some {applied m c p : Json} (hm : m.ordered = true)
    (h : diff applied m c = some p) : p.ordered = true := by
  induction m using inductionOn generalizing applied c p with
  | atom m ha =>
    rw [eq_of_diff_eq_some (members?_of_isAtom ha) h]
    exact hm
  | arr items =>
    rw [eq_of_diff_eq_some rfl h]
    exact hm
  | obj ms ih =>
    obtain ⟨ps, rfl, hi, hentries⟩ := exists_obj_of_diff_obj (increasing_of_ordered hm) h
    refine ordered_obj_iff.2 ⟨hi, fun e he => ?_⟩
    obtain hnull | ⟨m, hk, hsame | ⟨a, d, hd⟩⟩ := hentries e.1 e.2 (hi.get?_of_mem he)
    · rw [hnull]
      rfl
    · rw [hsame]
      exact ordered_of_get? hm hk
    · exact ih _ (Members.mem_of_get? hk) (ordered_of_get? hm hk) hd

theorem diff_of_same {m : Json} (hm : m.ordered = true) (applied : Json) {c : Json}
    (h : m.same c = true) : diff applied m c = none := by
  induction m using inductionOn generalizing applied c with
  | atom m ha => rw [diff_of_isAtom applied ha, if_pos h]
  | arr ms ih =>
    obtain ⟨cs, rfl⟩ : ∃ cs, c = .arr cs := by cases c <;> simp_all [same]
    have hall : List.Forall₂ (fun m c => m.same c = true) ms cs := sameList_iff_forall₂.1 h
    have hms := orderedList_iff.1 hm
    rw [diff_arr_arr, if_pos]
    clear hm h
    generalize applied.itemsOrNone = as
    induction hall generalizing as with
    | nil => rw [sameItemsAfter]
    | @cons m c ms cs hmc _ ihs =>
      have hitem : diff (as.headD .null) m c = none :=
        ih m List.mem_cons_self (hms m List.mem_cons_self) _ hmc
      have hrest : sameItemsAfter as.tail ms cs = true :=
        ihs (fun j hj => ih j (List.mem_cons_of_mem _ hj))
          (fun j hj => hms j (List.mem_cons_of_mem _ hj)) as.tail
      rw [sameItemsAfter, hitem, hrest]
      rfl
  | obj ms ih =>
    obtain ⟨cs, rfl⟩ : ∃ cs, c = .obj cs := by cases c <;> simp_all [same]
    have hrel (k : String) :
        Option.Rel (fun m c => m.same c = true) (Members.get? k ms) (Members.get? k cs) :=
      Members.rel_get?_of_forall₂ (sameMembers_iff_forall₂.1 h) k
    refine (diff_obj_eq_none_iff (increasing_of_ordered hm)).2 ⟨fun k m hk => ?_, fun k _ hk => ?_⟩
    · have hkey := hrel k
      generalize Members.get? k cs = c at hkey ⊢
      rw [hk] at hkey
      cases hkey with
      | some hsame => exact ih _ (Members.mem_of_get? hk) (ordered_of_get? hm hk) _ hsame
    · have hkey := hrel k
      generalize Members.get? k cs = c at hkey ⊢
      rw [hk] at hkey
      cases hkey
      rfl

theorem diff_self {m : Json} (hm : m.ordered = true) (applied : Json) :
    diff applied m m = none :=
  diff_of_same hm applied (same_refl m)

end DesiredState.Json
