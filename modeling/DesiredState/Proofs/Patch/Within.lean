import DesiredState.Proofs.Patch.Diff
import DesiredState.Proofs.Patch.Ignore
/-!
A value within another: the other one has its items and its members, and perhaps more members.
Main statement: `diff_of_within`, a desired value differs in nothing from one that it is within,
where the value applied last had its own shape.
-/

set_option autoImplicit false
set_option relaxedAutoImplicit false

namespace DesiredState.Json

mutual
/-- The second value is the first one but for members of its objects that the first one has not. -/
def Within : Json → Json → Prop
  | .arr ms, c => ∃ cs, c = .arr cs ∧ ItemsWithin ms cs
  | .obj ms, c => ∃ cs, c = .obj cs ∧ MembersWithin ms cs
  | m, c => m = c
def ItemsWithin : List Json → List Json → Prop
  | [], cs => cs = []
  | m :: ms, cs => ∃ c cs', cs = c :: cs' ∧ Within m c ∧ ItemsWithin ms cs'
def MembersWithin : List (String × Json) → Members Json → Prop
  | [], _ => True
  | (k, m) :: ms, cs => (∃ c, Members.get? k cs = some c ∧ Within m c) ∧ MembersWithin ms cs
end

private theorem within_iff_of_isAtom {m : Json} (hm : m.isAtom = true) {c : Json} :
    m.Within c ↔ m = c := by
  cases m <;> simp_all [Within, isAtom]

theorem within_arr_iff {ms : List Json} {c : Json} :
    (Json.arr ms).Within c ↔ ∃ cs, c = .arr cs ∧ List.Forall₂ Within ms cs := by
  have key : ∀ (ms cs : List Json), ItemsWithin ms cs ↔ List.Forall₂ Within ms cs := by
    intro ms
    induction ms with
    | nil => intro cs; rw [ItemsWithin, List.forall₂_nil_left_iff]
    | cons m ms ih =>
      intro cs
      rw [ItemsWithin, List.forall₂_cons_left_iff]
      simp only [ih]
      exact ⟨fun ⟨c, cs', he, hc, hcs⟩ => ⟨c, cs', hc, hcs, he⟩,
        fun ⟨c, cs', hc, hcs, he⟩ => ⟨c, cs', he, hc, hcs⟩⟩
  simp only [Within, key]

theorem within_obj_iff {ms : Members Json} {c : Json} :
    (Json.obj ms).Within c ↔
      ∃ cs, c = .obj cs ∧ ∀ m ∈ ms, ∃ c, Members.get? m.1 cs = some c ∧ m.2.Within c := by
  have key : ∀ (ms cs : Members Json), MembersWithin ms cs ↔
      ∀ m ∈ ms, ∃ c, Members.get? m.1 cs = some c ∧ m.2.Within c := by
    intro ms cs
    induction ms with
    | nil => simp [MembersWithin]
    | cons m ms ih => obtain ⟨k, j⟩ := m; rw [MembersWithin, ih, List.forall_mem_cons]
  simp only [Within, key]

theorem Within.refl {j : Json} (hj : j.ordered = true) : j.Within j := by
  induction j using inductionOn with
  | atom j ha => exact (within_iff_of_isAtom ha).2 rfl
  | arr items ih =>
    exact within_arr_iff.2 ⟨items, rfl,
      List.forall₂_same.2 fun j hm => ih j hm (ordered_of_mem_arr hj hm)⟩
  | obj ms ih =>
    refine within_obj_iff.2 ⟨ms, rfl, fun m hm => ⟨m.2, ?_, ih m hm (ordered_of_mem_obj hj hm)⟩⟩
    exact (increasing_of_ordered hj).get?_of_mem hm

/-- A value that holds the desired one within itself gives nothing to change, when what was applied
last had the members that are desired now. -/
theorem diff_of_within {m : Json} (hm : m.ordered = true) {applied c : Json}
    (hs : applied.shape = m.shape) (h : m.Within c) : diff applied m c = none := by
  induction m using inductionOn generalizing applied c with
  | atom m ha =>
    rw [diff_of_isAtom applied ha, ← (within_iff_of_isAtom ha).1 h, if_pos (same_refl m)]
  | arr ms ih =>
    obtain ⟨cs, rfl, hall⟩ := within_arr_iff.1 h
    have hitems : applied.itemsOrNone.map shape = ms.map shape := by
      rw [map_shape_itemsOrNone, hs, shape_arr]
      rfl
    have hms := orderedList_iff.1 hm
    rw [diff_arr_arr, if_pos]
    -- the items of the two arrays are paired; those applied last have the shapes of the desired
    clear hm hs h
    generalize applied.itemsOrNone = as at hitems
    induction hall generalizing as with
    | nil => rw [sameItemsAfter]
    | @cons m c ms cs hmc _ ihs =>
      cases as with
      | nil => cases hitems
      | cons a as =>
        rw [List.map_cons, List.map_cons, List.cons.injEq] at hitems
        have hitem : diff a m c = none :=
          ih m List.mem_cons_self (hms m List.mem_cons_self) hitems.1 hmc
        have hrest : sameItemsAfter as ms cs = true :=
          ihs (fun j hj => ih j (List.mem_cons_of_mem _ hj))
            (fun j hj => hms j (List.mem_cons_of_mem _ hj)) as hitems.2
        simp only [sameItemsAfter, List.headD_cons, List.tail_cons, hitem, hrest,
          Option.isNone_none, Bool.and_self]
  | obj ms ih =>
    obtain ⟨cs, rfl, hall⟩ := within_obj_iff.1 h
    refine (diff_obj_eq_none_iff (increasing_of_ordered hm)).2 ⟨fun k m hk => ?_, fun k hk hn => ?_⟩
    · have hmem := Members.mem_of_get? hk
      obtain ⟨c, hc, hmc⟩ := hall _ hmem
      rw [hc]
      refine ih _ hmem (ordered_of_mem_obj hm hmem) ?_ hmc
      have := shape_memberOrNull_congr hs k
      rwa [memberOrNull_obj, hk] at this
    · -- nothing was dropped: what was applied last has no key that is not desired
      have hsome := isSome_member?_congr hs k
      rw [mem_keys_membersOrNone.1 hk] at hsome
      have : Members.get? k ms = none := hn
      rw [member?, this] at hsome
      cases hsome

private theorem Within.dropMember {m c : Json} (h : m.Within c) (k : String) :
    (m.dropMember k).Within (c.dropMember k) := by
  cases m with
  | obj ms =>
    obtain ⟨cs, rfl, hall⟩ := within_obj_iff.1 h
    refine within_obj_iff.2 ⟨Members.erase k cs, rfl, fun m hm => ?_⟩
    obtain ⟨hmem, hne⟩ := List.mem_filter.1 hm
    rw [Members.get?_erase_of_ne (by simpa using hne)]
    exact hall m hmem
  | arr ms =>
    obtain ⟨cs, rfl, _⟩ := within_arr_iff.1 h
    exact h
  | null | bool | int | float | str =>
    cases (within_iff_of_isAtom rfl).1 h
    exact h

private theorem Within.mapMember {m c : Json} (h : m.Within c) (k : String) {f : Json → Json}
    (hf : ∀ {a b : Json}, a.Within b → (f a).Within (f b)) :
    (m.mapMember k f).Within (c.mapMember k f) := by
  cases m with
  | obj ms =>
    obtain ⟨cs, rfl, hall⟩ := within_obj_iff.1 h
    refine within_obj_iff.2 ⟨_, rfl, fun m hm => ?_⟩
    obtain ⟨n, hn, rfl⟩ := List.mem_map.1 hm
    obtain ⟨c, hc, hnc⟩ := hall n hn
    have hget : Members.get? n.1 (cs.map fun m => if m.1 = k then (m.1, f m.2) else m) =
        if n.1 = k then some (f c) else some c := by
      have := member?_mapMember n.1 k f (.obj cs)
      simpa only [Json.mapMember, member?, hc, Option.map_some] using this
    by_cases hk : n.1 = k
    · simp only [if_pos hk] at hget ⊢
      exact ⟨f c, hget, hf hnc⟩
    · simp only [if_neg hk] at hget ⊢
      exact ⟨c, hget, hnc⟩
  | arr ms =>
    obtain ⟨cs, rfl, _⟩ := within_arr_iff.1 h
    exact h
  | null | bool | int | float | str =>
    cases (within_iff_of_isAtom rfl).1 h
    exact h

end DesiredState.Json

namespace DesiredState.IgnoreRule

open Json (Within)

private theorem within_dropPath (p : List String) {m c : Json} (h : m.Within c) :
    (dropPath p m).Within (dropPath p c) := by
  induction p generalizing m c with
  | nil => exact h
  | cons a p ih =>
    cases p with
    | nil => exact h.dropMember a
    | cons b p => exact h.mapMember a ih

private theorem within_dropFromClaim (rule : IgnoreRule) {m c : Json} (h : m.Within c) :
    (rule.dropFromClaim m).Within (rule.dropFromClaim c) := by
  unfold dropFromClaim
  induction rule.claimPaths generalizing m c with
  | nil => exact h
  | cons p ps ih => exact ih (within_dropPath p h)

private theorem within_dropFromSpec (rule : IgnoreRule) {m c : Json} (h : m.Within c) :
    (rule.dropFromSpec m).Within (rule.dropFromSpec c) := by
  refine h.mapMember _ fun {a b} hab => ?_
  cases a with
  | arr claims =>
    obtain ⟨cs, rfl, hall⟩ := Json.within_arr_iff.1 hab
    refine Json.within_arr_iff.2 ⟨_, rfl, ?_⟩
    rw [List.forall₂_map_left_iff, List.forall₂_map_right_iff]
    exact hall.imp fun _ _ => rule.within_dropFromClaim
  | obj ms =>
    obtain ⟨cs, rfl, _⟩ := Json.within_obj_iff.1 hab
    exact hab
  | null | bool | int | float | str =>
    cases (Json.within_iff_of_isAtom rfl).1 hab
    exact hab

theorem within_compared {m c : Json} (h : m.Within c) : (compared m).Within (compared c) :=
  within_dropFromSpec _ (within_dropFromSpec _ h)

end DesiredState.IgnoreRule
