import DesiredState.Patch.Merge
import DesiredState.Proofs.Patch.Diff
import DesiredState.Proofs.Patch.Ignore
/-!
Merging a computed patch. Main statement: `diff_merge`, after the patch between two values was
merged into the stored one, nothing differs any more from what was desired, by the same snapshot.
-/

set_option autoImplicit false
set_option relaxedAutoImplicit false

namespace DesiredState.Json

theorem merge_of_members? (target : Json) {p : Json} (hp : p.members? = none) :
    merge target p = p := by
  cases p <;> simp_all [merge, members?]

theorem merge_obj (target : Json) (ps : Members Json) :
    merge target (.obj ps) = .obj (mergeMembers target.membersOrNone ps) := by
  rw [merge, membersOrNone]

private theorem get?_mergeMembers {ps : Members Json} (h : Members.Increasing ps)
    (target : Members Json) (k : String) :
    (mergeMembers target ps).get? k =
      (ps.get? k).elim (target.get? k) fun p =>
        if p.isNull then none else some (merge ((target.get? k).getD .null) p) := by
  induction ps generalizing target with
  | nil => rw [mergeMembers]; rfl
  | cons p ps ih =>
    obtain ⟨k', p⟩ := p
    rw [mergeMembers, Members.get?_cons]
    by_cases he : k = k'
    · subst he
      -- the rest of the patch has nothing more to say about the key
      have hrest : ∀ t : Members Json, (mergeMembers t ps).get? k = t.get? k := fun t => by
        rw [ih h.tail t, h.get?_tail_self, Option.elim_none]
      rw [if_pos rfl, Option.elim_some]
      split
      · rw [hrest, Members.get?_erase_self]
      · rw [hrest, Members.get?_insert_self]
    · rw [if_neg he]
      split
      · rw [ih h.tail, Members.get?_erase_of_ne he]
      · rw [ih h.tail, Members.get?_insert_of_ne he]

private theorem getD_get?_mergeMembers {ps : Members Json} (h : Members.Increasing ps)
    (target : Members Json) (k : String) :
    ((mergeMembers target ps).get? k).getD .null =
      (ps.get? k).elim ((target.get? k).getD .null) (merge ((target.get? k).getD .null)) := by
  rw [get?_mergeMembers h]
  cases ps.get? k with
  | none => rfl
  | some p =>
    rw [Option.elim_some, Option.elim_some]
    split
    · rename_i hn
      rw [isNull_iff.1 hn, merge_of_members? _ rfl, Option.getD_none]
    · rfl

theorem member?_merge_obj {ps : Members Json} (h : Members.Increasing ps) (target : Json)
    (k : String) :
    (target.merge (.obj ps)).member? k = (Members.get? k ps).elim (target.member? k) fun p =>
      if p.isNull then none else some ((target.memberOrNull k).merge p) := by
  have hmember : Members.get? k target.membersOrNone = target.member? k := by
    cases target <;> rfl
  rw [merge_obj, memberOrNull, ← hmember]
  exact get?_mergeMembers h _ k

private theorem ordered_mergeMembers {target ps : Members Json}
    (ht : (Json.obj target).ordered = true)
    (hp : ∀ m ∈ ps, ∀ t : Json, t.ordered = true → (merge t m.2).ordered = true) :
    (Json.obj (mergeMembers target ps)).ordered = true := by
  induction ps generalizing target with
  | nil =>
    rw [mergeMembers]
    exact ht
  | cons p ps ih =>
    obtain ⟨k, p⟩ := p
    have htail := fun m hm => hp m (List.mem_cons_of_mem _ hm)
    rw [mergeMembers]
    split
    · exact ih (ordered_dropMember ht k) htail
    · have hinsert := hp _ List.mem_cons_self _ (ordered_getD ht k)
      exact ih (ordered_insert ht hinsert k) htail

theorem ordered_merge {target p : Json} (ht : target.ordered = true) (hp : p.ordered = true) :
    (target.merge p).ordered = true := by
  induction p using inductionOn generalizing target with
  | atom p ha =>
    rw [merge_of_members? target (members?_of_isAtom ha)]
    exact hp
  | arr items =>
    rw [merge_of_members? target rfl]
    exact hp
  | obj ps ih =>
    rw [merge_obj]
    have htarget : (Json.obj target.membersOrNone).ordered = true := by
      cases target with
      | obj ts => exact ht
      | _ => rfl
    exact ordered_mergeMembers htarget fun m hm t hto =>
      ih m hm hto (ordered_of_mem_obj hp hm)

private theorem diff_merge_self {m : Json} (hm : m.ordered = true) (applied : Json) {c : Json}
    (hc : c.members? = none) : diff applied m (merge c m) = none := by
  induction m using inductionOn generalizing applied c with
  | atom m ha =>
    rw [merge_of_members? c (members?_of_isAtom ha)]
    exact diff_self hm applied
  | arr items =>
    rw [merge_of_members? c rfl]
    exact diff_self hm applied
  | obj ms ih =>
    have hi := increasing_of_ordered hm
    have hfound := getD_get?_mergeMembers hi []
    have hcs : c.membersOrNone = [] := by rw [membersOrNone, hc]; rfl
    rw [merge_obj, hcs]
    refine (diff_obj_eq_none_iff hi).2 ⟨fun k m hk => ?_, fun k _ hk => ?_⟩
    · rw [hfound, hk]
      exact ih _ (Members.mem_of_get? hk) (ordered_of_get? hm hk) _ rfl
    · rw [hfound, hk]
      rfl

private theorem diff_merge_patchMembers {applied : Json} {ms cs : Members Json}
    (hi : Members.Increasing ms)
    (hmembers : ∀ k m, ms.get? k = some m →
      diff (applied.memberOrNull k) m ((diff (applied.memberOrNull k) m
        ((cs.get? k).getD .null)).elim ((cs.get? k).getD .null)
          (merge ((cs.get? k).getD .null))) = none) :
    diff applied (.obj ms) ((Json.obj cs).merge (.obj (patchMembers applied ms cs))) = none := by
  have hpatch : Members.Increasing (patchMembers applied ms cs) := increasing_patchMembers hi
  have hfound := getD_get?_mergeMembers hpatch cs
  rw [merge_obj, membersOrNone, members?, Option.getD_some]
  refine (diff_obj_eq_none_iff hi).2 ⟨fun k m hk => ?_, fun k ha hk => ?_⟩
  · rw [hfound, get?_patchMembers_of_some hi hk]
    exact hmembers k m hk
  · -- a member that is not desired: the patch removes it if it was applied and is stored
    rw [hfound, get?_patchMembers_of_none hi hk]
    by_cases hstored : (cs.get? k).getD .null = .null
    · rw [if_neg fun h => h.2 hstored]
      exact hstored
    · rw [if_pos ⟨ha, hstored⟩, Option.elim_some, merge_of_members? _ rfl]

/-- After the patch, if there is one, was merged, nothing differs. -/
theorem diff_merge {m : Json} (hm : m.ordered = true) (applied c : Json) :
    diff applied m ((diff applied m c).elim c c.merge) = none := by
  induction m using inductionOn generalizing applied c with
  | atom m ha =>
    cases hd : diff applied m c with
    | none => exact hd
    | some p =>
      have hma := members?_of_isAtom ha
      rw [eq_of_diff_eq_some hma hd, Option.elim_some, merge_of_members? c hma]
      exact diff_self hm applied
  | arr items =>
    cases hd : diff applied (.arr items) c with
    | none => exact hd
    | some p =>
      rw [eq_of_diff_eq_some rfl hd, Option.elim_some, merge_of_members? c rfl]
      exact diff_self hm applied
  | obj ms ih =>
    cases hd : diff applied (.obj ms) c with
    | none => exact hd
    | some p =>
      rw [Option.elim_some]
      cases hc : c.members? with
      | none =>
        -- nothing is stored, or no object: the desired object is written whole
        have hp : p = .obj ms := by
          by_cases hn : c = .null
          · subst hn
            rw [diff_null_right] at hd
            split at hd <;> simp_all
          · rw [diff_obj_of_members? applied ms hc hn] at hd
            exact (Option.some.inj hd).symm
        rw [hp]
        exact diff_merge_self hm applied hc
      | some cs =>
        obtain rfl := eq_obj_of_members? hc
        have hp : p = .obj (patchMembers applied ms cs) := by
          rw [diff_obj_obj] at hd
          split at hd <;> simp_all
        rw [hp]
        exact diff_merge_patchMembers (increasing_of_ordered hm) fun k m hk =>
          ih _ (Members.mem_of_get? hk) (ordered_of_get? hm hk) _ _

end DesiredState.Json
