import DesiredState.Proofs.Json.Content
import DesiredState.Proofs.Json.Shape
import DesiredState.Proofs.Patch.Diff
/-!
What it means that a comparison finds nothing to change. A value was written before and stored with
defaults; another one is desired now. Main statements: `settled_self`, where no defaults were
filled in the desired value is alike in content to the stored one, and `settled_obj` and
`settled_arr`, by which the same follows, node by node, for values with defaults.
-/

set_option autoImplicit false
set_option relaxedAutoImplicit false

namespace DesiredState.Json

/-- The value `w` was written and is stored as `w'`. Whenever a comparison finds nothing to change
for the sake of `m`, what `m` would be stored as is alike in content to what is stored. -/
def Settled (w m w' m' : Json) : Prop :=
  ∀ applied : Json, applied.shape = w.shape → diff applied m w' = none → Alike m' w'

/-- The same of a member, which may be missing on each side. A missing one is removed where it was
written before, and left alone where it was not. -/
structure SettledMember (w m w' m' : Option Json) : Prop where
  changed : ∀ j, m = some j → Settled (w.getD .null) j (w'.getD .null) (m'.getD .null)
  missing : m = none → (w.isSome = true → w'.getD .null = .null) →
    Alike (m'.getD .null) (w'.getD .null)

theorem settled_obj {ws ms ws' ms' : Members Json} (hm : Members.Increasing ms)
    (hw' : Members.Increasing ws') (hm' : Members.Increasing ms')
    (h : ∀ k, SettledMember (ws.get? k) (ms.get? k) (ws'.get? k) (ms'.get? k)) :
    Settled (.obj ws) (.obj ms) (.obj ws') (.obj ms') := by
  intro applied hs hdiff
  obtain ⟨hsame, hdropped⟩ := (diff_obj_eq_none_iff hm).1 hdiff
  refine alike_obj (fun k => ?_) hm' hw'
  cases hk : Members.get? k ms with
  | some m => exact (h k).changed m hk _ (shape_memberOrNull_congr hs k) (hsame k m hk)
  | none =>
    refine (h k).missing hk fun hw => hdropped k ?_ hk
    rw [mem_keys_membersOrNone, isSome_member?_congr hs k]
    exact hw

theorem settled_arr {α : Type} {f f' : α → Json} {ws ms : List α}
    (h : ∀ w ∈ ws, ∀ m ∈ ms, Settled (f w) (f m) (f' w) (f' m)) :
    Settled (.arr (ws.map f)) (.arr (ms.map f)) (.arr (ws.map f')) (.arr (ms.map f')) := by
  intro applied hs hdiff
  have hitems : applied.itemsOrNone.map shape = (ws.map f).map shape := by
    rw [map_shape_itemsOrNone, hs, shape_arr]
    rfl
  rw [diff_arr_arr] at hdiff
  refine alike_arr ?_
  -- item by item; of what was applied last only the shapes of the items are kept
  generalize applied.itemsOrNone = as at hitems hdiff
  clear hs
  induction ms generalizing ws as with
  | nil =>
    cases ws with
    | nil => exact .nil
    | cons w ws => simp [sameItemsAfter] at hdiff
  | cons m ms ih =>
    cases ws with
    | nil => simp [sameItemsAfter] at hdiff
    | cons w ws =>
      cases as with
      | nil => cases hitems
      | cons a as =>
        simp only [List.map_cons, List.cons.injEq] at hitems
        simp only [List.map_cons, sameItemsAfter, List.headD_cons, List.tail_cons,
          Bool.and_eq_true, Option.isNone_iff_eq_none, ite_eq_left_iff, reduceCtorEq, imp_false,
          not_not] at hdiff
        refine .cons (h w List.mem_cons_self m List.mem_cons_self a hitems.1 hdiff.1) ?_
        have htail := fun w' hw m' hm =>
          h w' (List.mem_cons_of_mem _ hw) m' (List.mem_cons_of_mem _ hm)
        exact ih htail as hitems.2 (by simp [hdiff.2])

theorem SettledMember.plain {w m : Option Json}
    (h : ∀ j, m = some j → Settled (w.getD .null) j (w.getD .null) j) :
    SettledMember w m w m := by
  constructor
  · rintro j rfl
    exact h j rfl
  · rintro rfl hnull
    cases w with
    | none => exact .refl _
    | some w => rw [hnull rfl]; exact .refl _

private theorem settled_of_null (m : Json) : Settled .null m .null m := by
  intro applied _ hdiff
  exact alike_null (isBlank_of_diff_null hdiff)

theorem settled_self {w m : Json} (hw : w.ordered = true) (hm : m.ordered = true) :
    Settled w m w m := by
  induction m using inductionOn generalizing w with
  | atom m ha =>
    intro applied _ hdiff
    rw [diff_of_isAtom applied ha] at hdiff
    split at hdiff
    · rename_i hsame
      exact alike_of_same ha hsame
    · cases hdiff
  | arr ms ih =>
    by_cases hn : w = .null
    · exact hn ▸ settled_of_null _
    cases w with
    | arr ws =>
      have hitem : ∀ w ∈ ws, ∀ m ∈ ms, Settled (id w) (id m) (id w) (id m) :=
        fun w hw' m hm' => ih m hm' (ordered_of_mem_arr hw hw') (ordered_of_mem_arr hm hm')
      simpa only [List.map_id] using settled_arr hitem
    | _ =>
      intro applied _ hdiff
      rw [diff_arr_of_items? applied ms rfl hn] at hdiff
      cases hdiff
  | obj ms ih =>
    by_cases hn : w = .null
    · exact hn ▸ settled_of_null _
    cases w with
    | obj ws =>
      refine settled_obj (increasing_of_ordered hm) (increasing_of_ordered hw)
        (increasing_of_ordered hm) fun k => .plain fun m hk => ?_
      have hmem := Members.mem_of_get? hk
      exact ih _ hmem (ordered_getD hw k) (ordered_of_mem_obj hm hmem)
    | _ =>
      intro applied _ hdiff
      rw [diff_obj_of_members? applied ms rfl hn] at hdiff
      cases hdiff

namespace SettledMember

variable {w m : Option Json}

theorem defaulted {d : Json} (hd : d.isAtom = true) (hnull : w ≠ some .null)
    (hw : (w.getD .null).ordered = true) (hm : (m.getD .null).ordered = true) :
    SettledMember w m (some (w.getD d)) (some (m.getD d)) := by
  constructor
  · rintro j rfl applied hs hdiff
    cases w with
    | none =>
      have hshape : applied.shape = d.shape := by
        rw [hs, shape_of_isAtom hd]
        rfl
      exact settled_self (ordered_of_isAtom hd) hm applied hshape hdiff
    | some w => exact settled_self hw hm applied hs hdiff
  · rintro rfl hgone
    cases w with
    | none => exact .refl _
    | some w => exact absurd (congrArg some (hgone rfl)) hnull

theorem constant (d : Json) : SettledMember none none (some d) (some d) where
  changed _ hj := by cases hj
  missing _ _ := .refl _

theorem present {w m w' m' : Json} (h : Settled w m w' m') :
    SettledMember (some w) (some m) (some w') (some m') where
  changed j hj := by
    cases hj
    exact h
  missing hn := by cases hn

end SettledMember

end DesiredState.Json
