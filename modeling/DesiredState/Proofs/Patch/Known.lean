import DesiredState.Proofs.Json.Content
import DesiredState.Proofs.Json.Shape
import DesiredState.Proofs.Patch.Merge
/-!
What a comparison knows of a stored value: the members that the value applied last or the desired
one has. Main statement: `alike_known_of_diff`, where a comparison finds nothing to change the
desired value and what is known of the stored one are alike in content.
-/

set_option autoImplicit false
set_option relaxedAutoImplicit false

namespace DesiredState.Json

mutual
/-- The stored value without the members of its objects that neither the value applied last nor the
desired one has. -/
def known (applied modified : Json) : (current : Json) → Json
  | .obj cs =>
    match modified with
    | .obj ms => .obj (knownMembers applied ms cs)
    | _ => .obj cs
  | .arr cs =>
    match modified with
    | .arr ms => .arr (knownItems applied.itemsOrNone ms cs)
    | _ => .arr cs
  | c => c
termination_by structural c => c
def knownMembers (applied : Json) (modified : Members Json) : List (String × Json) → Members Json
  | [] => []
  | (k, c) :: cs =>
    let rest := knownMembers applied modified cs
    if (applied.member? k).isSome || (modified.get? k).isSome then
      (k, known (applied.memberOrNull k) ((modified.get? k).getD .null) c) :: rest
    else rest
termination_by structural cs => cs
def knownItems (applied modified : List Json) : List Json → List Json
  | [] => []
  | c :: cs =>
    known (applied.headD .null) (modified.headD .null) c ::
      knownItems applied.tail modified.tail cs
termination_by structural cs => cs
end

private theorem known_of_isAtom (applied : Json) {m : Json} (hm : m.isAtom = true) (c : Json) :
    known applied m c = c := by
  cases c with
  | obj cs => cases m <;> first | rfl | cases hm
  | arr cs => cases m <;> first | rfl | cases hm
  | null | bool | int | float | str => rfl

private theorem known_obj_obj (applied : Json) (ms cs : Members Json) :
    known applied (.obj ms) (.obj cs) = .obj (knownMembers applied ms cs) := rfl

private theorem known_arr_arr (applied : Json) (ms cs : List Json) :
    known applied (.arr ms) (.arr cs) = .arr (knownItems applied.itemsOrNone ms cs) := rfl

section Members

variable (applied : Json) (ms : Members Json)

def knownMember (k : String) (c : Json) : Option Json :=
  if (applied.member? k).isSome || (ms.get? k).isSome then
    some (known (applied.memberOrNull k) ((ms.get? k).getD .null) c)
  else none

private theorem knownMembers_eq_filterMap (cs : Members Json) :
    knownMembers applied ms cs =
      cs.filterMap fun c => (knownMember applied ms c.1 c.2).map (c.1, ·) := by
  induction cs with
  | nil => rfl
  | cons c cs ih =>
    obtain ⟨k, c⟩ := c
    rw [knownMembers, ih, List.filterMap_cons]
    by_cases hk : ((applied.member? k).isSome || (ms.get? k).isSome) = true
    · simp only [knownMember, if_pos hk, Option.map_some]
    · simp only [knownMember, if_neg hk, Option.map_none]

variable {cs : Members Json} (hc : Members.Increasing cs)

include hc

private theorem increasing_knownMembers : Members.Increasing (knownMembers applied ms cs) := by
  rw [knownMembers_eq_filterMap]
  exact hc.filterMap (knownMember applied ms)

private theorem get?_knownMembers (k : String) :
    (knownMembers applied ms cs).get? k = (cs.get? k).bind (knownMember applied ms k) := by
  rw [knownMembers_eq_filterMap]
  exact hc.get?_filterMap (knownMember applied ms) k

private theorem getD_get?_knownMembers_of_some {k : String} {m : Json} (hm : ms.get? k = some m) :
    ((knownMembers applied ms cs).get? k).getD .null =
      known (applied.memberOrNull k) m ((cs.get? k).getD .null) := by
  have hmember : ∀ c, knownMember applied ms k c = some (known (applied.memberOrNull k) m c) := by
    intro c
    simp [knownMember, hm]
  rw [get?_knownMembers applied ms hc]
  cases hk : cs.get? k with
  | none => rfl
  | some c => simp only [Option.bind_some, hmember, Option.getD_some]

private theorem getD_get?_knownMembers_of_none {k : String} (hm : ms.get? k = none)
    (hgone : k ∈ applied.membersOrNone.keys → (cs.get? k).getD .null = .null) :
    ((knownMembers applied ms cs).get? k).getD .null = .null := by
  rw [get?_knownMembers applied ms hc]
  cases hk : cs.get? k with
  | none => rfl
  | some c =>
    rw [Option.bind_some, knownMember, hm]
    by_cases ha : (applied.member? k).isSome = true
    · have hnull := hgone (mem_keys_membersOrNone.2 ha)
      rw [hk, Option.getD_some] at hnull
      rw [hnull, if_pos (by rw [ha]; rfl)]
      rfl
    · rw [if_neg (by simpa using ha)]
      rfl

end Members

private theorem alike_knownItems {ms : List Json}
    (h : ∀ m ∈ ms, ∀ applied c : Json, c.ordered = true → diff applied m c = none →
      Alike m (known applied m c))
    {applied cs : List Json} (hc : ∀ c ∈ cs, c.ordered = true)
    (hsame : sameItemsAfter applied ms cs = true) :
    List.Forall₂ Alike ms (knownItems applied ms cs) := by
  induction ms generalizing applied cs with
  | nil =>
    cases cs with
    | nil => exact .nil
    | cons c cs => simp [sameItemsAfter] at hsame
  | cons m ms ih =>
    cases cs with
    | nil => simp [sameItemsAfter] at hsame
    | cons c cs =>
      rw [sameItemsAfter, Bool.and_eq_true, Option.isNone_iff_eq_none] at hsame
      have hhead := h m List.mem_cons_self _ c (hc c List.mem_cons_self) hsame.1
      have htail := ih (fun m hm => h m (List.mem_cons_of_mem _ hm))
        (fun c hm => hc c (List.mem_cons_of_mem _ hm)) hsame.2
      exact .cons hhead htail

/-- Where a comparison finds nothing to change, the desired value is alike in content to the stored
one, but for what neither the desired value has nor the one applied last. -/
theorem alike_known_of_diff {m : Json} (hm : m.ordered = true) {applied c : Json}
    (hc : c.ordered = true) (hdiff : diff applied m c = none) : Alike m (known applied m c) := by
  induction m using inductionOn generalizing applied c with
  | atom m ha =>
    rw [known_of_isAtom applied ha]
    rw [diff_of_isAtom applied ha] at hdiff
    split at hdiff
    · rename_i hsame
      exact alike_of_same ha hsame
    · cases hdiff
  | arr ms ih =>
    obtain rfl | ⟨cs, rfl⟩ := eq_null_or_arr_of_diff hdiff
    · exact alike_null (isBlank_of_diff_null hdiff)
    · rw [diff_arr_arr] at hdiff
      have hsame : sameItemsAfter applied.itemsOrNone ms cs = true := by
        by_contra hne
        rw [if_neg hne] at hdiff
        cases hdiff
      rw [known_arr_arr]
      refine alike_arr (alike_knownItems ?_ (orderedList_iff.1 hc) hsame)
      intro m hmem applied c hco hd
      exact ih m hmem (ordered_of_mem_arr hm hmem) hco hd
  | obj ms ih =>
    obtain rfl | ⟨cs, rfl⟩ := eq_null_or_obj_of_diff hdiff
    · exact alike_null (isBlank_of_diff_null hdiff)
    · have him := increasing_of_ordered hm
      have hic := increasing_of_ordered hc
      obtain ⟨hchanged, hdropped⟩ := (diff_obj_eq_none_iff him).1 hdiff
      rw [known_obj_obj]
      refine alike_obj (fun k => ?_) him (increasing_knownMembers applied ms hic)
      cases hk : Members.get? k ms with
      | some m =>
        rw [getD_get?_knownMembers_of_some applied ms hic hk]
        exact ih _ (Members.mem_of_get? hk) (ordered_of_get? hm hk) (ordered_getD hc k)
          (hchanged k m hk)
      | none =>
        rw [getD_get?_knownMembers_of_none applied ms hic hk fun ha => hdropped k ha hk]
        exact .refl _

end DesiredState.Json
