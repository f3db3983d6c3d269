import DesiredState.Patch.Diff
import DesiredState.Proofs.Members
/-!
Values as trees: induction on items and members, when a value is blank, and equality up to the
sign of a zero. Main statements: `inductionOn`, `isBlank_obj_iff`, `same_refl`, and that members of
ordered objects are compared key by key (`sameMembers_of_rel`).
-/

set_option autoImplicit false
set_option relaxedAutoImplicit false

namespace DesiredState.Json

@[elab_as_elim]
theorem inductionOn {motive : Json → Prop} (j : Json)
    (atom : ∀ j, j.isAtom = true → motive j)
    (arr : ∀ items, (∀ j ∈ items, motive j) → motive (.arr items))
    (obj : ∀ ms : Members Json, (∀ m ∈ ms, motive m.2) → motive (.obj ms)) : motive j :=
  @Json.rec motive (fun js => ∀ j ∈ js, motive j) (fun ms => ∀ m ∈ ms, motive m.2)
    (fun m => motive m.2) (atom _ rfl) (fun _ => atom _ rfl) (fun _ => atom _ rfl)
    (fun _ => atom _ rfl) (fun _ => atom _ rfl) arr obj (by simp)
    (fun _ _ hj hjs => List.forall_mem_cons.2 ⟨hj, hjs⟩) (by simp)
    (fun _ _ hm hms => List.forall_mem_cons.2 ⟨hm, hms⟩) (fun _ _ hj => hj) j

theorem isNull_iff {j : Json} : j.isNull = true ↔ j = .null := by
  cases j <;> simp [isNull]

theorem eq_obj_of_members? {j : Json} {ms : Members Json} (h : j.members? = some ms) :
    j = .obj ms := by
  cases j <;> simp_all [members?]

theorem eq_arr_of_items? {j : Json} {items : List Json} (h : j.items? = some items) :
    j = .arr items := by
  cases j <;> simp_all [items?]

theorem members?_of_isAtom {j : Json} (h : j.isAtom = true) : j.members? = none := by
  cases j <;> simp_all [members?, isAtom]

private theorem allBlank_iff {ms : Members Json} :
    allBlank ms = true ↔ ∀ m ∈ ms, m.2.isBlank = true := by
  induction ms with
  | nil => simp [allBlank]
  | cons m ms ih => obtain ⟨k, j⟩ := m; simp [allBlank, ih]

theorem isBlank_obj_iff {ms : Members Json} :
    (Json.obj ms).isBlank = true ↔ ∀ m ∈ ms, m.2.isBlank = true := by
  rw [isBlank, allBlank_iff]

theorem ordered_of_mem_arr {items : List Json} (h : (Json.arr items).ordered = true) {j : Json}
    (hj : j ∈ items) : j.ordered = true :=
  orderedList_iff.1 h j hj

theorem increasing_of_ordered {ms : Members Json} (h : (Json.obj ms).ordered = true) :
    Members.Increasing ms := (ordered_obj_iff.1 h).1

theorem ordered_of_mem_obj {ms : Members Json} (h : (Json.obj ms).ordered = true)
    {m : String × Json} (hm : m ∈ ms) : m.2.ordered = true :=
  (ordered_obj_iff.1 h).2 m hm

theorem ordered_of_get? {ms : Members Json} (h : (Json.obj ms).ordered = true) {k : String}
    {j : Json} (hj : Members.get? k ms = some j) : j.ordered = true :=
  ordered_of_mem_obj h (Members.mem_of_get? hj)

theorem ordered_insert {ms : Members Json} {j : Json} (h : (Json.obj ms).ordered = true)
    (hj : j.ordered = true) (k : String) : (Json.obj (ms.insert k j)).ordered = true := by
  have hms := ordered_obj_iff.1 h
  refine ordered_obj_iff.2 ⟨hms.1.insert k j, fun m hm => ?_⟩
  rcases Members.mem_insert hm with rfl | hm
  · exact hj
  · exact hms.2 m hm

@[simp] theorem memberOrNull_obj (k : String) (ms : Members Json) :
    (Json.obj ms).memberOrNull k = (Members.get? k ms).getD .null := rfl

theorem ordered_getD {ms : Members Json} (h : (Json.obj ms).ordered = true) (k : String) :
    ((Members.get? k ms).getD .null).ordered = true := by
  cases hk : Members.get? k ms with
  | none => rfl
  | some j => exact ordered_of_get? h hk

theorem eq_of_member? {a b : Json} (ha : a.ordered = true) (hb : b.ordered = true)
    (hao : a.members?.isSome = true) (hbo : b.members?.isSome = true)
    (h : ∀ k, a.member? k = b.member? k) : a = b := by
  cases a with
  | obj ms =>
    cases b with
    | obj ns =>
      congr 1
      exact (increasing_of_ordered ha).ext (increasing_of_ordered hb) h
    | _ => cases hbo
  | _ => cases hao

theorem sameList_iff_forall₂ {as bs : List Json} :
    sameList as bs = true ↔ List.Forall₂ (fun a b => a.same b = true) as bs := by
  induction as generalizing bs with
  | nil => cases bs <;> simp [sameList]
  | cons a as ih => cases bs <;> simp [sameList, ih]

theorem sameMembers_iff_forall₂ {as bs : Members Json} :
    sameMembers as bs = true ↔
      List.Forall₂ (fun a b => a.1 = b.1 ∧ a.2.same b.2 = true) as bs := by
  induction as generalizing bs with
  | nil => cases bs <;> simp [sameMembers]
  | cons a as ih => cases bs <;> simp [sameMembers, ih]

theorem sameMembers_of_rel {as bs : Members Json} (ha : Members.Increasing as)
    (hb : Members.Increasing bs)
    (h : ∀ k, Option.Rel (fun a b => a.same b = true) (as.get? k) (bs.get? k)) :
    sameMembers as bs = true :=
  sameMembers_iff_forall₂.2 (ha.forall₂ hb h)

theorem same_refl (j : Json) : j.same j = true := by
  induction j using inductionOn with
  | atom j hj => cases j <;> simp_all [same, isAtom, Binary64.same]
  | arr items ih =>
    exact sameList_iff_forall₂.2 (List.forall₂_same.2 ih)
  | obj ms ih =>
    exact sameMembers_iff_forall₂.2 (List.forall₂_same.2 fun m hm => ⟨rfl, ih m hm⟩)

end DesiredState.Json
