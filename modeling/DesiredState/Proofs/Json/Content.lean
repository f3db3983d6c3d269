import DesiredState.Proofs.Json.Basic
/-!
The content of a value: what is left once blank members are dropped and blank items made null. Main
statements: `alike_arr` and `alike_obj`, that values are alike in content where their items and
members are.
-/

set_option autoImplicit false
set_option relaxedAutoImplicit false

namespace DesiredState.Json

mutual
/-- The value without the blank members of its objects, and with null for the blank items of its
arrays. -/
def content : Json → Json
  | .arr items => .arr (itemContents items)
  | .obj ms => .obj (memberContents ms)
  | .null => .null
  | .bool b => .bool b
  | .int n => .int n
  | .float x => .float x
  | .str s => .str s
def itemContents : List Json → List Json
  | [] => []
  | j :: js => (if j.isBlank then .null else content j) :: itemContents js
def memberContents : List (String × Json) → List (String × Json)
  | [] => []
  | (k, j) :: ms =>
    if j.isBlank then memberContents ms else (k, content j) :: memberContents ms
end

private theorem content_arr (items : List Json) :
    (Json.arr items).content =
      .arr (items.map fun j => if j.isBlank then .null else j.content) := by
  have h : itemContents items = items.map fun j => if j.isBlank then .null else j.content := by
    induction items with
    | nil => rfl
    | cons j js ih => rw [itemContents, ih, List.map_cons]
  rw [content, h]

private theorem content_obj (ms : Members Json) :
    (Json.obj ms).content = .obj (ms.filterMap fun m =>
      (if m.2.isBlank then none else some m.2.content).map (m.1, ·)) := by
  have h : memberContents ms = ms.filterMap fun m =>
      (if m.2.isBlank then none else some m.2.content).map (m.1, ·) := by
    induction ms with
    | nil => rfl
    | cons m ms ih =>
      obtain ⟨k, j⟩ := m
      rw [memberContents, ih, List.filterMap_cons]
      cases j.isBlank <;> rfl
  rw [content, h]

private theorem content_of_isBlank_obj {ms : Members Json} (h : (Json.obj ms).isBlank = true) :
    (Json.obj ms).content = .obj [] := by
  rw [content_obj]
  congr 1
  refine List.filterMap_eq_nil_iff.2 fun m hm => ?_
  rw [if_pos (isBlank_obj_iff.1 h m hm), Option.map_none]

/-- Both values are blank, or they are the same in content. -/
structure Alike (a b : Json) : Prop where
  isBlank_eq : a.isBlank = b.isBlank
  content_same : a.isBlank = false → a.content.same b.content = true

theorem Alike.refl (j : Json) : Alike j j := ⟨rfl, fun _ => same_refl _⟩

theorem alike_null {j : Json} (h : j.isBlank = true) : Alike j .null :=
  ⟨h, fun hf => by rw [h] at hf; cases hf⟩

theorem alike_of_same {a b : Json} (ha : a.isAtom = true) (h : a.same b = true) : Alike a b := by
  cases a <;> cases b <;>
    first
    | exact ⟨rfl, fun _ => h⟩
    | (simp [same] at h; done)
    | simp [isAtom] at ha

theorem Alike.same_content_of_obj {ms ns : Members Json} (h : Alike (.obj ms) (.obj ns)) :
    (Json.obj ms).content.same (Json.obj ns).content = true := by
  cases hb : (Json.obj ms).isBlank with
  | false => exact h.content_same hb
  | true =>
    rw [content_of_isBlank_obj hb, content_of_isBlank_obj (h.isBlank_eq ▸ hb)]
    rfl

theorem alike_arr {as bs : List Json} (h : List.Forall₂ Alike as bs) :
    Alike (.arr as) (.arr bs) := by
  constructor
  · rw [isBlank, isBlank]
    cases h <;> rfl
  · intro _
    rw [content_arr, content_arr]
    refine sameList_iff_forall₂.2 ?_
    rw [List.forall₂_map_left_iff, List.forall₂_map_right_iff]
    refine h.imp fun a b hab => ?_
    rw [← hab.isBlank_eq]
    split
    · rfl
    · rename_i hn
      exact hab.content_same (by simpa using hn)

private theorem isBlank_obj_of_members {as bs : Members Json}
    (h : ∀ k, ((Members.get? k as).getD .null).isBlank =
      ((Members.get? k bs).getD .null).isBlank)
    (hb : Members.Increasing bs) (hblank : (Json.obj as).isBlank = true) :
    (Json.obj bs).isBlank = true := by
  refine isBlank_obj_iff.2 fun m hm => ?_
  have hk := h m.1
  rw [hb.get?_of_mem hm, Option.getD_some] at hk
  rw [← hk]
  cases ha : Members.get? m.1 as with
  | none => rfl
  | some a => exact isBlank_obj_iff.1 hblank _ (Members.mem_of_get? ha)

section Members

variable {as bs : Members Json}
  (h : ∀ k, Alike ((Members.get? k as).getD .null) ((Members.get? k bs).getD .null))
  (ha : Members.Increasing as) (hb : Members.Increasing bs)

include h ha hb

private theorem same_content_obj :
    (Json.obj as).content.same (Json.obj bs).content = true := by
  rw [content_obj, content_obj]
  let f (_ : String) (j : Json) : Option Json := if j.isBlank then none else some j.content
  refine sameMembers_of_rel (ha.filterMap f) (hb.filterMap f) fun k => ?_
  rw [ha.get?_filterMap f, hb.get?_filterMap f]
  have hf : ∀ j? : Option Json, j?.bind (f k) =
      if (j?.getD .null).isBlank then none else some (j?.getD .null).content := by
    intro j?
    cases j? <;> rfl
  rw [hf, hf, ← (h k).isBlank_eq]
  split
  · exact .none
  · rename_i hn
    exact .some ((h k).content_same (by simpa using hn))

theorem alike_obj : Alike (.obj as) (.obj bs) := by
  refine ⟨Bool.eq_iff_iff.2 ⟨?_, ?_⟩, fun _ => same_content_obj h ha hb⟩
  · exact isBlank_obj_of_members (fun k => (h k).isBlank_eq) hb
  · exact isBlank_obj_of_members (fun k => (h k).isBlank_eq.symm) ha

end Members

end DesiredState.Json
