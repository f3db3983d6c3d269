import DesiredState.Proofs.Json.Basic
/-!
The shape of a value: its arrays and the keys of its objects, whatever stands at the leaves. It is
all that a comparison looks at in what was applied last. Main statement: `member?_shape`.
-/

set_option autoImplicit false
set_option relaxedAutoImplicit false

namespace DesiredState.Json

mutual
def shape : Json → Json
  | .arr items => .arr (itemShapes items)
  | .obj ms => .obj (memberShapes ms)
  | .null | .bool _ | .int _ | .float _ | .str _ => .null
def itemShapes : List Json → List Json
  | [] => []
  | j :: js => shape j :: itemShapes js
def memberShapes : List (String × Json) → List (String × Json)
  | [] => []
  | (k, j) :: ms => (k, shape j) :: memberShapes ms
end

theorem shape_arr (items : List Json) : (Json.arr items).shape = .arr (items.map shape) := by
  have h : itemShapes items = items.map shape := by
    induction items with
    | nil => rfl
    | cons j js ih => rw [itemShapes, ih, List.map_cons]
  rw [shape, h]

theorem shape_obj (ms : Members Json) : (Json.obj ms).shape = .obj (ms.mapValues shape) := by
  have h : memberShapes ms = ms.mapValues shape := by
    induction ms with
    | nil => rfl
    | cons m ms ih => obtain ⟨k, j⟩ := m; rw [memberShapes, ih]; rfl
  rw [shape, h]

theorem shape_of_isAtom {j : Json} (h : j.isAtom = true) : j.shape = .null := by
  cases j <;> simp_all [isAtom, shape]

theorem member?_shape (k : String) (j : Json) : j.shape.member? k = (j.member? k).map shape := by
  cases j with
  | obj ms => rw [shape_obj]; exact Members.get?_mapValues shape k ms
  | arr items => rw [shape_arr]; rfl
  | null | bool | int | float | str => rfl

private theorem memberOrNull_shape (k : String) (j : Json) :
    j.shape.memberOrNull k = (j.memberOrNull k).shape := by
  rw [memberOrNull, memberOrNull, member?_shape]
  cases j.member? k <;> rfl

theorem isSome_member?_congr {a b : Json} (h : a.shape = b.shape) (k : String) :
    (a.member? k).isSome = (b.member? k).isSome := by
  have hs : (a.shape.member? k).isSome = (b.shape.member? k).isSome := by rw [h]
  rwa [member?_shape, member?_shape, Option.isSome_map, Option.isSome_map] at hs

theorem shape_memberOrNull_congr {a b : Json} (h : a.shape = b.shape) (k : String) :
    (a.memberOrNull k).shape = (b.memberOrNull k).shape := by
  rw [← memberOrNull_shape, ← memberOrNull_shape, h]

theorem mem_keys_membersOrNone {j : Json} {k : String} :
    k ∈ j.membersOrNone.keys ↔ (j.member? k).isSome = true := by
  cases j with
  | obj ms => exact Members.isSome_get?_iff.symm
  | _ => simp [membersOrNone, members?, member?, Members.keys]

theorem map_shape_itemsOrNone (j : Json) : j.itemsOrNone.map shape = j.shape.itemsOrNone := by
  cases j with
  | arr items => rw [shape_arr]; rfl
  | obj ms => rw [shape_obj]; rfl
  | null | bool | int | float | str => rfl

end DesiredState.Json
