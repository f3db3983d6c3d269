import DesiredState.Proofs.Json.Roundtrip
/-!
Values without floats. A number that is no integer of 64 bits, signed or unsigned, is a float, and
only floats may come back from their text as other values. Main statement:
`parse_compact_of_floatless`, that a value without floats is parsed from its own text, if it does
not nest too deep.
-/

set_option autoImplicit false
set_option relaxedAutoImplicit false

namespace DesiredState.Json

mutual
/-- No number of the value is a float; an integer that 64 bits do not hold is one. -/
def floatless : Json → Bool
  | .float _ => false
  | .int n => (Json.int n).inRange
  | .arr items => floatlessItems items
  | .obj ms => floatlessMembers ms
  | .null | .bool _ | .str _ => true
def floatlessItems : List Json → Bool
  | [] => true
  | j :: js => floatless j && floatlessItems js
def floatlessMembers : List (String × Json) → Bool
  | [] => true
  | (_, j) :: ms => floatless j && floatlessMembers ms
end

theorem floatless_arr_iff {items : List Json} :
    (Json.arr items).floatless = true ↔ ∀ j ∈ items, j.floatless = true := by
  rw [floatless]
  induction items with
  | nil => simp [floatlessItems]
  | cons j js ih => rw [floatlessItems, Bool.and_eq_true, ih, List.forall_mem_cons]

theorem floatless_obj_iff {ms : Members Json} :
    (Json.obj ms).floatless = true ↔ ∀ m ∈ ms, m.2.floatless = true := by
  rw [floatless]
  induction ms with
  | nil => simp [floatlessMembers]
  | cons m ms ih =>
    obtain ⟨k, j⟩ := m
    rw [floatlessMembers, Bool.and_eq_true, ih, List.forall_mem_cons]

theorem inRange_of_floatless {j : Json} (h : j.floatless = true) : j.inRange = true := by
  induction j using inductionOn with
  | atom j ha =>
    cases j with
    | int n => exact h
    | arr items => cases ha
    | obj ms => cases ha
    | null | bool b | float x | str s => rfl
  | arr items ih =>
    apply inRange_arr_iff.2
    intro j hj
    exact ih j hj (floatless_arr_iff.1 h j hj)
  | obj ms ih =>
    apply inRange_obj_iff.2
    intro m hm
    exact ih m hm (floatless_obj_iff.1 h m hm)

theorem reread_of_floatless {j : Json} (h : j.floatless = true) : j.reread = j := by
  induction j using inductionOn with
  | atom j ha =>
    cases j with
    | float x => cases h
    | arr items => cases ha
    | obj ms => cases ha
    | null | bool b | int n | str s => rfl
  | arr items ih =>
    have hitems : items.map reread = items.map id := by
      apply List.map_congr_left
      intro j hj
      exact ih j hj (floatless_arr_iff.1 h j hj)
    rw [reread_arr, hitems, List.map_id]
  | obj ms ih =>
    have hmembers : ms.mapValues reread = ms.map id := by
      apply List.map_congr_left
      intro m hm
      have hvalue : m.2.reread = m.2 := ih m hm (floatless_obj_iff.1 h m hm)
      exact Prod.ext rfl hvalue
    rw [reread_obj, hmembers, List.map_id]

/-- What is printed without floats and does not nest too deep is parsed as it was. -/
theorem parse_compact_of_floatless {j : Json} (hj : j.ordered = true) (h : j.floatless = true)
    (hdepth : j.depth ≤ Text.maxDepth) : parse j.compact = .ok j := by
  have hread := parse_compact hj (inRange_of_floatless h) hdepth
  rwa [reread_of_floatless h] at hread

theorem floatless_of_get? {ms : Members Json} (h : (Json.obj ms).floatless = true) {k : String}
    {j : Json} (hj : Members.get? k ms = some j) : j.floatless = true :=
  floatless_obj_iff.1 h _ (Members.mem_of_get? hj)

theorem floatless_insert {ms : Members Json} {j : Json} (h : (Json.obj ms).floatless = true)
    (hj : j.floatless = true) (k : String) : (Json.obj (ms.insert k j)).floatless = true := by
  apply floatless_obj_iff.2
  intro m hm
  rcases Members.mem_insert hm with rfl | hm
  · exact hj
  · exact floatless_obj_iff.1 h m hm

theorem floatless_dropMember {j : Json} (h : j.floatless = true) (k : String) :
    (j.dropMember k).floatless = true := by
  cases j with
  | obj ms =>
    apply floatless_obj_iff.2
    intro m hm
    exact floatless_obj_iff.1 h m (List.mem_filter.1 hm).1
  | _ => exact h

theorem floatless_mapMember {f : Json → Json}
    (hf : ∀ j, j.floatless = true → (f j).floatless = true) {j : Json} (h : j.floatless = true)
    (k : String) : (j.mapMember k f).floatless = true := by
  cases j with
  | obj ms =>
    apply floatless_obj_iff.2
    intro m hm
    obtain ⟨n, hn, rfl⟩ := List.mem_map.1 hm
    have hvalue : n.2.floatless = true := floatless_obj_iff.1 h n hn
    split
    · exact hf _ hvalue
    · exact hvalue
  | _ => exact h

end DesiredState.Json
