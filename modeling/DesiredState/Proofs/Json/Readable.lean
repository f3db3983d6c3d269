import DesiredState.Proofs.Json.Reading
/-!
Values that a reader takes: they nest within its levels, and their integers are of 64 bits, signed
or unsigned. Main statements: when an array or an object is readable, and `readable_of_toJson`, that
the values made from a document in range are.
-/

set_option autoImplicit false
set_option relaxedAutoImplicit false

namespace DesiredState

namespace Json

mutual
/-- Every integer of the value is one that a reader knows. -/
def inRange : Json → Bool
  | .int n => decide (-2 ^ 63 ≤ n) && decide (n < 2 ^ 64)
  | .arr items => inRangeList items
  | .obj ms => inRangeMembers ms
  | .null | .bool _ | .float _ | .str _ => true
def inRangeList : List Json → Bool
  | [] => true
  | j :: js => inRange j && inRangeList js
def inRangeMembers : List (String × Json) → Bool
  | [] => true
  | (_, j) :: ms => inRange j && inRangeMembers ms
end

theorem inRange_int_iff {n : Int} : (Json.int n).inRange = true ↔ -2 ^ 63 ≤ n ∧ n < 2 ^ 64 := by
  rw [inRange, Bool.and_eq_true, decide_eq_true_eq, decide_eq_true_eq]

theorem inRange_arr_iff {items : List Json} :
    (Json.arr items).inRange = true ↔ ∀ j ∈ items, j.inRange = true := by
  rw [inRange]
  induction items with
  | nil => simp [inRangeList]
  | cons j js ih => rw [inRangeList, Bool.and_eq_true, ih, List.forall_mem_cons]

theorem inRange_obj_iff {ms : Members Json} :
    (Json.obj ms).inRange = true ↔ ∀ m ∈ ms, m.2.inRange = true := by
  rw [inRange]
  induction ms with
  | nil => simp [inRangeMembers]
  | cons m ms ih => rw [inRangeMembers, Bool.and_eq_true, ih, List.forall_mem_cons]

theorem depth_of_isAtom {j : Json} (h : j.isAtom = true) : j.depth = 0 := by
  cases j <;> first | rfl | cases h

theorem depthList_le_iff {js : List Json} {n : Nat} :
    depthList js ≤ n ↔ ∀ j ∈ js, j.depth ≤ n := by
  induction js with
  | nil => simp [depthList]
  | cons j js ih => rw [depthList, Nat.max_le, ih, List.forall_mem_cons]

theorem depthMembers_le_iff {ms : Members Json} {n : Nat} :
    depthMembers ms ≤ n ↔ ∀ m ∈ ms, m.2.depth ≤ n := by
  induction ms with
  | nil => simp [depthMembers]
  | cons m ms ih =>
    obtain ⟨k, j⟩ := m
    rw [depthMembers, Nat.max_le, ih, List.forall_mem_cons]

theorem depth_arr_le_iff {js : List Json} {n : Nat} :
    (Json.arr js).depth ≤ n + 1 ↔ ∀ j ∈ js, j.depth ≤ n := by
  rw [depth, Nat.add_le_add_iff_right, depthList_le_iff]

theorem depth_obj_le_iff {ms : Members Json} {n : Nat} :
    (Json.obj ms).depth ≤ n + 1 ↔ ∀ m ∈ ms, m.2.depth ≤ n := by
  rw [depth, Nat.add_le_add_iff_right, depthMembers_le_iff]

theorem depth_lt_of_member? {k : String} {j v : Json} (h : j.member? k = some v) :
    v.depth < j.depth := by
  cases j with
  | obj ms =>
    have hle := depthMembers_le_iff.1 (Nat.le_refl _) _ (Members.mem_of_get? h)
    rw [depth]
    exact Nat.lt_succ_of_le hle
  | _ => cases h

theorem depthList_map {f : Json → Json} {js : List Json}
    (h : ∀ j ∈ js, (f j).depth = j.depth) : depthList (js.map f) = depthList js := by
  induction js with
  | nil => rfl
  | cons j js ih =>
    obtain ⟨hj, hjs⟩ := List.forall_mem_cons.1 h
    rw [List.map_cons, depthList, depthList, hj, ih hjs]

theorem depthMembers_mapValues {f : Json → Json} {ms : Members Json}
    (h : ∀ m ∈ ms, (f m.2).depth = m.2.depth) :
    depthMembers (ms.mapValues f) = depthMembers ms := by
  induction ms with
  | nil => rfl
  | cons m ms ih =>
    obtain ⟨k, j⟩ := m
    obtain ⟨hj, hms⟩ := List.forall_mem_cons.1 h
    have htail := ih hms
    rw [Members.mapValues] at htail ⊢
    rw [List.map_cons, depthMembers, depthMembers, hj, htail]

theorem depth_shape (j : Json) : j.shape.depth = j.depth := by
  induction j using inductionOn with
  | atom j h => rw [shape_of_isAtom h, depth_of_isAtom h]; rfl
  | arr items ih => rw [shape_arr, depth, depth, depthList_map ih]
  | obj ms ih => rw [shape_obj, depth, depth, depthMembers_mapValues ih]

/-- The value nests within some levels, and a reader knows its integers. -/
structure Readable (n : Nat) (j : Json) : Prop where
  inRange : j.inRange = true
  depth_le : j.depth ≤ n

theorem Readable.mono {n m : Nat} {j : Json} (h : Readable n j) (hle : n ≤ m) : Readable m j :=
  ⟨h.inRange, h.depth_le.trans hle⟩

theorem readable_arr_iff {js : List Json} {n : Nat} :
    Readable (n + 1) (.arr js) ↔ ∀ j ∈ js, Readable n j := by
  constructor
  · intro h j hj
    exact ⟨inRange_arr_iff.1 h.inRange j hj, depth_arr_le_iff.1 h.depth_le j hj⟩
  · intro h
    exact ⟨inRange_arr_iff.2 fun j hj => (h j hj).inRange,
      depth_arr_le_iff.2 fun j hj => (h j hj).depth_le⟩

theorem readable_obj_iff {ms : Members Json} {n : Nat} :
    Readable (n + 1) (.obj ms) ↔ ∀ m ∈ ms, Readable n m.2 := by
  constructor
  · intro h m hm
    exact ⟨inRange_obj_iff.1 h.inRange m hm, depth_obj_le_iff.1 h.depth_le m hm⟩
  · intro h
    exact ⟨inRange_obj_iff.2 fun m hm => (h m hm).inRange,
      depth_obj_le_iff.2 fun m hm => (h m hm).depth_le⟩

theorem readable_of_member? {j : Json} (hj : j.ordered = true) (ho : j.members?.isSome = true)
    {n : Nat} (h : ∀ k v, j.member? k = some v → Readable n v) : Readable (n + 1) j := by
  cases j with
  | obj ms =>
    refine readable_obj_iff.2 fun m hm => ?_
    exact h m.1 m.2 ((increasing_of_ordered hj).get?_of_mem hm)
  | _ => cases ho

end Json

def Scalar.inRange (s : Scalar) : Bool := s.value?.all Json.inRange

theorem Scalar.inRange_ofInt {n : Int} (hlow : -2 ^ 63 ≤ n) (hhigh : n < 2 ^ 64) :
    (Scalar.ofInt n).inRange = true :=
  Json.inRange_int_iff.2 ⟨hlow, hhigh⟩

namespace Node

mutual
def inRange : Node → Bool
  | .scalar s => s.inRange
  | .seq items => inRangeItems items
  | .map entries => inRangeEntries entries
def inRangeItems : List Node → Bool
  | [] => true
  | n :: ns => inRange n && inRangeItems ns
def inRangeEntries : List (Option String × Node) → Bool
  | [] => true
  | (_, n) :: es => inRange n && inRangeEntries es
end

theorem inRangeItems_iff {ns : List Node} :
    inRangeItems ns = true ↔ ∀ n ∈ ns, n.inRange = true := by
  induction ns with
  | nil => simp [inRangeItems]
  | cons n ns ih => rw [inRangeItems, Bool.and_eq_true, ih, List.forall_mem_cons]

mutual
theorem readable_of_toJson {depth : Nat} :
    (n : Node) → n.inRange = true → {j : Json} → n.toJson depth = .ok j → j.Readable depth
  | .scalar s, hn, j, h => by
    have ha := s.atomic
    rw [inRange, Scalar.inRange] at hn
    cases hv : s.value? with
    | none => simp [toJson, hv] at h
    | some v =>
      rw [hv] at ha hn
      simp only [toJson, hv, Option.elim_some, Except.ok.injEq] at h
      rw [← h]
      exact ⟨hn, (Json.depth_of_isAtom ha).trans_le (Nat.zero_le _)⟩
  | .seq items, hn, j, h => by
    cases depth with
    | zero => cases h
    | succ d =>
      cases hi : toJsonItems d items with
      | error e => simp [toJson, hi, Except.map] at h
      | ok js =>
        simp only [toJson, hi, Except.map, Except.ok.injEq] at h
        rw [← h, Json.readable_arr_iff]
        exact readable_of_toJsonItems items hn hi
  | .map entries, hn, j, h => by
    cases depth with
    | zero => cases h
    | succ d =>
      cases hi : toJsonEntries d entries with
      | error e => simp [toJson, hi, Except.map] at h
      | ok ms =>
        simp only [toJson, hi, Except.map, Except.ok.injEq] at h
        rw [← h, Json.readable_obj_iff]
        intro m hm
        exact readable_of_toJsonEntries entries hn hi m (Members.mem_of_mem_ofList hm)
theorem readable_of_toJsonItems {depth : Nat} :
    (ns : List Node) → inRangeItems ns = true → {js : List Json} → toJsonItems depth ns = .ok js →
      ∀ j ∈ js, j.Readable depth
  | [], _, js, h => by
    cases h
    simp
  | n :: ns, hns, js, h => by
    rw [inRangeItems, Bool.and_eq_true] at hns
    obtain ⟨j, hj, h⟩ := ok_of_bind h
    obtain ⟨js', hjs, h⟩ := ok_of_bind h
    cases h
    exact List.forall_mem_cons.2
      ⟨readable_of_toJson n hns.1 hj, readable_of_toJsonItems ns hns.2 hjs⟩
theorem readable_of_toJsonEntries {depth : Nat} :
    (es : List (Option String × Node)) → inRangeEntries es = true →
      {ms : List (String × Json)} → toJsonEntries depth es = .ok ms →
        ∀ m ∈ ms, m.2.Readable depth
  | [], _, ms, h => by
    cases h
    simp
  | (none, _) :: _, _, ms, h => by cases h
  | (some k, n) :: es, hes, ms, h => by
    rw [inRangeEntries, Bool.and_eq_true] at hes
    obtain ⟨j, hj, h⟩ := ok_of_bind h
    obtain ⟨ms', hms, h⟩ := ok_of_bind h
    cases h
    exact List.forall_mem_cons.2
      ⟨readable_of_toJson n hes.1 hj, readable_of_toJsonEntries es hes.2 hms⟩
end

end Node

end DesiredState
