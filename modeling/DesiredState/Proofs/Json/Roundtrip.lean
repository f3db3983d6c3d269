import DesiredState.Proofs.Json.NumberReading
import DesiredState.Proofs.Json.Range
/-!
Values that read back from their own text. Main statements: `document_compact_eq_ok`, what reading
makes of a printed value; and from it when a printed value is parsed, by how deep it nests
(`parse_compact`, `parse_compact_of_deep`). Floats may come back as neighbours of themselves.
-/

set_option autoImplicit false
set_option relaxedAutoImplicit false

namespace DesiredState.Json

mutual
/-- The value with every float as it reads back. -/
def reread : Json → Json
  | .float x => .float x.reread
  | .arr items => .arr (itemsReread items)
  | .obj ms => .obj (membersReread ms)
  | .null => .null
  | .bool b => .bool b
  | .int n => .int n
  | .str s => .str s
def itemsReread : List Json → List Json
  | [] => []
  | j :: js => reread j :: itemsReread js
def membersReread : List (String × Json) → List (String × Json)
  | [] => []
  | (k, j) :: ms => (k, reread j) :: membersReread ms
end

theorem reread_arr (items : List Json) : (Json.arr items).reread = .arr (items.map reread) := by
  have h : itemsReread items = items.map reread := by
    induction items with
    | nil => rfl
    | cons j js ih => rw [itemsReread, ih, List.map_cons]
  rw [reread, h]

theorem reread_obj (ms : Members Json) : (Json.obj ms).reread = .obj (ms.mapValues reread) := by
  have h : membersReread ms = ms.mapValues reread := by
    induction ms with
    | nil => rfl
    | cons m ms ih =>
      obtain ⟨k, j⟩ := m
      rw [membersReread, ih]
      rfl
  rw [reread, h]

private theorem depth_reread (j : Json) : j.reread.depth = j.depth := by
  induction j using inductionOn with
  | atom j h => cases j <;> first | rfl | cases h
  | arr items ih => rw [reread_arr, depth, depth, depthList_map ih]
  | obj ms ih => rw [reread_obj, depth, depth, depthMembers_mapValues ih]

private theorem ordered_reread {j : Json} (h : j.ordered = true) : j.reread.ordered = true := by
  induction j using inductionOn with
  | atom j ha => cases j <;> first | rfl | cases ha
  | arr items ih =>
    rw [reread_arr]
    refine orderedList_iff.2 fun j hj => ?_
    obtain ⟨i, hi, rfl⟩ := List.mem_map.1 hj
    exact ih i hi (ordered_of_mem_arr h hi)
  | obj ms ih =>
    rw [reread_obj]
    refine ordered_obj_iff.2 ⟨(increasing_of_ordered h).mapValues reread, fun m hm => ?_⟩
    obtain ⟨n, hn, rfl⟩ := List.mem_map.1 hm
    exact ih n hn (ordered_of_mem_obj h hn)

mutual
def node : Json → Node
  | .null => .scalar .ofNull
  | .bool b => .scalar (.ofBool b)
  | .int n => .scalar (.ofInt n)
  | .float x => .scalar (.ofFloat x)
  | .str s => .scalar (.ofText s)
  | .arr items => .seq (itemNodes items)
  | .obj ms => .map (memberNodes ms)
def itemNodes : List Json → List Node
  | [] => []
  | j :: js => node j :: itemNodes js
def memberNodes : List (String × Json) → List (Option String × Node)
  | [] => []
  | (k, j) :: ms => (some k, node j) :: memberNodes ms
end

theorem node_arr (items : List Json) : (Json.arr items).node = .seq (items.map node) := by
  have h : itemNodes items = items.map node := by
    induction items with
    | nil => rfl
    | cons j js ih => rw [itemNodes, ih, List.map_cons]
  rw [node, h]

theorem node_obj (ms : Members Json) :
    (Json.obj ms).node = .map (ms.map fun m => (some m.1, m.2.node)) := by
  have h : memberNodes ms = ms.map fun m => (some m.1, m.2.node) := by
    induction ms with
    | nil => rfl
    | cons m ms ih => rw [memberNodes, ih, List.map_cons]
  rw [node, h]

theorem toJson_node {j : Json} (hj : j.ordered = true) {depth : Nat} (hdepth : j.depth ≤ depth) :
    j.node.toJson depth = .ok j := by
  induction j using inductionOn generalizing depth with
  | atom j ha => cases j <;> first | rfl | cases ha
  | arr items ih =>
    obtain ⟨d, rfl⟩ : ∃ d, depth = d + 1 := ⟨depth - 1, by rw [Json.depth] at hdepth; omega⟩
    rw [depth_arr_le_iff] at hdepth
    have hitems : ∀ js : List Json, (∀ j ∈ js, j ∈ items) →
        Node.toJsonItems d (js.map node) = .ok js := by
      intro js hjs
      induction js with
      | nil => rfl
      | cons j js ihj =>
        obtain ⟨hj', hjs'⟩ := List.forall_mem_cons.1 hjs
        rw [List.map_cons, Node.toJsonItems, ih j hj' (ordered_of_mem_arr hj hj') (hdepth j hj'),
          ihj hjs']
        rfl
    rw [node_arr, Node.toJson, hitems items fun _ h => h]
    rfl
  | obj ms ih =>
    obtain ⟨d, rfl⟩ : ∃ d, depth = d + 1 := ⟨depth - 1, by rw [Json.depth] at hdepth; omega⟩
    rw [depth_obj_le_iff] at hdepth
    have hmembers : ∀ ns : Members Json, (∀ n ∈ ns, n ∈ ms) →
        Node.toJsonEntries d (ns.map fun m => (some m.1, m.2.node)) = .ok ns := by
      intro ns hns
      induction ns with
      | nil => rfl
      | cons n ns ihn =>
        obtain ⟨hn, hns'⟩ := List.forall_mem_cons.1 hns
        rw [List.map_cons, Node.toJsonEntries, ih n hn (ordered_of_mem_obj hj hn) (hdepth n hn),
          ihn hns']
        rfl
    rw [node_obj, Node.toJson, hmembers ms fun _ h => h]
    simp only [Except.map, (increasing_of_ordered hj).ofList_eq]

namespace Text

/-- From the text of the value its document is read, and all that follows remains; in a strict
reading this takes as many levels as the value has. -/
def Rereads (j : Json) : Prop :=
  ∀ {lenient : Bool} {fuel depth : Nat} {rest : List Char}, ¬ Numeric rest →
    j.chars.length ≤ fuel → (lenient = false → j.depth ≤ depth) →
      value lenient fuel depth (j.chars ++ rest) = .ok (j.reread.node, rest)

private theorem chars_length_pos (j : Json) : 0 < j.chars.length := by
  obtain ⟨c, t, he, -⟩ := chars_head j
  rw [he]
  exact Nat.succ_pos _

private theorem exists_fuel {j : Json} {fuel : Nat} (h : j.chars.length ≤ fuel) :
    ∃ n, fuel = n + 1 :=
  ⟨fuel - 1, by have := chars_length_pos j; omega⟩

private theorem rereads_atom {j : Json} (ha : j.isAtom = true) (hj : j.inRange = true) :
    Rereads j := by
  intro lenient fuel depth rest hrest hfuel _
  obtain ⟨fuel, rfl⟩ := exists_fuel hfuel
  cases j with
  | null => rfl
  | bool b => cases b <;> rfl
  | int n =>
    rw [inRange, Bool.and_eq_true, decide_eq_true_eq, decide_eq_true_eq] at hj
    exact value_int hj.1 hj.2 fuel depth hrest
  | float x => exact value_float x fuel depth hrest
  | str s =>
    have htext : (Json.str s).chars ++ rest = '"' :: (s.toList.flatMap escape ++ '"' :: rest) := by
      simp [chars, quote]
    rw [htext, value, skipBlanks_cons rfl]
    simp only [string_quoted]
    rfl
  | arr items => cases ha
  | obj ms => cases ha

section Containers

variable {lenient : Bool} {rest : List Char}

private theorem items_step {first : Bool} {fuel depth : Nat} {cs : List Char} {j : Json}
    {js : List Json} (hj : Rereads j)
    (hnext : nextItem first cs = .ok (some (), j.chars ++ (itemTail js ++ ']' :: rest)))
    (hfuel : j.chars.length ≤ fuel) (hdepth : lenient = false → j.depth ≤ depth) :
    items lenient (fuel + 1) depth first cs =
      (items lenient fuel depth false (itemTail js ++ ']' :: rest) >>= fun p =>
        .ok (j.reread.node :: p.1, p.2)) := by
  rw [items, hnext]
  simp only [bind, Except.bind, hj (not_numeric_itemTail js rest) hfuel hdepth]

private theorem items_tail {js : List Json} (hjs : ∀ j ∈ js, Rereads j) {fuel depth : Nat}
    (hfuel : (itemTail js).length + 1 ≤ fuel)
    (hdepth : lenient = false → ∀ j ∈ js, j.depth ≤ depth) :
    items lenient fuel depth false (itemTail js ++ ']' :: rest) =
      .ok (js.map fun j => j.reread.node, rest) := by
  induction js generalizing fuel with
  | nil =>
    obtain ⟨fuel, rfl⟩ : ∃ n, fuel = n + 1 := ⟨fuel - 1, by omega⟩
    rfl
  | cons j js ih =>
    have hlength : (itemTail (j :: js)).length = j.chars.length + (itemTail js).length + 1 := by
      simp [itemTail]
    obtain ⟨fuel, rfl⟩ : ∃ n, fuel = n + 1 := ⟨fuel - 1, by omega⟩
    have hnext : nextItem false (itemTail (j :: js) ++ ']' :: rest) =
        .ok (some (), j.chars ++ (itemTail js ++ ']' :: rest)) := by
      rw [← nextItem_comma j (itemTail js ++ ']' :: rest)]
      simp [itemTail]
    rw [items_step (hjs j List.mem_cons_self) hnext (by omega)
      fun h => hdepth h j List.mem_cons_self,
      ih (fun i hi => hjs i (List.mem_cons_of_mem _ hi)) (by omega)
        fun h i hi => hdepth h i (List.mem_cons_of_mem _ hi)]
    rfl

private theorem items_printed {js : List Json} (hjs : ∀ j ∈ js, Rereads j) {fuel depth : Nat}
    (hfuel : (itemChars js).length + 1 ≤ fuel)
    (hdepth : lenient = false → ∀ j ∈ js, j.depth ≤ depth) :
    items lenient fuel depth true (itemChars js ++ ']' :: rest) =
      .ok (js.map fun j => j.reread.node, rest) := by
  obtain ⟨fuel, rfl⟩ : ∃ n, fuel = n + 1 := ⟨fuel - 1, by omega⟩
  cases js with
  | nil => rfl
  | cons j js =>
    have hpos := chars_length_pos j
    rw [itemChars_cons, List.length_append] at hfuel
    rw [itemChars_cons, List.append_assoc, items_step (hjs j List.mem_cons_self)
      (nextItem_first j _) (by omega) fun h => hdepth h j List.mem_cons_self,
      items_tail (fun i hi => hjs i (List.mem_cons_of_mem _ hi)) (by omega)
        fun h i hi => hdepth h i (List.mem_cons_of_mem _ hi)]
    rfl

private theorem entries_step {first : Bool} {fuel depth : Nat} {cs : List Char} {m : String × Json}
    {ms : Members Json} (hm : Rereads m.2)
    (hnext : nextKey first cs = .ok (some (), m.1.toList.flatMap escape ++
      '"' :: ':' :: (m.2.chars ++ (memberTail ms ++ '\x7d' :: rest))))
    (hfuel : m.2.chars.length ≤ fuel) (hdepth : lenient = false → m.2.depth ≤ depth) :
    entries lenient (fuel + 1) depth first cs =
      (entries lenient fuel depth false (memberTail ms ++ '\x7d' :: rest) >>= fun p =>
        .ok ((some m.1, m.2.reread.node) :: p.1, p.2)) := by
  have hcolon : ∀ r : List Char, colon (':' :: r) = .ok r := fun _ => rfl
  rw [entries, hnext]
  simp only [bind, Except.bind, string_quoted, hcolon,
    hm (not_numeric_memberTail ms rest) hfuel hdepth]

private theorem length_memberText (m : String × Json) :
    m.2.chars.length + 3 ≤ (memberText m).length := by
  simp [memberText, quote]

private theorem entries_tail {ms : Members Json} (hms : ∀ m ∈ ms, Rereads m.2) {fuel depth : Nat}
    (hfuel : (memberTail ms).length + 1 ≤ fuel)
    (hdepth : lenient = false → ∀ m ∈ ms, m.2.depth ≤ depth) :
    entries lenient fuel depth false (memberTail ms ++ '\x7d' :: rest) =
      .ok (ms.map fun m => (some m.1, m.2.reread.node), rest) := by
  induction ms generalizing fuel with
  | nil =>
    obtain ⟨fuel, rfl⟩ : ∃ n, fuel = n + 1 := ⟨fuel - 1, by omega⟩
    rfl
  | cons m ms ih =>
    have htext := length_memberText m
    have hlength : (memberTail (m :: ms)).length =
        (memberText m).length + (memberTail ms).length + 1 := by
      simp [memberTail]
    obtain ⟨fuel, rfl⟩ : ∃ n, fuel = n + 1 := ⟨fuel - 1, by omega⟩
    rw [entries_step (hms m List.mem_cons_self) (nextKey_memberTail m ms rest) (by omega)
      fun h => hdepth h m List.mem_cons_self,
      ih (fun n hn => hms n (List.mem_cons_of_mem _ hn)) (by omega)
        fun h n hn => hdepth h n (List.mem_cons_of_mem _ hn)]
    rfl

private theorem entries_printed {ms : Members Json} (hms : ∀ m ∈ ms, Rereads m.2) {fuel depth : Nat}
    (hfuel : (memberChars ms).length + 1 ≤ fuel)
    (hdepth : lenient = false → ∀ m ∈ ms, m.2.depth ≤ depth) :
    entries lenient fuel depth true (memberChars ms ++ '\x7d' :: rest) =
      .ok (ms.map fun m => (some m.1, m.2.reread.node), rest) := by
  obtain ⟨fuel, rfl⟩ : ∃ n, fuel = n + 1 := ⟨fuel - 1, by omega⟩
  cases ms with
  | nil => rfl
  | cons m ms =>
    have htext := length_memberText m
    rw [memberChars_cons, List.length_append] at hfuel
    rw [entries_step (hms m List.mem_cons_self) (nextKey_memberChars m ms rest) (by omega)
      fun h => hdepth h m List.mem_cons_self,
      entries_tail (fun n hn => hms n (List.mem_cons_of_mem _ hn)) (by omega)
        fun h n hn => hdepth h n (List.mem_cons_of_mem _ hn)]
    rfl

end Containers

private theorem not_tooDeep {lenient : Bool} {levels depth : Nat}
    (h : lenient = false → levels + 1 ≤ depth) : ¬ (lenient = false ∧ depth = 0) := by
  rintro ⟨hstrict, rfl⟩
  exact absurd (h hstrict) (Nat.not_succ_le_zero levels)

private theorem rereads_arr {js : List Json} (hjs : ∀ j ∈ js, Rereads j) : Rereads (.arr js) := by
  intro lenient fuel depth rest _ hfuel hdepth
  obtain ⟨fuel, rfl⟩ := exists_fuel hfuel
  have htext : (Json.arr js).chars ++ rest = '[' :: (itemChars js ++ ']' :: rest) := by
    simp [chars]
  have hlength : (Json.arr js).chars.length = (itemChars js).length + 2 := by
    simp [chars]
  have hlevels : lenient = false → depthList js + 1 ≤ depth := hdepth
  have hitems : lenient = false → ∀ j ∈ js, j.depth ≤ depth - 1 :=
    fun h => depthList_le_iff.1 (Nat.le_sub_one_of_lt (hlevels h))
  rw [htext, value, skipBlanks_cons rfl]
  simp only [if_neg (not_tooDeep hlevels), items_printed hjs (show _ ≤ fuel by omega) hitems]
  rw [reread_arr, node_arr, List.map_map]
  rfl

private theorem rereads_obj {ms : Members Json} (hms : ∀ m ∈ ms, Rereads m.2) :
    Rereads (.obj ms) := by
  intro lenient fuel depth rest _ hfuel hdepth
  obtain ⟨fuel, rfl⟩ := exists_fuel hfuel
  have htext : (Json.obj ms).chars ++ rest = '\x7b' :: (memberChars ms ++ '\x7d' :: rest) := by
    simp [chars]
  have hlength : (Json.obj ms).chars.length = (memberChars ms).length + 2 := by
    simp [chars]
  have hlevels : lenient = false → depthMembers ms + 1 ≤ depth := hdepth
  have hmembers : lenient = false → ∀ m ∈ ms, m.2.depth ≤ depth - 1 :=
    fun h => depthMembers_le_iff.1 (Nat.le_sub_one_of_lt (hlevels h))
  rw [htext, value, skipBlanks_cons rfl]
  simp only [if_neg (not_tooDeep hlevels), entries_printed hms (show _ ≤ fuel by omega) hmembers]
  rw [reread_obj, node_obj, Members.mapValues, List.map_map]
  rfl

private theorem rereads {j : Json} (hj : j.inRange = true) : Rereads j := by
  induction j using inductionOn with
  | atom j ha => exact rereads_atom ha hj
  | arr items ih => exact rereads_arr fun j hm => ih j hm (inRange_arr_iff.1 hj j hm)
  | obj ms ih => exact rereads_obj fun m hm => ih m hm (inRange_obj_iff.1 hj m hm)

/-- A printed value is read as its document; in a strict reading, if it does not nest too deep. -/
theorem document_compact_eq_ok {lenient : Bool} {j : Json} (hj : j.inRange = true)
    (hdepth : lenient = false → j.depth ≤ maxDepth) :
    document lenient j.compact = .ok j.reread.node := by
  have hend : ¬ Numeric [] := by
    rintro ⟨c, t, he, -⟩
    cases he
  have hread : value lenient (2 * j.chars.length + 2) maxDepth (j.chars ++ []) =
      .ok (j.reread.node, []) := rereads hj hend (by omega) hdepth
  rw [List.append_nil] at hread
  have hc : j.compact.toList = j.chars := String.toList_ofList
  rw [document, hc]
  simp only [hread]
  rfl

end Text

/-- A printed value that does not nest too deep is parsed, its floats as they read back. -/
theorem parse_compact {j : Json} (hj : j.ordered = true) (hrange : j.inRange = true)
    (hdepth : j.depth ≤ Text.maxDepth) : parse j.compact = .ok j.reread := by
  have hlevels : j.reread.depth ≤ Text.maxDepth := by rwa [depth_reread]
  exact parse_eq_ok_iff.2 ⟨_, Text.document_compact_eq_ok hrange fun _ => hdepth,
    toJson_node (ordered_reread hj) hlevels⟩

/-- A printed value that nests too deep is not parsed. -/
theorem parse_compact_of_deep {j : Json} (hj : j.ordered = true)
    (hdepth : Text.maxDepth < j.depth) : ∃ detail, parse j.compact = .error detail := by
  cases h : parse j.compact with
  | error detail => exact ⟨detail, rfl⟩
  | ok v =>
    obtain ⟨n, hread, hn⟩ := parse_eq_ok_iff.1 h
    have hle := (Node.readable_of_toJson n (Text.inRange_of_document hread) hn).depth_le
    rw [← depth_shape, shape_of_parse hj h, depth_shape] at hle
    omega

end DesiredState.Json
