import DesiredState.Members
import DesiredState.Number.Binary64
/-!
JSON values. An integer and a float are different numbers even where they agree in value; an
object keeps its members in the order in which they are written.
-/

set_option autoImplicit false
set_option relaxedAutoImplicit false

namespace DesiredState

inductive Json where
  | null
  | bool (b : Bool)
  | int (n : Int)
  | float (x : Binary64)
  | str (s : String)
  | arr (items : List Json)
  | obj (members : List (String × Json))

namespace Json

instance : Inhabited Json := ⟨.null⟩

mutual
def decEq : (a b : Json) → Decidable (a = b)
  | .null, .null => isTrue rfl
  | .bool a, .bool b | .int a, .int b | .float a, .float b | .str a, .str b =>
    if h : a = b then isTrue (by rw [h]) else isFalse (by simp [h])
  | .arr a, .arr b =>
    match decEqList a b with
    | isTrue h => isTrue (by rw [h])
    | isFalse h => isFalse (by simp [h])
  | .obj a, .obj b =>
    match decEqMembers a b with
    | isTrue h => isTrue (by rw [h])
    | isFalse h => isFalse (by simp [h])
  | .null, .bool _ | .null, .int _ | .null, .float _ | .null, .str _ | .null, .arr _
  | .null, .obj _ | .bool _, .null | .bool _, .int _ | .bool _, .float _ | .bool _, .str _
  | .bool _, .arr _ | .bool _, .obj _ | .int _, .null | .int _, .bool _ | .int _, .float _
  | .int _, .str _ | .int _, .arr _ | .int _, .obj _ | .float _, .null | .float _, .bool _
  | .float _, .int _ | .float _, .str _ | .float _, .arr _ | .float _, .obj _ | .str _, .null
  | .str _, .bool _ | .str _, .int _ | .str _, .float _ | .str _, .arr _ | .str _, .obj _
  | .arr _, .null | .arr _, .bool _ | .arr _, .int _ | .arr _, .float _ | .arr _, .str _
  | .arr _, .obj _ | .obj _, .null | .obj _, .bool _ | .obj _, .int _ | .obj _, .float _
  | .obj _, .str _ | .obj _, .arr _ => isFalse (by simp)
def decEqList : (a b : List Json) → Decidable (a = b)
  | [], [] => isTrue rfl
  | a :: as, b :: bs =>
    match decEq a b, decEqList as bs with
    | isTrue h, isTrue h' => isTrue (by rw [h, h'])
    | isFalse h, _ => isFalse (by simp [h])
    | _, isFalse h => isFalse (by simp [h])
  | [], _ :: _ | _ :: _, [] => isFalse (by simp)
def decEqMembers : (a b : List (String × Json)) → Decidable (a = b)
  | [], [] => isTrue rfl
  | (k, a) :: as, (l, b) :: bs =>
    if h : k = l then
      match decEq a b, decEqMembers as bs with
      | isTrue h', isTrue h'' => isTrue (by rw [h, h', h''])
      | isFalse h', _ => isFalse (by simp [h'])
      | _, isFalse h' => isFalse (by simp [h'])
    else isFalse (by simp [h])
  | [], _ :: _ | _ :: _, [] => isFalse (by simp)
end

instance : DecidableEq Json := decEq

mutual
/-- Every object of the value has strictly increasing keys. -/
def ordered : Json → Bool
  | .arr items => orderedList items
  | .obj ms => decide (Members.Increasing ms) && orderedMembers ms
  | .null | .bool _ | .int _ | .float _ | .str _ => true
def orderedList : List Json → Bool
  | [] => true
  | j :: js => ordered j && orderedList js
def orderedMembers : List (String × Json) → Bool
  | [] => true
  | (_, j) :: ms => ordered j && orderedMembers ms
end

theorem orderedList_iff {js : List Json} :
    orderedList js = true ↔ ∀ j ∈ js, j.ordered = true := by
  induction js with
  | nil => simp [orderedList]
  | cons j js ih => simp [orderedList, ih]

private theorem orderedMembers_iff {ms : List (String × Json)} :
    orderedMembers ms = true ↔ ∀ m ∈ ms, m.2.ordered = true := by
  induction ms with
  | nil => simp [orderedMembers]
  | cons m ms ih => obtain ⟨k, j⟩ := m; simp [orderedMembers, ih]

theorem ordered_obj_iff {ms : List (String × Json)} :
    (Json.obj ms).ordered = true ↔
      Members.Increasing ms ∧ ∀ m ∈ ms, m.2.ordered = true := by
  simp [ordered, orderedMembers_iff]

mutual
/-- How many arrays and objects enclose the innermost value. -/
def depth : Json → Nat
  | .arr items => depthList items + 1
  | .obj ms => depthMembers ms + 1
  | .null | .bool _ | .int _ | .float _ | .str _ => 0
def depthList : List Json → Nat
  | [] => 0
  | j :: js => max (depth j) (depthList js)
def depthMembers : List (String × Json) → Nat
  | [] => 0
  | (_, j) :: ms => max (depth j) (depthMembers ms)
end

def isNull : Json → Bool
  | .null => true
  | _ => false

def isAtom : Json → Bool
  | .arr _ | .obj _ => false
  | _ => true

theorem ordered_of_isAtom {j : Json} (h : j.isAtom = true) : j.ordered = true := by
  cases j <;> simp_all [isAtom, ordered]

def member? (k : String) : Json → Option Json
  | .obj ms => Members.get? k ms
  | _ => none

def members? : Json → Option (Members Json)
  | .obj ms => some ms
  | _ => none

def items? : Json → Option (List Json)
  | .arr items => some items
  | _ => none

def text? : Json → Option String
  | .str s => some s
  | _ => none

def mapMember (k : String) (f : Json → Json) : Json → Json
  | .obj ms => .obj (ms.map fun m => if m.1 = k then (m.1, f m.2) else m)
  | j => j

def dropMember (k : String) : Json → Json
  | .obj ms => .obj (Members.erase k ms)
  | j => j

mutual
/-- Equality that takes the two float zeros for one number. -/
def same : Json → Json → Bool
  | .float x, .float y => x.same y
  | .arr as, .arr bs => sameList as bs
  | .obj as, .obj bs => sameMembers as bs
  | .null, .null => true
  | .bool a, .bool b => a == b
  | .int a, .int b => a == b
  | .str a, .str b => a == b
  | _, _ => false
def sameList : List Json → List Json → Bool
  | [], [] => true
  | a :: as, b :: bs => same a b && sameList as bs
  | _, _ => false
def sameMembers : List (String × Json) → List (String × Json) → Bool
  | [], [] => true
  | (k, a) :: as, (l, b) :: bs => k == l && same a b && sameMembers as bs
  | _, _ => false
end

end Json

end DesiredState
