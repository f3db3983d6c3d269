import DesiredState.Json.Basic
import DesiredState.Timestamp.Basic
/-!
Data of the Kubernetes types. They are the JSON values that a type allows, except that instants of
time are kept whole and free-form data stand apart from the typed data around them.
-/

set_option autoImplicit false
set_option relaxedAutoImplicit false

namespace DesiredState

inductive Datum where
  | bool (b : Bool)
  | int (n : Int)
  | text (s : String)
  | time (t : Timestamp)
  | free (j : Json)
  | list (items : List Datum)
  | fields (members : List (String × Datum))

namespace Datum

instance : Inhabited Datum := ⟨.fields []⟩

mutual
def decEq : (a b : Datum) → Decidable (a = b)
  | .bool a, .bool b | .int a, .int b | .text a, .text b | .time a, .time b | .free a, .free b =>
    if h : a = b then isTrue (by rw [h]) else isFalse (by simp [h])
  | .list a, .list b =>
    match decEqItems a b with
    | isTrue h => isTrue (by rw [h])
    | isFalse h => isFalse (by simp [h])
  | .fields a, .fields b =>
    match decEqFields a b with
    | isTrue h => isTrue (by rw [h])
    | isFalse h => isFalse (by simp [h])
  | .bool _, .int _ | .bool _, .text _ | .bool _, .time _ | .bool _, .free _ | .bool _, .list _
  | .bool _, .fields _ | .int _, .bool _ | .int _, .text _ | .int _, .time _ | .int _, .free _
  | .int _, .list _ | .int _, .fields _ | .text _, .bool _ | .text _, .int _ | .text _, .time _
  | .text _, .free _ | .text _, .list _ | .text _, .fields _ | .time _, .bool _ | .time _, .int _
  | .time _, .text _ | .time _, .free _ | .time _, .list _ | .time _, .fields _
  | .free _, .bool _ | .free _, .int _ | .free _, .text _ | .free _, .time _ | .free _, .list _
  | .free _, .fields _ | .list _, .bool _ | .list _, .int _ | .list _, .text _ | .list _, .time _
  | .list _, .free _ | .list _, .fields _ | .fields _, .bool _ | .fields _, .int _
  | .fields _, .text _ | .fields _, .time _ | .fields _, .free _
  | .fields _, .list _ => isFalse (by simp)
def decEqItems : (a b : List Datum) → Decidable (a = b)
  | [], [] => isTrue rfl
  | a :: as, b :: bs =>
    match decEq a b, decEqItems as bs with
    | isTrue h, isTrue h' => isTrue (by rw [h, h'])
    | isFalse h, _ => isFalse (by simp [h])
    | _, isFalse h => isFalse (by simp [h])
  | [], _ :: _ | _ :: _, [] => isFalse (by simp)
def decEqFields : (a b : List (String × Datum)) → Decidable (a = b)
  | [], [] => isTrue rfl
  | (k, a) :: as, (l, b) :: bs =>
    if h : k = l then
      match decEq a b, decEqFields as bs with
      | isTrue h', isTrue h'' => isTrue (by rw [h, h', h''])
      | isFalse h', _ => isFalse (by simp [h'])
      | _, isFalse h' => isFalse (by simp [h'])
    else isFalse (by simp [h])
  | [], _ :: _ | _ :: _, [] => isFalse (by simp)
end

instance : DecidableEq Datum := decEq

mutual
def toJson : Datum → Json
  | .bool b => .bool b
  | .int n => .int n
  | .text s => .str s
  | .time t => .str t.render
  | .free j => j
  | .list ds => .arr (itemsToJson ds)
  | .fields ms => .obj (fieldsToJson ms)
def itemsToJson : List Datum → List Json
  | [] => []
  | d :: ds => d.toJson :: itemsToJson ds
def fieldsToJson : List (String × Datum) → List (String × Json)
  | [] => []
  | (k, d) :: ms => (k, d.toJson) :: fieldsToJson ms
end

mutual
/-- Equality that takes the two float zeros within free-form data for one number. -/
def same : Datum → Datum → Bool
  | .free a, .free b => a.same b
  | .list as, .list bs => sameItems as bs
  | .fields as, .fields bs => sameFields as bs
  | .bool a, .bool b => a == b
  | .int a, .int b => a == b
  | .text a, .text b => a == b
  | .time a, .time b => a == b
  | _, _ => false
def sameItems : List Datum → List Datum → Bool
  | [], [] => true
  | a :: as, b :: bs => same a b && sameItems as bs
  | _, _ => false
def sameFields : List (String × Datum) → List (String × Datum) → Bool
  | [], [] => true
  | (k, a) :: as, (l, b) :: bs => k == l && same a b && sameFields as bs
  | _, _ => false
end

end Datum

end DesiredState
