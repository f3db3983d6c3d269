import DesiredState.Number.Binary64
import DesiredState.Text.Digits
/-!
What a plain scalar denotes: null, a truth value, a number, or else itself. Integers have a
radix after a zero, numbers a sign, and digits after a leading zero are a text.
-/

set_option autoImplicit false
set_option relaxedAutoImplicit false

namespace DesiredState.Yaml

inductive Plain where
  | null
  | bool (b : Bool)
  | int (n : Int)
  /-- An integer of more than 64 bits and at most 128. -/
  | wide (n : Int)
  | float (x : Binary64)
  | notFinite
  | text
deriving DecidableEq

namespace Plain

open Text (digitValue)

def isNull (s : String) : Bool := s = "null" || s = "Null" || s = "NULL" || s = "~"

def bool? (s : String) : Option Bool :=
  if s = "true" ∨ s = "True" ∨ s = "TRUE" then some true
  else if s = "false" ∨ s = "False" ∨ s = "FALSE" then some false
  else none

def sign : List Char → Bool × List Char
  | '-' :: cs => (true, cs)
  | '+' :: cs => (false, cs)
  | cs => (false, cs)

/-- Digits after a leading zero, which are no number. -/
def zeroPadded (cs : List Char) : Bool :=
  match (sign cs).2 with
  | '0' :: d :: ds => (d :: ds).all Char.isDigit
  | _ => false

def hexValue (c : Char) : Nat :=
  if c.isDigit then digitValue c else if 'a' ≤ c then c.toNat - 87 else c.toNat - 55

def isHexDigit (c : Char) : Bool :=
  c.isDigit || ('a' ≤ c && c ≤ 'f') || ('A' ≤ c && c ≤ 'F')

def inRadix? (radix : Nat) (cs : List Char) : Option Nat :=
  if cs ≠ [] ∧ cs.all (fun c => isHexDigit c && hexValue c < radix) then
    some (cs.foldl (fun n c => n * radix + hexValue c) 0)
  else none

def magnitude? : List Char → Option Nat
  | '0' :: 'x' :: cs => inRadix? 16 cs
  | '0' :: 'o' :: cs => inRadix? 8 cs
  | '0' :: 'b' :: cs => inRadix? 2 cs
  | cs => if zeroPadded cs then none else inRadix? 10 cs

def integer? (cs : List Char) : Option Int :=
  let (negative, r) := sign cs
  (magnitude? r).map fun n => if negative then -(n : Int) else n

def decimal? (negative : Bool) (cs : List Char) : Option (Option Binary64) :=
  let whole := cs.takeWhile Char.isDigit
  let rest := cs.dropWhile Char.isDigit
  let (places, rest) : List Char × List Char := match rest with
    | '.' :: r => (r.takeWhile Char.isDigit, r.dropWhile Char.isDigit)
    | _ => ([], rest)
  let exponent : Option Int := match rest with
    | [] => some 0
    | 'e' :: r | 'E' :: r => Text.integer? r
    | _ => none
  if whole = [] ∧ places = [] then none
  else
    exponent.map fun e =>
      Binary64.ofDecimal negative (Text.decimalValue (whole ++ places)) (e - places.length)

def float? (cs : List Char) : Option Plain :=
  let s := String.ofList cs
  let (negative, r) := sign cs
  let unsigned := String.ofList r
  if unsigned = ".inf" ∨ unsigned = ".Inf" ∨ unsigned = ".INF" then some .notFinite
  else if s = ".nan" ∨ s = ".NaN" ∨ s = ".NAN" then some .notFinite
  else (decimal? negative r).join.map .float

def fits64 (n : Int) : Bool := -(2 ^ 63) ≤ n && n < 2 ^ 64
def fits128 (n : Int) : Bool := -(2 ^ 127) ≤ n && n < 2 ^ 128

/-- What a plain scalar denotes, tried in this order: null, a truth value, an integer, a float. -/
def ofText (s : String) : Plain :=
  let cs := s.toList
  if s = "" ∨ isNull s then .null
  else
    match bool? s with
    | some b => .bool b
    | none =>
      match (integer? cs).filter fits128 with
      | some n => if fits64 n then .int n else .wide n
      | none => if zeroPadded cs then .text else (float? cs).getD .text

end Plain

end DesiredState.Yaml
