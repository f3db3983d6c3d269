import DesiredState.Quantity.Basic
import DesiredState.Text.Blank
/-!
Reading quantities: a number with an optional plus and at most one point, then a suffix or an
exponent. Digits finer than a nano-unit round up.
-/

set_option autoImplicit false
set_option relaxedAutoImplicit false

namespace DesiredState.Quantity

inductive Flaw where
  | blank
  | negative
  | noDigits
  | twoPoints
  | overflow
  | unknownSuffix (suffix : String)
  | tooManyBytes
deriving DecidableEq

def Flaw.message : Flaw → String
  | .blank => "empty value"
  | .negative => "quantity must not be negative"
  | .noDigits => "missing numeric value"
  | .twoPoints => "more than one decimal point"
  | .overflow => "value overflows"
  | .unknownSuffix suffix => "unknown suffix '" ++ suffix ++ "'"
  | .tooManyBytes => "storage size exceeds 2^64 bytes"

structure Refusal where
  text : String
  flaw : Flaw
deriving DecidableEq

def fitsWord (n : Int) : Bool := -(2 ^ 31) ≤ n && n < 2 ^ 31

def powerOfTen? (n : Nat) : Option Nat := if n ≤ 38 then some (10 ^ n) else none

/-- What a suffix stands for: its notation, a power of 1024 and a power of ten. -/
def readSuffix? (suffix : List Char) : Option (Format × Nat × Int) :=
  let s := String.ofList suffix
  match binarySuffixes.find? (·.1 = s), decimalSuffixes.find? (·.1 = s) with
  | some (_, power), _ => some (.binary, power, 0)
  | none, some (_, power) => some (.decimal, 0, power)
  | none, none =>
    match suffix with
    | 'e' :: r | 'E' :: r =>
      match Text.integer? r with
      | some n => if fitsWord n then some (.exponent, 0, n) else none
      | none => none
    | _ => none

/-- Nano-units of `mantissa · 10 ^ scale`, rounded up, if they are below the limit. -/
def scaled? (mantissa : Nat) (scale : Int) : Option Nat :=
  if 0 ≤ scale then do
    let n := mantissa * (← powerOfTen? scale.toNat)
    if n < limit then some n else none
  else
    match powerOfTen? (-scale).toNat with
    | some d => some (divUp mantissa d)
    | none => some (if 0 < mantissa then 1 else 0)

def ofNanos (format : Format) (nanos : Nat) : Except Flaw Quantity :=
  if h : nanos < limit then .ok ⟨nanos, format, h⟩ else .error .overflow

def ofParts (whole places suffix : List Char) : Except Flaw Quantity :=
  let mantissa := Text.decimalValue (whole ++ places)
  if limit ≤ mantissa then .error .overflow
  else
    match readSuffix? suffix with
    | none => .error (.unknownSuffix (String.ofList suffix))
    | some (format, binary, decimal) =>
      let mantissa := mantissa * 1024 ^ binary
      let scale := decimal + 9 - places.length
      if limit ≤ mantissa ∨ fitsWord places.length = false ∨ fitsWord (decimal + 9) = false ∨
          fitsWord scale = false then
        .error .overflow
      else (scaled? mantissa scale).elim (.error .overflow) (ofNanos format)

def isNumeric (c : Char) : Bool := c.isDigit || c == '.'

def ofUnsigned (unsigned : List Char) : Except Flaw Quantity :=
  let number := unsigned.takeWhile isNumeric
  let suffix := unsigned.dropWhile isNumeric
  let whole := number.takeWhile (· ≠ '.')
  let places := (number.dropWhile (· ≠ '.')).drop 1
  if whole = [] ∧ places = [] then .error .noDigits
  else if '.' ∈ places then .error .twoPoints
  else ofParts whole places suffix

def ofChars : List Char → Except Flaw Quantity
  | [] => .error .blank
  | '-' :: _ => .error .negative
  | '+' :: cs => ofUnsigned cs
  | cs => ofUnsigned cs

def parse (text : String) : Except Refusal Quantity :=
  let cs := Text.trimChars text.toList
  (ofChars cs).mapError (⟨String.ofList cs, ·⟩)

def canonicalize (text : String) : Except Refusal String := (parse text).map canonical

/-- The canonical spelling of a storage size, which has to be below `2 ^ 64` bytes. -/
def storageSize (text : String) : Except Refusal String := do
  let q ← parse text
  if q.units < 2 ^ 64 then .ok q.canonical else .error ⟨text, .tooManyBytes⟩

end DesiredState.Quantity
