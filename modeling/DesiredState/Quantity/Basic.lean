import DesiredState.Text.Digits
/-!
Quantities of a resource: non-negative numbers, held exactly in thousand-millionths of a unit, and
the notation in which each was written. The canonical spelling keeps the notation and uses the
largest suffix that leaves an integer.
-/

set_option autoImplicit false
set_option relaxedAutoImplicit false

namespace DesiredState

inductive Quantity.Format where
  | binary
  | decimal
  | exponent
deriving DecidableEq

def Quantity.Format.name : Quantity.Format → String
  | .binary => "BinarySI"
  | .decimal => "DecimalSI"
  | .exponent => "DecimalExponent"

/-- Quantities stay below this many nano-units. -/
def Quantity.limit : Nat := 2 ^ 128

structure Quantity where
  nanos : Nat
  format : Quantity.Format
  bounded : nanos < Quantity.limit
deriving DecidableEq

namespace Quantity

def nanosPerUnit : Nat := 1000000000

def binarySuffixes : List (String × Nat) :=
  [("Ki", 1), ("Mi", 2), ("Gi", 3), ("Ti", 4), ("Pi", 5), ("Ei", 6)]

def decimalSuffixes : List (String × Int) :=
  [("n", -9), ("u", -6), ("m", -3), ("", 0), ("k", 3), ("M", 6), ("G", 9), ("T", 12), ("P", 15),
    ("E", 18)]

def divUp (n d : Nat) : Nat := (n + d - 1) / d

def units (q : Quantity) : Nat := divUp q.nanos nanosPerUnit

/-- Moves factors of 1000 from the mantissa into the exponent, as far as the exponent may go. -/
def shiftThousands (highest : Option Int) (mantissa : Nat) (exponent : Int) : Nat × Int :=
  if _h : 0 < mantissa ∧ mantissa % 1000 = 0 ∧ highest.all (exponent + 3 ≤ ·) then
    shiftThousands highest (mantissa / 1000) (exponent + 3)
  else (mantissa, exponent)
termination_by mantissa
decreasing_by exact Nat.div_lt_self _h.1 (by decide)

def Format.highest : Format → Option Int
  | .exponent => none
  | .binary | .decimal => some 18

def Format.suffix : Format → Int → String
  | .exponent, e => if e = 0 then "" else "e" ++ toString e
  | .binary, e | .decimal, e => (decimalSuffixes.find? (·.2 = e)).elim "" (·.1)

def decimalSpelling (q : Quantity) : String :=
  let (mantissa, exponent) := shiftThousands q.format.highest q.nanos (-9)
  toString mantissa ++ q.format.suffix exponent

/-- The spelling of a whole number of units by the largest power of 1024 that divides it. -/
def binarySpelling (n : Nat) : String :=
  match binarySuffixes.reverse.find? (fun s => n % 1024 ^ s.2 = 0) with
  | some (suffix, power) => toString (n / 1024 ^ power) ++ suffix
  | none => toString n

def canonical (q : Quantity) : String :=
  if q.nanos = 0 then "0"
  else if q.format = .binary ∧ q.nanos % nanosPerUnit = 0 ∧ 1024 ≤ q.nanos / nanosPerUnit then
    binarySpelling (q.nanos / nanosPerUnit)
  else q.decimalSpelling

end Quantity

end DesiredState
