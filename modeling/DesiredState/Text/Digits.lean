/-!
Decimal digits: what a run of them denotes.
-/

set_option autoImplicit false
set_option relaxedAutoImplicit false

-- Powers mean the same in a module that imports further instances of them.
attribute [instance (high), default_instance 20000] instPowNat

namespace DesiredState.Text

def digitValue (c : Char) : Nat := c.toNat - '0'.toNat

def decimalValue (cs : List Char) : Nat := cs.foldl (fun n c => n * 10 + digitValue c) 0

def natural? (cs : List Char) : Option Nat :=
  if cs ≠ [] ∧ cs.all Char.isDigit then some (decimalValue cs) else none

/-- The number of digits after an optional sign. -/
def integer? : List Char → Option Int
  | '-' :: cs => (natural? cs).map fun n => -(n : Int)
  | '+' :: cs => (natural? cs).map Int.ofNat
  | cs => (natural? cs).map Int.ofNat

def twoDigits (n : Nat) : List Char :=
  if n < 10 then '0' :: Nat.toDigits 10 n else Nat.toDigits 10 n

end DesiredState.Text
