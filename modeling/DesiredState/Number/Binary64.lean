import DesiredState.Text.Digits
/-!
Finite binary floating-point numbers of 64 bits, as exact data: rounding a quotient to the
nearest one, products and quotients, and the shortest decimal that rounds back to a number.
-/

set_option autoImplicit false
set_option relaxedAutoImplicit false

namespace DesiredState

def Binary64.limit : Nat := 0x7FF0000000000000

/-- A sign and the 63 bits below it: eleven of exponent, fifty-two of fraction. -/
structure Binary64 where
  negative : Bool
  code : Nat
  finite : code < Binary64.limit
deriving DecidableEq

namespace Binary64

def zero (negative : Bool) : Binary64 := ⟨negative, 0, by decide⟩

instance : Inhabited Binary64 := ⟨zero false⟩

/-- The magnitude is `significand · 2 ^ exponent`. -/
def significand (x : Binary64) : Nat :=
  if x.code < 2 ^ 52 then x.code else 2 ^ 52 + x.code % 2 ^ 52

def exponent (x : Binary64) : Int :=
  if x.code < 2 ^ 52 then -1074 else (x.code / 2 ^ 52 : Nat) - 1075

def same (x y : Binary64) : Bool := x.code == y.code && (x.negative == y.negative || x.code == 0)

def roundHalfEven (num den : Nat) : Nat :=
  let q := num / den
  let r := num % den
  if 2 * r < den then q else if den < 2 * r then q + 1 else q + q % 2

private def scaleUp (e : Int) : Nat := 2 ^ e.toNat
private def scaleDown (e : Int) : Nat := 2 ^ (-e).toNat

/-- The code of the magnitude nearest to a quotient; a code at the limit or above it says that
the quotient is too large. -/
def nearestCode (num den : Nat) : Nat :=
  if num = 0 then 0
  else
    let e : Int := (num.log2 : Int) - den.log2 - 53
    let e := if num * scaleDown e / (den * scaleUp e) < 2 ^ 53 then e else e + 1
    let e := max e (-1074)
    (e + 1074).toNat * 2 ^ 52 + roundHalfEven (num * scaleDown e) (den * scaleUp e)

def ofQuotient (negative : Bool) (num den : Nat) : Option Binary64 :=
  if h : nearestCode num den < limit then some ⟨negative, nearestCode num den, h⟩ else none

def mul (x y : Binary64) : Option Binary64 :=
  let e := x.exponent + y.exponent
  ofQuotient (x.negative != y.negative) (x.significand * y.significand * scaleUp e) (scaleDown e)

def div (x y : Binary64) : Option Binary64 :=
  let e := x.exponent - y.exponent
  ofQuotient (x.negative != y.negative) (x.significand * scaleUp e) (y.significand * scaleDown e)

def powerOfTen (n : Nat) : Binary64 := (ofQuotient false (10 ^ n) 1).getD (zero false)

def ofDecimal (negative : Bool) (digits : Nat) (exponent : Int) : Option Binary64 :=
  if digits = 0 then some (zero negative)
  else
    let top : Int := (Nat.toDigits 10 digits).length + exponent
    if top < -330 then some (zero negative)
    else if 310 < top then none
    else ofQuotient negative (digits * 10 ^ exponent.toNat) (10 ^ (-exponent).toNat)

/-- `digits · 10 ^ exponent` by one rounded product or quotient: the digits (below `2 ^ 64`) are
rounded first, and below `10 ^ -308` the quotient is taken in two steps. -/
def ofScaledDigits (negative : Bool) (digits : Nat) (exponent : Int) : Option Binary64 := do
  let x ← ofQuotient negative digits 1
  if digits = 0 then some x
  else if 308 < exponent then none
  else if 0 ≤ exponent then x.mul (powerOfTen exponent.toNat)
  else if -308 ≤ exponent then x.div (powerOfTen (-exponent).toNat)
  else if -616 ≤ exponent then
    (← x.div (powerOfTen 308)).div (powerOfTen (-exponent - 308).toNat)
  else some (zero negative)

structure Decimal where
  digits : Nat
  exponent : Int
deriving DecidableEq

def Decimal.normal : Nat → Decimal → Decimal
  | 0, d => d
  | fuel + 1, d =>
    if d.digits ≠ 0 ∧ d.digits % 10 = 0 then normal fuel ⟨d.digits / 10, d.exponent + 1⟩
    else d

/-- The decimal of fewest digits that rounds to the number, the nearest of those. -/
def shortest (x : Binary64) : Decimal :=
  if x.code = 0 then ⟨0, 0⟩
  else
    let m := x.significand
    let e := x.exponent - 2
    -- the number is `mid / den`; what lies between `low` and `high` rounds to it
    let den := scaleDown e
    let mid := 4 * m * scaleUp e
    let low := (4 * m - if m = 2 ^ 52 ∧ x.code / 2 ^ 52 > 1 then 1 else 2) * scaleUp e
    let high := (4 * m + 2) * scaleUp e
    let top : Int := (Nat.toDigits 10 (mid * 10 ^ 330 / den)).length - 331
    let candidate (n : Nat) : Option Decimal :=
      let g : Int := top - n
      let unit := den * 10 ^ g.toNat
      let up := 10 ^ (-g).toNat
      let inside (c : Nat) : Bool :=
        if m % 2 = 0 then low * up ≤ c * unit && c * unit ≤ high * up
        else low * up < c * unit && c * unit < high * up
      let d := mid * up / unit
      let below := mid * up - d * unit
      let above := (d + 1) * unit - mid * up
      match inside d, inside (d + 1) with
      | true, true => some ⟨if above < below then d + 1 else d, g⟩
      | true, false => some ⟨d, g⟩
      | false, true => some ⟨d + 1, g⟩
      | false, false => none
    ((List.range 17).findSome? candidate).elim ⟨0, 0⟩ (Decimal.normal 20)

/-- Which decimals are written without an exponent. -/
structure Layout where
  /-- Positional while the point stands after more than this many places left of the digits. -/
  lowest : Int
  /-- Positional while the point stands at most this far right. -/
  highest : Int

def plain : Layout := ⟨-5, 16⟩

/-- The text of a decimal: with a point and at least one place when positional, else one digit
before the point and the exponent after `e`. -/
def Decimal.render (n : Layout) (d : Decimal) : String :=
  let ds := Nat.toDigits 10 d.digits
  let point : Int := ds.length + d.exponent
  let cs : List Char :=
    if 0 ≤ d.exponent ∧ point ≤ n.highest then
      ds ++ List.replicate d.exponent.toNat '0' ++ ['.', '0']
    else if 0 < point ∧ point ≤ n.highest then
      ds.take point.toNat ++ '.' :: ds.drop point.toNat
    else if n.lowest < point ∧ point ≤ 0 then
      '0' :: '.' :: List.replicate (-point).toNat '0' ++ ds
    else
      ds.take 1 ++ (if ds.length = 1 then [] else '.' :: ds.drop 1)
        ++ 'e' :: (toString (point - 1)).toList
  String.ofList cs

def render (x : Binary64) : String :=
  (if x.negative then "-" else "") ++ x.shortest.render plain

end Binary64

end DesiredState
