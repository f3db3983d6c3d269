import DesiredState.Timestamp.Calendar
import DesiredState.Text.Digits
import DesiredState.Text.Blank
/-!
Instants of time. They are read in the loose form of RFC 3339 (any offset, blanks between the
parts) and written in universal time with whole seconds.
-/

set_option autoImplicit false
set_option relaxedAutoImplicit false

namespace DesiredState

/-- Seconds since 1970-01-01T00:00:00Z and nanoseconds; a second or more of them within a leap
second, which is counted to the second before it. -/
structure Timestamp where
  seconds : Int
  nanos : Nat
deriving DecidableEq

namespace Timestamp

open Text (digitValue twoDigits)

def fourDigits (n : Nat) : List Char :=
  let ds := Nat.toDigits 10 n
  List.replicate (4 - ds.length) '0' ++ ds

/-- The text of a year: four digits, and a sign where they do not suffice. -/
def yearChars (year : Int) : List Char :=
  if 0 ≤ year ∧ year ≤ 9999 then fourDigits year.toNat
  else (if year < 0 then '-' else '+') :: fourDigits year.natAbs

def render (t : Timestamp) : String :=
  let days := t.seconds.fdiv 86400
  let inDay := (t.seconds - days * 86400).toNat
  let d := Date.ofDays days
  let second := inDay % 60 + if 1000000000 ≤ t.nanos then 1 else 0
  String.ofList (yearChars d.year ++ '-' :: twoDigits d.month ++ '-' :: twoDigits d.day
    ++ 'T' :: twoDigits (inDay / 3600) ++ ':' :: twoDigits (inDay / 60 % 60)
    ++ ':' :: twoDigits second ++ ['Z'])

def digits? (most : Nat) (cs : List Char) : Option (Nat × List Char) :=
  let ds := (cs.take most).takeWhile Char.isDigit
  if ds.isEmpty then none else some (Text.decimalValue ds, cs.drop ds.length)

def skipBlanks (cs : List Char) : List Char := cs.dropWhile Text.isBlank

def part? (most : Nat) (cs : List Char) : Option (Nat × List Char) := do
  let (n, r) ← digits? 2 (skipBlanks cs)
  if n ≤ most then some (n, r) else none

def separator? (c : Char) (cs : List Char) : Option (List Char) :=
  match skipBlanks cs with
  | d :: r => if d = c then some r else none
  | [] => none

/-- Reads a year: four digits at most, or any number of them after a sign. -/
def year? (cs : List Char) : Option (Int × List Char) :=
  match skipBlanks cs with
  | '-' :: r => do
    let (n, r) ← digits? r.length r
    some (-n, r)
  | '+' :: r => do
    let (n, r) ← digits? r.length r
    some (n, r)
  | r => do
    let (n, r) ← digits? 4 r
    some (n, r)

/-- Reads the fraction of a second in nanoseconds, if there is one; further digits are dropped. -/
def fraction? : List Char → Option (Nat × List Char)
  | '.' :: cs => do
    let (n, r) ← digits? 9 cs
    some (n * 10 ^ (9 - (cs.length - r.length)), r.dropWhile Char.isDigit)
  | cs => some (0, cs)

private def skipColons (cs : List Char) : List Char :=
  cs.dropWhile fun c => c == ':' || Text.isBlank c

def offsetBody? : List Char → Option (Int × List Char)
  | a :: b :: cs =>
    match skipColons cs with
    | c :: d :: r =>
      if a.isDigit ∧ b.isDigit ∧ c.isDigit ∧ c ≤ '5' ∧ d.isDigit then
        some ((Text.decimalValue [a, b] * 3600 + Text.decimalValue [c, d] * 60 : Nat), r)
      else none
    | _ => none
  | _ => none

def offset? : List Char → Option (Int × List Char)
  | 'Z' :: cs | 'z' :: cs => some (0, cs)
  | '+' :: cs => offsetBody? cs
  | '-' :: cs | '\u2212' :: cs => do
    let (n, r) ← offsetBody? cs
    some (-n, r)
  | u :: t :: c :: cs =>
    if u.toUpper = 'U' ∧ t.toUpper = 'T' ∧ c.toUpper = 'C' then some (0, cs) else none
  | _ => none

def parse? (text : String) : Option Timestamp := do
  let (year, cs) ← year? text.toList
  let (month, cs) ← part? 12 (← separator? '-' cs)
  let (day, cs) ← part? 31 (← separator? '-' cs)
  let cs ← match cs with
    | 'T' :: r | 't' :: r | ' ' :: r => some r
    | _ => none
  let (hour, cs) ← part? 23 cs
  let (minute, cs) ← part? 59 (← separator? ':' cs)
  let (second, cs) ← part? 60 (← separator? ':' cs)
  let (nanos, cs) ← fraction? cs
  let (offset, cs) ← offset? (skipBlanks cs)
  let date : Date := ⟨year, month, day⟩
  if skipBlanks cs ≠ [] ∨ date.isValid = false ∨ 86400 ≤ offset.natAbs then none
  else
    let inDay : Nat := hour * 3600 + minute * 60 + min second 59
    let seconds := date.toDays * 86400 + inDay - offset
    if Date.inRange (Date.ofDays (seconds.fdiv 86400)).year then
      some ⟨seconds, if second = 60 then nanos + 1000000000 else nanos⟩
    else none

end Timestamp

end DesiredState
