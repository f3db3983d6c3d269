import DesiredState.Document
import DesiredState.Text.Digits
/-!
JSON text. A text is read into a document; what is well formed but denotes no value (a number out
of range, half of a surrogate pair) becomes an unreadable scalar in a lenient reading, which lets
typed readers skip it, and a fault in a strict one. A fault knows how many bytes follow its
position.
-/

set_option autoImplicit false
set_option relaxedAutoImplicit false

namespace DesiredState.Json

namespace Text

open DesiredState.Text (digitValue)

inductive Problem where
  | endInArray
  | endInObject
  | endInString
  | endInValue
  | wantsColon
  | wantsItemOrEnd
  | wantsMemberOrEnd
  | wantsLiteral
  | wantsValue
  | badEscape
  | badNumber
  | outOfRange
  | controlCharacter
  | keyNotText
  | loneSurrogate
  | trailingComma
  | trailingText
  | cutPair
  | tooDeep
deriving DecidableEq

def Problem.message : Problem → String
  | .endInArray => "EOF while parsing a list"
  | .endInObject => "EOF while parsing an object"
  | .endInString => "EOF while parsing a string"
  | .endInValue => "EOF while parsing a value"
  | .wantsColon => "expected `:`"
  | .wantsItemOrEnd => "expected `,` or `]`"
  | .wantsMemberOrEnd => "expected `,` or `\x7d`"
  | .wantsLiteral => "expected ident"
  | .wantsValue => "expected value"
  | .badEscape => "invalid escape"
  | .badNumber => "invalid number"
  | .outOfRange => "number out of range"
  | .controlCharacter => "control character (\\u0000-\\u001F) found while parsing a string"
  | .keyNotText => "key must be a string"
  | .loneSurrogate => "lone leading surrogate in hex escape"
  | .trailingComma => "trailing comma"
  | .trailingText => "trailing characters"
  | .cutPair => "unexpected end of hex escape"
  | .tooDeep => "recursion limit exceeded"

/-- A problem, and the number of bytes that follow the place where it is noticed. -/
structure Fault where
  problem : Problem
  left : Nat
deriving DecidableEq

def byteCount (cs : List Char) : Nat := cs.foldl (fun n c => n + c.utf8Size) 0

namespace Fault

def before (rest : List Char) (p : Problem) : Fault := ⟨p, byteCount rest⟩

/-- A fault one byte into the rest of the text, or at its end. -/
def within (rest : List Char) (p : Problem) : Fault := ⟨p, byteCount rest - 1⟩

def position (n line column : Nat) : List Char → Nat × Nat
  | [] => (line, column)
  | c :: cs =>
    if n < c.utf8Size then (line, column + n)
    else if c = '\n' then position (n - 1) (line + 1) 0 cs
    else position (n - c.utf8Size) line (column + c.utf8Size) cs

def describe (text : String) (f : Fault) : String :=
  let (line, column) := position (text.utf8ByteSize - f.left) 1 0 text.toList
  f.problem.message ++ " at line " ++ toString line ++ " column " ++ toString column

end Fault

def isBlank (c : Char) : Bool := c = ' ' || c = '\n' || c = '\t' || c = '\x0d'

def skipBlanks (cs : List Char) : List Char := cs.dropWhile isBlank

/-- Reads digits onto `n` as long as the number stays within the limit; also counts them. -/
def takeDigits (limit n count : Nat) : List Char → Nat × Nat × List Char
  | [] => (n, count, [])
  | c :: cs =>
    if c.isDigit ∧ n * 10 + digitValue c ≤ limit then
      takeDigits limit (n * 10 + digitValue c) (count + 1) cs
    else (n, count, c :: cs)

def maxSignificand : Nat := 2 ^ 64 - 1

def maxExponent : Nat := 2 ^ 31 - 1

def floatOrFault (lenient negative : Bool) (digits : Nat) (exponent : Int) (rest : List Char) :
    Except Fault (Scalar × List Char) :=
  match Binary64.ofScaledDigits negative digits exponent with
  | some x => .ok (.ofFloat x, rest)
  | none => if lenient then .ok (.unreadable, rest) else .error (.before rest .outOfRange)

def exponentPart (lenient negative : Bool) (digits : Nat) (exponent : Int) (cs : List Char) :
    Except Fault (Scalar × List Char) :=
  let (down, cs) : Bool × List Char := match cs with
    | '+' :: r => (false, r)
    | '-' :: r => (true, r)
    | _ => (false, cs)
  match cs with
  | [] => .error (.before [] .endInValue)
  | c :: r =>
    if ¬ c.isDigit then .error (.before r .badNumber)
    else
      let (e, _, r) := takeDigits maxExponent (digitValue c) 0 r
      match r with
      | [] => floatOrFault lenient negative digits (if down then exponent - e else exponent + e) []
      | d :: r' =>
        if ¬ d.isDigit then
          floatOrFault lenient negative digits (if down then exponent - e else exponent + e) r
        else if digits = 0 ∨ down then
          .ok (.ofFloat (.zero negative), r'.dropWhile Char.isDigit)
        else if lenient then .ok (.unreadable, r'.dropWhile Char.isDigit)
        else .error (.before r' .outOfRange)

def afterPlaces (lenient negative : Bool) (digits : Nat) (exponent : Int) :
    List Char → Except Fault (Scalar × List Char)
  | 'e' :: r | 'E' :: r => exponentPart lenient negative digits exponent r
  | cs => floatOrFault lenient negative digits exponent cs

/-- Reads what follows the point of a number. Places that no longer fit the significand are
dropped. -/
def fractionPart (lenient negative : Bool) (digits : Nat) (exponent : Int) (cs : List Char) :
    Except Fault (Scalar × List Char) :=
  match cs with
  | [] => .error (.before [] .endInValue)
  | c :: _ =>
    if ¬ c.isDigit then .error (.within cs .badNumber)
    else
      let (n, count, r) := takeDigits maxSignificand digits 0 cs
      afterPlaces lenient negative n (exponent - count) (r.dropWhile Char.isDigit)

/-- Reads what follows the integer digits of a number; `dropped` of them no longer fitted. -/
def afterInteger (lenient negative : Bool) (digits dropped : Nat) :
    List Char → Except Fault (Scalar × List Char)
  | '.' :: r => fractionPart lenient negative digits dropped r
  | 'e' :: r | 'E' :: r => exponentPart lenient negative digits dropped r
  | cs =>
    if dropped ≠ 0 then floatOrFault lenient negative digits dropped cs
    else if negative = false then .ok (.ofInt digits, cs)
    else if digits = 0 ∨ 2 ^ 63 < digits then floatOrFault lenient true digits 0 cs
    else .ok (.ofInt (-digits), cs)

def number (lenient negative : Bool) : List Char → Except Fault (Scalar × List Char)
  | [] => .error (.before [] .endInValue)
  | '0' :: r =>
    match r with
    | c :: _ =>
      if c.isDigit then .error (.within r .badNumber) else afterInteger lenient negative 0 0 r
    | [] => afterInteger lenient negative 0 0 r
  | c :: r =>
    if ¬ c.isDigit then .error (.before r .badNumber)
    else
      let (n, _, r) := takeDigits maxSignificand (digitValue c) 0 r
      let rest := r.dropWhile Char.isDigit
      afterInteger lenient negative n (r.length - rest.length) rest

def hexValue? (c : Char) : Option Nat :=
  if c.isDigit then some (digitValue c)
  else if 'a' ≤ c ∧ c ≤ 'f' then some (c.toNat - 'a'.toNat + 10)
  else if 'A' ≤ c ∧ c ≤ 'F' then some (c.toNat - 'A'.toNat + 10)
  else none

def hexUnit (cs : List Char) : Except Fault (Nat × List Char) :=
  let faulty := if byteCount cs < 4 then Fault.mk .endInString 0
    else Fault.mk .badEscape (byteCount cs - 4)
  match cs with
  | a :: b :: c :: d :: r =>
    match hexValue? a, hexValue? b, hexValue? c, hexValue? d with
    | some a, some b, some c, some d => .ok (((a * 16 + b) * 16 + c) * 16 + d, r)
    | _, _, _, _ => .error faulty
  | _ => .error faulty

def ofPair (high low : Nat) : Char :=
  Char.ofNat (0x10000 + (high - 0xD800) * 0x400 + (low - 0xDC00))

def lowSurrogate (lenient : Bool) (high : Nat) (cs : List Char) :
    Except Fault (Option Char × List Char) :=
  let orNone (f : Fault) := if lenient then .ok (none, cs) else .error f
  match cs with
  | [] => .error (.before [] .endInString)
  | '\\' :: 'u' :: r => do
    let (low, r') ← hexUnit r
    if 0xDC00 ≤ low ∧ low ≤ 0xDFFF then .ok (some (ofPair high low), r')
    else orNone (.before r' .loneSurrogate)
  | ['\\'] => .error (.before [] .endInString)
  | '\\' :: c :: r => orNone ⟨.cutPair, byteCount (c :: r) - 1⟩
  | c :: r => orNone ⟨.cutPair, byteCount (c :: r) - 1⟩

/-- Reads what follows the backslash of an escape; no character where half a pair is written. -/
def escaped (lenient : Bool) : List Char → Except Fault (Option Char × List Char)
  | [] => .error (.before [] .endInString)
  | '"' :: r => .ok (some '"', r)
  | '\\' :: r => .ok (some '\\', r)
  | '/' :: r => .ok (some '/', r)
  | 'b' :: r => .ok (some '\x08', r)
  | 'f' :: r => .ok (some '\x0c', r)
  | 'n' :: r => .ok (some '\n', r)
  | 'r' :: r => .ok (some '\x0d', r)
  | 't' :: r => .ok (some '\t', r)
  | 'u' :: r => do
    let (n, r') ← hexUnit r
    if 0xDC00 ≤ n ∧ n ≤ 0xDFFF then
      if lenient then .ok (none, r') else .error (.before r' .loneSurrogate)
    else if 0xD800 ≤ n ∧ n ≤ 0xDBFF then lowSurrogate lenient n r'
    else .ok (some (Char.ofNat n), r')
  | c :: r => .error ⟨.badEscape, byteCount (c :: r) - 1⟩

def stringBody (lenient : Bool) :
    Nat → Option (List Char) → List Char → Except Fault (Option String × List Char)
  | 0, _, cs => .error (.before cs .endInString)
  | fuel + 1, acc, cs =>
    match cs with
    | [] => .error (.before [] .endInString)
    | '"' :: r => .ok (acc.map fun cs => String.ofList cs.reverse, r)
    | '\\' :: r => do
      let (c?, r') ← escaped lenient r
      stringBody lenient fuel (do return (← c?) :: (← acc)) r'
    | c :: r =>
      if c.toNat < 0x20 then .error (.before r .controlCharacter)
      else stringBody lenient fuel (acc.map (c :: ·)) r

def string (lenient : Bool) (cs : List Char) : Except Fault (Option String × List Char) :=
  stringBody lenient (cs.length + 1) (some []) cs

def literal (value : Scalar) : List Char → List Char → Except Fault (Scalar × List Char)
  | [], cs => .ok (value, cs)
  | _ :: _, [] => .error (.before [] .endInValue)
  | w :: ws, c :: cs => if c = w then literal value ws cs else .error (.before cs .wantsLiteral)

def colon (cs : List Char) : Except Fault (List Char) :=
  match skipBlanks cs with
  | ':' :: r => .ok r
  | [] => .error (.before [] .endInObject)
  | r => .error (.within r .wantsColon)

/-- Steps to the next item of an array, or over its end: `none` then. -/
def nextItem (first : Bool) (cs : List Char) : Except Fault (Option Unit × List Char) :=
  match skipBlanks cs with
  | [] => .error (.before [] .endInArray)
  | ']' :: r => .ok (none, r)
  | r =>
    if first then .ok (some (), r)
    else
      match r with
      | ',' :: r =>
        match skipBlanks r with
        | [] => .error (.before [] .endInValue)
        | ']' :: r => .error (.within (']' :: r) .trailingComma)
        | r => .ok (some (), r)
      | r => .error (.within r .wantsItemOrEnd)

def nextKey (first : Bool) (cs : List Char) : Except Fault (Option Unit × List Char) :=
  match skipBlanks cs with
  | [] => .error (.before [] .endInObject)
  | '\x7d' :: r => .ok (none, r)
  | r =>
    if first then
      match r with
      | '"' :: r => .ok (some (), r)
      | r => .error (.within r .keyNotText)
    else
      match r with
      | ',' :: r =>
        match skipBlanks r with
        | [] => .error (.before [] .endInValue)
        | '"' :: r => .ok (some (), r)
        | '\x7d' :: r => .error (.within ('\x7d' :: r) .trailingComma)
        | r => .error (.within r .keyNotText)
      | r => .error (.within r .wantsMemberOrEnd)

mutual
/-- Reads a value; `depth` is the number of levels it may still nest in a strict reading. -/
def value (lenient : Bool) : Nat → Nat → List Char → Except Fault (Node × List Char)
  | 0, _, cs => .error (.before cs .endInValue)
  | fuel + 1, depth, cs =>
    match skipBlanks cs with
    | [] => .error (.before [] .endInValue)
    | 'n' :: r => do
      let (s, r) ← literal .ofNull ['u', 'l', 'l'] r
      .ok (.scalar s, r)
    | 't' :: r => do
      let (s, r) ← literal (.ofBool true) ['r', 'u', 'e'] r
      .ok (.scalar s, r)
    | 'f' :: r => do
      let (s, r) ← literal (.ofBool false) ['a', 'l', 's', 'e'] r
      .ok (.scalar s, r)
    | '-' :: r => do
      let (s, r) ← number lenient true r
      .ok (.scalar s, r)
    | '"' :: r => do
      let (s, r) ← string lenient r
      .ok (.scalar (s.elim .unreadable .ofText), r)
    | '[' :: r =>
      if lenient = false ∧ depth = 0 then .error (.within ('[' :: r) .tooDeep)
      else do
        let (ns, r) ← items lenient fuel (depth - 1) true r
        .ok (.seq ns, r)
    | '\x7b' :: r =>
      if lenient = false ∧ depth = 0 then .error (.within ('\x7b' :: r) .tooDeep)
      else do
        let (es, r) ← entries lenient fuel (depth - 1) true r
        .ok (.map es, r)
    | c :: r =>
      if c.isDigit then do
        let (s, r) ← number lenient false (c :: r)
        .ok (.scalar s, r)
      else .error (.within (c :: r) .wantsValue)
def items (lenient : Bool) :
    Nat → Nat → Bool → List Char → Except Fault (List Node × List Char)
  | 0, _, _, cs => .error (.before cs .endInArray)
  | fuel + 1, depth, first, cs => do
    match ← nextItem first cs with
    | (none, r) => .ok ([], r)
    | (some (), r) =>
      let (n, r) ← value lenient fuel depth r
      let (ns, r) ← items lenient fuel depth false r
      .ok (n :: ns, r)
def entries (lenient : Bool) :
    Nat → Nat → Bool → List Char → Except Fault (List (Option String × Node) × List Char)
  | 0, _, _, cs => .error (.before cs .endInObject)
  | fuel + 1, depth, first, cs => do
    match ← nextKey first cs with
    | (none, r) => .ok ([], r)
    | (some (), r) =>
      let (k, r) ← string lenient r
      let r ← colon r
      let (n, r) ← value lenient fuel depth r
      let (es, r) ← entries lenient fuel depth false r
      .ok ((k, n) :: es, r)
end

def maxDepth : Nat := 127

def document (lenient : Bool) (text : String) : Except Fault Node := do
  let cs := text.toList
  let (n, r) ← value lenient (2 * cs.length + 2) maxDepth cs
  match skipBlanks r with
  | [] => .ok n
  | r => .error (.within r .trailingText)

end Text

def parse (text : String) : Except String Json :=
  match Text.document false text with
  | .error f => .error (f.describe text)
  | .ok n => (n.toJson Text.maxDepth).mapError Mismatch.message

end DesiredState.Json
