import DesiredState.Json.Basic
import DesiredState.Yaml.Chars
import DesiredState.Yaml.Plain
/-!
YAML text of JSON values: block style without folding, items no deeper than the key above them,
empty collections in brackets. A string is quoted where it would not read back as itself, and
written as a literal block where it has several lines.
-/

set_option autoImplicit false
set_option relaxedAutoImplicit false

namespace DesiredState.Yaml

def isPrintable (c : Char) : Bool :=
  let n := c.toNat
  n == 0x0A || (0x20 ≤ n && n ≤ 0x7E)
    || (0xA0 ≤ n && n ≠ 0xFEFF && n ≠ 0xFFFE && n ≠ 0xFFFF)

inductive Style where
  | plain
  | single
  | double
  | literal
deriving DecidableEq

def leadingIndicators : List Char :=
  ['#', ',', '[', ']', '\x7b', '\x7d', '&', '*', '!', '|', '>', '\x27', '"', '%', '@', '\x60']

/-- Whether a scalar holds something that means more than itself in block context; `before` is
the character before the rest. -/
def hasIndicator (before : Option Char) : List Char → Bool
  | [] => false
  | c :: cs =>
    let here :=
      match before with
      | none =>
        leadingIndicators.contains c
          || ((c == '?' || c == ':' || c == '-') && isBlankOrEnd cs.head?)
      | some _ =>
        (c == ':' && isBlankOrEnd cs.head?) || (c == '#' && isBlankOrEnd before)
    here || hasIndicator (some c) cs

def hasPair (p : Char → Char → Bool) : List Char → Bool
  | a :: b :: cs => p a b || hasPair p (b :: cs)
  | _ => false

def hasOuterBlank (cs : List Char) : Bool :=
  let outer (c : Option Char) := c.any fun c => c == ' ' || isBreak c
  outer cs.head? || outer cs.getLast?

def plainKeeps (cs : List Char) : Bool :=
  cs.all (fun c => isPrintable c && !isBreak c) && !hasOuterBlank cs && !hasIndicator none cs
    && !(cs.take 3 == ['-', '-', '-'] || cs.take 3 == ['.', '.', '.'])

def singleKeeps (cs : List Char) : Bool :=
  cs.all isPrintable && !hasPair (fun a b => a == ' ' && isBreak b) cs
    && !hasPair (fun a b => isBreak a && b == ' ') cs

def literalKeeps (cs : List Char) : Bool :=
  cs ≠ [] && cs.all isPrintable && !hasPair (fun a b => a == ' ' && isBreak b) cs
    && cs.getLast? ≠ some ' '

/-- The first style that keeps the characters, from the wished one on. -/
def Style.settle (cs : List Char) : Style → Style
  | .plain => if plainKeeps cs then .plain else if singleKeeps cs then .single else .double
  | .single => if singleKeeps cs then .single else .double
  | .literal => if literalKeeps cs then .literal else .double
  | .double => .double

/-- The style of a string: a literal block for several lines, quotes where the plain scalar would
be something else or a zero-padded number. -/
def styleOf (s : String) : Style :=
  let cs := s.toList
  let wished : Style :=
    if '\n' ∈ cs then .literal
    else if Plain.ofText s ≠ .text ∨ Plain.zeroPadded cs then .single
    else .plain
  wished.settle cs

/-- The text written so far, in reverse, and what matters of it: the column, whether it ends in
white space, and whether only indentation stands on the line. -/
structure Page where
  written : List Char
  column : Nat
  spaced : Bool
  indented : Bool

namespace Page

def empty : Page := ⟨[], 0, true, true⟩

def put (p : Page) (c : Char) : Page := { p with written := c :: p.written, column := p.column + 1 }

def putAll (p : Page) (cs : List Char) : Page := cs.foldl put p

def breakWith (p : Page) (c : Char) : Page := { p with written := c :: p.written, column := 0 }

def indentTo (p : Page) (n : Nat) : Page :=
  let p := if !p.indented || n < p.column || (p.column == n && !p.spaced) then p.breakWith '\n'
    else p
  let p := p.putAll (List.replicate (n - p.column) ' ')
  { p with spaced := true, indented := true }

def indicator (p : Page) (needsSpace keepsIndent : Bool) (cs : List Char) : Page :=
  let p := if needsSpace && !p.spaced then p.put ' ' else p
  { p.putAll cs with spaced := false, indented := p.indented && keepsIndent }

def scalarEnd (p : Page) : Page := { p with spaced := false, indented := false }

def plain (p : Page) (cs : List Char) : Page :=
  let p := if p.spaced || cs.isEmpty then p else p.put ' '
  (p.putAll cs).scalarEnd

/-- Writes the characters between single quotes; `breaks` says whether the last one ended a
line. -/
def singleBody (n : Nat) (p : Page) (breaks : Bool) : List Char → Page
  | [] => if breaks then p.indentTo n else p
  | c :: cs =>
    if isBreak c then
      let p := if !breaks && c == '\n' then p.breakWith '\n' else p
      singleBody n { p.breakWith c with indented := true } true cs
    else if c == ' ' then singleBody n (p.put c) breaks cs
    else
      let p := if breaks then p.indentTo n else p
      let p := if c == '\x27' then p.put c else p
      singleBody n { p.put c with indented := false } false cs

def single (p : Page) (n : Nat) (cs : List Char) : Page :=
  let p := p.indicator true false ['\x27']
  ((singleBody n p false cs).indicator false false ['\x27']).scalarEnd

def hexDigits (width n : Nat) : List Char :=
  let ds := (Nat.toDigits 16 n).map Char.toUpper
  List.replicate (width - ds.length) '0' ++ ds

def doubleChar (c : Char) : List Char :=
  let n := c.toNat
  if isPrintable c && !isBreak c && c ≠ '"' && c ≠ '\\' then [c]
  else
    match n with
    | 0x00 => ['\\', '0']
    | 0x07 => ['\\', 'a']
    | 0x08 => ['\\', 'b']
    | 0x09 => ['\\', 't']
    | 0x0A => ['\\', 'n']
    | 0x0B => ['\\', 'v']
    | 0x0C => ['\\', 'f']
    | 0x0D => ['\\', 'r']
    | 0x1B => ['\\', 'e']
    | 0x22 => ['\\', '"']
    | 0x5C => ['\\', '\\']
    | 0x85 => ['\\', 'N']
    | 0x2028 => ['\\', 'L']
    | 0x2029 => ['\\', 'P']
    | _ =>
      if n ≤ 0xFF then '\\' :: 'x' :: hexDigits 2 n
      else if n ≤ 0xFFFF then '\\' :: 'u' :: hexDigits 4 n
      else '\\' :: 'U' :: hexDigits 8 n

def double (p : Page) (cs : List Char) : Page :=
  let p := p.indicator true false ['"']
  ((p.putAll (cs.flatMap doubleChar)).indicator false false ['"']).scalarEnd

/-- What the head of a literal block says of its last line ends: strip them, keep them all, or
(nothing) keep one. -/
def chomping (cs : List Char) : List Char :=
  match cs.reverse with
  | [] => ['-']
  | c :: before =>
    if !isBreak c then ['-']
    else
      match before with
      | [] => ['+']
      | d :: _ => if isBreak d then ['+'] else []

def literalBody (n : Nat) (p : Page) (breaks : Bool) : List Char → Page
  | [] => p
  | c :: cs =>
    if isBreak c then literalBody n { p.breakWith c with indented := true } true cs
    else
      let p := if breaks then p.indentTo n else p
      literalBody n { p.put c with indented := false } false cs

def literal (p : Page) (n : Nat) (cs : List Char) : Page :=
  let p := p.indicator true false ['|']
  let p := if cs.head?.any fun c => c == ' ' || isBreak c then p.indicator false false ['2'] else p
  let p := match chomping cs with
    | [] => p
    | hint => p.indicator false false hint
  literalBody n { p.breakWith '\n' with indented := true, spaced := true } true cs

def text (p : Page) (n : Nat) (s : String) : Page :=
  match styleOf s with
  | .plain => p.plain s.toList
  | .single => p.single n s.toList
  | .double => p.double s.toList
  | .literal => p.literal n s.toList

end Page

/-- Keys of one line and at most 128 bytes stand before their value without a mark. -/
def isSimpleKey (k : String) : Bool := !k.toList.any isBreak && k.utf8ByteSize ≤ 128

mutual
/-- Writes a value. The collection around it is indented by `outer`, if there is one; `attached`
says that the value stands behind a key on the same line. -/
def value (p : Page) (outer : Option Nat) (attached : Bool) : Json → Page
  | .null => p.plain ['n', 'u', 'l', 'l']
  | .bool b => p.plain (if b then ['t', 'r', 'u', 'e'] else ['f', 'a', 'l', 's', 'e'])
  | .int n => p.plain (toString n).toList
  | .float x => p.plain x.render.toList
  | .str s => p.text (outer.elim 2 (· + 2)) s
  | .arr [] => (p.indicator true false ['[']).indicator false false [']']
  | .obj [] => (p.indicator true false ['\x7b']).indicator false false ['\x7d']
  | .arr (j :: js) => items p (outer.elim 0 fun n => if attached then n else n + 2) (j :: js)
  | .obj (m :: ms) => members p (outer.elim 0 (· + 2)) (m :: ms)
def items (p : Page) (n : Nat) : List Json → Page
  | [] => p
  | j :: js =>
    let p := (p.indentTo n).indicator true true ['-']
    items (value p (some n) false j) n js
def members (p : Page) (n : Nat) : List (String × Json) → Page
  | [] => p
  | (k, j) :: ms =>
    let p := p.indentTo n
    let p := if isSimpleKey k then (p.text (n + 2) k).indicator false false [':']
      else (((p.indicator true true ['?']).text (n + 2) k).indentTo n).indicator true true [':']
    members (value p (some n) (isSimpleKey k) j) n ms
end

def print (j : Json) : String :=
  String.ofList (((value .empty none false j).indentTo 0).written.reverse)

end DesiredState.Yaml
