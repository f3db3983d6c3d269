/-!
Character classes of YAML, and texts whose lines end in one way.
-/

set_option autoImplicit false
set_option relaxedAutoImplicit false

namespace DesiredState.Yaml

def isBreak (c : Char) : Bool :=
  c == '\n' || c == '\x0d' || c == '\u0085' || c == '\u2028' || c == '\u2029'

def isSpace (c : Char) : Bool := c == ' ' || c == '\t'

def isBlank (c : Char) : Bool := isSpace c || isBreak c

def isBlankOrEnd : Option Char → Bool
  | none => true
  | some c => isBlank c || c == '\x00'

def isNameChar (c : Char) : Bool := c.isAlphanum || c == '-' || c == '_'

def isAllowed (c : Char) : Bool :=
  let n := c.toNat
  n == 0x09 || n == 0x0A || n == 0x0D || (0x20 ≤ n && n ≤ 0x7E) || n == 0x85
    || (0xA0 ≤ n && n ≤ 0xFFFD) || 0x10000 ≤ n

/-- The same text with each line that ends in a carriage return, a line feed, both or a next-line
character ending in a line feed. -/
def unifyBreaks : List Char → List Char
  | [] => []
  | '\x0d' :: '\n' :: cs => '\n' :: unifyBreaks cs
  | c :: cs => (if c == '\x0d' || c == '\u0085' then '\n' else c) :: unifyBreaks cs

def isBoundary (mark : Char) : List Char → Bool
  | a :: b :: c :: cs => a == mark && b == mark && c == mark && isBlankOrEnd cs.head?
  | _ => false

def atBoundary (cs : List Char) : Bool := isBoundary '-' cs || isBoundary '.' cs

end DesiredState.Yaml
