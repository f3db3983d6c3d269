import DesiredState.Text.Digits
import DesiredState.Yaml.Plain
import DesiredState.Yaml.Token.Basic
/-!
Tags, anchors and directives. A tag is written in full between angle brackets, or as a handle and
the rest of it; a directive says what start of a tag a handle stands for.
-/

set_option autoImplicit false
set_option relaxedAutoImplicit false

namespace DesiredState.Yaml

/-- Characters of a tag; `brackets` admits the comma and the square brackets too. -/
def isTagChar (brackets : Bool) (c : Char) : Bool :=
  isNameChar c
    || [';', '/', '?', ':', '@', '&', '=', '+', '$', '.', '%', '!', '~', '*', '\x27', '(',
        ')'].contains c
    || (brackets && [',', '[', ']'].contains c)

def octet? : List Char → Option (Nat × List Char)
  | '%' :: a :: b :: cs => (Plain.inRadix? 16 [a, b]).map fun n => (n, cs)
  | _ => none

/-- How many octets a character takes, and the bits of it in the first one. -/
def leadingOctet? (n : Nat) : Option (Nat × Nat) :=
  if n < 0x80 then some (1, n)
  else if 0xC0 ≤ n ∧ n < 0xE0 then some (2, n - 0xC0)
  else if 0xE0 ≤ n ∧ n < 0xF0 then some (3, n - 0xE0)
  else if 0xF0 ≤ n ∧ n < 0xF8 then some (4, n - 0xF0)
  else none

def trailingOctets : Nat → Nat → List Char → Option (Nat × List Char)
  | 0, n, cs => some (n, cs)
  | k + 1, n, cs =>
    match octet? cs with
    | some (m, r) => if 0x80 ≤ m ∧ m < 0xC0 then trailingOctets k (n * 64 + (m - 0x80)) r else none
    | none => none

def octets? (cs : List Char) : Option (Char × List Char) := do
  let (first, r) ← octet? cs
  let (width, bits) ← leadingOctet? first
  let (n, r) ← trailingOctets (width - 1) bits r
  return (Char.ofNat n, r)

def decodeTag : Nat → List Char → Option (List Char)
  | 0, _ => some []
  | _, [] => some []
  | fuel + 1, c :: cs =>
    if c == '%' then do
      let (d, r) ← octets? (c :: cs)
      return d :: (← decodeTag fuel r)
    else do return c :: (← decodeTag fuel cs)

def tagChars (brackets : Bool) (cs : List Char) : Scan (List Char) :=
  let written := cs.takeWhile (isTagChar brackets)
  (decodeTag written.length written).elim (.error .badTag) fun t =>
    .ok (t, cs.dropWhile (isTagChar brackets))

def tagText (brackets : Bool) (cs : List Char) : Except Flaw (List Char × List Char) := do
  let (t, r) ← tagChars brackets cs
  if t.isEmpty then .error .badTag else return (t, r)

def tag (flow : Bool) (cs : List Char) : Except Flaw (Token × List Char) := do
  let name := cs.takeWhile isNameChar
  let r := cs.dropWhile isNameChar
  let (t, r) ←
    if cs.head? == some '<' then do
      let (t, r) ← tagText true (cs.drop 1)
      if r.head? == some '>' then pure (Token.tag "" (String.ofList t), r.drop 1)
      else .error .badTag
    else if r.head? == some '!' then do
      let (t, r) ← tagText false (r.drop 1)
      pure (Token.tag (String.ofList ('!' :: name ++ ['!'])) (String.ofList t), r)
    else do
      let (t, r) ← tagChars false r
      let rest := name ++ t
      pure (if rest.isEmpty then Token.tag "" "!" else Token.tag "!" (String.ofList rest), r)
  if isBlankOrEnd r.head? || (flow && r.head? == some ',') then return (t, r) else .error .badTag

def anchorName (cs : List Char) : Scan String :=
  let name := cs.takeWhile isNameChar
  let r := cs.dropWhile isNameChar
  let ended := isBlankOrEnd r.head?
    || r.head?.any ['?', ':', ',', ']', '\x7d', '%', '@', '\x60'].contains
  if name.isEmpty || !ended then .error .badAnchor else .ok (String.ofList name, r)

def versionPart (cs : List Char) : Scan Nat :=
  let ds := cs.takeWhile Char.isDigit
  if ds.isEmpty || 9 < ds.length then .error .badDirective
  else .ok (Text.decimalValue ds, cs.dropWhile Char.isDigit)

def version (cs : List Char) : Except Flaw (Token × List Char) := do
  let (major, r) ← versionPart (cs.dropWhile isSpace)
  if r.head? == some '.' then
    let (minor, r) ← versionPart (r.drop 1)
    return (.version major minor, r)
  else .error .badDirective

def handle (cs : List Char) : Except Flaw (Token × List Char) := do
  match cs.dropWhile isSpace with
  | '!' :: r =>
    let name := r.takeWhile isNameChar
    let r := r.dropWhile isNameChar
    let closed := r.head? == some '!'
    if !closed && !name.isEmpty then .error .badDirective
    else
      let handle := '!' :: name ++ (if closed then ['!'] else [])
      let r := if closed then r.drop 1 else r
      if !r.head?.any isSpace then .error .badDirective
      else
        let (start, r) ← tagText true (r.dropWhile isSpace)
        if isBlankOrEnd r.head? then
          return (.handle (String.ofList handle) (String.ofList start), r)
        else .error .badDirective
  | _ => .error .badDirective

def directive (cs : List Char) : Except Flaw (Token × List Char) := do
  let name := cs.takeWhile isNameChar
  let r := cs.dropWhile isNameChar
  if !isBlankOrEnd r.head? then .error .badDirective
  else
    match String.ofList name with
    | "YAML" => version r
    | "TAG" => handle r
    | _ => .error .badDirective

end DesiredState.Yaml
