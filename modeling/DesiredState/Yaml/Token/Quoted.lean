import DesiredState.Text.Digits
import DesiredState.Yaml.Token.Gap
import DesiredState.Yaml.Plain
/-!
Scalars in quotes. Between single quotes a quote is written twice; between double quotes a
backslash starts an escape or joins two lines.
-/

set_option autoImplicit false
set_option relaxedAutoImplicit false

namespace DesiredState.Yaml

def escapeOf? : Char → Option Char
  | '0' => some '\x00'
  | 'a' => some '\x07'
  | 'b' => some '\x08'
  | 't' | '\t' => some '\t'
  | 'n' => some '\n'
  | 'v' => some '\x0b'
  | 'f' => some '\x0c'
  | 'r' => some '\x0d'
  | 'e' => some '\x1b'
  | ' ' => some ' '
  | '"' => some '"'
  | '/' => some '/'
  | '\\' => some '\\'
  | 'N' => some '\u0085'
  | '_' => some '\u00a0'
  | 'L' => some '\u2028'
  | 'P' => some '\u2029'
  | _ => none

def escapeWidth? : Char → Option Nat
  | 'x' => some 2
  | 'u' => some 4
  | 'U' => some 8
  | _ => none

def ofCodePoint? (n : Nat) : Option Char := if n.isValidChar then some (Char.ofNat n) else none

/-- The character whose code point is written with as many hexadecimal digits as `width` says. -/
def ofDigits? (width : Nat) (digits : List Char) : Option Char :=
  if digits.length = width then (Plain.inRadix? 16 digits).bind ofCodePoint? else none

def escape : List Char → Scan Char
  | [] => .error .badEscape
  | c :: cs =>
    match escapeOf? c, escapeWidth? c with
    | some e, _ => .ok (e, cs)
    | none, some width =>
      match ofDigits? width (cs.take width) with
      | some e => .ok (e, cs.drop width)
      | none => .error .badEscape
    | none, none => .error .badEscape

private theorem length_le_of_escape {cs : List Char} {e : Char} {r : List Char}
    (h : escape cs = .ok (e, r)) : r.length ≤ cs.length := by
  cases cs with
  | nil => simp [escape] at h
  | cons c cs =>
    simp only [escape] at h
    split at h
    · cases h; simp
    · split at h <;> cases h
      simp only [List.length_drop, List.length_cons]
      omega
    · cases h

/-- Reads a scalar after its opening quote, onto the text read so far in reverse; `gap` is the
white space read since. -/
def quotedBody (quote : Char) (written : List Char) (gap : Gap) (cs : List Char) : Scan String :=
  match cs with
  | [] => .error .endInQuotes
  | c :: cs =>
    if isBlank c then quotedBody quote written (gap.add c) cs
    else if gap.broken && gap.column == 0 && atBoundary (c :: cs) then .error .boundaryInQuotes
    else
      let written := gap.folded ++ written
      if c == quote then
        if quote == '\x27' && cs.head? == some '\x27' then
          quotedBody quote (c :: written) {} (cs.drop 1)
        else .ok (String.ofList written.reverse, cs)
      else if c == '\\' && quote == '"' then
        if cs.head?.any isBreak then quotedBody quote written .escaped (cs.drop 1)
        else
          match _h : escape cs with
          | .error f => .error f
          | .ok (e, r) => quotedBody quote (e :: written) {} r
      else quotedBody quote (c :: written) {} cs
termination_by cs.length
decreasing_by
  all_goals simp only [List.length_cons, List.length_drop]
  any_goals omega
  have := length_le_of_escape _h
  omega

def quoted (quote : Char) (cs : List Char) : Scan String := quotedBody quote [] {} cs

end DesiredState.Yaml
