import DesiredState.Yaml.Token.Gap
/-!
Scalars without quotes. One ends before a colon that is followed by white space, before a comment,
before a line that is not indented, and in flow context before a bracket or a comma.
-/

set_option autoImplicit false
set_option relaxedAutoImplicit false

namespace DesiredState.Yaml

def isFlowMark (c : Char) : Bool :=
  c == ',' || c == '[' || c == ']' || c == '\x7b' || c == '\x7d'

/-- A scalar without quotes, whether white space with a line end follows it, and how much of the
text was read. -/
structure Word where
  text : String
  broken : Bool

/-- Reads a scalar onto the text read so far in reverse; `gap` is the white space read since, if
any. Lines must be indented by `indent` columns in block context. -/
def wordBody (flow : Bool) (indent : Nat) (written : List Char) (gap : Option Gap) :
    List Char → Scan Word
  | [] => .ok (⟨String.ofList written.reverse, gap.any Gap.broken⟩, [])
  | c :: cs =>
    let stop : Scan Word := .ok (⟨String.ofList written.reverse, gap.any Gap.broken⟩, c :: cs)
    let g := gap.getD {}
    if isBlank c then
      if c == '\t' && g.broken && g.column < indent then .error .tabIndentation
      else wordBody flow indent written (some (g.add c)) cs
    else if g.broken && ((!flow && g.column < indent) || (g.column == 0 && atBoundary (c :: cs)))
      then stop
    else if gap.isSome && c == '#' then stop
    else if flow && c == ':' && cs.head?.any (fun d => isFlowMark d || d == '?') then
      .error .colonInFlow
    else if (c == ':' && isBlankOrEnd cs.head?) || (flow && isFlowMark c) then stop
    else wordBody flow indent (c :: g.folded ++ written) none cs

def word (flow : Bool) (indent : Nat) (cs : List Char) : Scan Word :=
  wordBody flow indent [] none cs

end DesiredState.Yaml
