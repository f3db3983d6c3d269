import DesiredState.Yaml.Token.Basic
/-!
White space between the words of a scalar. Within a line it is kept; a single line end becomes a
space, and of several all but the first are kept.
-/

set_option autoImplicit false
set_option relaxedAutoImplicit false

namespace DesiredState.Yaml

structure Gap where
  /-- The spaces before the first line end, in reverse. -/
  spaces : List Char := []
  broken : Bool := false
  /-- The first line end, unless it is escaped. -/
  first : Option Char := none
  others : List Char := []
  column : Nat := 0

namespace Gap

def escaped : Gap := { broken := true }

def add (g : Gap) (c : Char) : Gap :=
  if isBreak c then
    if g.broken then { g with others := c :: g.others, column := 0 }
    else { g with spaces := [], broken := true, first := some c, column := 0 }
  else if g.broken then { g with column := g.column + 1 }
  else { g with spaces := c :: g.spaces }

def folded (g : Gap) : List Char :=
  if !g.broken then g.spaces
  else if g.first == some '\n' then if g.others.isEmpty then [' '] else g.others
  else g.others ++ g.first.toList

end Gap

end DesiredState.Yaml
