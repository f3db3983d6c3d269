import DesiredState.Patch.Diff
import DesiredState.Patch.Ignore
import DesiredState.Patch.Snapshot
import DesiredState.Text.Shown
/-!
Comparing a stored object with the desired one: the three-way difference with the snapshot on the
stored object, after the ignore rules were applied to all three.
-/

set_option autoImplicit false
set_option relaxedAutoImplicit false

namespace DesiredState

/-- The outcome of a comparison: the merge patch, if anything changes. -/
structure Patch where
  change? : Option Json
deriving DecidableEq

namespace Patch

def isEmpty (p : Patch) : Bool := p.change?.isNone

/-- The patch as JSON text; an empty object when nothing changes. -/
def text (p : Patch) : String := (p.change?.getD (.obj [])).compact

def shown (p : Patch) : String :=
  "PatchResult \x7b patch: " ++ Text.shown p.text ++ ", empty: "
    ++ (if p.isEmpty then "true" else "false") ++ " \x7d"

def calculate (key : String) (rules : List IgnoreRule) (current modified : Subject) :
    Except PatchError Patch := do
  let applied ← Snapshot.read key current
  let c ← current.json.mapError .unwritable
  let m ← modified.json.mapError .unwritable
  let prepared := IgnoreRule.applyAll rules
  return ⟨Json.diff (applied.elim .null prepared) (prepared m) (prepared c)⟩

end Patch

end DesiredState
