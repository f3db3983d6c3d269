import DesiredState.Json.Basic
/-!
What a comparison leaves out. A rule drops designated members of an object; it is applied to both
sides and to the snapshot before they are compared.
-/

set_option autoImplicit false
set_option relaxedAutoImplicit false

namespace DesiredState

inductive IgnoreRule where
  | status
  | claimTypeMetaAndStatus
  /-- What the API server fills in on volume claim templates. -/
  | claimVolatile
  | field (path : String)
deriving DecidableEq

namespace IgnoreRule

def splitAtDots : List Char → List (List Char)
  | [] => [[]]
  | c :: cs =>
    if c = '.' then [] :: splitAtDots cs
    else
      match splitAtDots cs with
      | s :: ss => (c :: s) :: ss
      | [] => [[c]]

def segments (path : String) : List String :=
  ((splitAtDots path.toList).filter (· ≠ [])).map String.ofList

/-- Drops the member at the end of a path through objects. -/
def dropPath : List String → Json → Json
  | [], j => j
  | [name], j => j.dropMember name
  | name :: rest, j => j.mapMember name (dropPath rest)

def onClaimTemplates (f : Json → Json) (j : Json) : Json :=
  j.mapMember "spec" fun spec =>
    spec.mapMember "volumeClaimTemplates" fun
      | .arr claims => .arr (claims.map f)
      | other => other

def claimPaths : IgnoreRule → List (List String)
  | .claimTypeMetaAndStatus => [["kind"], ["apiVersion"], ["status"]]
  | .claimVolatile => [["metadata", "creationTimestamp"], ["spec", "volumeMode"]]
  | .status | .field _ => []

def apply : IgnoreRule → Json → Json
  | .status, j => dropPath ["status"] j
  | .field path, j => dropPath (segments path) j
  | rule, j =>
    onClaimTemplates (fun claim => rule.claimPaths.foldl (fun c p => dropPath p c) claim) j

def applyAll (rules : List IgnoreRule) (j : Json) : Json :=
  rules.foldl (fun j rule => rule.apply j) j

/-- The rules for a StatefulSet: metadata is left out as a whole, since annotations are merged
and what the store owns is copied. -/
def defaults : List IgnoreRule :=
  [.status, .claimTypeMetaAndStatus, .claimVolatile, .field "kind", .field "apiVersion",
    .field "metadata"]

end IgnoreRule

end DesiredState
