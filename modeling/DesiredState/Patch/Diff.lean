import DesiredState.Json.Basic
/-!
The three-way difference of the last applied, the desired and the stored value. Null stands for
a missing value on each side. A member changes where the desired value differs from the stored
one; a member is removed where the last applied value had it and the desired one has not. What
only the stored value has is left alone.
-/

set_option autoImplicit false
set_option relaxedAutoImplicit false

namespace DesiredState.Json

mutual
/-- Without content: null, an empty array, an object of blank members. -/
def isBlank : Json → Bool
  | .null => true
  | .arr items => items.isEmpty
  | .obj ms => allBlank ms
  | _ => false
def allBlank : List (String × Json) → Bool
  | [] => true
  | (_, j) :: ms => isBlank j && allBlank ms
end

def memberOrNull (k : String) (j : Json) : Json := (j.member? k).getD .null

def membersOrNone (j : Json) : Members Json := j.members?.getD []

def itemsOrNone (j : Json) : List Json := j.items?.getD []

/-- The keys that the last applied object had, the desired one has not and the stored one still
has. -/
def droppedKeys (applied modified current : Members Json) : List String :=
  applied.keys.filter fun k =>
    (modified.get? k).isNone && !((current.get? k).getD .null).isNull

mutual
/-- The merge patch that takes the stored value to the desired one, if anything changes. Arrays
are replaced as a whole. -/
def diff (applied : Json) : (modified current : Json) → Option Json
  | .null, c => if c.isNull then none else some .null
  | .obj ms, .obj cs =>
    let changes := diffMembers applied ms cs
    let dropped := droppedKeys applied.membersOrNone ms cs
    let patch := dropped.foldl (fun p k => Members.insert k .null p) changes
    if patch.isEmpty then none else some (.obj patch)
  | .arr ms, .arr cs =>
    if sameItemsAfter applied.itemsOrNone ms cs then none else some (.arr ms)
  | m, c =>
    if c.isNull then if m.isBlank then none else some m
    else if m.same c then none else some m
def diffMembers (applied : Json) : List (String × Json) → Members Json → Members Json
  | [], _ => []
  | (k, m) :: ms, cs =>
    let changes := diffMembers applied ms cs
    match diff (applied.memberOrNull k) m ((Members.get? k cs).getD .null) with
    | some change => (k, change) :: changes
    | none => changes
def sameItemsAfter (applied : List Json) : (modified current : List Json) → Bool
  | [], [] => true
  | m :: ms, c :: cs =>
    (diff (applied.headD .null) m c).isNone && sameItemsAfter applied.tail ms cs
  | _, _ => false
end

end DesiredState.Json
