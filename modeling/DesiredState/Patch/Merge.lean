import DesiredState.Json.Basic
/-!
Merge patches (RFC 7386): a patch that is an object changes the members it names, null removes a
member, and any other patch replaces the value.
-/

set_option autoImplicit false
set_option relaxedAutoImplicit false

namespace DesiredState.Json

mutual
def merge (target : Json) : Json → Json
  | .obj ps => .obj (mergeMembers (target.members?.getD []) ps)
  | p => p
def mergeMembers (target : Members Json) : List (String × Json) → Members Json
  | [] => target
  | (k, p) :: ps =>
    if p.isNull then mergeMembers (target.erase k) ps
    else mergeMembers (target.insert k (merge ((target.get? k).getD .null) p)) ps
end

end DesiredState.Json
