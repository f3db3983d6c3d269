/-!
Notices: what the library reports about its work, for a log.
-/

set_option autoImplicit false
set_option relaxedAutoImplicit false

namespace DesiredState

inductive Level where
  | info
  | warn
  | error
deriving DecidableEq

def Level.name : Level → String
  | .info => "INFO"
  | .warn => "WARN"
  | .error => "ERROR"

structure Notice where
  level : Level
  message : String
  fields : List (String × String)
deriving DecidableEq

namespace Notice

def about (level : Level) (name ns message : String) (more : List (String × String)) : Notice :=
  ⟨level, message, ("statefulset", name) :: ("namespace", ns) :: more⟩

end Notice

end DesiredState
