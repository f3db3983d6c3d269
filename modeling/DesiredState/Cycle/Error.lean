import DesiredState.ParameterError
import DesiredState.Patch.Snapshot
import DesiredState.ResourceKey
/-!
Why a cycle, or a call to a store, fails.
-/

set_option autoImplicit false
set_option relaxedAutoImplicit false

namespace DesiredState

inductive Operation where
  | get
  | create
  | update
deriving DecidableEq

def Operation.method : Operation → String
  | .get => "GET"
  | .create => "POST"
  | .update => "PUT"

inductive TransportFault where
  /-- A failure that the store was told to give. -/
  | injected (message : String)
  | unsent (detail : String)
  | refused (status body : String)
  | unparsable (detail : String)
deriving DecidableEq

def TransportFault.message : TransportFault → String
  | .injected message => message
  | .unsent detail => "HTTP request failed: " ++ detail
  | .refused status body => "status " ++ status ++ ": " ++ body
  | .unparsable detail => "Failed to parse StatefulSet: " ++ detail

inductive ConflictCause where
  | exists
  | stale (submitted stored : Option String)
  | told (reason : String)
deriving DecidableEq

def ConflictCause.message : ConflictCause → String
  | .exists => "StatefulSet already exists"
  | .stale submitted stored => "resourceVersion " ++ Text.shownOption submitted
      ++ " does not match stored " ++ Text.shownOption stored
  | .told reason => reason

inductive CycleError where
  | parameters (e : ParameterError)
  | patch (e : PatchError)
  | transport (op : Operation) (key : ResourceKey) (fault : TransportFault)
  | conflict (key : String) (cause : ConflictCause)
  | missing (key : String)
  | nameless
deriving DecidableEq

namespace CycleError

def message : CycleError → String
  | .parameters e => e.message
  | .patch e => e.message
  | .transport op key fault => op.method ++ " " ++ key.text ++ " failed: " ++ fault.message
  | .conflict key cause => "Conflict updating " ++ key ++ ": " ++ cause.message
  | .missing key => "Inconsistent state: StatefulSet " ++ key ++ " does not exist"
  | .nameless => "Inconsistent state: cannot update a StatefulSet without a name"

def code : CycleError → String
  | .parameters e => e.code
  | .patch e => e.code
  | .transport .. => "stately::reconciler::transport_error"
  | .conflict .. => "stately::reconciler::conflict"
  | .missing _ | .nameless => "stately::reconciler::inconsistent_state"

def help : CycleError → String
  | .parameters e => e.help
  | .patch e => e.help
  | .transport op .. => "Check that the API server is reachable and the credentials allow "
      ++ op.method ++ " on StatefulSets. The cycle made no further changes and can be retried"
  | .conflict .. => "Another writer modified the StatefulSet. Run the reconcile again to compare "
      ++ "against the latest version"
  | .missing _ | .nameless => "This is likely a bug in stately-reconciler or a misbehaving API "
      ++ "server. Please report it with the full error details"

def isValidation : CycleError → Bool
  | .parameters e => e.isValidation
  | _ => false

end CycleError

/-- The errors `ε` of one layer hold those of another one, which come through unchanged. -/
class Wraps (ε α : Type) where
  wrap : α → ε

instance : Wraps CycleError ParameterError := ⟨.parameters⟩

instance : Wraps CycleError PatchError := ⟨.patch⟩

end DesiredState
