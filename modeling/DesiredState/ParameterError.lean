import DesiredState.Quantity.Parse
import DesiredState.Text.Shown
/-!
Why parameters cannot be used: they do not say which object is meant, hold a bad quantity, or
cannot be read or written.
-/

set_option autoImplicit false
set_option relaxedAutoImplicit false

namespace DesiredState

inductive Format where
  | json
  | yaml
deriving DecidableEq

def Format.name : Format → String
  | .json => "JSON"
  | .yaml => "YAML"

inductive ParameterError where
  /-- No name or no namespace, found while building the object. -/
  | unnamed (name ns : String)
  /-- No name or no namespace, found before asking the store. -/
  | unaddressed (name ns : String)
  | badQuantity (refusal : Quantity.Refusal)
  | malformed (format : Format) (detail : String)
  | unwritable (format : Format) (detail : String)
  | unreadable (path detail : String)
deriving DecidableEq

namespace ParameterError

def message : ParameterError → String
  | .unnamed name ns => "Validation failed for StatefulSet: name (" ++ Text.shown name
      ++ ") or namespace (" ++ Text.shown ns ++ ") is empty"
  | .unaddressed name ns => "Validation failed for StatefulSet: name '" ++ name
      ++ "' and namespace '" ++ ns ++ "' must both be set"
  | .badQuantity r => "Invalid quantity '" ++ r.text ++ "': " ++ r.flaw.message
  | .malformed format detail =>
    "Serialization error: Failed to deserialize from " ++ format.name ++ ": " ++ detail
  | .unwritable format detail =>
    "Serialization error: Failed to serialize to " ++ format.name ++ ": " ++ detail
  | .unreadable path detail => "Failed to read " ++ path ++ ": " ++ detail

def code : ParameterError → String
  | .unnamed .. | .unaddressed .. => "stately::validation_failed"
  | .badQuantity .. => "stately::invalid_quantity"
  | .malformed .. | .unwritable .. => "stately::serialization_error"
  | .unreadable .. => "stately::io_error"

def help : ParameterError → String
  | .unnamed .. => "Set both metadata.name and namespace in the reconciliation parameters"
  | .unaddressed .. => "Set metadata.name and namespace in the reconcile parameters"
  | .badQuantity .. => "Use a Kubernetes quantity such as '512Mi', '1Gi' or '10G'"
  | .malformed .. | .unwritable .. => "Ensure the parameter file is valid JSON or YAML"
  | .unreadable .. => "Check that the file exists and is readable"

def isValidation : ParameterError → Bool
  | .unnamed .. | .unaddressed .. | .badQuantity .. => true
  | .malformed .. | .unwritable .. | .unreadable .. => false

end ParameterError

end DesiredState
