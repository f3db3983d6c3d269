import DesiredState.Json.Parse
import DesiredState.Json.Print
import DesiredState.Parameters.Json
import DesiredState.Parameters.Read
import DesiredState.ParameterError
import DesiredState.Yaml.Linked
import DesiredState.Yaml.Print
/-!
Typed objects and parameters from texts, and back.
-/

set_option autoImplicit false
set_option relaxedAutoImplicit false

namespace DesiredState

/-- What JSON allows: 127 levels, and parameter blocks as arrays. -/
def Reading.json : Reading := ⟨Json.Text.maxDepth, true⟩

/-- What YAML allows: 127 levels, and no parameter blocks as sequences. -/
def Reading.yaml : Reading := ⟨Yaml.maxDepth, false⟩

def Reading.of : Format → Reading
  | .json => .json
  | .yaml => .yaml

def Node.ofJson (text : String) : Except ParameterError Node :=
  (Json.Text.document true text).mapError fun f => .malformed .json (f.describe text)

def Node.ofYaml (text : String) : Except ParameterError Node :=
  (Yaml.document text).mapError fun f => .malformed .yaml f.message

def Node.ofText : Format → String → Except ParameterError Node
  | .json => Node.ofJson
  | .yaml => Node.ofYaml

def Value.parse {t : Ty} (format : Format) (text : String) : Except ParameterError (Value t) := do
  let n ← Node.ofText format text
  (Value.read (Reading.of format).depth n).mapError fun e => .malformed format e.message

def Parameters.parse (format : Format) (text : String) : Except ParameterError Parameters := do
  let n ← Node.ofText format text
  (Parameters.read (.of format) n).mapError fun e => .malformed format e.message

def writeJson (j : Except String Json) : Except ParameterError String :=
  (j.mapError (ParameterError.unwritable .json)).map Json.compact

def writeYaml (j : Except String Json) : Except ParameterError String :=
  (j.mapError (ParameterError.unwritable .yaml)).map Yaml.print

end DesiredState
