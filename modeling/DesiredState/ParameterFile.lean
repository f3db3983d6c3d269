import DesiredState.Load
/-!
Parameters from a file: the extension of its name says in which format it is written.
-/

set_option autoImplicit false
set_option relaxedAutoImplicit false

namespace DesiredState

inductive FileEntry where
  | file (content : ByteArray)
  | directory
  | missing
  | closed (detail : String)

def FileEntry.text : FileEntry → Except String String
  | .file content =>
    match String.fromUTF8? content with
    | some s => .ok s
    | none => .error "stream did not contain valid UTF-8"
  | .directory => .error "Is a directory (os error 21)"
  | .missing => .error "No such file or directory (os error 2)"
  | .closed detail => .error detail

/-- The parts of a path between slashes; one dot stands for nothing. -/
def pathParts : List Char → List (List Char)
  | cs => (cs.splitOn '/').filter fun part => part ≠ [] ∧ part ≠ ['.']

def extension? (name : List Char) : Option (List Char) :=
  let back := name.reverse
  match back.dropWhile (· ≠ '.') with
  | _ :: _ :: _ => if name = ['.', '.'] then none else some (back.takeWhile (· ≠ '.')).reverse
  | _ => none

/-- Files whose names end in `.json` hold JSON, all others YAML. -/
def Format.ofPath (path : String) : Format :=
  if (pathParts path.toList).getLast?.bind extension? = some ['j', 's', 'o', 'n'] then .json
  else .yaml

def Parameters.ofFile (path : String) (entry : FileEntry) : Except ParameterError Parameters := do
  let text ← entry.text.mapError (.unreadable path)
  Parameters.parse (.ofPath path) text

end DesiredState
