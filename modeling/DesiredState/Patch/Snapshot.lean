import DesiredState.Json.Parse
import DesiredState.Json.Print
import DesiredState.StatefulSet
/-!
The snapshot of what was applied last, kept as JSON text in an annotation of the object. It holds
what the caller authored: no status, no metadata that the store owns, and not the annotation
itself.
-/

set_option autoImplicit false
set_option relaxedAutoImplicit false

namespace DesiredState

inductive PatchError where
  | unwritable (detail : String)
  | brokenSnapshot (key detail : String)
  | snapshotNotObject (key : String)
deriving DecidableEq

namespace PatchError

def message : PatchError → String
  | .unwritable detail => "Serialization error: JSON error: " ++ detail
  | .brokenSnapshot key detail =>
    "Invalid last-applied snapshot in annotation '" ++ key ++ "': " ++ detail
  | .snapshotNotObject key =>
    "Invalid last-applied snapshot in annotation '" ++ key ++ "': snapshot is not a JSON object"

def code : PatchError → String
  | .unwritable _ => "stately::patch::serialization_error"
  | .brokenSnapshot .. | .snapshotNotObject _ => "stately::patch::invalid_snapshot"

def help : PatchError → String
  | .unwritable _ => "The object contains a value serde_json cannot represent"
  | .brokenSnapshot .. | .snapshotNotObject _ =>
    "Remove the annotation from the object; it is rewritten on the next successful apply"

end PatchError

/-- An object to be compared: its annotations and its JSON value, or why it has none. -/
structure Subject where
  annotations : Option StringMap
  json : Except String Json

def StatefulSet.subject (o : StatefulSet) : Subject :=
  ⟨(o.get StatefulSet.metadata).get? ObjectMeta.annotations, .ok o.toJson⟩

namespace Snapshot

def defaultKey : String := "stately.io/last-applied"

def storeOwned : List String :=
  ["resourceVersion", "creationTimestamp", "managedFields", "uid", "generation", "selfLink",
    "deletionTimestamp"]

/-- Metadata without what the store owns and without the annotation of a key; annotations left
empty are dropped. -/
def authored (key : String) : Json → Json
  | .obj ms =>
    let ms := storeOwned.foldl (fun ms k => Members.erase k ms) ms
    match Members.get? "annotations" ms with
    | some (.obj annotations) =>
      let rest := Members.erase key annotations
      .obj (if rest.isEmpty then Members.erase "annotations" ms
        else Members.insert "annotations" (.obj rest) ms)
    | _ => .obj ms
  | j => j

def ofJson (key : String) (j : Json) : Json :=
  (j.dropMember "status").mapMember "metadata" (authored key)

def take (key : String) (s : Subject) : Except PatchError Json :=
  (s.json.mapError .unwritable).map (ofJson key)

def text (key : String) (s : Subject) : Except PatchError String :=
  (take key s).map Json.compact

def record (key : String) (o : StatefulSet) : Except PatchError StatefulSet := do
  let t ← text key o.subject
  let m := o.get StatefulSet.metadata
  let annotations := (m.get? ObjectMeta.annotations).getD .emptyMap
  return o.put StatefulSet.metadata
    (m.put ObjectMeta.annotations (annotations.insert key (.ofText t)))

def read (key : String) (s : Subject) : Except PatchError (Option Json) :=
  match s.annotations.bind (·.at? key) with
  | none => .ok none
  | some t =>
    match Json.parse t.text with
    | .error detail => .error (.brokenSnapshot key detail)
    | .ok (.obj ms) => .ok (some (.obj ms))
    | .ok _ => .error (.snapshotNotObject key)

end Snapshot

end DesiredState
