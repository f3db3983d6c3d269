import DesiredState.Json.Basic
import DesiredState.Text.Lowercase
/-!
Names of resources: group, version and kind, and the key of one object within a namespace, with
the paths under which the API server keeps them.
-/

set_option autoImplicit false
set_option relaxedAutoImplicit false

namespace DesiredState

structure ResourceKind where
  group : String
  version : String
  kind : String
deriving DecidableEq

namespace ResourceKind

def statefulSet : ResourceKind := ⟨"apps", "v1", "StatefulSet"⟩

/-- Group and version; the core group has no name. -/
def apiVersion (k : ResourceKind) : String :=
  if k.group = "" then k.version else k.group ++ "/" ++ k.version

def apiPath (k : ResourceKind) : String :=
  if k.group = "" then "api/" ++ k.version else "apis/" ++ k.group ++ "/" ++ k.version

def plural (cs : List Char) : List Char :=
  match cs.getLast? with
  | some 's' => cs ++ ['e', 's']
  | some 'y' => cs.dropLast ++ ['i', 'e', 's']
  | _ => cs ++ ['s']

/-- The name of the resource: the kind in lower case, in the plural. -/
def resourceName (k : ResourceKind) : String := String.ofList (plural (Text.lower k.kind).toList)

def text (k : ResourceKind) : String := k.apiVersion ++ "/" ++ k.kind

def toJson (k : ResourceKind) : Json :=
  .obj [("group", .str k.group), ("version", .str k.version), ("kind", .str k.kind)]

end ResourceKind

structure ResourceKey where
  kind : ResourceKind
  ns : String
  name : String
deriving DecidableEq

namespace ResourceKey

def statefulSet (ns name : String) : ResourceKey := ⟨.statefulSet, ns, name⟩

def collectionPath (k : ResourceKey) : String :=
  "/" ++ k.kind.apiPath ++ "/namespaces/" ++ k.ns ++ "/" ++ k.kind.resourceName

def path (k : ResourceKey) : String := k.collectionPath ++ "/" ++ k.name

def text (k : ResourceKey) : String := k.kind.text ++ "/" ++ k.ns ++ "/" ++ k.name

def toJson (k : ResourceKey) : Json :=
  .obj [("gvk", k.kind.toJson), ("namespace", .str k.ns), ("name", .str k.name)]

end ResourceKey

end DesiredState
