import DesiredState.Parameters.Basic
/-!
Documents as parameters. A parameter block is a mapping, or in some formats a sequence of its
first fields. Unknown fields are skipped, missing ones are left empty, and a field that occurs
twice is refused; null stands for a missing value only where one may be missing.
-/

set_option autoImplicit false
set_option relaxedAutoImplicit false

namespace DesiredState

/-- What a format allows of a document: how deep it nests, and whether a block may be written as
a sequence. -/
structure Reading where
  depth : Nat
  positional : Bool

namespace Reading

def below (r : Reading) : Reading := { r with depth := r.depth - 1 }

def namedEntries (names : List String) :
    List (Option String × Node) → Except Mismatch (List (String × Node))
  | [] => .ok []
  | (none, _) :: _ => .error .keyNotText
  | (some k, n) :: es => do
    let rest ← namedEntries names es
    if k ∈ names then
      if (Members.get? k rest).isSome then .error (.repeatedField k) else .ok ((k, n) :: rest)
    else .ok rest

def blockFields (r : Reading) (names : List String) (n : Node) :
    Except Mismatch (List (String × Node)) :=
  match n with
  | .scalar s => if s.empty then .ok [] else .error (.wrongShape "an object")
  | .seq items =>
    if r.positional = false then .error (.wrongShape "an object")
    else if r.depth = 0 then .error .tooDeep
    else if names.length < items.length then .error .tooManyItems
    else .ok (names.zip items)
  | .map entries => if r.depth = 0 then .error .tooDeep else namedEntries names entries

/-- A field that may be missing but not null. -/
def plain {α : Type} (fs : List (String × Node)) (name : String) (missing : α)
    (f : Node → Except Mismatch α) : Except Mismatch α :=
  match Members.get? name fs with
  | none => .ok missing
  | some n => f n

/-- A field that may be missing or null. -/
def optional {α : Type} (fs : List (String × Node)) (name : String)
    (f : Node → Except Mismatch α) : Except Mismatch (Option α) :=
  match Members.get? name fs with
  | none => .ok none
  | some n =>
    match n.presence with
    | .given => (f n).map some
    | .missing => .ok none
    | .contradictory => .error .notNull

def text : Node → Except Mismatch String
  | .scalar s => s.text?.elim (.error (.wrongShape "a string")) .ok
  | _ => .error (.wrongShape "a string")

def bool : Node → Except Mismatch Bool
  | .scalar s => s.bool?.elim (.error (.wrongShape "a boolean")) .ok
  | _ => .error (.wrongShape "a boolean")

end Reading

open Reading (text bool optional plain)

namespace ContainerParameters

def fieldNames : List String :=
  ["image", "imagePullPolicy", "command", "args", "env", "ports", "resources",
    "persistenceEnabled", "dataMountPath", "configMountPath"]

def unset : ContainerParameters := ⟨"", none, none, none, none, none, none, none, none, none⟩

def read (r : Reading) (n : Node) : Except Mismatch ContainerParameters := do
  let fs ← r.blockFields fieldNames n
  let d := r.below.depth
  return {
    image := ← plain fs "image" "" text
    imagePullPolicy := ← optional fs "imagePullPolicy" text
    command := ← optional fs "command" (Value.read d)
    args := ← optional fs "args" (Value.read d)
    env := ← optional fs "env" (Value.read d)
    ports := ← optional fs "ports" (Value.read d)
    resources := ← optional fs "resources" (Value.read d)
    persistenceEnabled := ← optional fs "persistenceEnabled" bool
    dataMountPath := ← optional fs "dataMountPath" text
    configMountPath := ← optional fs "configMountPath" text }

end ContainerParameters

namespace StorageParameters

def fieldNames : List String :=
  ["name", "labels", "annotations", "accessModes", "storageClassName", "size"]

def unset : StorageParameters := ⟨"", none, none, none, none, none⟩

def read (r : Reading) (n : Node) : Except Mismatch StorageParameters := do
  let fs ← r.blockFields fieldNames n
  let d := r.below.depth
  return {
    name := ← plain fs "name" "" text
    labels := ← optional fs "labels" (Value.read d)
    annotations := ← optional fs "annotations" (Value.read d)
    accessModes := ← optional fs "accessModes" (Value.read d)
    storageClassName := ← optional fs "storageClassName" text
    size := ← optional fs "size" text }

end StorageParameters

namespace Parameters

def fieldNames : List String :=
  ["metadata", "namespace", "owner", "container", "labels", "annotations", "replicas", "storage",
    "extraVolumes", "imagePullSecret", "affinity", "nodeSelector", "tolerations",
    "priorityClassName", "additionalConfig", "securityContext"]

def unset : Parameters :=
  { metadata := Record.blank .objectMeta, ns := "", owner := none
    container := ContainerParameters.unset, labels := none, annotations := none, replicas := none
    storage := StorageParameters.unset, extraVolumes := none, imagePullSecret := none
    affinity := none, nodeSelector := none, tolerations := none, priorityClassName := none
    additionalConfig := none, securityContext := none }

def read (r : Reading) (n : Node) : Except Mismatch Parameters := do
  let fs ← r.blockFields fieldNames n
  let d := r.below.depth
  return {
    metadata := ← plain fs "metadata" unset.metadata (Value.read d)
    ns := ← plain fs "namespace" "" text
    owner := ← optional fs "owner" (Value.read d)
    container := ← plain fs "container" unset.container (ContainerParameters.read r.below)
    labels := ← optional fs "labels" (Value.read d)
    annotations := ← optional fs "annotations" (Value.read d)
    replicas := ← optional fs "replicas" (Value.read d)
    storage := ← plain fs "storage" unset.storage (StorageParameters.read r.below)
    extraVolumes := ← optional fs "extraVolumes" (Value.read d)
    imagePullSecret := ← optional fs "imagePullSecret" text
    affinity := ← optional fs "affinity" (Value.read d)
    nodeSelector := ← optional fs "nodeSelector" (Value.read d)
    tolerations := ← optional fs "tolerations" (Value.read d)
    priorityClassName := ← optional fs "priorityClassName" text
    additionalConfig := ← optional fs "additionalConfig" text
    securityContext := ← optional fs "securityContext" (Value.read d) }

end Parameters

end DesiredState
