import DesiredState.Patch.Engine
import DesiredState.Store.Basic
import DesiredState.Synthesis
/-!
One cycle of reconciliation: fetch the stored object, build the desired one, and create it, update
it or leave it. A cycle asks the store for the object once and writes at most once, and reports
its progress as events.
-/

set_option autoImplicit false
set_option relaxedAutoImplicit false

namespace DesiredState

inductive Event (ε : Type := CycleError) (π : Type := Patch) where
  | creating
  | created (o : StatefulSet)
  | createFailed (e : ε)
  | updating (p : π)
  | updated (o : StatefulSet)
  | updateFailed (e : ε)
  | unchanged
  | fetchFailed (e : ε)
  | synthesisFailed (e : ε)
  | patchFailed (e : ε)
deriving DecidableEq

namespace Event

def notice (name ns : String) : Event → Notice
  | .creating => .about .info name ns "StatefulSet not found, creating" []
  | .created o =>
    .about .info name ns "StatefulSet created" [("resource_version", o.version?.getD "")]
  | .createFailed e => .about .error name ns "StatefulSet creation failed" [("error", e.message)]
  | .updating p =>
    .about .info name ns "StatefulSet differs from desired state, updating" [("patch", p.text)]
  | .updated o =>
    .about .info name ns "StatefulSet updated" [("resource_version", o.version?.getD "")]
  | .updateFailed e => .about .error name ns "StatefulSet update failed" [("error", e.message)]
  | .unchanged => .about .info name ns "No changes required" []
  | .fetchFailed e => .about .error name ns "Failed to fetch StatefulSet" [("error", e.message)]
  | .synthesisFailed e =>
    .about .error name ns "Failed to build desired StatefulSet" [("error", e.message)]
  | .patchFailed e =>
    .about .error name ns "Unable to compute StatefulSet patch" [("error", e.message)]

end Event

inductive Outcome (π : Type := Patch) where
  | created
  | updated (p : π)
  | unchanged
deriving DecidableEq

inductive Report (ε : Type := CycleError) (π : Type := Patch) where
  | event (e : Event ε π)
  | notice (n : Notice)
deriving DecidableEq

structure Cycle (σ : Type) (ε : Type := CycleError) (π : Type := Patch) where
  result : Except ε (Outcome π)
  reports : List (Report ε π)
  store : σ

namespace Cycle

variable {σ ε π : Type}

def events (c : Cycle σ ε π) : List (Event ε π) :=
  c.reports.filterMap fun
    | .event e => some e
    | .notice _ => none

def log (name ns : String) (c : Cycle σ) : List Notice :=
  c.reports.map fun
    | .event e => e.notice name ns
    | .notice n => n

def after (reports : List (Report ε π)) (c : Cycle σ ε π) : Cycle σ ε π :=
  { c with reports := reports ++ c.reports }

def failed (e : ε) (event : ε → Event ε π) (s : σ) : Cycle σ ε π :=
  ⟨.error e, [.event (event e)], s⟩

end Cycle

/-- What compares objects and records snapshots on them, with its own errors and patches. -/
structure Engine (φ : Type := PatchError) (π : Type := Patch) where
  calculate : (current modified : StatefulSet) → List IgnoreRule → Except φ π
  record : StatefulSet → Except φ StatefulSet

/-- Patches that say whether they change anything. -/
class PatchResult (π : Type) where
  isEmpty : π → Bool

instance : PatchResult Patch := ⟨Patch.isEmpty⟩

@[simp] theorem PatchResult.isEmpty_patch (p : Patch) : PatchResult.isEmpty p = p.isEmpty := rfl

def Engine.threeWay (key : String) : Engine :=
  ⟨fun current modified rules => Patch.calculate key rules current.subject modified.subject,
    Snapshot.record key⟩

structure Config where
  annotationKey : String
  ignoreRules : List IgnoreRule

def Config.default : Config := ⟨Snapshot.defaultKey, IgnoreRule.defaults⟩

def Config.engine (c : Config) : Engine := .threeWay c.annotationKey

/-- The desired object with the metadata that only the store may write. -/
def copyStoreOwned (stored desired : StatefulSet) : StatefulSet :=
  let old := stored.get StatefulSet.metadata
  let m := desired.get StatefulSet.metadata
  let m := m.set ObjectMeta.resourceVersion (old.get? ObjectMeta.resourceVersion)
  let m := m.set ObjectMeta.creationTimestamp (old.get? ObjectMeta.creationTimestamp)
  let m := m.set ObjectMeta.managedFields (old.get? ObjectMeta.managedFields)
  desired.put StatefulSet.metadata m

/-- The desired object with the annotations of other writers; its own ones win. -/
def carryAnnotations (stored desired : StatefulSet) : StatefulSet :=
  match (stored.get StatefulSet.metadata).get? ObjectMeta.annotations with
  | none => desired
  | some theirs =>
    let m := desired.get StatefulSet.metadata
    let ours := (m.get? ObjectMeta.annotations).getD .emptyMap
    desired.put StatefulSet.metadata (m.put ObjectMeta.annotations (ours.union theirs))

variable {σ ε φ π : Type} [Wraps ε φ]

open Wraps (wrap)

private def notices (ns : List Notice) : List (Report ε π) := ns.map .notice

def createDesired (store : Store σ ε) (engine : Engine φ π) (ns : String) (desired : StatefulSet)
    (s : σ) : Cycle σ ε π :=
  match engine.record desired with
  | .error e => .failed (wrap e) .patchFailed s
  | .ok desired =>
    let answer := store.create ns desired s
    let before := .event .creating :: notices answer.notices
    match answer.result with
    | .error e => (Cycle.failed e .createFailed answer.store).after before
    | .ok o => ⟨.ok .created, before ++ [.event (.created o)], answer.store⟩

variable [PatchResult π]

def updateStored (store : Store σ ε) (engine : Engine φ π) (rules : List IgnoreRule) (ns : String)
    (stored desired : StatefulSet) (s : σ) : Cycle σ ε π :=
  let desired := copyStoreOwned stored desired
  match engine.calculate stored desired rules with
  | .error e => .failed (wrap e) .patchFailed s
  | .ok patch =>
    if PatchResult.isEmpty patch then ⟨.ok .unchanged, [.event .unchanged], s⟩
    else
      match engine.record (carryAnnotations stored desired) with
      | .error e => .failed (wrap e) .patchFailed s
      | .ok desired =>
        let answer := store.update ns desired s
        let before := .event (.updating patch) :: notices answer.notices
        match answer.result with
        | .error e => (Cycle.failed e .updateFailed answer.store).after before
        | .ok o => ⟨.ok (.updated patch), before ++ [.event (.updated o)], answer.store⟩

variable [Wraps ε ParameterError]

/-- Brings the stored object in line with the parameters. -/
def reconcile (store : Store σ ε) (engine : Engine φ π) (rules : List IgnoreRule)
    (p : Parameters) (s : σ) : Cycle σ ε π :=
  if p.name = "" ∨ p.ns = "" then
    .failed (wrap (ParameterError.unaddressed p.name p.ns)) .synthesisFailed s
  else
    let answer := store.get p.ns p.name s
    match answer.result with
    | .error e => (Cycle.failed e .fetchFailed answer.store).after (notices answer.notices)
    | .ok stored =>
      let before := notices (answer.notices ++ renderNotices p)
      match render p with
      | .error e => (Cycle.failed (wrap e) .synthesisFailed answer.store).after before
      | .ok desired =>
        match stored with
        | none => (createDesired store engine p.ns desired answer.store).after before
        | some o => (updateStored store engine rules p.ns o desired answer.store).after before

end DesiredState
