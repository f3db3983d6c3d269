import DesiredState.CommandLine.Arguments
import DesiredState.Cycle.Basic
import DesiredState.ParameterFile
import DesiredState.Store.Remote
/-!
What the commands do. Rendering prints the object that a first cycle would create, without asking
a server; reconciling runs one cycle, or cycles until it is interrupted.
-/

set_option autoImplicit false
set_option relaxedAutoImplicit false

namespace DesiredState.CommandLine

open Http (Transport)

/-- How a command ends: what it prints and what it logs; a failure, if any, comes last. -/
structure Run where
  output : String := ""
  log : List Notice := []
  failure : Option String := none

def Run.exitCode (r : Run) : Nat := if r.failure.isSome then 1 else 0

def Stop.exitCode : Stop → Nat
  | .help _ => 0
  | .misuse => 2

def renderText (p : Parameters) : Except CycleError String := do
  let o ← (render p).mapError .parameters
  let o ← (Snapshot.record Snapshot.defaultKey o).mapError .patch
  (writeYaml (.ok o.toJson)).mapError .parameters

def renderFile (path : String) (entry : FileEntry) : Run :=
  match Parameters.ofFile path entry with
  | .error e => { failure := some e.message }
  | .ok p =>
    match renderText p with
    | .error e => { log := renderNotices p, failure := some e.message }
    | .ok text => { output := text ++ "\n", log := renderNotices p }

def outcomeName : Outcome → String
  | .created => "created"
  | .updated _ => "updated"
  | .unchanged => "unchanged"

variable {σ : Type}

def cycle (server : Server) (t : Transport σ) (p : Parameters) (s : σ) : Cycle σ :=
  reconcile (server.asStore t) Config.default.engine Config.default.ignoreRules p s

def starting (i : Invocation) (p : Parameters) : Notice :=
  .about .info p.name p.ns "Starting stately reconciler" [("api_url", i.apiUrl)]

def reconcileOnce (i : Invocation) (t : Transport σ) (p : Parameters) (s : σ) : Run :=
  let c := cycle (.ofUrl i.apiUrl i.token) t p s
  let log := starting i p :: c.log p.name p.ns
  match c.result with
  | .error e => { log, failure := some e.message }
  | .ok o =>
    { log := log ++ [⟨.info, "Reconcile complete", [("outcome", outcomeName o)]⟩] }

def roundLog (c : Cycle σ) (p : Parameters) : List Notice :=
  c.log p.name p.ns ++ match c.result with
    | .ok o => [⟨.info, "Reconcile cycle complete", [("outcome", outcomeName o)]⟩]
    | .error e => [⟨.error, "Reconcile cycle failed: " ++ e.message, []⟩]

def shutdown : List Notice :=
  [⟨.info, "Shutting down gracefully...", []⟩, ⟨.info, "Reconcile loop shutting down", []⟩,
    ⟨.info, "Shutdown complete", []⟩]

def rounds (server : Server) (t : Transport σ) (p : Parameters) : Nat → σ → List Notice
  | 0, _ => []
  | n + 1, s =>
    let c := cycle server t p s
    roundLog c p ++ rounds server t p n c.store

def reconcileRounds (i : Invocation) (t : Transport σ) (n : Nat) (p : Parameters) (s : σ) : Run :=
  { log := starting i p :: rounds (.ofUrl i.apiUrl i.token) t p n s ++ shutdown }

/-- Carries out what is to be done; cycles without end are interrupted after `n` of them. -/
def run (i : Invocation) (entry : FileEntry) (t : Transport σ) (n : Nat) (s : σ) : Run :=
  match i.command with
  | .render => renderFile i.params entry
  | .reconcile =>
    match Parameters.ofFile i.params entry with
    | .error e => { failure := some e.message }
    | .ok p =>
      match i.interval with
      | none => reconcileOnce i t p s
      | some _ => reconcileRounds i t n p s

end DesiredState.CommandLine
