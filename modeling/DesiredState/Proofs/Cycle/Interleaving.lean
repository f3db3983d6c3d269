import DesiredState.Proofs.Cycle.Basic
import DesiredState.Proofs.Cycle.Projection
import Mathlib.Logic.Function.Basic
/-!
Clients that share a store. Cycles of reconciliation and other writers are interleaved call by call;
a journal notes the calls that succeed. Main statements: `reconcile_eq_resume`, that a cycle is a
fetch and what follows it, and `reconcile_asStore`, that the journal changes nothing about a cycle.
-/

set_option autoImplicit false
set_option relaxedAutoImplicit false

namespace DesiredState

section

variable {σ ε φ π : Type} [Wraps ε ParameterError] [Wraps ε φ] [PatchResult π]

def resume (store : Store σ ε) (engine : Engine φ π) (rules : List IgnoreRule)
    (p : Parameters) (stored : Option StatefulSet) (s : σ) : Cycle σ ε π :=
  match render p with
  | .error e => .failed (Wraps.wrap e) .synthesisFailed s
  | .ok desired =>
    match stored with
    | none => createDesired store engine p.ns desired s
    | some o => updateStored store engine rules p.ns o desired s

/-- A cycle fetches, and resumes at once with what it fetched. -/
theorem reconcile_eq_resume (store : Store σ ε) (engine : Engine φ π)
    (rules : List IgnoreRule) {p : Parameters} (haddress : ¬ (p.name = "" ∨ p.ns = "")) {s : σ}
    {stored : Option StatefulSet} (hget : (store.get p.ns p.name s).result = .ok stored) :
    (reconcile store engine rules p s).result =
        (resume store engine rules p stored (store.get p.ns p.name s).store).result ∧
      (reconcile store engine rules p s).store =
        (resume store engine rules p stored (store.get p.ns p.name s).store).store := by
  rw [reconcile, if_neg haddress, resume]
  simp only [hget]
  cases render p with
  | error e => exact ⟨rfl, rfl⟩
  | ok desired => cases stored <;> exact ⟨rfl, rfl⟩

end

inductive Author where
  | cycle
  | editor
deriving DecidableEq

/-- A call that succeeded: the client, the key of the object, and what was found or stored. An
update also notes what it replaced. -/
inductive Entry where
  | fetched (client : Nat) (k : String) (found : Option StatefulSet)
  | created (client : Nat) (k : String) (new : StatefulSet)
  | updated (client : Nat) (author : Author) (k : String) (old : Option StatefulSet)
    (new : StatefulSet)

namespace Entry

def isFetchOf (client : Nat) : Entry → Bool
  | .fetched i _ _ => i == client
  | _ => false

def creates (k : String) : Entry → Bool
  | .created _ k' _ => k' == k
  | _ => false

def writes (k : String) : Entry → Bool
  | .fetched _ _ _ => false
  | .created _ k' _ => k' == k
  | .updated _ _ k' _ _ => k' == k

def isWrite : Entry → Bool
  | .fetched _ _ _ => false
  | .created _ _ _ | .updated _ _ _ _ _ => true

def isUpdateOf (client : Nat) (author : Author) (k : String) : Entry → Bool
  | .updated i a k' _ _ => i == client && a == author && k' == k
  | _ => false

end Entry

/-- A store in memory with the journal of its calls, the first one first. -/
structure Ledger where
  memory : Memory
  journal : List Entry

namespace Ledger

def noted {α : Type} (l : Ledger) (answer : Answer Memory α) (entry : α → Entry) :
    Answer Ledger α :=
  ⟨answer.result, answer.notices, answer.store,
    match answer.result with
    | .ok x => l.journal ++ [entry x]
    | .error _ => l.journal⟩

def get (client : Nat) (ns name : String) (l : Ledger) : Answer Ledger (Option StatefulSet) :=
  l.noted (Memory.get ns name l.memory) (.fetched client (Memory.key ns name))

def create (client : Nat) (moment : Moment) (ns : String) (o : StatefulSet) (l : Ledger) :
    Answer Ledger StatefulSet :=
  l.noted (Memory.create moment ns o l.memory) (.created client (Memory.key ns o.objectName))

def update (client : Nat) (author : Author) (moment : Moment) (ns : String) (o : StatefulSet)
    (l : Ledger) : Answer Ledger StatefulSet :=
  l.noted (Memory.update moment ns o l.memory)
    (.updated client author (Memory.key ns o.objectName) (l.memory.peek ns o.objectName))

def asStore (client : Nat) (moment : Moment) : Store Ledger :=
  ⟨get client, create client moment, update client .cycle moment⟩

end Ledger

private theorem Ledger.follows_memory (client : Nat) (moment : Moment) :
    (Ledger.asStore client moment).Follows Ledger.memory (Memory.asStore moment) where
  get _ _ _ := rfl
  create _ _ _ := rfl
  update _ _ _ := rfl

/-- Noting the calls changes nothing about a cycle. -/
theorem reconcile_asStore (client : Nat) (moment : Moment) (engine : Engine)
    (rules : List IgnoreRule) (p : Parameters) (l : Ledger) :
    (reconcile (Ledger.asStore client moment) engine rules p l).result =
        (reconcile (Memory.asStore moment) engine rules p l.memory).result ∧
      (reconcile (Ledger.asStore client moment) engine rules p l).store.memory =
        (reconcile (Memory.asStore moment) engine rules p l.memory).store := by
  have hmap := map_reconcile (Ledger.follows_memory client moment) engine rules p l
  rw [← hmap]
  exact ⟨rfl, rfl⟩

/-- What a client is about: a cycle of reconciliation, or fetching an object and later updating it
to anything that keeps the version that was read. -/
inductive Task where
  | reconcile (key : String) (rules : List IgnoreRule) (p : Parameters)
  | edit (ns name : String) (change : StatefulSet → StatefulSet)
    (keeps : ∀ o, (change o).version? = o.version?)

namespace Task

def author : Task → Author
  | .reconcile .. => .cycle
  | .edit .. => .editor

def ns : Task → String
  | .reconcile _ _ p => p.ns
  | .edit ns .. => ns

def name : Task → String
  | .reconcile _ _ p => p.name
  | .edit _ name .. => name

def fetches : Task → Bool
  | .reconcile _ _ p => !(p.name = "" ∨ p.ns = "")
  | .edit .. => true

/-- What a client does after its fetch: it makes at most one call. -/
def act (client : Nat) (moment : Moment) (found : Option StatefulSet) (l : Ledger) :
    Task → Ledger
  | .reconcile key rules p =>
    (resume (Ledger.asStore client moment) (.threeWay key) rules p found l).store
  | .edit ns _ change _ =>
    match found with
    | none => l
    | some o => (Ledger.update client .editor moment ns (change o) l).store

end Task

/-- A ledger and the clients between their fetch and what follows it. -/
structure World where
  ledger : Ledger
  pending : Nat → Option (Task × Option StatefulSet)

/-- One call of one client; or the store is told which calls to fail. -/
inductive Move where
  | fetch (client : Nat) (task : Task)
  | act (client : Nat) (moment : Moment)
  | disturb (failures : PerOperation (Option String))

namespace World

def start (serverDefaults : Bool) : World := ⟨⟨Memory.empty serverDefaults, []⟩, fun _ => none⟩

def step (w : World) : Move → World
  | .fetch client task =>
    if task.fetches then
      let answer := w.ledger.get client task.ns task.name
      ⟨answer.store, Function.update w.pending client
        (answer.result.toOption.map fun found => (task, found))⟩
    else w
  | .act client moment =>
    match w.pending client with
    | none => w
    | some (task, found) =>
      ⟨task.act client moment found w.ledger, Function.update w.pending client none⟩
  | .disturb failures =>
    { w with ledger := { w.ledger with memory := { w.ledger.memory with failures := failures } } }

def run (moves : List Move) (w : World) : World := moves.foldl step w

end World

end DesiredState
