import DesiredState.Store.Basic
import DesiredState.Store.Defaults
/-!
A store in memory that behaves like the API server: it gives each object a uid, a version and the
time of its creation, refuses an update of a version that is not the stored one, counts changes of
the specification, and fills in what a server adds unless it is told not to. Calls are counted,
the object last handed to each operation is kept, and failures can be injected. Versions and calls
are counted without a bound: counters of 64 bits show the same for fewer than `2 ^ 64 - 1` requests.
-/

set_option autoImplicit false
set_option relaxedAutoImplicit false

namespace DesiredState

structure PerOperation (α : Type) where
  get : α
  create : α
  update : α
deriving DecidableEq

namespace PerOperation

variable {α : Type}

def of (x : α) : PerOperation α := ⟨x, x, x⟩

def select (p : PerOperation α) : Operation → α
  | .get => p.get
  | .create => p.create
  | .update => p.update

def set (p : PerOperation α) (op : Operation) (x : α) : PerOperation α :=
  match op with
  | .get => { p with get := x }
  | .create => { p with create := x }
  | .update => { p with update := x }

end PerOperation

/-- What a call takes from outside the store: the time, and an identifier never given before. -/
structure Moment where
  now : Timestamp
  uid : String

structure Memory where
  /-- The objects, each under its namespace, a slash and its name. -/
  objects : Members StatefulSet
  nextVersion : Nat
  serverDefaults : Bool
  calls : PerOperation Nat
  failures : PerOperation (Option String)
  submitted : PerOperation (Option StatefulSet)

namespace Memory

def empty (serverDefaults : Bool) : Memory := ⟨[], 1, serverDefaults, .of 0, .of none, .of none⟩

def key (ns name : String) : String := ns ++ "/" ++ name

def insert (m : Memory) (ns : String) (o : StatefulSet) : Memory :=
  { m with objects := m.objects.insert (key ns o.objectName) o }

def peek (m : Memory) (ns name : String) : Option StatefulSet := m.objects.get? (key ns name)

def failOn (m : Memory) (op : Operation) (message : String) : Memory :=
  { m with failures := m.failures.set op (some message) }

def clearFailures (m : Memory) : Memory := { m with failures := .of none }

def mutations (m : Memory) : Nat := m.calls.create + m.calls.update

/-- Counts a call; the failure that it is to give, if any. -/
def called (m : Memory) (op : Operation) (ns name : String) : Option CycleError × Memory :=
  ((m.failures.select op).map fun message =>
      .transport op (.statefulSet ns name) (.injected message),
    { m with calls := m.calls.set op (m.calls.select op + 1) })

def handed (m : Memory) (op : Operation) (o : StatefulSet) : Memory :=
  { m with submitted := m.submitted.set op (some o) }

def managedFields (now : Timestamp) : Value (.list (.object .managedFieldsEntry)) :=
  let e := (Record.blank .managedFieldsEntry).put ManagedFieldsEntry.manager (.ofText "stately")
  let e := e.put ManagedFieldsEntry.operation (.ofText "Update")
  let e := e.put ManagedFieldsEntry.apiVersion (.ofText "apps/v1")
  .ofItems [e.put ManagedFieldsEntry.time (.ofTime now)]

/-- What a write gives an object: its metadata, a new version, and the defaults of the server. -/
def stamped (m : Memory) (moment : Moment) (o : StatefulSet) (written : ObjectMeta) : StatefulSet :=
  let written := written.put ObjectMeta.resourceVersion (.ofText (toString m.nextVersion))
  let written := written.put ObjectMeta.managedFields (managedFields moment.now)
  let o := o.put StatefulSet.metadata written
  if m.serverDefaults then ServerDefaults.apply o else o

def store (m : Memory) (k : String) (o : StatefulSet) : Answer Memory StatefulSet :=
  ⟨.ok o, [], { m with objects := m.objects.insert k o, nextVersion := m.nextVersion + 1 }⟩

def get (ns name : String) (m : Memory) : Answer Memory (Option StatefulSet) :=
  match m.called .get ns name with
  | (some e, m) => ⟨.error e, [], m⟩
  | (none, m) => ⟨.ok (m.peek ns name), [], m⟩

def createdMeta (moment : Moment) (ns : String) (o : StatefulSet) : ObjectMeta :=
  let r := (o.get StatefulSet.metadata).put ObjectMeta.ns (.ofText ns)
  let r := r.put ObjectMeta.uid (.ofText moment.uid)
  let r := r.put ObjectMeta.creationTimestamp (.ofTime moment.now)
  r.put ObjectMeta.generation (.ofInt64 1 (Eq.refl true))

def create (moment : Moment) (ns : String) (o : StatefulSet) (m : Memory) :
    Answer Memory StatefulSet :=
  match m.called .create ns o.objectName with
  | (some e, m) => ⟨.error e, [], m⟩
  | (none, m) =>
    let m := m.handed .create o
    let k := key ns o.objectName
    match m.objects.get? k with
    | some _ => ⟨.error (.conflict k .exists), [], m⟩
    | none => m.store k (m.stamped moment o (createdMeta moment ns o))

def specChanged (o existing : StatefulSet) : Bool :=
  match o.get? StatefulSet.spec, existing.get? StatefulSet.spec with
  | some a, some b => !a.same b
  | none, none => false
  | _, _ => true

def nextGeneration (v : Value .int64) : Value .int64 :=
  .ofInt64 ((v.int + 1).bmod (2 ^ 64)) (by
    have h₁ := Int.bmod_lt (x := v.int + 1) (m := 2 ^ 64) (by decide)
    have h₂ := Int.le_bmod (x := v.int + 1) (m := 2 ^ 64) (by decide)
    simp only [isInt64, Bool.and_eq_true, decide_eq_true_eq]
    omega)

def updatedMeta (ns : String) (o existing : StatefulSet) : ObjectMeta :=
  let old := existing.get StatefulSet.metadata
  let generation := (old.get? ObjectMeta.generation).map fun g =>
    if specChanged o existing then nextGeneration g else g
  let r := (o.get StatefulSet.metadata).put ObjectMeta.ns (.ofText ns)
  let r := r.set ObjectMeta.uid (old.get? ObjectMeta.uid)
  let r := r.set ObjectMeta.creationTimestamp (old.get? ObjectMeta.creationTimestamp)
  r.set ObjectMeta.generation generation

def update (moment : Moment) (ns : String) (o : StatefulSet) (m : Memory) :
    Answer Memory StatefulSet :=
  match m.called .update ns o.objectName with
  | (some e, m) => ⟨.error e, [], m⟩
  | (none, m) =>
    let m := m.handed .update o
    let k := key ns o.objectName
    match m.objects.get? k with
    | none => ⟨.error (.missing k), [], m⟩
    | some existing =>
      if o.version? ≠ existing.version? then
        ⟨.error (.conflict k (.stale o.version? existing.version?)), [], m⟩
      else m.store k (m.stamped moment o (updatedMeta ns o existing))

def asStore (moment : Moment) : Store Memory := ⟨get, create moment, update moment⟩

end Memory

end DesiredState
