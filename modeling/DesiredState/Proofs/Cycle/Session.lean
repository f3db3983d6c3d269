import DesiredState.Proofs.Cycle.Idempotence
import DesiredState.Proofs.Cycle.Projection
import DesiredState.Proofs.Store.Requests
/-!
Sessions: cycles, requests and placements on one store in memory, one after the other. Main
statements: `transcript_congr`, that a session cannot tell how often a store was called and what it
was handed, and `reconcile_atomic`, that a cycle writes one object or is never noticed.
-/

set_option autoImplicit false
set_option relaxedAutoImplicit false

namespace DesiredState

namespace Memory

/-- A store without what was counted and kept of its calls. -/
def view (m : Memory) : Memory := { m with calls := .of 0, submitted := .of none }

private theorem view_eq_iff {m m' : Memory} : m'.view = m.view ↔ m.Kept m' := by
  constructor
  · intro h
    obtain ⟨hobjects, hnext, hdefaults, -, hfailures, -⟩ := Memory.mk.inj h
    exact ⟨hobjects, hnext, hdefaults, hfailures⟩
  · intro h
    rw [view, h.objects, h.nextVersion, h.serverDefaults, h.failures, view]

private theorem map_view_get (ns name : String) (m : Memory) :
    (get ns name m).map view = (get ns name m.view).map view := by
  have hfailures : m.view.failures.select .get = m.failures.select .get := rfl
  rw [get, get, called, called, hfailures]
  cases m.failures.select .get <;> rfl

private theorem map_view_create (moment : Moment) (ns : String) (o : StatefulSet) (m : Memory) :
    (create moment ns o m).map view = (create moment ns o m.view).map view := by
  have hfailures : m.view.failures.select .create = m.failures.select .create := rfl
  rw [create, create, called, called, hfailures]
  cases m.failures.select .create with
  | some message => rfl
  | none =>
    have hobjects : m.view.objects = m.objects := rfl
    simp only [Option.map_none, handed, hobjects]
    cases m.objects.get? (key ns o.objectName) <;> rfl

private theorem map_view_update (moment : Moment) (ns : String) (o : StatefulSet) (m : Memory) :
    (update moment ns o m).map view = (update moment ns o m.view).map view := by
  have hfailures : m.view.failures.select .update = m.failures.select .update := rfl
  rw [update, update, called, called, hfailures]
  cases m.failures.select .update with
  | some message => rfl
  | none =>
    have hobjects : m.view.objects = m.objects := rfl
    simp only [Option.map_none, handed, hobjects]
    cases m.objects.get? (key ns o.objectName) with
    | none => rfl
    | some existing =>
      by_cases hversion : o.version? = existing.version?
      · simp only [hversion, ne_eq, not_true_eq_false, if_false]
        rfl
      · simp only [ne_eq, hversion, not_false_eq_true, if_true]
        rfl

def asView (moment : Moment) : Store Memory :=
  ⟨fun ns name m => (get ns name m).map view, fun ns o m => (create moment ns o m).map view,
    fun ns o m => (update moment ns o m).map view⟩

private theorem follows_view (moment : Moment) : (asStore moment).Follows view (asView moment) where
  get := map_view_get
  create := map_view_create moment
  update := map_view_update moment

end Memory

inductive Step where
  | request (r : Memory.Request)
  | insert (ns : String) (o : StatefulSet)
  | reconcile (moment : Moment) (config : Config) (p : Parameters)

inductive Reply where
  | request (answer : Except CycleError (Option StatefulSet))
  | inserted
  | cycle (result : Except CycleError Outcome) (reports : List Report)

namespace Step

def perform : Step → Memory → Reply × Memory
  | .request r, m => (.request (r.perform m).1, (r.perform m).2)
  | .insert ns o, m => (.inserted, m.insert ns o)
  | .reconcile moment config p, m =>
    let c := DesiredState.reconcile (Memory.asStore moment) config.engine config.ignoreRules p m
    (.cycle c.result c.reports, c.store)

def run (steps : List Step) (m : Memory) : Memory :=
  steps.foldl (fun m s => (s.perform m).2) m

end Step

def transcript : List Step → Memory → List (Reply × Members StatefulSet × Nat)
  | [], _ => []
  | s :: rest, m =>
    let m' := (s.perform m).2
    ((s.perform m).1, m'.objects, m'.nextVersion) :: transcript rest m'

section Congruence

variable {m m' : Memory}

private theorem answer_congr {α : Type} {a a' : Answer Memory α}
    (h : a'.map Memory.view = a.map Memory.view) :
    a'.result = a.result ∧ a.store.Kept a'.store :=
  ⟨(Answer.mk.inj h).1, Memory.view_eq_iff.1 (Answer.mk.inj h).2.2⟩

private theorem Memory.Request.perform_congr (hk : m.Kept m') (r : Memory.Request) :
    (r.perform m').1 = (r.perform m).1 ∧ (r.perform m).2.Kept (r.perform m').2 := by
  have hview : m'.view = m.view := view_eq_iff.2 hk
  cases r with
  | get ns name =>
    apply answer_congr
    rw [map_view_get, hview, ← map_view_get]
  | create moment ns o =>
    have hcreate : (Memory.create moment ns o m').map view =
        (Memory.create moment ns o m).map view := by
      rw [map_view_create, hview, ← map_view_create]
    obtain ⟨hresult, hstore⟩ := answer_congr hcreate
    exact ⟨congrArg (Except.map some) hresult, hstore⟩
  | update moment ns o =>
    have hupdate : (Memory.update moment ns o m').map view =
        (Memory.update moment ns o m).map view := by
      rw [map_view_update, hview, ← map_view_update]
    obtain ⟨hresult, hstore⟩ := answer_congr hupdate
    exact ⟨congrArg (Except.map some) hresult, hstore⟩
  | failOn op message =>
    exact ⟨rfl, hk.objects, hk.nextVersion, hk.serverDefaults,
      congrArg (PerOperation.set · op (some message)) hk.failures⟩
  | clearFailures => exact ⟨rfl, hk.objects, hk.nextVersion, hk.serverDefaults, rfl⟩

private theorem reconcile_congr (hk : m.Kept m') (moment : Moment) (engine : Engine)
    (rules : List IgnoreRule) (p : Parameters) :
    let c := reconcile (Memory.asStore moment) engine rules p m
    let c' := reconcile (Memory.asStore moment) engine rules p m'
    c'.result = c.result ∧ c'.reports = c.reports ∧ c.store.Kept c'.store := by
  intro c c'
  have hfollows := Memory.follows_view moment
  have hmap : c'.map Memory.view = c.map Memory.view := by
    rw [map_reconcile hfollows, map_reconcile hfollows, Memory.view_eq_iff.2 hk]
  have hresult : c'.result = c.result := (Cycle.mk.inj hmap).1
  have hreports : c'.reports = c.reports := (Cycle.mk.inj hmap).2.1
  exact ⟨hresult, hreports, Memory.view_eq_iff.1 (Cycle.mk.inj hmap).2.2⟩

private theorem Step.perform_congr (hk : m.Kept m') (s : Step) :
    (s.perform m').1 = (s.perform m).1 ∧ (s.perform m).2.Kept (s.perform m').2 := by
  cases s with
  | request r =>
    obtain ⟨hanswer, hstore⟩ := r.perform_congr hk
    exact ⟨congrArg Reply.request hanswer, hstore⟩
  | insert ns o =>
    have hobjects : (m'.insert ns o).objects = (m.insert ns o).objects := by
      rw [Memory.insert, hk.objects, Memory.insert]
    exact ⟨rfl, hobjects, hk.nextVersion, hk.serverDefaults, hk.failures⟩
  | reconcile moment config p =>
    obtain ⟨hresult, hreports, hstore⟩ := reconcile_congr hk moment config.engine
      config.ignoreRules p
    exact ⟨congrArg₂ Reply.cycle hresult hreports, hstore⟩

theorem transcript_congr (hk : m.Kept m') (steps : List Step) :
    transcript steps m' = transcript steps m := by
  induction steps generalizing m m' with
  | nil => rfl
  | cons s rest ih =>
    obtain ⟨hreply, hstore⟩ := s.perform_congr hk
    simp only [transcript, hreply, hstore.objects, hstore.nextVersion, ih hstore]

end Congruence

namespace Memory

variable {moment : Moment} {key : String} {rules : List IgnoreRule} {p : Parameters}
  {m m' : Memory} {result : Except CycleError Outcome}

private theorem Ran.kept (h : Ran moment key rules p m result m')
    (hnothing : (∃ e, result = .error e) ∨ result = .ok .unchanged) : m.Kept m' := by
  cases h with
  | failed kept => exact kept
  | unchanged rendered found calculated empty kept => exact kept
  | created => rcases hnothing with ⟨e, he⟩ | hu <;> cases ‹_ = _›
  | updated => rcases hnothing with ⟨e, he⟩ | hu <;> cases ‹_ = _›

private theorem Ran.written {outcome : Outcome} (h : Ran moment key rules p m (.ok outcome) m')
    (hchange : outcome ≠ .unchanged) :
    ∃ new, m.Written (Memory.key p.ns p.name) new m' := by
  cases h with
  | created rendered missing recorded written => exact ⟨_, written⟩
  | unchanged => exact absurd rfl hchange
  | updated rendered found calculated changed recorded written => exact ⟨_, written⟩

end Memory

/-- A cycle that fails or finds nothing to change leaves all objects and the next version as they
are, and nothing that happens later tells that it was made. A cycle that creates or updates writes
one object, under the name it is about, and uses up one version. -/
theorem reconcile_atomic (moment : Moment) (config : Config) (p : Parameters) (m : Memory) :
    let c := reconcile (Memory.asStore moment) config.engine config.ignoreRules p m
    ((∃ e, c.result = .error e) ∨ c.result = .ok .unchanged →
      c.store.objects = m.objects ∧ c.store.nextVersion = m.nextVersion ∧
        ∀ later, transcript later c.store = transcript later m) ∧
      ∀ outcome, c.result = .ok outcome → outcome ≠ .unchanged →
        c.store.nextVersion = m.nextVersion + 1 ∧
          (∃ new, c.store.objects = m.objects.insert (Memory.key p.ns p.name) new ∧
            c.store.peek p.ns p.name = some new) ∧
          ∀ k ≠ Memory.key p.ns p.name, c.store.objects.get? k = m.objects.get? k := by
  intro c
  have hran : Memory.Ran moment config.annotationKey config.ignoreRules p m c.result c.store :=
    Memory.ran_reconcile moment config.annotationKey config.ignoreRules p m
  constructor
  · intro hnothing
    have hkept := hran.kept hnothing
    exact ⟨hkept.objects, hkept.nextVersion, transcript_congr hkept⟩
  · intro outcome houtcome hchange
    rw [houtcome] at hran
    obtain ⟨new, hwritten⟩ := hran.written hchange
    refine ⟨hwritten.nextVersion, ⟨new, hwritten.objects, hwritten.peek_self⟩, ?_⟩
    intro k hk
    rw [hwritten.objects, Members.get?_insert_of_ne hk]

def stuckStore : Memory := placedStore.failOn .update "down"

theorem reconcile_atomic_when_stuck :
    let c := reconcile (Memory.asStore ⟨⟨1, 0⟩, "u2"⟩) Config.default.engine
      Config.default.ignoreRules databaseParameters stuckStore
    let later : List Step :=
      [.request .clearFailures, .reconcile ⟨⟨2, 0⟩, "u3"⟩ .default databaseParameters]
    (∃ e, c.result = .error e) ∧ c.store.objects = stuckStore.objects ∧
      c.store.nextVersion = 1 ∧ transcript later c.store = transcript later stuckStore := by
  intro c later
  have hfailed : c.result.toOption.isNone = true := by
    decide +kernel
  have herror : ∃ e, c.result = .error e := by
    cases hc : c.result with
    | error e => exact ⟨e, rfl⟩
    | ok outcome => rw [hc] at hfailed; cases hfailed
  obtain ⟨hobjects, hnext, hlater⟩ :=
    (reconcile_atomic ⟨⟨1, 0⟩, "u2"⟩ .default databaseParameters stuckStore).1 (.inl herror)
  exact ⟨herror, hobjects, hnext, hlater later⟩

end DesiredState
