import DesiredState.Proofs.Cycle.Projection
/-!
The calls that a cycle makes, the events that it reports and its result, whatever the store and the
engine answer. Main statements: `goes_reconcile`, the ways a cycle may go, and
`reconcile_keeps_protocol`, what they have in common: one fetch, then at most one write, and none
after a failure; one last event that says how the cycle ended.
-/

set_option autoImplicit false
set_option relaxedAutoImplicit false

namespace DesiredState

inductive Call (ε : Type := CycleError) where
  | get (ns name : String) (answer : Except ε (Option StatefulSet))
  | create (ns : String) (o : StatefulSet) (answer : Except ε StatefulSet)
  | update (ns : String) (o : StatefulSet) (answer : Except ε StatefulSet)

variable {σ ε φ π : Type}

namespace Call

def mutates : Call ε → Bool
  | .get .. => false
  | .create .. | .update .. => true

def error? : Call ε → Option ε
  | .get _ _ (.error e) | .create _ _ (.error e) | .update _ _ (.error e) => some e
  | _ => none

end Call

/-- The store with the calls that were made of it, the first one first. -/
def Store.traced (store : Store σ ε) : Store (σ × List (Call ε)) ε where
  get ns name s :=
    let answer := store.get ns name s.1
    ⟨answer.result, answer.notices, answer.store, s.2 ++ [.get ns name answer.result]⟩
  create ns o s :=
    let answer := store.create ns o s.1
    ⟨answer.result, answer.notices, answer.store, s.2 ++ [.create ns o answer.result]⟩
  update ns o s :=
    let answer := store.update ns o s.1
    ⟨answer.result, answer.notices, answer.store, s.2 ++ [.update ns o answer.result]⟩

theorem Store.follows_traced (store : Store σ ε) : store.traced.Follows Prod.fst store :=
  ⟨fun _ _ _ => rfl, fun _ _ _ => rfl, fun _ _ _ => rfl⟩

namespace Event

def isTerminal : Event ε π → Bool
  | .creating | .updating _ => false
  | _ => true

def error? : Event ε π → Option ε
  | .createFailed e | .updateFailed e | .fetchFailed e | .synthesisFailed e | .patchFailed e =>
    some e
  | _ => none

end Event

def Report.event? : Report ε π → Option (Event ε π)
  | .event e => some e
  | .notice _ => none

private theorem Cycle.events_eq (c : Cycle σ ε π) :
    c.events = c.reports.filterMap Report.event? := rfl

private theorem filterMap_event?_notices (ns : List Notice) :
    (ns.map .notice : List (Report ε π)).filterMap Report.event? = [] := by
  induction ns with
  | nil => rfl
  | cons n ns ih => exact ih

private theorem Cycle.events_after_notices (ns : List Notice) (c : Cycle σ ε π) :
    (c.after (ns.map Report.notice)).events = c.events := by
  rw [events_eq, after, List.filterMap_append, filterMap_event?_notices]
  rfl

private theorem filterMap_event?_announced (announced last : Event ε π) (ns : List Notice) :
    ((Report.event announced :: ns.map Report.notice) ++ [Report.event last]).filterMap
      Report.event? = [announced, last] := by
  rw [List.filterMap_append, List.filterMap_cons, filterMap_event?_notices]
  rfl

open Wraps (wrap)

variable [Wraps ε ParameterError] [Wraps ε φ] [PatchResult π]

/-- How the calls, the events and the result of a cycle belong together. -/
inductive Course (engine : Engine φ π) (rules : List IgnoreRule) (p : Parameters) :
    List (Call ε) → List (Event ε π) → Except ε (Outcome π) → Prop
  | unaddressed (empty : p.name = "" ∨ p.ns = "") :
    Course engine rules p [] [.synthesisFailed (wrap (ParameterError.unaddressed p.name p.ns))]
      (.error (wrap (ParameterError.unaddressed p.name p.ns)))
  | fetchFailed {e : ε} (addressed : ¬ (p.name = "" ∨ p.ns = "")) :
    Course engine rules p [.get p.ns p.name (.error e)] [.fetchFailed e] (.error e)
  | synthesisFailed {found : Option StatefulSet} {e : ParameterError}
    (addressed : ¬ (p.name = "" ∨ p.ns = "")) (rendered : render p = .error e) :
    Course engine rules p [.get p.ns p.name (.ok found)] [.synthesisFailed (wrap e)]
      (.error (wrap e))
  | creationUnrecorded {desired : StatefulSet} {e : φ}
    (addressed : ¬ (p.name = "" ∨ p.ns = "")) (rendered : render p = .ok desired)
    (recorded : engine.record desired = .error e) :
    Course engine rules p [.get p.ns p.name (.ok none)] [.patchFailed (wrap e)]
      (.error (wrap e))
  | createFailed {desired o : StatefulSet} {e : ε}
    (addressed : ¬ (p.name = "" ∨ p.ns = "")) (rendered : render p = .ok desired)
    (recorded : engine.record desired = .ok o) :
    Course engine rules p [.get p.ns p.name (.ok none), .create p.ns o (.error e)]
      [.creating, .createFailed e] (.error e)
  | created {desired o new : StatefulSet} (addressed : ¬ (p.name = "" ∨ p.ns = ""))
    (rendered : render p = .ok desired) (recorded : engine.record desired = .ok o) :
    Course engine rules p [.get p.ns p.name (.ok none), .create p.ns o (.ok new)]
      [.creating, .created new] (.ok .created)
  | comparisonFailed {desired stored : StatefulSet} {e : φ}
    (addressed : ¬ (p.name = "" ∨ p.ns = "")) (rendered : render p = .ok desired)
    (compared : engine.calculate stored (copyStoreOwned stored desired) rules = .error e) :
    Course engine rules p [.get p.ns p.name (.ok (some stored))] [.patchFailed (wrap e)]
      (.error (wrap e))
  | unchanged {desired stored : StatefulSet} {patch : π}
    (addressed : ¬ (p.name = "" ∨ p.ns = "")) (rendered : render p = .ok desired)
    (compared : engine.calculate stored (copyStoreOwned stored desired) rules = .ok patch)
    (empty : PatchResult.isEmpty patch = true) :
    Course engine rules p [.get p.ns p.name (.ok (some stored))] [.unchanged] (.ok .unchanged)
  | updateUnrecorded {desired stored : StatefulSet} {patch : π} {e : φ}
    (addressed : ¬ (p.name = "" ∨ p.ns = "")) (rendered : render p = .ok desired)
    (compared : engine.calculate stored (copyStoreOwned stored desired) rules = .ok patch)
    (changed : PatchResult.isEmpty patch = false)
    (recorded : engine.record (carryAnnotations stored (copyStoreOwned stored desired)) =
      .error e) :
    Course engine rules p [.get p.ns p.name (.ok (some stored))] [.patchFailed (wrap e)]
      (.error (wrap e))
  | updateFailed {desired stored o : StatefulSet} {patch : π} {e : ε}
    (addressed : ¬ (p.name = "" ∨ p.ns = "")) (rendered : render p = .ok desired)
    (compared : engine.calculate stored (copyStoreOwned stored desired) rules = .ok patch)
    (changed : PatchResult.isEmpty patch = false)
    (recorded : engine.record (carryAnnotations stored (copyStoreOwned stored desired)) = .ok o) :
    Course engine rules p [.get p.ns p.name (.ok (some stored)), .update p.ns o (.error e)]
      [.updating patch, .updateFailed e] (.error e)
  | updated {desired stored o new : StatefulSet} {patch : π}
    (addressed : ¬ (p.name = "" ∨ p.ns = "")) (rendered : render p = .ok desired)
    (compared : engine.calculate stored (copyStoreOwned stored desired) rules = .ok patch)
    (changed : PatchResult.isEmpty patch = false)
    (recorded : engine.record (carryAnnotations stored (copyStoreOwned stored desired)) = .ok o) :
    Course engine rules p [.get p.ns p.name (.ok (some stored)), .update p.ns o (.ok new)]
      [.updating patch, .updated new] (.ok (.updated patch))

section Courses

variable {store : Store σ ε} {engine : Engine φ π} {rules : List IgnoreRule} {p : Parameters}
  {desired stored : StatefulSet}

def Goes (engine : Engine φ π) (rules : List IgnoreRule) (p : Parameters)
    (c : Cycle (σ × List (Call ε)) ε π) : Prop :=
  Course engine rules p c.store.2 c.events c.result

private theorem Course.goes {calls : List (Call ε)} {events : List (Event ε π)}
    {result : Except ε (Outcome π)} (h : Course engine rules p calls events result)
    {c : Cycle (σ × List (Call ε)) ε π} (hcalls : c.store.2 = calls) (hevents : c.events = events)
    (hresult : c.result = result) : Goes engine rules p c := by
  rw [Goes, hcalls, hevents, hresult]
  exact h

private theorem Goes.after {c : Cycle (σ × List (Call ε)) ε π} (h : Goes engine rules p c)
    (ns : List Notice) : Goes engine rules p (c.after (ns.map Report.notice)) :=
  Course.goes h rfl (Cycle.events_after_notices ns c) rfl

private theorem goes_createDesired (haddress : ¬ (p.name = "" ∨ p.ns = ""))
    (hrender : render p = .ok desired) (s : σ) :
    Goes engine rules p
      (createDesired store.traced engine p.ns desired (s, [.get p.ns p.name (.ok none)])) := by
  rw [createDesired]
  cases hrecord : engine.record desired with
  | error e => exact Course.goes (.creationUnrecorded haddress hrender hrecord) rfl rfl rfl
  | ok o =>
    have hevents (last : Event ε π) := filterMap_event?_announced .creating last
      (store.create p.ns o s).notices
    simp only [Store.traced]
    cases (store.create p.ns o s).result with
    | error e =>
      have h : Course engine rules p
          [.get p.ns p.name (.ok none), .create p.ns o (.error e)]
          [.creating, .createFailed e] (.error e) := .createFailed haddress hrender hrecord
      exact h.goes rfl (hevents _) rfl
    | ok new =>
      have h : Course (ε := ε) engine rules p
          [.get p.ns p.name (.ok none), .create p.ns o (.ok new)]
          [.creating, .created new] (.ok .created) := .created haddress hrender hrecord
      exact h.goes rfl (hevents _) rfl

private theorem goes_updateStored (haddress : ¬ (p.name = "" ∨ p.ns = ""))
    (hrender : render p = .ok desired) (s : σ) :
    Goes engine rules p (updateStored store.traced engine rules p.ns stored desired
      (s, [.get p.ns p.name (.ok (some stored))])) := by
  rw [updateStored]
  cases hcalc : engine.calculate stored (copyStoreOwned stored desired) rules with
  | error e => exact Course.goes (.comparisonFailed haddress hrender hcalc) rfl rfl rfl
  | ok patch =>
    by_cases hempty : PatchResult.isEmpty patch = true
    · simp only [if_pos hempty]
      exact Course.goes (.unchanged haddress hrender hcalc hempty) rfl rfl rfl
    · have hchanged : PatchResult.isEmpty patch = false := Bool.eq_false_iff.2 hempty
      simp only [if_neg hempty]
      cases hrecord : engine.record (carryAnnotations stored (copyStoreOwned stored desired)) with
      | error e =>
        exact Course.goes (.updateUnrecorded haddress hrender hcalc hchanged hrecord) rfl rfl rfl
      | ok o =>
        have hevents (last : Event ε π) := filterMap_event?_announced (.updating patch) last
          (store.update p.ns o s).notices
        simp only [Store.traced]
        cases (store.update p.ns o s).result with
        | error e =>
          have h : Course engine rules p
              [.get p.ns p.name (.ok (some stored)), .update p.ns o (.error e)]
              [.updating patch, .updateFailed e] (.error e) :=
            .updateFailed haddress hrender hcalc hchanged hrecord
          exact h.goes rfl (hevents _) rfl
        | ok new =>
          have h : Course (ε := ε) engine rules p
              [.get p.ns p.name (.ok (some stored)), .update p.ns o (.ok new)]
              [.updating patch, .updated new] (.ok (.updated patch)) :=
            .updated haddress hrender hcalc hchanged hrecord
          exact h.goes rfl (hevents _) rfl

/-- Every cycle goes one of these ways. -/
theorem goes_reconcile (store : Store σ ε) (engine : Engine φ π) (rules : List IgnoreRule)
    (p : Parameters) (s : σ) :
    Goes engine rules p (reconcile store.traced engine rules p (s, [])) := by
  by_cases haddress : p.name = "" ∨ p.ns = ""
  · rw [reconcile, if_pos haddress]
    exact Course.goes (.unaddressed haddress) rfl rfl rfl
  · rw [reconcile, if_neg haddress]
    have hcalls : (store.traced.get p.ns p.name (s, [])).store =
        ((store.get p.ns p.name s).store, [.get p.ns p.name (store.get p.ns p.name s).result]) :=
      rfl
    have hresult : (store.traced.get p.ns p.name (s, [])).result =
        (store.get p.ns p.name s).result := rfl
    simp only [hcalls, hresult]
    cases (store.get p.ns p.name s).result with
    | error e =>
      have h : Goes engine rules p (.failed e .fetchFailed
          ((store.get p.ns p.name s).store, [.get p.ns p.name (.error e)])) :=
        Course.goes (.fetchFailed haddress) rfl rfl rfl
      exact h.after _
    | ok found =>
      cases hrender : render p with
      | error e =>
        have h : Goes engine rules p (.failed (wrap e : ε) .synthesisFailed
            ((store.get p.ns p.name s).store, [.get p.ns p.name (.ok found)])) :=
          Course.goes (.synthesisFailed haddress hrender) rfl rfl rfl
        exact h.after _
      | ok desired =>
        cases found with
        | none => exact (goes_createDesired haddress hrender _).after _
        | some o => exact (goes_updateStored haddress hrender _).after _

end Courses

/-- The protocol of a cycle: `calls` are those of the store with what it answered, `events` those
reported, and the errors of the store, of synthesis and of the engine come through unchanged. -/
structure Protocol (engine : Engine φ π) (rules : List IgnoreRule) (p : Parameters)
    (calls : List (Call ε)) (events : List (Event ε π)) (result : Except ε (Outcome π)) : Prop where
  unaddressed : p.name = "" ∨ p.ns = "" →
    calls = [] ∧ events = [.synthesisFailed (wrap (ParameterError.unaddressed p.name p.ns))] ∧
      result = .error (wrap (ParameterError.unaddressed p.name p.ns))
  fetches_first : ¬ (p.name = "" ∨ p.ns = "") → ∃ answer writes,
    calls = .get p.ns p.name answer :: writes ∧ writes.length ≤ 1 ∧
      ∀ call ∈ writes, call.mutates = true
  creates_missing : ∀ before ns o answer after, calls = before ++ .create ns o answer :: after →
    before = [.get p.ns p.name (.ok none)]
  updates_changed : ∀ before ns o answer after, calls = before ++ .update ns o answer :: after →
    ∃ stored desired patch, before = [.get p.ns p.name (.ok (some stored))] ∧
      render p = .ok desired ∧
      engine.calculate stored (copyStoreOwned stored desired) rules = .ok patch ∧
      PatchResult.isEmpty patch = false ∧ .updating patch ∈ events
  creates : ∀ desired o, .get p.ns p.name (.ok none) ∈ calls → render p = .ok desired →
    engine.record desired = .ok o → ∃ answer, .create p.ns o answer ∈ calls
  updates : ∀ stored desired patch o, .get p.ns p.name (.ok (some stored)) ∈ calls →
    render p = .ok desired →
    engine.calculate stored (copyStoreOwned stored desired) rules = .ok patch →
    PatchResult.isEmpty patch = false →
    engine.record (carryAnnotations stored (copyStoreOwned stored desired)) = .ok o →
      ∃ answer, .update p.ns o answer ∈ calls
  leaves_alike : ∀ stored desired patch, .get p.ns p.name (.ok (some stored)) ∈ calls →
    render p = .ok desired →
    engine.calculate stored (copyStoreOwned stored desired) rules = .ok patch →
    PatchResult.isEmpty patch = true → result = .ok .unchanged
  call_failed : ∀ before call after e, calls = before ++ call :: after → call.error? = some e →
    after = [] ∧ result = .error e
  synthesis_failed : ∀ found e, .get p.ns p.name (.ok found) ∈ calls → render p = .error e →
    calls = [.get p.ns p.name (.ok found)] ∧ events = [.synthesisFailed (wrap e)] ∧
      result = .error (wrap e)
  comparison_failed : ∀ stored desired e, .get p.ns p.name (.ok (some stored)) ∈ calls →
    render p = .ok desired →
    engine.calculate stored (copyStoreOwned stored desired) rules = .error e →
      calls = [.get p.ns p.name (.ok (some stored))] ∧ events = [.patchFailed (wrap e)] ∧
        result = .error (wrap e)
  creation_unrecorded : ∀ desired e, .get p.ns p.name (.ok none) ∈ calls →
    render p = .ok desired → engine.record desired = .error e →
      calls = [.get p.ns p.name (.ok none)] ∧ events = [.patchFailed (wrap e)] ∧
        result = .error (wrap e)
  update_unrecorded : ∀ stored desired patch e, .get p.ns p.name (.ok (some stored)) ∈ calls →
    render p = .ok desired →
    engine.calculate stored (copyStoreOwned stored desired) rules = .ok patch →
    PatchResult.isEmpty patch = false →
    engine.record (carryAnnotations stored (copyStoreOwned stored desired)) = .error e →
      calls = [.get p.ns p.name (.ok (some stored))] ∧ events = [.patchFailed (wrap e)] ∧
        result = .error (wrap e)
  one_terminal : ∃ announced last, events = announced ++ [last] ∧ last.isTerminal = true ∧
    announced.length ≤ 1 ∧ ∀ event ∈ announced, event.isTerminal = false
  creating_iff : .creating ∈ events ↔ ∃ ns o answer, .create ns o answer ∈ calls
  updating_iff : (∃ patch, .updating patch ∈ events) ↔ ∃ ns o answer, .update ns o answer ∈ calls
  created_iff : result = .ok .created ↔ ∃ o, .created o ∈ events
  updated_iff : ∀ patch, result = .ok (.updated patch) ↔
    .updating patch ∈ events ∧ ∃ o, .updated o ∈ events
  unchanged_iff : result = .ok .unchanged ↔ .unchanged ∈ events
  fetchFailed_iff : ∀ e, .fetchFailed e ∈ events ↔ .get p.ns p.name (.error e) ∈ calls
  createFailed_iff : ∀ e, .createFailed e ∈ events ↔ ∃ ns o, .create ns o (.error e) ∈ calls
  updateFailed_iff : ∀ e, .updateFailed e ∈ events ↔ ∃ ns o, .update ns o (.error e) ∈ calls
  error_iff : ∀ e, result = .error e ↔ ∃ event ∈ events, event.error? = some e

section

variable {engine : Engine φ π} {rules : List IgnoreRule} {p : Parameters}
  {calls : List (Call ε)} {events : List (Event ε π)} {result : Except ε (Outcome π)}

private theorem eq_of_append_cons_pair {α : Type} {a b c : α} {before after : List α}
    (h : [a, b] = before ++ c :: after) :
    (before = [] ∧ c = a ∧ after = [b]) ∨ (before = [a] ∧ c = b ∧ after = []) := by
  cases before with
  | nil => simp_all
  | cons x xs =>
    cases xs with
    | nil => simp_all
    | cons y ys => simp at h

private theorem eq_of_append_cons_singleton {α : Type} {a c : α} {before after : List α}
    (h : [a] = before ++ c :: after) : before = [] ∧ c = a ∧ after = [] := by
  cases before with
  | nil => simp_all
  | cons x xs => simp at h

private theorem Course.creates_missing (h : Course engine rules p calls events result)
    {before after : List (Call ε)} {ns : String} {o : StatefulSet}
    {answer : Except ε StatefulSet} (hc : calls = before ++ .create ns o answer :: after) :
    before = [.get p.ns p.name (.ok none)] := by
  cases h with
  | createFailed | created =>
    obtain ⟨-, he, -⟩ | ⟨rfl, -, -⟩ := eq_of_append_cons_pair hc
    · cases he
    · rfl
  | updateFailed | updated =>
    obtain ⟨-, he, -⟩ | ⟨-, he, -⟩ := eq_of_append_cons_pair hc
    · cases he
    · cases he
  | unaddressed => simp at hc
  | _ =>
    obtain ⟨-, he, -⟩ := eq_of_append_cons_singleton hc
    cases he

private theorem Course.updates_changed (h : Course engine rules p calls events result)
    {before after : List (Call ε)} {ns : String} {o : StatefulSet}
    {answer : Except ε StatefulSet} (hc : calls = before ++ .update ns o answer :: after) :
    ∃ stored desired patch, before = [.get p.ns p.name (.ok (some stored))] ∧
      render p = .ok desired ∧
      engine.calculate stored (copyStoreOwned stored desired) rules = .ok patch ∧
      PatchResult.isEmpty patch = false ∧ .updating patch ∈ events := by
  cases h with
  | updateFailed _ rendered compared changed _ | updated _ rendered compared changed _ =>
    obtain ⟨-, he, -⟩ | ⟨rfl, -, -⟩ := eq_of_append_cons_pair hc
    · cases he
    · exact ⟨_, _, _, rfl, rendered, compared, changed, List.mem_cons_self⟩
  | createFailed | created =>
    obtain ⟨-, he, -⟩ | ⟨-, he, -⟩ := eq_of_append_cons_pair hc
    · cases he
    · cases he
  | unaddressed => simp at hc
  | _ =>
    obtain ⟨-, he, -⟩ := eq_of_append_cons_singleton hc
    cases he

private theorem Course.call_failed (h : Course engine rules p calls events result)
    {before after : List (Call ε)} {call : Call ε} {e : ε}
    (hc : calls = before ++ call :: after) (he : call.error? = some e) :
    after = [] ∧ result = .error e := by
  cases h with
  | unaddressed => simp at hc
  | createFailed | updateFailed =>
    obtain ⟨-, rfl, -⟩ | ⟨-, rfl, rfl⟩ := eq_of_append_cons_pair hc
    · cases he
    · cases he
      exact ⟨rfl, rfl⟩
  | created | updated =>
    obtain ⟨-, rfl, -⟩ | ⟨-, rfl, -⟩ := eq_of_append_cons_pair hc
    · cases he
    · cases he
  | fetchFailed =>
    obtain ⟨-, rfl, rfl⟩ := eq_of_append_cons_singleton hc
    cases he
    exact ⟨rfl, rfl⟩
  | _ =>
    obtain ⟨-, rfl, -⟩ := eq_of_append_cons_singleton hc
    cases he

private theorem Course.one_terminal (h : Course engine rules p calls events result) :
    ∃ announced last, events = announced ++ [last] ∧ last.isTerminal = true ∧
      announced.length ≤ 1 ∧ ∀ event ∈ announced, event.isTerminal = false := by
  cases h with
  | createFailed | created =>
    exact ⟨[.creating], _, rfl, rfl, Nat.le_refl _, List.forall_mem_singleton.2 rfl⟩
  | @updateFailed _ _ _ patch _ | @updated _ _ _ _ patch =>
    exact ⟨[.updating patch], _, rfl, rfl, Nat.le_refl _, List.forall_mem_singleton.2 rfl⟩
  | _ => exact ⟨[], _, rfl, rfl, Nat.zero_le 1, List.forall_mem_nil _⟩

private theorem Course.protocol (h : Course engine rules p calls events result) :
    Protocol engine rules p calls events result where
  unaddressed he := by
    cases h <;> first | exact ⟨rfl, rfl, rfl⟩ | contradiction
  fetches_first ha := by
    cases h <;> first | contradiction | exact ⟨_, _, rfl, by simp, by simp [Call.mutates]⟩
  creates_missing _ _ _ _ _ hc := h.creates_missing hc
  updates_changed _ _ _ _ _ hc := h.updates_changed hc
  creates desired o hc hr hs := by
    cases h <;> simp_all
  updates stored desired patch o hc hr he hp hs := by
    cases h <;> simp_all
  leaves_alike stored desired patch hc hr he hp := by
    cases h <;> simp_all
  call_failed _ _ _ _ hc he := h.call_failed hc he
  synthesis_failed found e hc hr := by
    cases h <;> simp_all
  comparison_failed stored desired e hc hr he := by
    cases h <;> simp_all
  creation_unrecorded desired e hc hr he := by
    cases h <;> simp_all
  update_unrecorded stored desired patch e hc hr he hp hs := by
    cases h <;> simp_all
  one_terminal := h.one_terminal
  creating_iff := by
    cases h <;> simp
  updating_iff := by
    cases h <;> simp
  created_iff := by
    cases h <;> simp
  updated_iff patch := by
    cases h <;> simp [eq_comm]
  unchanged_iff := by
    cases h <;> simp
  fetchFailed_iff e := by
    cases h <;> simp [eq_comm]
  createFailed_iff e := by
    cases h <;> simp [eq_comm]
  updateFailed_iff e := by
    cases h <;> simp [eq_comm]
  error_iff e := by
    cases h <;> simp [Event.error?]

end

/-- Whatever a store and an engine answer, a cycle keeps the protocol; noting the calls changes
nothing about it. -/
theorem reconcile_keeps_protocol (store : Store σ ε) (engine : Engine φ π)
    (rules : List IgnoreRule) (p : Parameters) (s : σ) :
    let c := reconcile store engine rules p s
    let traced := reconcile store.traced engine rules p (s, [])
    traced.map Prod.fst = c ∧ Protocol engine rules p traced.store.2 c.events c.result := by
  intro c traced
  have hmap : traced.map Prod.fst = c := map_reconcile store.follows_traced engine rules p (s, [])
  have hgoes : Goes engine rules p traced := goes_reconcile store engine rules p s
  have hevents : traced.events = c.events := congrArg Cycle.events hmap
  have hresult : traced.result = c.result := congrArg Cycle.result hmap
  rw [Goes, hevents, hresult] at hgoes
  exact ⟨hmap, hgoes.protocol⟩

end DesiredState
