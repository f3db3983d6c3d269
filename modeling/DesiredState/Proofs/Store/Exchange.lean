import DesiredState.Proofs.Cycle.Protocol
import DesiredState.Store.Remote
import Mathlib.Data.List.Forall2
/-!
The requests that carry the calls of a store behind a server, and what becomes of a call by the
reply. Main statement: `carried_reconcile`, that the exchanges of a cycle carry its calls, in turn.
-/

set_option autoImplicit false
set_option relaxedAutoImplicit false

namespace DesiredState

namespace Http

variable {σ : Type}

/-- A request with the reply to it. -/
structure Exchange where
  request : Request
  reply : Reply

def Transport.traced (t : Transport σ) : Transport (σ × List Exchange) := fun request s =>
  ((t request s.1).1, (t request s.1).2, s.2 ++ [⟨request, (t request s.1).1⟩])

namespace Reply

def status? : Reply → Option Nat
  | .response status _ => some status
  | .failed _ => none

def object? : Reply → Option StatefulSet
  | .response status body =>
    if isSuccess status then (Value.parse .json body).toOption else none
  | .failed _ => none

variable {reply : Reply} {status : Nat}

theorem object?_eq_none (h : reply.status? = some status) (hs : isSuccess status = false) :
    reply.object? = none := by
  cases reply with
  | failed detail => rfl
  | response status' body =>
    cases h
    rw [object?, hs, if_neg Bool.false_ne_true]

theorem status?_ne {o : StatefulSet} (h : reply.object? = some o)
    (hs : isSuccess status = false) : reply.status? ≠ some status := by
  intro he
  rw [object?_eq_none he hs] at h
  cases h

end Reply

end Http

open Http (Exchange Request Transport)

namespace Server

variable (server : Server) {σ : Type}

def fetching (key : ResourceKey) : Request :=
  ⟨.get, server.objectUrl key, server.token, none⟩

def posting (key : ResourceKey) (o : StatefulSet) : Request :=
  ⟨.create, server.collectionUrl key, server.token, some o.toJson.compact⟩

/-- Hands over an object that replaces the one of a key. -/
def putting (key : ResourceKey) (o : StatefulSet) : Request :=
  ⟨.update, server.objectUrl key, server.token, some o.toJson.compact⟩

/-- What becomes of a fetch, by the reply. -/
inductive Fetched (key : ResourceKey) (reply : Http.Reply) :
    Except CycleError (Option StatefulSet) → Prop
  | missing (status : reply.status? = some notFound) : Fetched key reply (.ok none)
  | found {o : StatefulSet} (object : reply.object? = some o) : Fetched key reply (.ok (some o))
  | failed {fault : TransportFault} (status : reply.status? ≠ some notFound)
    (object : reply.object? = none) : Fetched key reply (.error (.transport .get key fault))

/-- What becomes of a write, by the reply. -/
inductive Written (op : Operation) (key : ResourceKey) (reply : Http.Reply) :
    Except CycleError StatefulSet → Prop
  | stored {o : StatefulSet} (object : reply.object? = some o) : Written op key reply (.ok o)
  | refused {cause : ConflictCause} (status : reply.status? = some conflict) :
    Written op key reply (.error (.conflict key.text cause))
  | failed {fault : TransportFault} (status : reply.status? ≠ some conflict)
    (object : reply.object? = none) : Written op key reply (.error (.transport op key fault))

section

variable {op : Operation} {key : ResourceKey} {reply : Http.Reply}
  {answer : Except CycleError StatefulSet}

theorem Written.ok_iff (h : Written op key reply answer) :
    (∃ o, answer = .ok o) ↔ reply.object?.isSome = true := by
  cases h with
  | stored object => simp [object]
  | refused status =>
    have hobject : reply.object? = none := Http.Reply.object?_eq_none status rfl
    simp [hobject]
  | failed _ object => simp [object]

theorem Written.conflict_iff (h : Written op key reply answer) :
    (∃ k cause, answer = .error (.conflict k cause)) ↔ reply.status? = some conflict := by
  cases h with
  | stored object =>
    have hstatus : reply.status? ≠ some conflict := Http.Reply.status?_ne object rfl
    simp [hstatus]
  | refused status => simp [status]
  | failed status => simp [status]

theorem Written.transport (h : Written op key reply answer)
    (hstatus : reply.status? ≠ some conflict) (hobject : reply.object? = none) :
    ∃ fault, answer = .error (.transport op key fault) := by
  cases h with
  | stored object => exact absurd (object.symm.trans hobject) (by simp)
  | refused status => exact absurd status hstatus
  | failed => exact ⟨_, rfl⟩

end

private theorem objectOf_cases (op : Operation) (key : ResourceKey) (status : Nat) (body : String) :
    (∃ o, (Http.Reply.response status body).object? = some o ∧
        objectOf op key ⟨status, body⟩ = .ok o) ∨
      ∃ fault, (Http.Reply.response status body).object? = none ∧
        objectOf op key ⟨status, body⟩ = .error (.transport op key fault) := by
  rw [objectOf, Http.Reply.object?]
  by_cases hs : Http.isSuccess status = true
  · rw [if_pos hs, if_pos hs]
    cases (Value.parse .json body : Except ParameterError StatefulSet) with
    | ok o => exact .inl ⟨o, rfl, rfl⟩
    | error e => exact .inr ⟨_, rfl, rfl⟩
  · rw [if_neg hs, if_neg hs]
    exact .inr ⟨_, rfl, rfl⟩

private theorem fetched_get (t : Transport σ) (ns name : String) (s : σ) :
    let exchanged := t (server.fetching (.statefulSet ns name)) s
    Fetched (.statefulSet ns name) exchanged.1 (server.get t ns name s).result ∧
      (server.get t ns name s).store = exchanged.2 := by
  simp only [get, ask, fetching, Option.map_none]
  generalize t ⟨.get, server.objectUrl (.statefulSet ns name), server.token, none⟩ s = exchanged
  obtain ⟨reply, left⟩ := exchanged
  cases reply with
  | failed detail => exact ⟨.failed nofun rfl, rfl⟩
  | response status body =>
    refine ⟨?_, rfl⟩
    simp only [Except.bind]
    by_cases hs : status = notFound
    · rw [if_pos hs]
      exact .missing (congrArg some hs)
    · rw [if_neg hs]
      obtain ⟨o, ho, hr⟩ | ⟨fault, ho, hr⟩ :=
        objectOf_cases .get (.statefulSet ns name) status body
      · rw [hr]
        exact .found ho
      · rw [hr]
        exact .failed (fun h => hs (Option.some.inj h)) ho

private theorem written_write (t : Transport σ) (op : Operation) (key : ResourceKey)
    (url refusal : String) (o : StatefulSet) (s : σ) :
    let exchanged := t ⟨op, url, server.token, some o.toJson.compact⟩ s
    Written op key exchanged.1 (server.write t op key url refusal o s).result ∧
      (server.write t op key url refusal o s).store = exchanged.2 := by
  simp only [write, ask, Option.map_some]
  generalize t ⟨op, url, server.token, some o.toJson.compact⟩ s = exchanged
  obtain ⟨reply, left⟩ := exchanged
  cases reply with
  | failed detail => exact ⟨.failed nofun rfl, rfl⟩
  | response status body =>
    by_cases hs : status = conflict
    · simp only [if_pos hs, and_true]
      exact .refused (congrArg some hs)
    · simp only [if_neg hs, and_true]
      obtain ⟨o, ho, hr⟩ | ⟨fault, ho, hr⟩ := objectOf_cases op key status body
      · rw [hr]
        exact .stored ho
      · rw [hr]
        exact .failed (fun h => hs (Option.some.inj h)) ho

/-- A call is carried by one exchange; an object without a name is not sent to replace another. -/
inductive Carried : Call → List Exchange → Prop
  | get {ns name : String} {reply : Http.Reply} {answer : Except CycleError (Option StatefulSet)}
    (fetched : Fetched (.statefulSet ns name) reply answer) :
    Carried (.get ns name answer) [⟨server.fetching (.statefulSet ns name), reply⟩]
  | create {ns : String} {o : StatefulSet} {reply : Http.Reply}
    {answer : Except CycleError StatefulSet}
    (written : Written .create (.statefulSet ns o.objectName) reply answer) :
    Carried (.create ns o answer) [⟨server.posting (.statefulSet ns o.objectName) o, reply⟩]
  | update {ns : String} {o : StatefulSet} {reply : Http.Reply}
    {answer : Except CycleError StatefulSet}
    (written : Written .update (.statefulSet ns o.objectName) reply answer) :
    Carried (.update ns o answer) [⟨server.putting (.statefulSet ns o.objectName) o, reply⟩]
  | nameless {ns : String} {o : StatefulSet} (name : o.objectName = "") :
    Carried (.update ns o (.error .nameless)) []

def Carry (calls : List Call) (exchanges : List Exchange) : Prop :=
  ∃ parts, List.Forall₂ server.Carried calls parts ∧ parts.flatten = exchanges

private theorem carry_concat {calls : List Call} {call : Call} {exchanges new : List Exchange}
    (h : server.Carry calls exchanges) (hnew : server.Carried call new) :
    server.Carry (calls ++ [call]) (exchanges ++ new) := by
  obtain ⟨parts, hparts, rfl⟩ := h
  refine ⟨parts ++ [new], List.rel_append hparts (.cons hnew .nil), ?_⟩
  rw [List.flatten_append, List.flatten_singleton]

section Tracing

variable (t : Transport σ) (s : σ × List Exchange)

private theorem ask_traced (op : Operation) (key : ResourceKey) (url : String)
    (object : Option StatefulSet) :
    let request : Request := ⟨op, url, server.token, object.map fun o => o.toJson.compact⟩
    server.ask t.traced op key url object s =
      ((server.ask t op key url object s.1).1, (server.ask t op key url object s.1).2,
        s.2 ++ [⟨request, (t request s.1).1⟩]) := by
  simp only [ask, Transport.traced]
  generalize t ⟨op, url, server.token, object.map fun o => o.toJson.compact⟩ s.1 = exchanged
  obtain ⟨reply, left⟩ := exchanged
  cases reply <;> rfl

private theorem write_traced (op : Operation) (key : ResourceKey) (url refusal : String)
    (o : StatefulSet) :
    (server.write t.traced op key url refusal o s).map Prod.fst =
      server.write t op key url refusal o s.1 := by
  rw [write, write, ask_traced]
  generalize server.ask t op key url (some o) s.1 = answered
  obtain ⟨answer, left⟩ := answered
  cases answer with
  | error e => rfl
  | ok r =>
    by_cases hs : r.status = conflict
    · simp only [if_pos hs]
      rfl
    · simp only [if_neg hs]
      rfl

theorem follows_traced : (server.asStore t.traced).Follows Prod.fst (server.asStore t) where
  get ns name s := by
    simp only [asStore, get, ask_traced]
    rfl
  create ns o s := server.write_traced t s ..
  update ns o s := by
    simp only [asStore, update]
    cases ObjectMeta.text? (o.get StatefulSet.metadata) ObjectMeta.name with
    | none => rfl
    | some name => exact server.write_traced t s ..

private theorem carried_get (ns name : String) :
    ∃ new, server.Carried (.get ns name (server.get t.traced ns name s).result) new ∧
      (server.get t.traced ns name s).store.2 = s.2 ++ new := by
  obtain ⟨hfetched, hstore⟩ := server.fetched_get t.traced ns name s
  exact ⟨_, .get hfetched, congrArg Prod.snd hstore⟩

private theorem carried_create (ns : String) (o : StatefulSet) :
    ∃ new, server.Carried (.create ns o (server.create t.traced ns o s).result) new ∧
      (server.create t.traced ns o s).store.2 = s.2 ++ new := by
  refine ⟨_, .create (server.written_write t.traced ..).1, ?_⟩
  exact congrArg Prod.snd (server.written_write t.traced ..).2

private theorem carried_update (ns : String) (o : StatefulSet) :
    ∃ new, server.Carried (.update ns o (server.update t.traced ns o s).result) new ∧
      (server.update t.traced ns o s).store.2 = s.2 ++ new := by
  rw [update]
  cases hname : ObjectMeta.text? (o.get StatefulSet.metadata) ObjectMeta.name with
  | none =>
    have hempty : o.objectName = "" := by rw [StatefulSet.objectName, hname]; rfl
    exact ⟨[], .nameless hempty, s.2.append_nil.symm⟩
  | some name =>
    have hname : o.objectName = name := by rw [StatefulSet.objectName, hname]; rfl
    subst hname
    refine ⟨_, .update (server.written_write t.traced ..).1, ?_⟩
    exact congrArg Prod.snd (server.written_write t.traced ..).2

private theorem keeps_carry : (server.asStore t.traced).traced.Keeps
    fun s : (σ × List Exchange) × List Call => server.Carry s.2 s.1.2 where
  get ns name s hs := by
    obtain ⟨new, hnew, hstore⟩ := server.carried_get t s.1 ns name
    exact hstore ▸ server.carry_concat hs hnew
  create ns o s hs := by
    obtain ⟨new, hnew, hstore⟩ := server.carried_create t s.1 ns o
    exact hstore ▸ server.carry_concat hs hnew
  update ns o s hs := by
    obtain ⟨new, hnew, hstore⟩ := server.carried_update t s.1 ns o
    exact hstore ▸ server.carry_concat hs hnew

/-- The exchanges of a cycle carry the calls that it makes. -/
theorem carried_reconcile (engine : Engine) (rules : List IgnoreRule) (p : Parameters) (s : σ) :
    let c := reconcile (server.asStore t.traced) engine rules p (s, [])
    ∃ calls, Course engine rules p calls c.events c.result ∧ server.Carry calls c.store.2 := by
  intro c
  -- the calls are noted on top of the exchanges, so that both belong to one run
  have hmap : (reconcile (server.asStore t.traced).traced engine rules p ((s, []), [])).map
      Prod.fst = c :=
    map_reconcile (server.asStore t.traced).follows_traced engine rules p ((s, []), [])
  have hcarry := keeps_reconcile (server.keeps_carry t) engine rules p ((s, []), [])
    ⟨[], .nil, rfl⟩
  have hgoes := goes_reconcile (server.asStore t.traced) engine rules p (s, [])
  rw [← hmap]
  exact ⟨_, hgoes, hcarry⟩

end Tracing

end Server

end DesiredState
