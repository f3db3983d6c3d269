import DesiredState.Proofs.Cycle.Basic
import DesiredState.Proofs.Store.Exchange
/-!
Cycles over HTTP. Main statement: `reconcile_over_http`, that a cycle fetches once, then posts or
puts at most once, according to the reply, and that its result says what became of that.
-/

set_option autoImplicit false
set_option relaxedAutoImplicit false

namespace DesiredState

open Http (Exchange Request Transport)
open Server (conflict notFound)

def Parameters.key (p : Parameters) : ResourceKey := .statefulSet p.ns p.name

namespace Server

variable {server : Server} {ns name : String} {exchanges : List Exchange}

private theorem carry_get {answer : Except CycleError (Option StatefulSet)} {calls : List Call}
    (h : server.Carry (.get ns name answer :: calls) exchanges) :
    ∃ reply rest, exchanges = ⟨server.fetching (.statefulSet ns name), reply⟩ :: rest ∧
      Fetched (.statefulSet ns name) reply answer ∧ server.Carry calls rest := by
  obtain ⟨_, hparts, rfl⟩ := h
  obtain - | ⟨hget, hrest⟩ := hparts
  cases hget with
  | get hfetched => exact ⟨_, _, rfl, hfetched, _, hrest, rfl⟩

private theorem carry_get_alone {answer : Except CycleError (Option StatefulSet)}
    (h : server.Carry [.get ns name answer] exchanges) :
    ∃ reply, exchanges = [⟨server.fetching (.statefulSet ns name), reply⟩] ∧
      Fetched (.statefulSet ns name) reply answer := by
  obtain ⟨reply, _, rfl, hfetched, _, hrest, rfl⟩ := carry_get h
  cases hrest
  exact ⟨reply, rfl, hfetched⟩

private theorem carry_create {o : StatefulSet} {answer : Except CycleError StatefulSet}
    (h : server.Carry [.create ns o answer] exchanges) (hname : o.objectName = name) :
    ∃ reply, exchanges = [⟨server.posting (.statefulSet ns name) o, reply⟩] ∧
      Written .create (.statefulSet ns name) reply answer := by
  subst hname
  obtain ⟨_, hparts, rfl⟩ := h
  obtain - | ⟨hcreate, - | -⟩ := hparts
  cases hcreate with
  | create hwritten => exact ⟨_, rfl, hwritten⟩

private theorem carry_update {o : StatefulSet} {answer : Except CycleError StatefulSet}
    (h : server.Carry [.update ns o answer] exchanges) (hname : o.objectName = name)
    (hne : name ≠ "") :
    ∃ reply, exchanges = [⟨server.putting (.statefulSet ns name) o, reply⟩] ∧
      Written .update (.statefulSet ns name) reply answer := by
  subst hname
  obtain ⟨_, hparts, rfl⟩ := h
  obtain - | ⟨hupdate, - | -⟩ := hparts
  cases hupdate with
  | update hwritten => exact ⟨_, rfl, hwritten⟩
  | nameless hempty => exact absurd hempty hne

end Server

/-- How the reply to the fetch, the exchange that follows it and the result belong together. -/
inductive Dialogue (server : Server) (config : Config) (p : Parameters) (fetched : Http.Reply) :
    List Exchange → Except CycleError Outcome → Prop
  | unfetched {fault : TransportFault} (status : fetched.status? ≠ some notFound)
    (object : fetched.object? = none) :
    Dialogue server config p fetched [] (.error (.transport .get p.key fault))
  | unrendered {e : ParameterError}
    (answered : fetched.status? = some notFound ∨ fetched.object?.isSome = true)
    (rendered : render p = .error e) :
    Dialogue server config p fetched [] (.error (.parameters e))
  | incomparable {stored desired : StatefulSet} {e : PatchError}
    (object : fetched.object? = some stored) (rendered : render p = .ok desired)
    (compared : config.engine.calculate stored (copyStoreOwned stored desired)
      config.ignoreRules = .error e) :
    Dialogue server config p fetched [] (.error (.patch e))
  | unchanged {stored desired : StatefulSet} {patch : Patch}
    (object : fetched.object? = some stored) (rendered : render p = .ok desired)
    (compared : config.engine.calculate stored (copyStoreOwned stored desired)
      config.ignoreRules = .ok patch) (empty : patch.isEmpty = true) :
    Dialogue server config p fetched [] (.ok .unchanged)
  | posted {desired o : StatefulSet} {reply : Http.Reply} {answer : Except CycleError StatefulSet}
    (status : fetched.status? = some notFound) (rendered : render p = .ok desired)
    (written : Server.Written .create p.key reply answer) :
    Dialogue server config p fetched [⟨server.posting p.key o, reply⟩]
      (answer.map fun _ => .created)
  | put {stored desired o : StatefulSet} {patch : Patch} {reply : Http.Reply}
    {answer : Except CycleError StatefulSet} (object : fetched.object? = some stored)
    (rendered : render p = .ok desired)
    (compared : config.engine.calculate stored (copyStoreOwned stored desired)
      config.ignoreRules = .ok patch) (changed : patch.isEmpty = false)
    (written : Server.Written .update p.key reply answer) :
    Dialogue server config p fetched [⟨server.putting p.key o, reply⟩]
      (answer.map fun _ => .updated patch)

variable {server : Server} {config : Config} {p : Parameters}

private theorem dialogue_of_course {calls : List Call} {events : List Event}
    {result : Except CycleError Outcome} {exchanges : List Exchange}
    (haddress : ¬ (p.name = "" ∨ p.ns = ""))
    (h : Course config.engine config.ignoreRules p calls events result)
    (hcarry : server.Carry calls exchanges) :
    ∃ fetched writes, exchanges = ⟨server.fetching p.key, fetched⟩ :: writes ∧
      Dialogue server config p fetched writes result := by
  have hne : p.name ≠ "" := fun he => haddress (.inl he)
  cases h with
  | unaddressed empty => exact absurd empty haddress
  | fetchFailed =>
    obtain ⟨fetched, rfl, hfetched⟩ := Server.carry_get_alone hcarry
    cases hfetched with
    | failed status object => exact ⟨_, _, rfl, .unfetched status object⟩
  | synthesisFailed _ rendered =>
    obtain ⟨fetched, rfl, hfetched⟩ := Server.carry_get_alone hcarry
    cases hfetched with
    | missing status => exact ⟨_, _, rfl, .unrendered (.inl status) rendered⟩
    | found object => exact ⟨_, _, rfl, .unrendered (.inr (by rw [object]; rfl)) rendered⟩
  | @creationUnrecorded desired _ _ _ recorded =>
    -- a snapshot can be recorded on every object
    obtain ⟨r, hrecord, -⟩ := Snapshot.record_eq_ok config.annotationKey desired
    cases recorded.symm.trans hrecord
  | createFailed _ rendered recorded | created _ rendered recorded =>
    obtain ⟨fetched, rest, rfl, hfetched, hrest⟩ := Server.carry_get hcarry
    have hname := (Snapshot.objectName_of_record recorded).trans (render_eq_ok rendered).1
    obtain ⟨reply, rfl, hwritten⟩ := Server.carry_create hrest hname
    cases hfetched with
    | missing status => exact ⟨_, _, rfl, .posted status rendered hwritten⟩
  | comparisonFailed _ rendered compared =>
    obtain ⟨fetched, rfl, hfetched⟩ := Server.carry_get_alone hcarry
    cases hfetched with
    | found object => exact ⟨_, _, rfl, .incomparable object rendered compared⟩
  | unchanged _ rendered compared empty =>
    obtain ⟨fetched, rfl, hfetched⟩ := Server.carry_get_alone hcarry
    cases hfetched with
    | found object => exact ⟨_, _, rfl, .unchanged object rendered compared empty⟩
  | @updateUnrecorded desired stored _ _ _ _ _ _ recorded =>
    obtain ⟨r, hrecord, -⟩ :=
      Snapshot.record_eq_ok config.annotationKey (replacement stored desired)
    cases recorded.symm.trans hrecord
  | @updateFailed desired stored _ _ _ _ rendered compared changed recorded
  | @updated desired stored _ _ _ _ rendered compared changed recorded =>
    obtain ⟨fetched, rest, rfl, hfetched, hrest⟩ := Server.carry_get hcarry
    -- whatever name the stored object has, the one that replaces it has that of the parameters
    have hname := (Snapshot.objectName_of_record recorded).trans
      ((objectName_replacement stored desired).trans (render_eq_ok rendered).1)
    obtain ⟨reply, rfl, hwritten⟩ := Server.carry_update hrest hname hne
    cases hfetched with
    | found object => exact ⟨_, _, rfl, .put object rendered compared changed hwritten⟩

/-- What a cycle makes of the answers of a server: `fetched` is the reply to the fetch and `writes`
is what is exchanged after it. -/
structure Classified (server : Server) (config : Config) (p : Parameters) (fetched : Http.Reply)
    (writes : List Exchange) (result : Except CycleError Outcome) : Prop where
  posts_iff : (∃ o reply, writes = [⟨server.posting p.key o, reply⟩]) ↔
    fetched.status? = some notFound ∧ ∃ desired, render p = .ok desired
  puts_iff : (∃ o reply, writes = [⟨server.putting p.key o, reply⟩]) ↔
    ∃ stored desired patch, fetched.object? = some stored ∧ render p = .ok desired ∧
      config.engine.calculate stored (copyStoreOwned stored desired) config.ignoreRules =
        .ok patch ∧ patch.isEmpty = false
  nothing_else : writes = [] ∨ (∃ o reply, writes = [⟨server.posting p.key o, reply⟩]) ∨
    ∃ o reply, writes = [⟨server.putting p.key o, reply⟩]
  created_iff : result = .ok .created ↔
    ∃ o reply, writes = [⟨server.posting p.key o, reply⟩] ∧ reply.object?.isSome = true
  updated_iff : (∃ patch, result = .ok (.updated patch)) ↔
    ∃ o reply, writes = [⟨server.putting p.key o, reply⟩] ∧ reply.object?.isSome = true
  conflict_iff : (∃ key cause, result = .error (.conflict key cause)) ↔
    ∃ e ∈ writes, e.reply.status? = some conflict
  fetch_failed : fetched.status? ≠ some notFound → fetched.object? = none →
    ∃ fault, result = .error (.transport .get p.key fault)
  write_failed : ∀ e ∈ writes, e.reply.status? ≠ some conflict → e.reply.object? = none →
    ∃ fault, result = .error (.transport e.request.operation p.key fault)

section

variable {fetched : Http.Reply} {writes : List Exchange} {result : Except CycleError Outcome}

private theorem posting_ne_putting (key : ResourceKey) (o o' : StatefulSet) :
    server.posting key o ≠ server.putting key o' :=
  fun h => nomatch congrArg Request.operation h

private theorem exists_singleton_iff {f : StatefulSet → Request} {o : StatefulSet}
    {reply : Http.Reply} {P : Http.Reply → Prop} :
    (∃ o' reply', [Exchange.mk (f o) reply] = [Exchange.mk (f o') reply'] ∧ P reply') ↔
      P reply := by
  constructor
  · rintro ⟨o', reply', he, h⟩
    have hreply : reply = reply' := congrArg Exchange.reply (List.singleton_inj.1 he)
    rwa [hreply]
  · intro h
    exact ⟨o, reply, rfl, h⟩

namespace Dialogue

private theorem posts_iff (h : Dialogue server config p fetched writes result) :
    (∃ o reply, writes = [⟨server.posting p.key o, reply⟩]) ↔
      fetched.status? = some notFound ∧ ∃ desired, render p = .ok desired := by
  cases h with
  | unfetched status => simp [status]
  | unrendered _ rendered => simp [rendered]
  | incomparable object | unchanged object =>
    have hstatus : fetched.status? ≠ some notFound := Http.Reply.status?_ne object rfl
    simp [hstatus]
  | posted status rendered => exact iff_of_true ⟨_, _, rfl⟩ ⟨status, _, rendered⟩
  | put object =>
    have hstatus : fetched.status? ≠ some notFound := Http.Reply.status?_ne object rfl
    simp [hstatus, (posting_ne_putting _ _ _).symm]

private theorem puts_iff (h : Dialogue server config p fetched writes result) :
    (∃ o reply, writes = [⟨server.putting p.key o, reply⟩]) ↔
      ∃ stored desired patch, fetched.object? = some stored ∧ render p = .ok desired ∧
        config.engine.calculate stored (copyStoreOwned stored desired) config.ignoreRules =
          .ok patch ∧ patch.isEmpty = false := by
  cases h with
  | unfetched _ object => simp [object]
  | unrendered _ rendered => simp [rendered]
  | incomparable object rendered compared => simp [object, rendered, compared]
  | unchanged object rendered compared empty => simp [object, rendered, compared, empty]
  | posted status =>
    have hobject : fetched.object? = none := Http.Reply.object?_eq_none status rfl
    simp [hobject, posting_ne_putting]
  | put object rendered compared changed =>
    exact iff_of_true ⟨_, _, rfl⟩ ⟨_, _, _, object, rendered, compared, changed⟩

private theorem nothing_else (h : Dialogue server config p fetched writes result) :
    writes = [] ∨ (∃ o reply, writes = [⟨server.posting p.key o, reply⟩]) ∨
      ∃ o reply, writes = [⟨server.putting p.key o, reply⟩] := by
  cases h with
  | posted => exact .inr (.inl ⟨_, _, rfl⟩)
  | put => exact .inr (.inr ⟨_, _, rfl⟩)
  | _ => exact .inl rfl

private theorem created_iff (h : Dialogue server config p fetched writes result) :
    result = .ok .created ↔
      ∃ o reply, writes = [⟨server.posting p.key o, reply⟩] ∧ reply.object?.isSome = true := by
  cases h with
  | @posted _ _ _ answer _ _ written =>
    rw [exists_singleton_iff (f := server.posting p.key), ← written.ok_iff]
    cases answer <;> simp [Except.map]
  | @put _ _ _ _ _ answer =>
    cases answer <;> simp [Except.map, (posting_ne_putting _ _ _).symm]
  | _ => simp

private theorem updated_iff (h : Dialogue server config p fetched writes result) :
    (∃ patch, result = .ok (.updated patch)) ↔
      ∃ o reply, writes = [⟨server.putting p.key o, reply⟩] ∧ reply.object?.isSome = true := by
  cases h with
  | @posted _ _ _ answer => cases answer <;> simp [Except.map, posting_ne_putting]
  | @put _ _ _ _ _ answer _ _ _ _ written =>
    rw [exists_singleton_iff (f := server.putting p.key), ← written.ok_iff]
    cases answer <;> simp [Except.map]
  | _ => simp

private theorem conflict_iff (h : Dialogue server config p fetched writes result) :
    (∃ key cause, result = .error (.conflict key cause)) ↔
      ∃ e ∈ writes, e.reply.status? = some conflict := by
  cases h with
  | @posted _ _ _ answer _ _ written | @put _ _ _ _ _ answer _ _ _ _ written =>
    simp only [List.mem_singleton, exists_eq_left, ← written.conflict_iff]
    cases answer <;> simp [Except.map]
  | _ => simp

private theorem fetch_failed (h : Dialogue server config p fetched writes result)
    (hstatus : fetched.status? ≠ some notFound) (hobject : fetched.object? = none) :
    ∃ fault, result = .error (.transport .get p.key fault) := by
  cases h with
  | unfetched => exact ⟨_, rfl⟩
  | unrendered answered => simp [hstatus, hobject] at answered
  | posted status => exact absurd status hstatus
  | incomparable object | unchanged object | put object =>
    cases object.symm.trans hobject

private theorem write_failed (h : Dialogue server config p fetched writes result) {e : Exchange}
    (he : e ∈ writes) (hstatus : e.reply.status? ≠ some conflict)
    (hobject : e.reply.object? = none) :
    ∃ fault, result = .error (.transport e.request.operation p.key fault) := by
  cases h with
  | posted _ _ written | put _ _ _ _ written =>
    rw [List.mem_singleton] at he
    subst he
    obtain ⟨fault, rfl⟩ := written.transport hstatus hobject
    exact ⟨fault, rfl⟩
  | _ => cases he

private theorem classified (h : Dialogue server config p fetched writes result) :
    Classified server config p fetched writes result where
  posts_iff := h.posts_iff
  puts_iff := h.puts_iff
  nothing_else := h.nothing_else
  created_iff := h.created_iff
  updated_iff := h.updated_iff
  conflict_iff := h.conflict_iff
  fetch_failed := h.fetch_failed
  write_failed _ he := h.write_failed he

end Dialogue

end

/-- Whatever a server answers, a cycle for a named object asks for it once; then it posts the object
if there is none, or puts it if there is one that differs, and its result tells what became of
that. Noting the exchanges changes nothing about the cycle. -/
theorem reconcile_over_http {σ : Type} (server : Server) (t : Transport σ) (config : Config)
    (p : Parameters) (s : σ) (hname : p.name ≠ "") (hns : p.ns ≠ "") :
    let c := reconcile (server.asStore t) config.engine config.ignoreRules p s
    let traced := reconcile (server.asStore t.traced) config.engine config.ignoreRules p (s, [])
    traced.map Prod.fst = c ∧ ∃ fetched writes,
      traced.store.2 = ⟨server.fetching p.key, fetched⟩ :: writes ∧
        Classified server config p fetched writes c.result := by
  intro c traced
  have hmap : traced.map Prod.fst = c :=
    map_reconcile (server.follows_traced t) config.engine config.ignoreRules p (s, [])
  have haddress : ¬ (p.name = "" ∨ p.ns = "") := by
    rintro (h | h)
    · exact hname h
    · exact hns h
  obtain ⟨calls, hcourse, hcarry⟩ :=
    server.carried_reconcile t config.engine config.ignoreRules p s
  obtain ⟨fetched, writes, hexchanges, h⟩ := dialogue_of_course haddress hcourse hcarry
  have hresult : traced.result = c.result := congrArg Cycle.result hmap
  exact ⟨hmap, fetched, writes, hexchanges, hresult ▸ h.classified⟩

private def scripted : Transport (List Http.Reply) := fun _ replies =>
  (replies.headD (.failed "connection refused"), replies.tail)

private def localServer : Server := ⟨"http://127.0.0.1:6443", none⟩

private def answered (replies : List Http.Reply) : Cycle (List Http.Reply × List Exchange) :=
  reconcile (localServer.asStore scripted.traced) Config.default.engine
    Config.default.ignoreRules databaseParameters (replies, [])

private def raced := answered [.response 404 "", .response 409 "exists"]

private def bareBody : String :=
  "\x7b\"apiVersion\":\"apps/v1\",\"kind\":\"StatefulSet\",\"metadata\":\x7b\"name\":\"db\"\x7d\x7d"

private def replaced := answered [.response 200 bareBody, .response 200 bareBody]

/-- Another writer creates the object between the fetch and the post; and an object that is found
without a specification is put. -/
theorem reconcile_over_http_of_race :
    databaseParameters.name ≠ "" ∧ databaseParameters.ns ≠ "" ∧
      (∃ o, raced.store.2 =
        [⟨localServer.fetching databaseParameters.key, .response 404 ""⟩,
          ⟨localServer.posting databaseParameters.key o, .response 409 "exists"⟩]) ∧
      (∃ key cause, raced.result = .error (.conflict key cause)) ∧
      (∃ o, replaced.store.2 =
        [⟨localServer.fetching databaseParameters.key, .response 200 bareBody⟩,
          ⟨localServer.putting databaseParameters.key o, .response 200 bareBody⟩]) ∧
      ∃ patch, replaced.result = .ok (.updated patch) := by
  have hname : databaseParameters.name ≠ "" := by decide
  have hns : databaseParameters.ns ≠ "" := by decide
  have hraced : raced.store.2.map Exchange.reply = [.response 404 "", .response 409 "exists"] := by
    decide
  obtain ⟨hreplaced, hobject⟩ : replaced.store.2.map Exchange.reply =
        [.response 200 bareBody, .response 200 bareBody] ∧
      (Http.Reply.response 200 bareBody).object?.isSome = true := by
    decide +kernel
  obtain ⟨desired, hrender, -⟩ := exists_render_of_any
    (show (render databaseParameters).toOption.any (fun _ => true) = true by decide)
  rw [raced, answered] at hraced ⊢
  rw [replaced, answered] at hreplaced ⊢
  refine ⟨hname, hns, and_assoc.1 ⟨?_, ?_⟩⟩
  · obtain ⟨hmap, fetched, writes, hexchanges, h⟩ := reconcile_over_http localServer scripted
      .default databaseParameters [.response 404 "", .response 409 "exists"] hname hns
    rw [hexchanges] at hraced
    obtain ⟨rfl, hwrites⟩ := List.cons.inj hraced
    obtain ⟨o, reply, rfl⟩ := h.posts_iff.2 ⟨rfl, desired, hrender⟩
    obtain ⟨rfl, -⟩ := List.cons.inj hwrites
    have hconflict := h.conflict_iff.2 ⟨_, List.mem_singleton_self _, rfl⟩
    rw [← hmap, Cycle.result_map] at hconflict
    exact ⟨⟨o, hexchanges⟩, hconflict⟩
  · obtain ⟨hmap, fetched, writes, hexchanges, h⟩ := reconcile_over_http localServer scripted
      .default databaseParameters [.response 200 bareBody, .response 200 bareBody] hname hns
    rw [hexchanges] at hreplaced
    obtain ⟨rfl, hwrites⟩ := List.cons.inj hreplaced
    obtain rfl | ⟨o, reply, rfl⟩ | ⟨o, reply, rfl⟩ := h.nothing_else
    · cases hwrites
    · obtain ⟨hmissing, -⟩ := h.posts_iff.1 ⟨o, reply, rfl⟩
      cases hmissing
    · obtain ⟨rfl, -⟩ := List.cons.inj hwrites
      have hupdated := h.updated_iff.2 ⟨o, _, rfl, hobject⟩
      rw [← hmap, Cycle.result_map] at hupdated
      exact ⟨⟨o, hexchanges⟩, hupdated⟩

end DesiredState
