import DesiredState.Proofs.Store.Versions
/-!
Requests to the store in memory, one after the other. Main statements: `effect_perform`, that a
request leaves what is stored or writes one object under a new version, and `invariant_of_run`,
what holds of every store that requests make of an empty one.
-/

set_option autoImplicit false
set_option relaxedAutoImplicit false

namespace DesiredState

namespace StatefulSet

def ns? (o : StatefulSet) : Option String := ObjectMeta.text? (o.get metadata) ObjectMeta.ns

def uid? (o : StatefulSet) : Option String := ObjectMeta.text? (o.get metadata) ObjectMeta.uid

def createdAt? (o : StatefulSet) : Option (Value .time) :=
  (o.get metadata).get? ObjectMeta.creationTimestamp

/-- How often the specification of an object has changed, as far as it is known. -/
def generation? (o : StatefulSet) : Option Int :=
  ((o.get metadata).get? ObjectMeta.generation).map Value.int

end StatefulSet

namespace Memory

inductive Request where
  | get (ns name : String)
  | create (moment : Moment) (ns : String) (o : StatefulSet)
  | update (moment : Moment) (ns : String) (o : StatefulSet)
  | failOn (op : Operation) (message : String)
  | clearFailures

namespace Request

def perform : Request → Memory → Except CycleError (Option StatefulSet) × Memory
  | .get ns name, m => ((Memory.get ns name m).result, (Memory.get ns name m).store)
  | .create moment ns o, m =>
    ((Memory.create moment ns o m).result.map some, (Memory.create moment ns o m).store)
  | .update moment ns o, m =>
    ((Memory.update moment ns o m).result.map some, (Memory.update moment ns o m).store)
  | .failOn op message, m => (.ok none, m.failOn op message)
  | .clearFailures, m => (.ok none, m.clearFailures)

def written? (r : Request) (m : Memory) : Option StatefulSet :=
  match r with
  | .create moment ns o => (Memory.create moment ns o m).result.toOption
  | .update moment ns o => (Memory.update moment ns o m).result.toOption
  | _ => none

def run (requests : List Request) (m : Memory) : Memory :=
  requests.foldl (fun m r => (r.perform m).2) m

def writes : List Request → Memory → List StatefulSet
  | [], _ => []
  | r :: rest, m => (r.written? m).toList ++ writes rest (r.perform m).2

private theorem run_cons (r : Request) (rest : List Request) (m : Memory) :
    run (r :: rest) m = run rest (r.perform m).2 := rfl

private theorem run_append (first rest : List Request) (m : Memory) :
    run (first ++ rest) m = run rest (run first m) := List.foldl_append

end Request

section Written

variable {m : Memory} {moment : Moment} {written : ObjectMeta} {ns : String}
  {o existing : StatefulSet}

/-- A write leaves what is stored of the metadata but the version and the entry of the writer. -/
private theorem get?_metadata_stamped {t : Ty} {s : Slot .objectMeta t false}
    (hversion : s.name ≠ "resourceVersion") (hfields : s.name ≠ "managedFields") :
    ((m.stamped moment o written).get StatefulSet.metadata).get? s = written.get? s := by
  rw [get_stamped_metadata, Value.get?_put_of_ne _ hfields, Value.get?_put_of_ne _ hversion]

private theorem objectName_stamped_createdMeta :
    (m.stamped moment o (createdMeta moment ns o)).objectName = o.objectName := by
  rw [StatefulSet.objectName, ObjectMeta.text?, get?_metadata_stamped (by decide) (by decide),
    createdMeta, Value.get?_put_of_ne _ (by decide), Value.get?_put_of_ne _ (by decide),
    Value.get?_put_of_ne _ (by decide), Value.get?_put_of_ne _ (by decide)]
  rfl

private theorem objectName_stamped_updatedMeta :
    (m.stamped moment o (updatedMeta ns o existing)).objectName = o.objectName := by
  rw [StatefulSet.objectName, ObjectMeta.text?, get?_metadata_stamped (by decide) (by decide),
    updatedMeta, Value.get?_set_of_ne _ (by decide), Value.get?_set_of_ne _ (by decide),
    Value.get?_set_of_ne _ (by decide), Value.get?_put_of_ne _ (by decide)]
  rfl

private theorem ns?_stamped_createdMeta :
    (m.stamped moment o (createdMeta moment ns o)).ns? = some ns := by
  rw [StatefulSet.ns?, ObjectMeta.text?, get?_metadata_stamped (by decide) (by decide),
    createdMeta, Value.get?_put_of_ne _ (by decide), Value.get?_put_of_ne _ (by decide),
    Value.get?_put_of_ne _ (by decide), Value.get?_put_self]
  rfl

private theorem ns?_stamped_updatedMeta :
    (m.stamped moment o (updatedMeta ns o existing)).ns? = some ns := by
  rw [StatefulSet.ns?, ObjectMeta.text?, get?_metadata_stamped (by decide) (by decide),
    updatedMeta, Value.get?_set_of_ne _ (by decide), Value.get?_set_of_ne _ (by decide),
    Value.get?_set_of_ne _ (by decide), Value.get?_put_self]
  rfl

private theorem generation?_stamped_createdMeta :
    (m.stamped moment o (createdMeta moment ns o)).generation? = some 1 := by
  rw [StatefulSet.generation?, get?_metadata_stamped (by decide) (by decide), createdMeta,
    Value.get?_put_self]
  rfl

private theorem uid?_stamped_updatedMeta :
    (m.stamped moment o (updatedMeta ns o existing)).uid? = existing.uid? := by
  rw [StatefulSet.uid?, ObjectMeta.text?, get?_metadata_stamped (by decide) (by decide),
    updatedMeta, Value.get?_set_of_ne _ (by decide), Value.get?_set_of_ne _ (by decide),
    Value.get?_set_self]
  rfl

private theorem createdAt?_stamped_updatedMeta :
    (m.stamped moment o (updatedMeta ns o existing)).createdAt? = existing.createdAt? := by
  rw [StatefulSet.createdAt?, get?_metadata_stamped (by decide) (by decide), updatedMeta,
    Value.get?_set_of_ne _ (by decide), Value.get?_set_self]
  rfl

private theorem int_nextGeneration {v : Value .int64} (hhigh : v.int + 1 < 2 ^ 63) :
    (nextGeneration v).int = v.int + 1 := by
  have hint : (nextGeneration v).int = (v.int + 1).bmod (2 ^ 64) := rfl
  have hrange := v.isInt64_int
  simp only [isInt64, Bool.and_eq_true, decide_eq_true_eq] at hrange
  rw [hint]
  apply Int.bmod_eq_of_le <;> omega

/-- An update counts one change if the submitted specification is not the stored one. -/
theorem generation?_stamped_updatedMeta {g : Int} (hg : existing.generation? = some g)
    (hhigh : g + 1 < 2 ^ 63) :
    (m.stamped moment o (updatedMeta ns o existing)).generation? =
      some (if specChanged o existing then g + 1 else g) := by
  obtain ⟨v, hv, rfl⟩ := Option.map_eq_some_iff.1 hg
  rw [StatefulSet.generation?, get?_metadata_stamped (by decide) (by decide), updatedMeta,
    Value.get?_set_self, hv]
  simp only [Option.map_some]
  split
  · rw [int_nextGeneration hhigh]
  · rfl

end Written

/-- What a request makes of the store: nothing of what is stored changes, or one object is written
under a key that was free, or one is replaced. -/
inductive Effect (m : Memory) : Option StatefulSet → Memory → Prop
  | kept {m' : Memory} (objects : m'.objects = m.objects)
    (nextVersion : m'.nextVersion = m.nextVersion) : Effect m none m'
  | created {m' : Memory} (moment : Moment) (ns : String) (o : StatefulSet)
    (missing : m.peek ns o.objectName = none)
    (written : m.Written (key ns o.objectName) (m.stamped moment o (createdMeta moment ns o)) m') :
    Effect m (some (m.stamped moment o (createdMeta moment ns o))) m'
  | updated {m' : Memory} (moment : Moment) (ns : String) (o existing : StatefulSet)
    (found : m.peek ns o.objectName = some existing)
    (written : m.Written (key ns o.objectName) (m.stamped moment o (updatedMeta ns o existing))
      m') :
    Effect m (some (m.stamped moment o (updatedMeta ns o existing))) m'

theorem effect_perform (r : Request) (m : Memory) : Effect m (r.written? m) (r.perform m).2 := by
  cases r with
  | get ns name =>
    have hk := kept_get ns name m
    exact .kept hk.objects hk.nextVersion
  | create moment ns o =>
    simp only [Request.written?, Request.perform]
    rcases create_cases moment ns o m with ⟨⟨e, he⟩, hk⟩ | ⟨hmissing, hok, hw⟩
    · rw [he]
      exact .kept hk.objects hk.nextVersion
    · rw [hok]
      exact .created moment ns o hmissing hw
  | update moment ns o =>
    simp only [Request.written?, Request.perform]
    rcases update_cases moment ns o m with ⟨⟨e, he⟩, hk⟩ | ⟨existing, hfound, -, hok, hw⟩
    · rw [he]
      exact .kept hk.objects hk.nextVersion
    · rw [hok]
      exact .updated moment ns o existing hfound hw
  | failOn op message => exact .kept rfl rfl
  | clearFailures => exact .kept rfl rfl

private theorem written?_of_failed {r : Request} {m : Memory} {e : CycleError}
    (h : (r.perform m).1 = .error e) : r.written? m = none := by
  cases r with
  | create moment ns o =>
    simp only [Request.perform] at h
    cases hr : (Memory.create moment ns o m).result with
    | error e' => rw [Request.written?, hr]; rfl
    | ok new => rw [hr] at h; cases h
  | update moment ns o =>
    simp only [Request.perform] at h
    cases hr : (Memory.update moment ns o m).result with
    | error e' => rw [Request.written?, hr]; rfl
    | ok new => rw [hr] at h; cases h
  | get | failOn | clearFailures => rfl

private theorem kept_of_failed {r : Request} {m : Memory} {e : CycleError}
    (h : (r.perform m).1 = .error e) :
    (r.perform m).2.objects = m.objects ∧ (r.perform m).2.nextVersion = m.nextVersion := by
  have heffect := effect_perform r m
  rw [written?_of_failed h] at heffect
  cases heffect with
  | kept objects nextVersion => exact ⟨objects, nextVersion⟩

/-- What holds of a store that requests have made of an empty one. -/
structure Consistent (m : Memory) : Prop where
  /-- Every object stands under its own namespace and name. -/
  keyed : ∀ {k o}, m.objects.get? k = some o → ∃ ns, o.ns? = some ns ∧ k = key ns o.objectName
  versioned : m.Versioned
  /-- An object has changed no more often than versions were given. -/
  counted : ∀ {k o}, m.objects.get? k = some o →
    ∃ g, o.generation? = some g ∧ 0 ≤ g ∧ g < m.nextVersion

/-- The object is a later state of the other one. -/
structure Succeeds (o o' : StatefulSet) : Prop where
  uid : o'.uid? = o.uid?
  createdAt : o'.createdAt? = o.createdAt?
  generation : ∃ g g', o.generation? = some g ∧ o'.generation? = some g' ∧ g ≤ g'

/-- Every object of the first store is in the second one, in this or a later state. -/
def Endures (m m' : Memory) : Prop :=
  ∀ k o, m.objects.get? k = some o → ∃ o', m'.objects.get? k = some o' ∧ Succeeds o o'

private theorem Succeeds.trans {o o' o'' : StatefulSet} (h : Succeeds o o') (h' : Succeeds o' o'') :
    Succeeds o o'' := by
  obtain ⟨g, g', hg, hg', hle⟩ := h.generation
  obtain ⟨i, i', hi, hi', hle'⟩ := h'.generation
  refine ⟨h'.uid.trans h.uid, h'.createdAt.trans h.createdAt, g, i', hg, hi', ?_⟩
  have heq : g' = i := Option.some.inj (hg'.symm.trans hi)
  omega

private theorem Endures.trans {m m' m'' : Memory} (h : Endures m m') (h' : Endures m' m'') :
    Endures m m'' := by
  intro k o ho
  obtain ⟨o', ho', hs⟩ := h k o ho
  obtain ⟨o'', ho'', hs'⟩ := h' k o' ho'
  exact ⟨o'', ho'', hs.trans hs'⟩

private theorem consistent_empty (serverDefaults : Bool) : (empty serverDefaults).Consistent where
  keyed h := by cases h
  versioned := ⟨fun h => (by cases h), fun h => (by cases h)⟩
  counted h := by cases h

section Steps

variable {m m' : Memory} {k : String} {o new : StatefulSet}

private theorem Consistent.succeeds_refl (h : m.Consistent) (ho : m.objects.get? k = some o) :
    Succeeds o o := by
  obtain ⟨g, hg, -, -⟩ := h.counted ho
  exact ⟨rfl, rfl, g, g, hg, hg, Int.le_refl g⟩

private theorem Consistent.endures_refl (h : m.Consistent) : Endures m m :=
  fun _ o ho => ⟨o, ho, h.succeeds_refl ho⟩

private theorem Consistent.congr (h : m.Consistent) (hobjects : m'.objects = m.objects)
    (hnext : m'.nextVersion = m.nextVersion) : m'.Consistent where
  keyed ho := h.keyed (hobjects ▸ ho)
  versioned := h.versioned.congr hobjects hnext
  counted ho := hnext ▸ h.counted (hobjects ▸ ho)

private theorem Consistent.of_written (h : m.Consistent) (hw : m.Written k new m')
    (hversion : new.version? = some (toString m.nextVersion))
    (hkeyed : ∃ ns, new.ns? = some ns ∧ k = key ns new.objectName)
    (hcounted : ∃ g, new.generation? = some g ∧ 0 ≤ g ∧ g ≤ m.nextVersion) : m'.Consistent where
  keyed ho := by
    rcases hw.get?_cases ho with ⟨rfl, rfl⟩ | ⟨-, hold⟩
    · exact hkeyed
    · exact h.keyed hold
  versioned := h.versioned.of_written hw hversion
  counted ho := by
    rw [hw.nextVersion]
    rcases hw.get?_cases ho with ⟨-, rfl⟩ | ⟨-, hold⟩
    · obtain ⟨g, hg, hlow, hhigh⟩ := hcounted
      exact ⟨g, hg, hlow, by omega⟩
    · obtain ⟨g, hg, hlow, hhigh⟩ := h.counted hold
      exact ⟨g, hg, hlow, by omega⟩

private theorem Consistent.endures_written (h : m.Consistent) (hw : m.Written k new m')
    (hnew : ∀ old, m.objects.get? k = some old → Succeeds old new) : Endures m m' := by
  intro k' o ho
  rw [hw.objects]
  by_cases hk : k' = k
  · subst hk
    exact ⟨new, Members.get?_insert_self _ _ _, hnew o ho⟩
  · exact ⟨o, (Members.get?_insert_of_ne hk _ _).trans ho, h.succeeds_refl ho⟩

end Steps

/-- One request keeps the invariant and everything that is stored, as long as there are versions
left to give. -/
private theorem Consistent.of_effect {m m' : Memory} {written : Option StatefulSet}
    (h : m.Consistent)
    (hpos : 0 < m.nextVersion) (hroom : m.nextVersion < 2 ^ 63) (heffect : Effect m written m') :
    m'.Consistent ∧ Endures m m' := by
  cases heffect with
  | kept objects nextVersion =>
    refine ⟨h.congr objects nextVersion, ?_⟩
    intro k o ho
    exact ⟨o, objects ▸ ho, h.succeeds_refl ho⟩
  | created moment ns o missing written =>
    constructor
    · apply h.of_written written version?_stamped
      · exact ⟨ns, ns?_stamped_createdMeta, by rw [objectName_stamped_createdMeta]⟩
      · exact ⟨1, generation?_stamped_createdMeta, by omega, by omega⟩
    · refine h.endures_written written fun old hold => ?_
      exact absurd (missing.symm.trans hold) (by simp)
  | updated moment ns o existing found written =>
    obtain ⟨g, hg, hlow, hhigh⟩ := h.counted found
    have hnext : (m.stamped moment o (updatedMeta ns o existing)).generation? =
        some (if specChanged o existing then g + 1 else g) :=
      generation?_stamped_updatedMeta hg (by omega)
    have hcount : g ≤ (if specChanged o existing then g + 1 else g) ∧
        (if specChanged o existing then g + 1 else g) ≤ g + 1 := by
      split <;> omega
    constructor
    · apply h.of_written written version?_stamped
      · exact ⟨ns, ns?_stamped_updatedMeta, by rw [objectName_stamped_updatedMeta]⟩
      · exact ⟨_, hnext, by omega, by omega⟩
    · refine h.endures_written written fun old hold => ?_
      cases found.symm.trans hold
      exact ⟨uid?_stamped_updatedMeta, createdAt?_stamped_updatedMeta, g, _, hg, hnext, hcount.1⟩

private theorem Effect.version? {m m' : Memory} {written : Option StatefulSet}
    (h : Effect m written m') :
    (written = none ∧ m'.nextVersion = m.nextVersion) ∨
      ∃ new, written = some new ∧ new.version? = some (toString m.nextVersion) ∧
        m'.nextVersion = m.nextVersion + 1 := by
  cases h with
  | kept objects nextVersion => exact .inl ⟨rfl, nextVersion⟩
  | created moment ns o missing written =>
    exact .inr ⟨_, rfl, version?_stamped, written.nextVersion⟩
  | updated moment ns o existing found written =>
    exact .inr ⟨_, rfl, version?_stamped, written.nextVersion⟩

namespace Request

private theorem nextVersion_perform (r : Request) (m : Memory) :
    m.nextVersion ≤ (r.perform m).2.nextVersion ∧
      (r.perform m).2.nextVersion ≤ m.nextVersion + 1 := by
  rcases (effect_perform r m).version? with ⟨-, hnext⟩ | ⟨new, -, -, hnext⟩ <;> omega

private theorem nextVersion_run (requests : List Request) (m : Memory) :
    m.nextVersion ≤ (run requests m).nextVersion ∧
      (run requests m).nextVersion ≤ m.nextVersion + requests.length := by
  induction requests generalizing m with
  | nil => exact ⟨Nat.le_refl _, Nat.le_refl _⟩
  | cons r rest ih =>
    have hrest := ih (r.perform m).2
    have hstep := nextVersion_perform r m
    rw [run_cons, List.length_cons]
    omega

private theorem versions_writes (requests : List Request) (m : Memory) :
    (run requests m).nextVersion = m.nextVersion + (writes requests m).length ∧
      (writes requests m).map StatefulSet.version? =
        (List.range' m.nextVersion (writes requests m).length).map (some ∘ toString) := by
  induction requests generalizing m with
  | nil => exact ⟨rfl, rfl⟩
  | cons r rest ih =>
    obtain ⟨hlength, hversions⟩ := ih (r.perform m).2
    rcases (effect_perform r m).version? with ⟨hnone, hnext⟩ | ⟨new, hsome, hversion, hnext⟩
    · simp only [writes, hnone, Option.toList_none, List.nil_append]
      rw [run_cons, hlength, hversions, hnext]
      exact ⟨rfl, rfl⟩
    · simp only [writes, hsome, Option.toList_some, List.singleton_append, List.length_cons,
        List.map_cons, List.range'_succ, Function.comp_apply]
      rw [run_cons, hlength, hversions, hnext, hversion]
      exact ⟨by omega, rfl⟩

private theorem calls_perform (r : Request) (m : Memory) (op : Operation) :
    (r.perform m).2.calls.select op ≤ m.calls.select op + 1 := by
  cases r with
  | get ns name =>
    rw [perform, calls_get]
    exact PerOperation.select_counted_le _ _ _
  | create moment ns o =>
    rw [perform, calls_create]
    exact PerOperation.select_counted_le _ _ _
  | update moment ns o =>
    rw [perform, calls_update]
    exact PerOperation.select_counted_le _ _ _
  | failOn | clearFailures => exact Nat.le_succ _

private theorem calls_run (requests : List Request) (m : Memory) (op : Operation) :
    (run requests m).calls.select op ≤ m.calls.select op + requests.length := by
  induction requests generalizing m with
  | nil => exact Nat.le_refl _
  | cons r rest ih =>
    have hrest := ih (r.perform m).2
    have hstep := calls_perform r m op
    rw [run_cons, List.length_cons]
    omega

/-- No counter of a store outruns the requests; one of 64 bits shows the same numbers as long as
these are fewer than `2 ^ 64 - 1`. -/
theorem counters_run (requests : List Request) (serverDefaults : Bool) :
    (run requests (empty serverDefaults)).nextVersion ≤ requests.length + 1 ∧
      ∀ op, (run requests (empty serverDefaults)).calls.select op ≤ requests.length := by
  constructor
  · have hnext := (nextVersion_run requests (empty serverDefaults)).2
    have hstart : (empty serverDefaults).nextVersion = 1 := rfl
    omega
  · intro op
    have hzero : (empty serverDefaults).calls.select op = 0 := by cases op <;> rfl
    have hop := calls_run requests (empty serverDefaults) op
    omega

private theorem consistent_run {m : Memory} (h : m.Consistent) (hpos : 0 < m.nextVersion)
    (requests : List Request) (hroom : m.nextVersion + requests.length ≤ 2 ^ 63) :
    (run requests m).Consistent ∧ Endures m (run requests m) := by
  induction requests generalizing m with
  | nil => exact ⟨h, h.endures_refl⟩
  | cons r rest ih =>
    obtain ⟨hlow, hhigh⟩ := nextVersion_perform r m
    simp only [List.length_cons] at hroom
    obtain ⟨hstep, hendures⟩ := h.of_effect hpos (by omega) (effect_perform r m)
    obtain ⟨hrest, hlater⟩ := ih hstep (by omega) (by omega)
    exact ⟨hrest, hendures.trans hlater⟩

end Request

/-- Whatever is asked of a store that was empty, as long as there are versions to give: every object
stands under its own namespace and name; no two objects have one version, and all versions are below
the next one; the writes got their versions in order, from one on; what was stored after some of the
requests is still stored after all of them, with its uid and the time of its creation, and its
generation has not gone back; and a request that fails from here leaves what is stored as it is. -/
theorem invariant_of_run (serverDefaults : Bool) (requests : List Request)
    (hfew : requests.length < 2 ^ 63) :
    let m := Request.run requests (empty serverDefaults)
    (∀ k o, m.objects.get? k = some o → ∃ ns, o.ns? = some ns ∧ k = key ns o.objectName) ∧
      m.Versioned ∧
      (∃ versions : List Nat, versions.Pairwise (· < ·) ∧ (∀ v ∈ versions, v < m.nextVersion) ∧
        (Request.writes requests (empty serverDefaults)).map StatefulSet.version? =
          versions.map fun v => some (toString v)) ∧
      (∀ before after, requests = before ++ after →
        Endures (Request.run before (empty serverDefaults)) m) ∧
      ∀ (r : Request) (e : CycleError), (r.perform m).1 = .error e →
        (r.perform m).2.objects = m.objects ∧ (r.perform m).2.nextVersion = m.nextVersion := by
  intro m
  have hstart : (empty serverDefaults).nextVersion = 1 := rfl
  have hroom : (empty serverDefaults).nextVersion + requests.length ≤ 2 ^ 63 := by omega
  obtain ⟨hm, -⟩ := Request.consistent_run (consistent_empty serverDefaults) Nat.one_pos requests
    hroom
  obtain ⟨hlength, hversions⟩ := Request.versions_writes requests (empty serverDefaults)
  refine ⟨fun k o => hm.keyed, hm.versioned, ⟨_, List.pairwise_lt_range', ?_, hversions⟩, ?_, ?_⟩
  · intro v hv
    have hlt := List.mem_range'_1.1 hv
    have hnext : m.nextVersion = _ := hlength
    omega
  · intro before after hsplit
    have hlengths := congrArg List.length hsplit
    rw [List.length_append] at hlengths
    obtain ⟨hbefore, -⟩ := Request.consistent_run (consistent_empty serverDefaults) Nat.one_pos
      before (by omega)
    have hgrown := Request.nextVersion_run before (empty serverDefaults)
    obtain ⟨-, hendures⟩ := Request.consistent_run hbefore (by omega) after (by omega)
    have hrun : m = Request.run after (Request.run before (empty serverDefaults)) := by
      rw [← Request.run_append, ← hsplit]
    rw [hrun]
    exact hendures
  · intro r e he
    exact kept_of_failed he

def forgedObject (name version : String) : StatefulSet :=
  let r := (Record.blank .objectMeta).put ObjectMeta.name (.ofText name)
  let r := r.put ObjectMeta.resourceVersion (.ofText version)
  let r := r.put ObjectMeta.uid (.ofText "mine")
  (Record.blank .statefulSet).put StatefulSet.metadata
    (r.put ObjectMeta.generation (.ofInt64 7 (Eq.refl true)))

def forgedRequests : List Request :=
  let moment : Moment := ⟨⟨0, 0⟩, "u"⟩
  [.create moment "prod" (forgedObject "db" "9"), .create moment "test" (forgedObject "" "1"),
    .update moment "prod" (forgedObject "db" "1"), .failOn .get "down", .get "prod" "db",
    .update moment "prod" (forgedObject "db" "1")]

theorem invariant_of_forgedRequests :
    let m := Request.run forgedRequests (empty true)
    forgedRequests.length < 2 ^ 63 ∧
      (Request.writes forgedRequests (empty true)).map StatefulSet.version? =
        [some "1", some "2", some "3"] ∧
      (∀ k o, m.objects.get? k = some o → ∃ ns, o.ns? = some ns ∧ k = key ns o.objectName) ∧
      m.Versioned ∧ Endures (Request.run (forgedRequests.take 2) (empty true)) m := by
  have hfew : forgedRequests.length < 2 ^ 63 := by decide
  obtain ⟨hkeyed, hversioned, -, hendures, -⟩ := invariant_of_run true forgedRequests hfew
  have hversions : (Request.writes forgedRequests (empty true)).map StatefulSet.version? =
      [some "1", some "2", some "3"] := by
    decide +kernel
  exact ⟨hfew, hversions, hkeyed, hversioned,
    hendures _ _ (List.take_append_drop 2 forgedRequests).symm⟩

end Memory

end DesiredState
