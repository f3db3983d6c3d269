import DesiredState.Proofs.Cycle.Interleaving
import DesiredState.Proofs.Store.Versions
/-!
No update is lost. Main statement: `no_lost_update`, that whatever clients do in whatever order, an
update that succeeds replaces just what its client fetched, no key is created twice, and a cycle
drops no annotation of what it replaces. It rests on versions: each is given once.
-/

set_option autoImplicit false
set_option relaxedAutoImplicit false

namespace DesiredState

/-- What a client that goes on after its fetch makes of the ledger. -/
inductive Acted (client : Nat) (author : Author) (found : Option StatefulSet) (l : Ledger) :
    Ledger → Prop
  | kept {l' : Ledger} (kept : l.memory.Kept l'.memory) (journal : l'.journal = l.journal) :
    Acted client author found l l'
  | created {l' : Ledger} {k : String} {new : StatefulSet}
    (missing : l.memory.objects.get? k = none)
    (version : new.version? = some (toString l.memory.nextVersion))
    (written : l.memory.Written k new l'.memory)
    (journal : l'.journal = l.journal ++ [.created client k new]) :
    Acted client author found l l'
  | updated {l' : Ledger} {k : String} {old new held : StatefulSet}
    (stored : l.memory.objects.get? k = some old) (held_eq : found = some held)
    (read : held.version? = old.version?)
    (version : new.version? = some (toString l.memory.nextVersion))
    (written : l.memory.Written k new l'.memory)
    (journal : l'.journal = l.journal ++ [.updated client author k (some old) new])
    (annotations : author = .cycle →
      ∀ a, (held.annotationText? a).isSome = true → (new.annotationText? a).isSome = true) :
    Acted client author found l l'

section Acting

variable {client : Nat} {author : Author} {found : Option StatefulSet} {moment : Moment}

private theorem acted_create (ns : String) (o : StatefulSet) (l : Ledger) :
    Acted client author found l (l.create client moment ns o).store := by
  rcases Memory.create_cases moment ns o l.memory with ⟨⟨e, he⟩, hk⟩ | ⟨hnone, hok, hw⟩
  · exact .kept hk (by simp only [Ledger.create, Ledger.noted, he])
  · exact .created hnone Memory.version?_stamped hw
      (by simp only [Ledger.create, Ledger.noted, hok])

private theorem acted_update {held : StatefulSet} (ns : String) (o : StatefulSet) (l : Ledger)
    (hfound : found = some held) (hv : o.version? = held.version?)
    (ha : author = .cycle →
      ∀ a, (held.annotationText? a).isSome = true → (o.annotationText? a).isSome = true) :
    Acted client author found l (l.update client author moment ns o).store := by
  rcases Memory.update_cases moment ns o l.memory with ⟨⟨e, he⟩, hk⟩ | ⟨old, hold, hov, hok, hw⟩
  · exact .kept hk (by simp only [Ledger.update, Ledger.noted, he])
  · refine .updated hold hfound (hv.symm.trans hov) Memory.version?_stamped hw ?_ fun hc a hka => ?_
    · simp only [Ledger.update, Ledger.noted, hok, hold]
    · have hkeep : ((l.memory.stamped moment o (Memory.updatedMeta ns o old)).subject).annotations =
          o.subject.annotations :=
        Memory.annotations_stamped.trans (Memory.annotations_updatedMeta ns o old)
      rw [StatefulSet.annotationText?, hkeep]
      exact ha hc a hka

private theorem acted_resume (key : String) (rules : List IgnoreRule) (p : Parameters)
    (l : Ledger) : Acted client .cycle found l
      (resume (Ledger.asStore client moment) (.threeWay key) rules p found l).store := by
  rw [resume]
  cases render p with
  | error e => exact .kept (.refl _) rfl
  | ok desired =>
    cases found with
    | none =>
      obtain ⟨r, hr, -⟩ := Snapshot.record_eq_ok key desired
      have hrecord : (Engine.threeWay key).record desired = .ok r := hr
      have hstore : (createDesired (Ledger.asStore client moment) (.threeWay key) p.ns
          desired l).store = (l.create client moment p.ns r).store := by
        rw [createDesired, hrecord]
        simp only [Ledger.asStore]
        cases (l.create client moment p.ns r).result <;> rfl
      simp only [hstore]
      exact acted_create p.ns r l
    | some o =>
      obtain ⟨r, hr, -, -, hversion, -⟩ := Snapshot.record_eq_ok key (replacement o desired)
      have hrecord : (Engine.threeWay key).record
          (carryAnnotations o (copyStoreOwned o desired)) = .ok r := hr
      simp only [updateStored]
      split
      · exact .kept (.refl _) rfl
      · split
        · exact .kept (.refl _) rfl
        · -- the version is the one that was fetched, and so are the annotations carried over
          have hupdate : Acted client .cycle (some o) l
              (l.update client .cycle moment p.ns r).store :=
            acted_update p.ns r l rfl (hversion.trans (version?_replacement o desired))
              fun _ a => isSome_annotationText?_of_record hr
          simp only [hrecord, Ledger.asStore]
          cases (l.update client .cycle moment p.ns r).result <;> exact hupdate

private theorem acted_act (client : Nat) (moment : Moment) (found : Option StatefulSet) (l : Ledger)
    (task : Task) : Acted client task.author found l (task.act client moment found l) := by
  cases task with
  | edit ns name change keeps =>
    cases found with
    | none => exact .kept (.refl _) rfl
    | some o => exact acted_update ns (change o) l rfl (keeps o) (fun hc => by cases hc)
  | reconcile key rules p => exact acted_resume key rules p l

end Acting

/-- The client last fetched this under the key; a stored object of that version is that very object,
under the same key, and nothing was written to the key since. -/
structure Holds (l : Ledger) (client : Nat) (k : String) (found : Option StatefulSet)
    (before since : List Entry) : Prop where
  journal : l.journal = before ++ .fetched client k found :: since
  last : ∀ e ∈ since, e.isFetchOf client = false
  issued : ∀ o, found = some o → l.memory.Issued o.version?
  current : ∀ o, found = some o → ∀ {k' : String} {o' : StatefulSet},
    l.memory.objects.get? k' = some o' → o'.version? = o.version? →
      k' = k ∧ o' = o ∧ ∀ e ∈ since, e.writes k = false

/-- The update replaces just what its client fetched last, with no write to the object since. -/
def ReplacesFetched (before : List Entry) (client : Nat) (k : String)
    (old : Option StatefulSet) : Prop :=
  ∃ o earlier since, old = some o ∧ before = earlier ++ .fetched client k (some o) :: since ∧
    ∀ e ∈ since, e.isFetchOf client = false ∧ e.writes k = false

/-- Whatever is annotated on an object is annotated on the one that replaces it. -/
def KeepsAnnotations (old : Option StatefulSet) (new : StatefulSet) : Prop :=
  ∀ o a, old = some o → (o.annotationText? a).isSome = true → (new.annotationText? a).isSome = true

def Sound (journal : List Entry) : Prop :=
  ∀ before client author k old new after,
    journal = before ++ .updated client author k old new :: after →
      ReplacesFetched before client k old ∧ (author = .cycle → KeepsAnnotations old new)

private theorem Sound.append {journal : List Entry} (h : Sound journal) {e : Entry}
    (he : ∀ client author k old new, e = .updated client author k old new →
      ReplacesFetched journal client k old ∧ (author = .cycle → KeepsAnnotations old new)) :
    Sound (journal ++ [e]) := by
  intro before client author k old new after hj
  rcases List.eq_nil_or_concat after with rfl | ⟨after', e', rfl⟩
  · obtain ⟨rfl, hlast⟩ := List.append_inj' hj rfl
    exact he client author k old new (List.singleton_inj.1 hlast)
  · rw [List.concat_eq_append, ← List.cons_append, ← List.append_assoc] at hj
    obtain ⟨rfl, -⟩ := List.append_inj' hj rfl
    exact h before client author k old new after' rfl

namespace Holds

variable {l l' : Ledger} {client : Nat} {k : String} {found : Option StatefulSet}
  {before since : List Entry}

private theorem of_kept (h : Holds l client k found before since) (hk : l.memory.Kept l'.memory)
    (hj : l'.journal = l.journal) : Holds l' client k found before since := by
  refine ⟨hj.trans h.journal, h.last, fun o ho => (h.issued o ho).of_kept hk, ?_⟩
  intro o ho k' o' ho'
  rw [hk.objects] at ho'
  exact h.current o ho ho'

private theorem append (h : Holds l client k found before since) {e : Entry}
    (hj : l'.journal = l.journal ++ [e]) (hfetch : e.isFetchOf client = false)
    (hissued : ∀ {v}, l.memory.Issued v → l'.memory.Issued v)
    (hold : ∀ {k' o'}, l'.memory.objects.get? k' = some o' → l.memory.Issued o'.version? →
      l.memory.objects.get? k' = some o' ∧ e.writes k' = false) :
    Holds l' client k found before (since ++ [e]) := by
  refine ⟨?_, ?_, fun o ho => hissued (h.issued o ho), ?_⟩
  · rw [hj, h.journal, List.append_assoc, List.cons_append]
  · exact List.forall_mem_append.2 ⟨h.last, List.forall_mem_singleton.2 hfetch⟩
  · intro o ho k' o' ho' hv
    obtain ⟨hstored, hwrites⟩ := hold ho' (hv ▸ h.issued o ho)
    obtain ⟨rfl, rfl, hsince⟩ := h.current o ho hstored hv
    exact ⟨rfl, rfl, List.forall_mem_append.2 ⟨hsince, List.forall_mem_singleton.2 hwrites⟩⟩

private theorem of_fetched (hv : l.memory.Versioned) (hk : l.memory.Kept l'.memory)
    (hfound : l.memory.objects.get? k = found)
    (hj : l'.journal = l.journal ++ [.fetched client k found]) :
    Holds l' client k found l.journal [] := by
  refine ⟨hj, by simp, fun o ho => ?_, fun o ho k' o' ho' hversion => ?_⟩
  · exact (hv.issued (hfound.trans ho)).of_kept hk
  · have hstored : l.memory.objects.get? k' = some o' := hk.objects ▸ ho'
    have hkey : k' = k := hv.distinct hstored (hfound.trans ho) hversion
    subst hkey
    cases hstored.symm.trans (hfound.trans ho)
    exact ⟨rfl, rfl, by simp⟩

end Holds

def Task.key (task : Task) : String := Memory.key task.ns task.name

/-- What holds of the world after any moves. -/
structure World.Safe (w : World) : Prop where
  versioned : w.ledger.memory.Versioned
  holds : ∀ client task found, w.pending client = some (task, found) →
    ∃ before since, Holds w.ledger client task.key found before since
  sound : Sound w.ledger.journal
  unwritten : ∀ k, w.ledger.memory.objects.get? k = none →
    ∀ e ∈ w.ledger.journal, e.writes k = false
  once : ∀ k, w.ledger.journal.countP (Entry.creates k) ≤ 1
  counted : w.ledger.memory.nextVersion = w.ledger.journal.countP Entry.isWrite + 1

private theorem Entry.writes_of_creates {k : String} {e : Entry} (h : e.creates k = true) :
    e.writes k = true := by
  cases e <;> first | exact h | cases h

private theorem Entry.isWrite_of_writes {k : String} {e : Entry} (h : e.writes k = true) :
    e.isWrite = true := by
  cases e <;> first | rfl | cases h

namespace World

variable {w : World}

private theorem safe_start (serverDefaults : Bool) : (start serverDefaults).Safe where
  versioned := ⟨fun h => (by cases h), fun h => (by cases h)⟩
  holds _ _ _ h := by cases h
  sound before client author k old new after h := by simp [start] at h
  unwritten _ _ e he := by cases he
  once _ := Nat.zero_le 1
  counted := rfl

private theorem Safe.disturb (h : w.Safe) (failures : PerOperation (Option String)) :
    (w.step (.disturb failures)).Safe where
  versioned := ⟨h.versioned.issued, h.versioned.distinct⟩
  holds client task found hp := by
    obtain ⟨before, since, hh⟩ := h.holds client task found hp
    exact ⟨before, since, hh.journal, hh.last, hh.issued, hh.current⟩
  sound := h.sound
  unwritten := h.unwritten
  once := h.once
  counted := h.counted

private theorem Safe.of_kept (h : w.Safe) {l' : Ledger} {client : Nat}
    {held : Option (Task × Option StatefulSet)} (hk : w.ledger.memory.Kept l'.memory)
    (hj : l'.journal = w.ledger.journal ∨ ∃ k found,
      l'.journal = w.ledger.journal ++ [.fetched client k found])
    (hheld : ∀ task found, held = some (task, found) →
      ∃ before since, Holds l' client task.key found before since) :
    Safe ⟨l', Function.update w.pending client held⟩ := by
  refine ⟨h.versioned.of_kept hk, ?_, ?_, ?_, ?_, ?_⟩
  · intro i task found hp
    by_cases hi : i = client
    · subst hi
      exact hheld task found (by simpa using hp)
    · dsimp only at hp
      rw [Function.update_of_ne hi] at hp
      obtain ⟨before, since, hh⟩ := h.holds i task found hp
      rcases hj with hj | ⟨k, got, hj⟩
      · exact ⟨before, since, hh.of_kept hk hj⟩
      · refine ⟨before, _, hh.append hj ?_ (fun hv => hv.of_kept hk) fun {k' o'} ho' _ => ?_⟩
        · exact beq_eq_false_iff_ne.2 (Ne.symm hi)
        · rw [hk.objects] at ho'
          exact ⟨ho', rfl⟩
  · rcases hj with hj | ⟨k, got, hj⟩
    · exact hj ▸ h.sound
    · exact hj ▸ h.sound.append fun _ _ _ _ _ he => by cases he
  · intro k hnone e he
    rw [hk.objects] at hnone
    rcases hj with hj | ⟨k', got, hj⟩
    · exact h.unwritten k hnone e (hj ▸ he)
    · rcases List.mem_append.1 (hj ▸ he) with he | he
      · exact h.unwritten k hnone e he
      · rw [List.mem_singleton.1 he]
        rfl
  · intro k
    rcases hj with hj | ⟨k', got, hj⟩
    · exact hj ▸ h.once k
    · rw [show l'.journal = _ from hj, List.countP_append]
      exact h.once k
  · rw [show l'.memory.nextVersion = _ from hk.nextVersion, h.counted]
    rcases hj with hj | ⟨k, got, hj⟩
    · rw [hj]
    · rw [hj, List.countP_append]
      rfl

private theorem Safe.countP_creates_eq_zero (h : w.Safe) {k : String}
    (hnone : w.ledger.memory.objects.get? k = none) :
    w.ledger.journal.countP (Entry.creates k) = 0 := by
  refine List.countP_eq_zero.2 fun e he hc => ?_
  have hunwritten := h.unwritten k hnone e he
  rw [Entry.writes_of_creates hc] at hunwritten
  cases hunwritten

private theorem Safe.of_written (h : w.Safe) {l' : Ledger} {client : Nat} {k : String}
    {new : StatefulSet} {e : Entry} (hw : w.ledger.memory.Written k new l'.memory)
    (hnew : new.version? = some (toString w.ledger.memory.nextVersion))
    (hj : l'.journal = w.ledger.journal ++ [e]) (hfetch : ∀ i, e.isFetchOf i = false)
    (hwrites : ∀ k', e.writes k' = (k == k'))
    (hcreates : e.creates k = true → w.ledger.memory.objects.get? k = none)
    (hsound : ∀ client author k old new, e = .updated client author k old new →
      ReplacesFetched w.ledger.journal client k old ∧
        (author = .cycle → KeepsAnnotations old new)) :
    Safe ⟨l', Function.update w.pending client none⟩ := by
  refine ⟨h.versioned.of_written hw hnew, ?_, hj ▸ h.sound.append hsound, ?_, ?_, ?_⟩
  · intro i task found hp
    by_cases hi : i = client
    · subst hi
      simp at hp
    · dsimp only at hp
      rw [Function.update_of_ne hi] at hp
      obtain ⟨before, since, hh⟩ := h.holds i task found hp
      refine ⟨before, _, hh.append hj (hfetch i) (fun hv => hv.of_written hw) ?_⟩
      intro k' o' ho' hv
      obtain ⟨hne, hold⟩ := hw.get?_of_issued hnew ho' hv
      exact ⟨hold, (hwrites k').trans (beq_eq_false_iff_ne.2 (Ne.symm hne))⟩
  · intro k' hnone e' he'
    rw [hw.objects] at hnone
    have hne : k' ≠ k := by
      rintro rfl
      rw [Members.get?_insert_self] at hnone
      cases hnone
    rw [Members.get?_insert_of_ne hne] at hnone
    rcases List.mem_append.1 (hj ▸ he') with he' | he'
    · exact h.unwritten k' hnone e' he'
    · rw [List.mem_singleton.1 he', hwrites]
      exact beq_eq_false_iff_ne.2 (Ne.symm hne)
  · intro k'
    rw [show l'.journal = _ from hj, List.countP_append, List.countP_singleton]
    split
    · -- the key was not in use, so nothing was created under it before
      rename_i hc
      have hk : k = k' := beq_iff_eq.1 ((hwrites k').symm.trans (Entry.writes_of_creates hc))
      subst hk
      rw [h.countP_creates_eq_zero (hcreates hc)]
    · exact h.once k'
  · have hwrite : e.isWrite = true :=
      Entry.isWrite_of_writes ((hwrites k).trans (beq_self_eq_true k))
    rw [show l'.memory.nextVersion = _ from hw.nextVersion, show l'.journal = _ from hj, h.counted,
      List.countP_append, List.countP_singleton, if_pos hwrite]

private theorem Safe.fetch (h : w.Safe) (client : Nat) (task : Task) :
    (w.step (.fetch client task)).Safe := by
  rw [step]
  split
  · have hk := Memory.kept_get task.ns task.name w.ledger.memory
    have hresult := Memory.get_result task.ns task.name w.ledger.memory
    cases hget : (Memory.get task.ns task.name w.ledger.memory).result with
    | error e =>
      refine h.of_kept hk (.inl ?_) fun task' found hf => ?_
      · simp only [Ledger.get, Ledger.noted, hget]
      · simp only [Ledger.get, Ledger.noted, hget] at hf
        cases hf
    | ok found =>
      have hpeek : w.ledger.memory.peek task.ns task.name = found := by
        rw [hget] at hresult
        split at hresult <;> cases hresult
        rfl
      have hj : (w.ledger.get client task.ns task.name).store.journal =
          w.ledger.journal ++ [.fetched client task.key found] := by
        simp only [Ledger.get, Ledger.noted, hget]
        rfl
      refine h.of_kept hk (.inr ⟨_, _, hj⟩) fun task' found' hf => ?_
      have heq : task = task' ∧ found = found' := by
        simp only [Ledger.get, Ledger.noted, hget] at hf
        cases hf
        exact ⟨rfl, rfl⟩
      obtain ⟨rfl, rfl⟩ := heq
      exact ⟨w.ledger.journal, [], .of_fetched h.versioned hk hpeek hj⟩
  · exact h

private theorem Safe.act (h : w.Safe) (client : Nat) (moment : Moment) :
    (w.step (.act client moment)).Safe := by
  rw [step]
  split
  · exact h
  · rename_i task found hp
    obtain ⟨before, since, hheld⟩ := h.holds client task found hp
    cases acted_act client moment found w.ledger task with
    | kept kept journal => exact h.of_kept kept (.inl journal) fun _ _ hf => by cases hf
    | created missing version written journal =>
      exact h.of_written written version journal (fun _ => rfl) (fun _ => rfl) (fun _ => missing)
        fun _ _ _ _ _ he => by cases he
    | @updated k old new held stored held_eq read version written journal annotations =>
      refine h.of_written written version journal (fun _ => rfl) (fun _ => rfl)
        (fun hc => by cases hc) fun client' author' k' old' new' he => ?_
      cases he
      -- what is replaced has the version that was fetched, so it is what was fetched
      obtain ⟨rfl, rfl, hsince⟩ := hheld.current held held_eq stored read.symm
      refine ⟨⟨old, before, since, rfl, ?_, fun e he => ⟨hheld.last e he, hsince e he⟩⟩, ?_⟩
      · rw [← held_eq]
        exact hheld.journal
      · intro hcycle o a ho ha
        cases ho
        exact annotations hcycle a ha

private theorem Safe.step (h : w.Safe) (move : Move) : (w.step move).Safe := by
  cases move with
  | fetch client task => exact h.fetch client task
  | act client moment => exact h.act client moment
  | disturb failures => exact h.disturb failures

private theorem Safe.run (h : w.Safe) (moves : List Move) : (World.run moves w).Safe := by
  induction moves generalizing w with
  | nil => exact h
  | cons move moves ih => exact ih (h.step move)

end World

/-- In every order of the calls of any clients, an update that succeeds replaces the very object
that its client fetched last, which nobody has written since; a cycle that updates an object keeps
every annotation that it had; and no key is created twice. The next version is one more than the
writes that succeeded, so a counter of 64 bits gives the same versions as long as these are fewer
than `2 ^ 64 - 1`. -/
theorem no_lost_update (serverDefaults : Bool) (moves : List Move) :
    let ledger := (World.run moves (World.start serverDefaults)).ledger
    (∀ before client author k old new after,
      ledger.journal = before ++ .updated client author k old new :: after →
        ReplacesFetched before client k old ∧ (author = .cycle → KeepsAnnotations old new)) ∧
      (∀ k, ledger.journal.countP (Entry.creates k) ≤ 1) ∧
      ledger.memory.nextVersion = ledger.journal.countP Entry.isWrite + 1 :=
  have hsafe := (World.safe_start serverDefaults).run moves
  ⟨hsafe.sound, hsafe.once, hsafe.counted⟩

private theorem Entry.eq_updated_of_isUpdateOf {client : Nat} {author : Author} {k : String}
    {e : Entry} (h : e.isUpdateOf client author k = true) :
    ∃ old new, e = .updated client author k old new := by
  cases e with
  | updated i a k' old new =>
    simp only [isUpdateOf, Bool.and_eq_true, beq_iff_eq] at h
    obtain ⟨⟨rfl, rfl⟩, rfl⟩ := h
    exact ⟨old, new, rfl⟩
  | fetched i k' found => cases h
  | created i k' new => cases h

def claimOwnership : Task :=
  .edit "prod" "db"
    (fun o => o.put StatefulSet.metadata ((o.get StatefulSet.metadata).put ObjectMeta.annotations
      (Value.emptyMap.insert "owner" (.ofText "team"))))
    fun o => by
      rw [StatefulSet.version?, Value.get_put_self, ObjectMeta.text?,
        Value.get?_put_of_ne _ (by decide)]
      rfl

def race : List Move :=
  let cycle := Task.reconcile "applied" IgnoreRule.defaults databaseParameters
  let moment : Moment := ⟨⟨0, 0⟩, "u"⟩
  [.fetch 0 cycle, .fetch 1 cycle, .act 1 moment, .act 0 moment, .fetch 2 claimOwnership,
    .fetch 3 claimOwnership, .act 3 moment, .act 2 moment,
    .fetch 0 (.reconcile "applied" IgnoreRule.defaults grownParameters), .act 0 moment]

theorem no_lost_update_in_race :
    ∃ before old new, (World.run race (World.start true)).ledger.journal =
        before ++ [.updated 0 .cycle "prod/db" old new] ∧
      ReplacesFetched before 0 "prod/db" old ∧ KeepsAnnotations old new := by
  have hlast : (World.run race (World.start true)).ledger.journal.getLast?.any
      (Entry.isUpdateOf 0 .cycle "prod/db") = true := by
    decide +kernel
  obtain ⟨e, he, hupdate⟩ := (Option.any_eq_true _ _).1 hlast
  obtain ⟨old, new, rfl⟩ := Entry.eq_updated_of_isUpdateOf hupdate
  obtain ⟨before, hj⟩ := List.getLast?_eq_some_iff.1 he
  obtain ⟨hreplaces, hkeeps⟩ := (no_lost_update true race).1 _ _ _ _ _ _ _ hj
  exact ⟨before, old, new, hj, hreplaces, hkeeps rfl⟩

end DesiredState
