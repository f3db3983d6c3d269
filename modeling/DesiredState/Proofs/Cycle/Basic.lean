import DesiredState.Proofs.Cycle.Prepared
import DesiredState.Proofs.Store.Memory
import DesiredState.Proofs.Synthesis
/-!
One cycle over the store in memory. Main statement: `ran_reconcile`, that a cycle fails and keeps
what is stored, or creates the desired object, or finds nothing to change, or replaces the stored
object; `Ran` says what is written in each case.
-/

set_option autoImplicit false
set_option relaxedAutoImplicit false

namespace DesiredState

namespace Memory

/-- What a cycle for some parameters makes of the store in memory. -/
inductive Ran (moment : Moment) (key : String) (rules : List IgnoreRule) (p : Parameters)
    (m : Memory) : Except CycleError Outcome → Memory → Prop
  | failed {e : CycleError} {m' : Memory} (kept : m.Kept m') :
    Ran moment key rules p m (.error e) m'
  | created {desired r : StatefulSet} {m' : Memory} (rendered : render p = .ok desired)
    (missing : m.peek p.ns p.name = none) (recorded : Snapshot.record key desired = .ok r)
    (written : m.Written (Memory.key p.ns p.name)
      (m.stamped moment r (createdMeta moment p.ns r)) m') :
    Ran moment key rules p m (.ok .created) m'
  | unchanged {desired stored : StatefulSet} {patch : Patch} {m' : Memory}
    (rendered : render p = .ok desired) (found : m.peek p.ns p.name = some stored)
    (calculated : Patch.calculate key rules stored.subject
      (copyStoreOwned stored desired).subject = .ok patch)
    (empty : patch.isEmpty = true) (kept : m.Kept m') :
    Ran moment key rules p m (.ok .unchanged) m'
  | updated {desired stored r : StatefulSet} {patch : Patch} {m' : Memory}
    (rendered : render p = .ok desired) (found : m.peek p.ns p.name = some stored)
    (calculated : Patch.calculate key rules stored.subject
      (copyStoreOwned stored desired).subject = .ok patch)
    (changed : patch.isEmpty = false)
    (recorded : Snapshot.record key (replacement stored desired) = .ok r)
    (written : m.Written (Memory.key p.ns p.name)
      (m.stamped moment r (updatedMeta p.ns r stored)) m') :
    Ran moment key rules p m (.ok (.updated patch)) m'

variable {moment : Moment} {key : String} {rules : List IgnoreRule} {p : Parameters}
  {m m' : Memory}

private theorem Ran.of_kept {result : Except CycleError Outcome} {m'' : Memory} (hk : m.Kept m')
    (h : Ran moment key rules p m' result m'') :
    Ran moment key rules p m result m'' := by
  cases h with
  | failed kept => exact .failed (hk.trans kept)
  | created rendered missing recorded written =>
    rw [hk.peek] at missing
    rw [hk.stamped] at written
    exact .created rendered missing recorded (hk.written written)
  | unchanged rendered found calculated empty kept =>
    rw [hk.peek] at found
    exact .unchanged rendered found calculated empty (hk.trans kept)
  | updated rendered found calculated changed recorded written =>
    rw [hk.peek] at found
    rw [hk.stamped] at written
    exact .updated rendered found calculated changed recorded (hk.written written)

private theorem ran_createDesired {desired : StatefulSet} (hr : render p = .ok desired)
    (hp : m.peek p.ns p.name = none) :
    Ran moment key rules p m
      (createDesired (asStore moment) (.threeWay key) p.ns desired m).result
      (createDesired (asStore moment) (.threeWay key) p.ns desired m).store := by
  obtain ⟨r, hrec, _, hname, _, _⟩ := Snapshot.record_eq_ok key desired
  have hrecord : (Engine.threeWay key).record desired = .ok r := hrec
  rw [createDesired, hrecord]
  have hkey : r.objectName = p.name := hname.trans (render_eq_ok hr).1
  rcases create_cases moment p.ns r m with ⟨⟨e, he⟩, hk⟩ | ⟨_, hok, hw⟩
  · simp only [asStore, he]
    exact .failed hk
  · simp only [asStore, hok]
    rw [hkey] at hw
    exact .created hr hp hrec hw

private theorem ran_updateStored {desired stored : StatefulSet} (hr : render p = .ok desired)
    (hp : m.peek p.ns p.name = some stored) :
    Ran moment key rules p m
      (updateStored (asStore moment) (.threeWay key) rules p.ns stored desired m).result
      (updateStored (asStore moment) (.threeWay key) rules p.ns stored desired m).store := by
  have hcalc : (Engine.threeWay key).calculate stored (copyStoreOwned stored desired) rules =
      Patch.calculate key rules stored.subject (copyStoreOwned stored desired).subject := rfl
  rw [updateStored, hcalc]
  split
  · exact .failed (.refl m)
  · rename_i patch hpatch
    split
    · rename_i hempty
      exact .unchanged hr hp hpatch hempty (.refl m)
    · rename_i hne
      obtain ⟨r, hrec, _, hname, _, _⟩ :=
        Snapshot.record_eq_ok key (replacement stored desired)
      have hrecord : (Engine.threeWay key).record
          (carryAnnotations stored (copyStoreOwned stored desired)) = .ok r := hrec
      rw [hrecord]
      have hkey : r.objectName = p.name :=
        hname.trans ((objectName_replacement stored desired).trans (render_eq_ok hr).1)
      rcases update_cases moment p.ns r m with ⟨⟨e, he⟩, hk⟩ | ⟨existing, hex, _, hok, hw⟩
      · simp only [asStore, he]
        exact .failed hk
      · simp only [asStore, hok]
        rw [hkey] at hex hw
        cases hp.symm.trans hex
        exact .updated hr hp hpatch (by simpa using hne) hrec hw

/-- A cycle fails and keeps what is stored, or does one of three things. -/
theorem ran_reconcile (moment : Moment) (key : String) (rules : List IgnoreRule)
    (p : Parameters) (m : Memory) :
    Ran moment key rules p m
      (reconcile (asStore moment) (.threeWay key) rules p m).result
      (reconcile (asStore moment) (.threeWay key) rules p m).store := by
  rw [reconcile]
  split
  · exact .failed (.refl m)
  · have hkept : m.Kept ((asStore moment).get p.ns p.name m).store := kept_get p.ns p.name m
    cases hget : ((asStore moment).get p.ns p.name m).result with
    | error e =>
      simp only [hget]
      exact .failed hkept
    | ok stored =>
      have hpeek : m.peek p.ns p.name = stored := by
        rw [show ((asStore moment).get p.ns p.name m).result = _ from
          get_result p.ns p.name m] at hget
        split at hget <;> cases hget
        rfl
      rw [← hkept.peek] at hpeek
      cases hrender : render p with
      | error e =>
        simp only [hget]
        exact .failed hkept
      | ok desired =>
        simp only [hget]
        cases stored with
        | none => exact .of_kept hkept (ran_createDesired hrender hpeek)
        | some o => exact .of_kept hkept (ran_updateStored hrender hpeek)

theorem fetched_of_reconcile_ok {outcome : Outcome}
    (h : (reconcile (asStore moment) (.threeWay key) rules p m).result = .ok outcome) :
    ¬ (p.name = "" ∨ p.ns = "") ∧ m.failures.get = none := by
  rw [reconcile] at h
  split at h
  · cases h
  · rename_i haddress
    refine ⟨haddress, ?_⟩
    cases hf : m.failures.get with
    | none => rfl
    | some message =>
      have hget : ((asStore moment).get p.ns p.name m).result =
          .error (.transport .get (.statefulSet p.ns p.name) (.injected message)) := by
        rw [show ((asStore moment).get p.ns p.name m).result = _ from get_result p.ns p.name m, hf]
      simp only [hget] at h
      cases h

/-- A cycle that finds nothing to change has only fetched. -/
theorem reconcile_unchanged {desired stored : StatefulSet} {patch : Patch}
    (haddress : ¬ (p.name = "" ∨ p.ns = "")) (hf : m.failures.get = none)
    (hrender : render p = .ok desired) (hp : m.peek p.ns p.name = some stored)
    (hcalc : Patch.calculate key rules stored.subject
      (copyStoreOwned stored desired).subject = .ok patch) (hempty : patch.isEmpty = true) :
    (reconcile (asStore moment) (.threeWay key) rules p m).result = .ok .unchanged ∧
      (reconcile (asStore moment) (.threeWay key) rules p m).store =
        (m.called .get p.ns p.name).2 := by
  have hget : (asStore moment).get p.ns p.name m =
      ⟨.ok (some stored), [], (m.called .get p.ns p.name).2⟩ := by
    have hselect : m.failures.select .get = none := hf
    have hp' : (m.called .get p.ns p.name).2.peek p.ns p.name = some stored :=
      ((kept_called m .get p.ns p.name).peek _ _).trans hp
    simp only [asStore, get, called, hselect, Option.map_none]
    exact congrArg (fun o => Answer.mk (.ok o) [] _) hp'
  have hcalc' : (Engine.threeWay key).calculate stored (copyStoreOwned stored desired)
      rules = .ok patch := hcalc
  rw [reconcile, if_neg haddress]
  simp only [hget, hrender, updateStored, hcalc', PatchResult.isEmpty_patch, hempty, if_true]
  exact ⟨rfl, rfl⟩

/-- A cycle that finds an object succeeds, if no call of the store fails and the snapshot on the
object can be read. -/
theorem reconcile_ok_of_read {desired stored : StatefulSet} {applied : Option Json}
    (haddress : ¬ (p.name = "" ∨ p.ns = "")) (hf : m.failures = .of none)
    (hrender : render p = .ok desired) (hp : m.peek p.ns p.name = some stored)
    (hread : Snapshot.read key stored.subject = .ok applied) :
    ∃ outcome, (reconcile (asStore moment) (.threeWay key) rules p m).result = .ok outcome := by
  have hget : ((asStore moment).get p.ns p.name m).result = .ok (some stored) := by
    rw [show ((asStore moment).get p.ns p.name m).result = _ from get_result p.ns p.name m, hf, hp]
    rfl
  have hkept : m.Kept ((asStore moment).get p.ns p.name m).store := kept_get p.ns p.name m
  obtain ⟨patch, hcalc⟩ : ∃ patch, (Engine.threeWay key).calculate stored
      (copyStoreOwned stored desired) rules = .ok patch :=
    ⟨_, Patch.calculate_eq_ok_iff.2 ⟨applied, _, _, hread, rfl, rfl, rfl⟩⟩
  rw [reconcile, if_neg haddress]
  simp only [hget, hrender, updateStored, hcalc, PatchResult.isEmpty_patch]
  by_cases hempty : patch.isEmpty = true
  · simp only [if_pos hempty]
    exact ⟨_, rfl⟩
  · simp only [if_neg hempty]
    obtain ⟨r, hrec, -, hname, hversion, -⟩ :=
      Snapshot.record_eq_ok key (replacement stored desired)
    have hrecord : (Engine.threeWay key).record
        (carryAnnotations stored (copyStoreOwned stored desired)) = .ok r := hrec
    have hkey : r.objectName = p.name :=
      hname.trans ((objectName_replacement stored desired).trans (render_eq_ok hrender).1)
    have hfails : ((asStore moment).get p.ns p.name m).store.failures.update = none := by
      rw [hkept.failures, hf]
      rfl
    have hfound : ((asStore moment).get p.ns p.name m).store.peek p.ns r.objectName =
        some stored := by
      rw [hkept.peek, hkey, hp]
    obtain ⟨new, hnew⟩ := update_ok moment p.ns hfails hfound
      (hversion.trans (version?_replacement stored desired))
    have hupdate : ((asStore moment).update p.ns r
        ((asStore moment).get p.ns p.name m).store).result = .ok new := hnew
    simp only [hrecord, hupdate]
    exact ⟨_, rfl⟩

/-- The object stands as a cycle wrote it from `x`. -/
structure Stands (key : String) (serverDefaults : Bool) (x o : StatefulSet) : Prop where
  spec : o.get? StatefulSet.spec = (x.get? StatefulSet.spec).map (filledSpec serverDefaults)
  snapshot : Snapshot.Carries key o x

theorem stands_stamped {x r : StatefulSet} {written : ObjectMeta}
    (hr : Snapshot.record key x = .ok r)
    (hw : written.get? ObjectMeta.annotations = r.subject.annotations) :
    Stands key m.serverDefaults x (m.stamped moment r written) := by
  obtain ⟨r', hr', hspec, _⟩ := Snapshot.record_eq_ok key x
  cases hr.symm.trans hr'
  constructor
  · rw [get?_stamped_spec, hspec]
  · have ha : (m.stamped moment r written).subject.annotations = r.subject.annotations :=
      annotations_stamped.trans hw
    rw [Snapshot.Carries, ha]
    exact Snapshot.carries_record hr

/-- After a cycle that succeeds the stored object stands as it was just written, or nothing was
found to change and nothing was. -/
theorem Ran.stands {outcome : Outcome}
    (h : Ran moment key rules p m (.ok outcome) m') :
    ∃ desired, render p = .ok desired ∧ m'.serverDefaults = m.serverDefaults ∧
      m'.failures = m.failures ∧
      ((∃ x stored, (m.peek p.ns p.name).elim (x = desired) (x = replacement · desired) ∧
          x.get? StatefulSet.spec = desired.get? StatefulSet.spec ∧
          m'.peek p.ns p.name = some stored ∧ Stands key m.serverDefaults x stored) ∨
        ∃ stored patch, outcome = .unchanged ∧ m.peek p.ns p.name = some stored ∧
          m'.peek p.ns p.name = some stored ∧
          Patch.calculate key rules stored.subject
            (copyStoreOwned stored desired).subject = .ok patch ∧ patch.isEmpty = true) := by
  cases h with
  | @created desired r _ rendered missing recorded written =>
    exact ⟨desired, rendered, written.serverDefaults, written.failures,
      .inl ⟨desired, _, by rw [missing]; rfl, rfl, written.peek_self,
        stands_stamped recorded (annotations_createdMeta moment p.ns r)⟩⟩
  | @unchanged desired stored patch _ rendered found calculated empty kept =>
    exact ⟨desired, rendered, kept.serverDefaults, kept.failures,
      .inr ⟨stored, patch, rfl, found, (kept.peek _ _).trans found, calculated, empty⟩⟩
  | @updated desired stored r patch _ rendered found calculated changed recorded written =>
    exact ⟨desired, rendered, written.serverDefaults, written.failures,
      .inl ⟨replacement stored desired, _, by rw [found]; rfl,
        get?_replacement_spec stored desired, written.peek_self,
        stands_stamped recorded (annotations_updatedMeta p.ns r stored)⟩⟩

end Memory

end DesiredState
