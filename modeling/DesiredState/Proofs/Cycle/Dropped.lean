import DesiredState.Proofs.Cycle.Retained
import DesiredState.Proofs.Patch.Path
/-!
What becomes of a member that the caller asked for and later drops. A comparison removes it only if
the snapshot has it, and a cycle that finds nothing to change leaves the snapshot as it was. Main
statement: `dropped_member_removed`, after a cycle that wrote the object, or left it with the member
in its snapshot, a dropped member is gone as soon as a cycle succeeds.
-/

set_option autoImplicit false
set_option relaxedAutoImplicit false

namespace DesiredState

open IgnoreRule (compared comparedSpec)

private theorem StatefulSet.at?_spec (o : StatefulSet) (path : List String) :
    o.toJson.at? ("spec" :: path) =
      (o.get? StatefulSet.spec).bind fun s => s.toJson.at? path := by
  have hspec : o.toJson.member? "spec" = (o.get? StatefulSet.spec).map Value.toJson :=
    Value.member?_toJson o StatefulSet.spec
  rw [Json.at?_cons, hspec, Option.bind_map]
  rfl

private theorem StatefulSet.at?_ne_null (o : StatefulSet) (path : List String) :
    o.toJson.at? path ≠ some .null :=
  Datum.at?_toJson_ne_null o.hasType rfl

/-- The member of the object at the path, if it has one, is in the snapshot on it. -/
def Snapshot.Accounts (key : String) (path : List String) (o : StatefulSet) : Prop :=
  ∀ applied, read key o.subject = .ok applied → (o.toJson.at? path).isSome = true →
    ((applied.getD .null).at? path).isSome = true

namespace Memory

variable {key ns name : String} {path : List String} {m m' : Memory}

private theorem accounts_of_stands {x stored : StatefulSet} (hs : Stands key false x stored) :
    Snapshot.Accounts key ("spec" :: path) stored := by
  intro applied hread hsome
  obtain ⟨j, rfl, hshape⟩ := Snapshot.shape_of_read hs.snapshot hread
  have hspec : stored.get? StatefulSet.spec = x.get? StatefulSet.spec :=
    hs.spec.trans (congrFun Option.map_id _)
  have hrecorded : (Snapshot.ofJson key x.toJson).at? ("spec" :: path) =
      x.toJson.at? ("spec" :: path) := by
    rw [Json.at?_cons, Json.at?_cons, Snapshot.member?_ofJson (by decide) (by decide)]
  rw [Option.getD_some, Json.isSome_at?_congr hshape, hrecorded, StatefulSet.at?_spec, ← hspec,
    ← StatefulSet.at?_spec]
  exact hsome

/-- A store without defaults, in which the object of a name accounts for its member at the path. -/
structure Accounted (key ns name : String) (path : List String) (m : Memory) : Prop where
  plain : m.serverDefaults = false
  accounts : ∀ stored, m.peek ns name = some stored →
    Snapshot.Accounts key ("spec" :: path) stored

private theorem Accounted.disturbed (hm : Accounted key ns name path m)
    (failures : PerOperation (Option String)) :
    Accounted key ns name path { m with failures := failures } :=
  ⟨hm.plain, hm.accounts⟩

private theorem Accounted.of_kept (hm : Accounted key ns name path m) (hk : m.Kept m') :
    Accounted key ns name path m' := by
  refine ⟨hk.serverDefaults.trans hm.plain, fun stored hp => hm.accounts stored ?_⟩
  rwa [← hk.peek]

private theorem accounted_of_ran_ok {moment : Moment} {p : Parameters} {outcome : Outcome}
    (hplain : m.serverDefaults = false)
    (h : Ran moment key IgnoreRule.defaults p m (.ok outcome) m')
    (hfound : outcome = .unchanged → ∀ stored, m'.peek p.ns p.name = some stored →
      Snapshot.Accounts key ("spec" :: path) stored) :
    Accounted key p.ns p.name path m' := by
  obtain ⟨desired, -, hdefaults, -, ⟨x, stored, -, -, hpeek, hstands⟩ |
    ⟨stored, patch, hunchanged, -, -, -, -⟩⟩ := h.stands
  · refine ⟨hdefaults.trans hplain, fun stored' hp => ?_⟩
    cases hpeek.symm.trans hp
    rw [hplain] at hstands
    exact accounts_of_stands hstands
  · exact ⟨hdefaults.trans hplain, hfound hunchanged⟩

private theorem accounted_of_ran {moment : Moment} {p : Parameters}
    {result : Except CycleError Outcome} (hm : Accounted key p.ns p.name path m)
    (h : Ran moment key IgnoreRule.defaults p m result m') :
    Accounted key p.ns p.name path m' := by
  cases result with
  | error e =>
    cases h with
    | failed kept => exact hm.of_kept kept
  | ok outcome =>
    refine accounted_of_ran_ok hm.plain h fun hunchanged stored hp => ?_
    subst hunchanged
    cases h with
    | unchanged _ _ _ _ kept => exact (hm.of_kept kept).accounts stored hp

section Dropping

variable {k : String} {desired stored : StatefulSet} {ms : Members Json}
  (hparent : desired.toJson.at? ("spec" :: path) = some (.obj ms))
  (hdropped : Members.get? k ms = none)

include hparent hdropped

private theorem at?_of_parent : desired.toJson.at? ("spec" :: (path ++ [k])) = none := by
  have happend := Json.at?_append ("spec" :: path) [k] desired.toJson
  rw [hparent, Option.bind_some, Json.at?_cons, Json.member?, hdropped] at happend
  exact happend

private theorem at?_of_calculate {patch : Patch}
    (haccounts : Snapshot.Accounts key ("spec" :: (path ++ [k])) stored)
    (hcalc : Patch.calculate key IgnoreRule.defaults stored.subject
      (copyStoreOwned stored desired).subject = .ok patch) (hempty : patch.isEmpty = true) :
    stored.toJson.at? ("spec" :: (path ++ [k])) = none := by
  rw [StatefulSet.at?_spec, Option.bind_eq_some_iff] at hparent
  obtain ⟨d, hd, hparent⟩ := hparent
  obtain ⟨applied, hread, hdiff⟩ := Patch.exists_spec_unchanged
    ((get?_copyStoreOwned_spec stored desired).trans hd) hcalc hempty
  obtain ⟨ns, hns, hmissing⟩ := IgnoreRule.exists_at?_compared hparent hdropped
  cases hstored : stored.toJson.at? ("spec" :: (path ++ [k])) with
  | none => rfl
  | some j =>
    exfalso
    -- the member is stored, so the snapshot has it
    have happlied := haccounts applied hread (by rw [hstored]; rfl)
    have hrecorded : ((comparedSpec (applied.getD .null)).at? (path ++ [k])).isSome = true := by
      rw [Json.at?_cons] at happlied
      rw [comparedSpec, IgnoreRule.isSome_at?_compared, Json.memberOrNull]
      cases hspec : (applied.getD .null).member? "spec" with
      | none =>
        rw [hspec] at happlied
        cases happlied
      | some s =>
        rw [hspec] at happlied
        exact happlied
    have hnull := Json.missing_of_diff (IgnoreRule.ordered_compared d.ordered_toJson) hns hmissing
      hrecorded hdiff
    -- and the comparison says that it is null, which nothing stored is
    obtain ⟨s, hs, hat⟩ := Option.bind_eq_some_iff.1 ((StatefulSet.at?_spec stored _).symm.trans
      hstored)
    have hne : path ++ [k] ≠ [] := List.append_ne_nil_of_right_ne_nil _ (List.cons_ne_nil k [])
    obtain ⟨f, hf, -, hcompared⟩ := IgnoreRule.at?_compared s.toJson hne
    rw [IgnoreRule.comparedSpec_of_spec hs, hcompared, hat, Option.map_some,
      Option.getD_some] at hnull
    exact StatefulSet.at?_ne_null stored _ (hstored.trans (congrArg some (hf j hnull)))

private theorem at?_of_ran {moment : Moment} {p : Parameters} {outcome : Outcome}
    (hm : Accounted key p.ns p.name (path ++ [k]) m) (hrender : render p = .ok desired)
    (h : Ran moment key IgnoreRule.defaults p m (.ok outcome) m') :
    ∃ stored, m'.peek p.ns p.name = some stored ∧
      stored.toJson.at? ("spec" :: (path ++ [k])) = none := by
  obtain ⟨desired', hrender', -, -, ⟨x, stored, -, hx, hpeek, hstands⟩ |
    ⟨stored, patch, -, hold, hpeek, hcalc, hempty⟩⟩ := h.stands
  · -- the object was replaced, by one that has not the member
    cases hrender.symm.trans hrender'
    rw [hm.plain] at hstands
    have hspec : stored.get? StatefulSet.spec = desired.get? StatefulSet.spec :=
      (hstands.spec.trans (congrFun Option.map_id _)).trans hx
    refine ⟨stored, hpeek, ?_⟩
    rw [StatefulSet.at?_spec, hspec, ← StatefulSet.at?_spec]
    exact at?_of_parent hparent hdropped
  · cases hrender.symm.trans hrender'
    exact ⟨stored, hpeek, at?_of_calculate hparent hdropped (hm.accounts stored hold) hcalc hempty⟩

end Dropping

end Memory

namespace Attempt

variable {key ns name : String} {path : List String} {m : Memory} {stored desired : StatefulSet}

private theorem addressed (a : Attempt ns name) (h : ¬ (name = "" ∨ ns = "")) :
    ¬ (a.parameters.name = "" ∨ a.parameters.ns = "") := by
  rw [a.name_eq, a.ns_eq]
  exact h

section Stored

variable (a : Attempt ns name) (haddress : ¬ (name = "" ∨ ns = ""))
  (hrender : render a.parameters = .ok desired) (hpeek : m.peek ns name = some stored)
  {applied : Option Json} (hread : Snapshot.read key stored.subject = .ok applied)

include haddress hrender hpeek hread

private theorem cycle_ok_of_read (hf : a.failures = .of none) :
    ∃ outcome, (a.cycle key m).result = .ok outcome := by
  have haddressed := a.addressed haddress
  obtain ⟨p, failures, moment, rfl, rfl⟩ := a
  have hpeek' : ({ m with failures := failures } : Memory).peek p.ns p.name = some stored := hpeek
  exact Memory.reconcile_ok_of_read haddressed hf hrender hpeek' hread

private theorem cycle_unchanged (hf : a.failures.get = none)
    (hdiff : Json.diff (Patch.appliedBefore IgnoreRule.defaults applied)
      (IgnoreRule.applyAll IgnoreRule.defaults (copyStoreOwned stored desired).toJson)
      (IgnoreRule.applyAll IgnoreRule.defaults stored.toJson) = none) :
    (a.cycle key m).result = .ok .unchanged ∧ (a.cycle key m).store.peek ns name = some stored := by
  have haddressed := a.addressed haddress
  obtain ⟨p, failures, moment, rfl, rfl⟩ := a
  have hcalc : Patch.calculate key IgnoreRule.defaults stored.subject
      (copyStoreOwned stored desired).subject = .ok ⟨none⟩ :=
    Patch.calculate_eq_ok_iff.2 ⟨applied, _, _, hread, rfl, rfl, congrArg Patch.mk hdiff.symm⟩
  have hpeek' : ({ m with failures := failures } : Memory).peek p.ns p.name = some stored := hpeek
  obtain ⟨hresult, hstore⟩ :=
    Memory.reconcile_unchanged haddressed hf hrender hpeek' hcalc rfl
  refine ⟨hresult, ?_⟩
  rw [cycle, hstore]
  exact hpeek

end Stored

private theorem stands_of_created (a : Attempt ns name)
    (hcreated : (a.cycle key m).result = .ok .created)
    (hrender : render a.parameters = .ok desired) :
    ∃ stored, (a.cycle key m).store.peek ns name = some stored ∧
      Memory.Stands key m.serverDefaults desired stored := by
  have hran := a.ran_cycle key m
  rw [hcreated] at hran
  obtain ⟨p, failures, moment, rfl, rfl⟩ := a
  cases hran with
  | created rendered missing recorded written =>
    cases hrender.symm.trans rendered
    exact ⟨_, written.peek_self,
      Memory.stands_stamped recorded (Memory.annotations_createdMeta moment p.ns _)⟩

private theorem accounted_cycle (hm : Memory.Accounted key ns name path m)
    (a : Attempt ns name) : Memory.Accounted key ns name path (a.cycle key m).store := by
  have hran := a.ran_cycle key m
  obtain ⟨p, failures, moment, rfl, rfl⟩ := a
  exact Memory.accounted_of_ran (hm.disturbed failures) hran

private theorem accounted_run (hm : Memory.Accounted key ns name path m)
    (attempts : List (Attempt ns name)) :
    Memory.Accounted key ns name path (run key attempts m) := by
  induction attempts generalizing m with
  | nil => exact hm
  | cons a attempts ih => exact ih (accounted_cycle hm a)

end Attempt

/-- Whatever became of a store without defaults before, by cycles and by other writers: where a
cycle writes the object, or leaves it with a member in its snapshot, and no other writer comes after
it, the member is gone once a cycle succeeds that asks for the object around the member but not for
the member. Any cycles may be attempted in between. -/
theorem dropped_member_removed (key : String) {ns name : String} (m : Memory)
    (hplain : m.serverDefaults = false) (path : List String) (k : String)
    (first : Attempt ns name) (between : List (Attempt ns name)) (last : Attempt ns name)
    {outcome outcome' : Outcome} (hfirst : (first.cycle key m).result = .ok outcome)
    (hrecorded : outcome = .unchanged → ∃ stored applied,
      (first.cycle key m).store.peek ns name = some stored ∧
      Snapshot.read key stored.subject = .ok (some applied) ∧
      (applied.at? ("spec" :: (path ++ [k]))).isSome = true)
    (hlast : (last.cycle key (Attempt.run key between (first.cycle key m).store)).result =
      .ok outcome')
    {desired : StatefulSet} (hrender : render last.parameters = .ok desired)
    {ms : Members Json} (hparent : desired.toJson.at? ("spec" :: path) = some (.obj ms))
    (hdropped : Members.get? k ms = none) :
    ∃ stored, (last.cycle key (Attempt.run key between (first.cycle key m).store)).store.peek
        ns name = some stored ∧
      stored.toJson.at? ("spec" :: (path ++ [k])) = none := by
  have haccounted : Memory.Accounted key ns name (path ++ [k]) (first.cycle key m).store := by
    have hran := first.ran_cycle key m
    rw [hfirst] at hran
    obtain ⟨p, failures, moment, rfl, rfl⟩ := first
    have hplain' : ({ m with failures := failures } : Memory).serverDefaults = false := hplain
    refine Memory.accounted_of_ran_ok hplain' hran fun hunchanged stored hp => ?_
    obtain ⟨stored', applied, hp', hread, hsome⟩ := hrecorded hunchanged
    cases hp.symm.trans hp'
    intro applied' hread' _
    cases hread.symm.trans hread'
    exact hsome
  have hbetween := Attempt.accounted_run haccounted between
  have hran := last.ran_cycle key (Attempt.run key between (first.cycle key m).store)
  rw [hlast] at hran
  obtain ⟨p, failures, moment, rfl, rfl⟩ := last
  exact Memory.at?_of_ran hparent hdropped (hbetween.disturbed failures) hrender hran

def priorityAttempt : Attempt "prod" "db" :=
  ⟨{ databaseParameters with priorityClassName := some "high" }, .of none, ⟨⟨0, 0⟩, "u1"⟩, rfl,
    by decide +kernel⟩

def plainAttempt : Attempt "prod" "db" :=
  ⟨databaseParameters, .of none, ⟨⟨60, 0⟩, "u2"⟩, databaseParameters_ns, databaseParameters_name⟩

def lostAttempt : Attempt "prod" "db" :=
  ⟨databaseParameters, ⟨some "down", none, none⟩, ⟨⟨30, 0⟩, "u3"⟩, databaseParameters_ns,
    databaseParameters_name⟩

def podPath : List String := ["template", "spec"]

theorem dropped_member_removed_after_failure :
    let created := priorityAttempt.cycle "applied" (Memory.empty false)
    let failed := Attempt.run "applied" [lostAttempt] created.store
    (Memory.empty false).serverDefaults = false ∧ created.result = .ok .created ∧
      ∃ outcome desired ms, (plainAttempt.cycle "applied" failed).result = .ok outcome ∧
        render plainAttempt.parameters = .ok desired ∧
        desired.toJson.at? ("spec" :: podPath) = some (.obj ms) ∧
        Members.get? "priorityClassName" ms = none ∧
        ∃ stored, (plainAttempt.cycle "applied" failed).store.peek "prod" "db" = some stored ∧
          stored.toJson.at? ("spec" :: (podPath ++ ["priorityClassName"])) = none := by
  intro created failed
  have hcreated : created.result = .ok .created := by decide +kernel
  have hlegible : (render priorityAttempt.parameters).toOption.any (fun o =>
      Json.Text.legible (Snapshot.ofJson "applied" o.toJson).chars) = true := by
    decide +kernel
  have hplain : (render plainAttempt.parameters).toOption.any (fun desired =>
      ((desired.toJson.at? ("spec" :: podPath)).bind Json.members?).any fun ms =>
        (Members.get? "priorityClassName" ms).isNone) = true := by
    decide +kernel
  obtain ⟨x, hx, hlegible⟩ := exists_render_of_any hlegible
  obtain ⟨desired, hdesired, hpod⟩ := exists_render_of_any hplain
  obtain ⟨ms, hms, hmissing⟩ := (Option.any_eq_true _ _).1 hpod
  obtain ⟨pod, hpod, hobj⟩ := Option.bind_eq_some_iff.1 hms
  obtain rfl := Json.eq_obj_of_members? hobj
  obtain ⟨stored, hstored, hstands⟩ := priorityAttempt.stands_of_created hcreated hx
  obtain ⟨applied, hread⟩ := Snapshot.exists_read_eq_ok hstands.snapshot hlegible
  have hfailed : failed.peek "prod" "db" = some stored := by
    have hlost : (lostAttempt.cycle "applied" created.store).result.toOption = none := by
      decide +kernel
    have hran := lostAttempt.ran_cycle "applied" created.store
    cases hr : (lostAttempt.cycle "applied" created.store).result with
    | ok outcome =>
      rw [hr] at hlost
      cases hlost
    | error e =>
      rw [hr] at hran
      cases hran with
      | failed kept => exact (kept.peek "prod" "db").trans hstored
  obtain ⟨outcome, hok⟩ := plainAttempt.cycle_ok_of_read (by decide) hdesired hfailed hread rfl
  have hgone := Option.isNone_iff_eq_none.1 hmissing
  exact ⟨rfl, hcreated, outcome, desired, ms, hok, hdesired, hpod, hgone,
    dropped_member_removed "applied" (Memory.empty false) rfl podPath "priorityClassName"
      priorityAttempt [lostAttempt] plainAttempt hcreated (fun h => by cases h) hok hdesired hpod
      hgone⟩

/-- A store without defaults in which a cycle created the database, and another writer gave its pods
priority. -/
def adoptedStore : Memory :=
  (plainAttempt.cycle "applied" (Memory.empty false)).store.editSpec "prod" "db"
    (·.modify StatefulSetSpec.template (·.modify PodTemplate.spec
      (·.put PodSpec.priorityClassName (.ofText "high"))))

/-- Priority that another writer asked for, and that the caller asked for after it, stays when the
caller asks for it no more: neither cycle finds anything to change, and no snapshot has the
member. -/
theorem adopted_member_kept :
    adoptedStore.serverDefaults = false ∧
      (plainAttempt.cycle "applied" (Memory.empty false)).result = .ok .created ∧
      (priorityAttempt.cycle "applied" adoptedStore).result = .ok .unchanged ∧
      (plainAttempt.cycle "applied" (priorityAttempt.cycle "applied" adoptedStore).store).result =
        .ok .unchanged ∧
      ∃ desired desired' ms stored, render priorityAttempt.parameters = .ok desired ∧
        desired.toJson.at? ("spec" :: (podPath ++ ["priorityClassName"])) = some (.str "high") ∧
        render plainAttempt.parameters = .ok desired' ∧
        desired'.toJson.at? ("spec" :: podPath) = some (.obj ms) ∧
        Members.get? "priorityClassName" ms = none ∧
        (plainAttempt.cycle "applied"
          (priorityAttempt.cycle "applied" adoptedStore).store).store.peek "prod" "db" =
            some stored ∧
        stored.toJson.at? ("spec" :: (podPath ++ ["priorityClassName"])) = some (.str "high") := by
  let path := "spec" :: (podPath ++ ["priorityClassName"])
  let compare (x stored desired : StatefulSet) : Option Json :=
    Json.diff (Patch.appliedBefore IgnoreRule.defaults (some (Snapshot.ofJson "applied" x.toJson)))
      (IgnoreRule.applyAll IgnoreRule.defaults (copyStoreOwned stored desired).toJson)
      (IgnoreRule.applyAll IgnoreRule.defaults stored.toJson)
  have hcreated : (plainAttempt.cycle "applied" (Memory.empty false)).result = .ok .created := by
    decide +kernel
  have hplain : adoptedStore.serverDefaults = false := by decide +kernel
  have hfacts : (render plainAttempt.parameters).toOption.any (fun x =>
      (render priorityAttempt.parameters).toOption.any fun y =>
        (adoptedStore.peek "prod" "db").any fun stored =>
          let snapshot := Snapshot.ofJson "applied" x.toJson
          Json.Text.read? snapshot.chars = some snapshot ∧ compare x stored y = none ∧
            compare x stored x = none ∧ y.toJson.at? path = some (.str "high") ∧
            stored.toJson.at? path = some (.str "high") ∧
            ((x.toJson.at? ("spec" :: podPath)).bind Json.members?).any fun ms =>
              (Members.get? "priorityClassName" ms).isNone) = true := by
    decide +kernel
  obtain ⟨x, hx, hfacts⟩ := exists_render_of_any hfacts
  obtain ⟨y, hy, hfacts⟩ := exists_render_of_any hfacts
  rw [Option.any_eq_true] at hfacts
  obtain ⟨stored, hstored, hfacts⟩ := hfacts
  obtain ⟨hlegible, hadopt, hdrop, hdeclared, hkept, hpod⟩ := of_decide_eq_true hfacts
  -- the object still carries the snapshot of what was created
  obtain ⟨original, horiginal, hstands⟩ := plainAttempt.stands_of_created hcreated hx
  have hcarries : Snapshot.Carries "applied" stored x := by
    rw [adoptedStore, Memory.peek_editSpec, horiginal, Option.map_some] at hstored
    cases hstored
    exact hstands.snapshot.modify_spec _
  have hread := Snapshot.read_of_carries hcarries hlegible
  obtain ⟨hadopting, hstored'⟩ :=
    priorityAttempt.cycle_unchanged (by decide) hy hstored hread rfl hadopt
  obtain ⟨hdropping, hstored''⟩ :=
    plainAttempt.cycle_unchanged (by decide) hx hstored' hread rfl hdrop
  obtain ⟨ms, hms, hmissing⟩ := (Option.any_eq_true _ _).1 hpod
  obtain ⟨pod, hpod, hobj⟩ := Option.bind_eq_some_iff.1 hms
  obtain rfl := Json.eq_obj_of_members? hobj
  exact ⟨hplain, hcreated, hadopting, hdropping, y, x, ms, stored, hy, hdeclared, hx, hpod,
    Option.isNone_iff_eq_none.1 hmissing, hstored'', hkept⟩

end DesiredState
