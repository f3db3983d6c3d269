import DesiredState.Proofs.Cycle.Basic
/-!
A second cycle. Main statement: `reconcile_idempotent`, that a cycle which follows one that
succeeded, for the same parameters and with no other writer in between, finds nothing to change
and writes nothing.
-/

set_option autoImplicit false
set_option relaxedAutoImplicit false

namespace DesiredState

/-- A specification that stands as it was written gives nothing to change when it is desired
again. -/
theorem calculate_of_stands {key : String} {serverDefaults : Bool}
    {x stored desired : StatefulSet} {applied : Option Json}
    (hs : Memory.Stands key serverDefaults x stored)
    (hd : x.get? StatefulSet.spec = desired.get? StatefulSet.spec)
    (hread : Snapshot.read key stored.subject = .ok applied) :
    ∃ patch, Patch.calculate key IgnoreRule.defaults stored.subject desired.subject =
      .ok patch ∧ patch.isEmpty = true := by
  refine ⟨_, Patch.calculate_eq_ok_iff.2 ⟨applied, _, _, hread, rfl, rfl, rfl⟩, ?_⟩
  have hshape := Snapshot.shape_appliedBefore hs.snapshot hread
  have hordered := IgnoreRule.ordered_applyAll IgnoreRule.defaults desired.ordered_toJson
  have hstored := hs.spec
  rw [hd] at hstored
  rw [IgnoreRule.applyAll_defaults_toJson, hd] at hshape
  rw [IgnoreRule.applyAll_defaults_toJson] at hordered
  rw [Patch.isEmpty, IgnoreRule.applyAll_defaults_toJson, IgnoreRule.applyAll_defaults_toJson,
    hstored, Json.diff_of_within hordered hshape]
  · rfl
  · cases desired.get? StatefulSet.spec with
    | none => exact .refl rfl
    | some s =>
      exact Json.within_obj_iff.2 ⟨_, rfl, List.forall_mem_singleton.2 ⟨_, rfl,
        IgnoreRule.within_compared (Memory.within_filledSpec serverDefaults s)⟩⟩

/-- After a cycle that succeeded, and unless the snapshot that it left cannot be read back, the
same cycle finds nothing to change, only fetches, and leaves every object as it is. -/
theorem reconcile_idempotent (key : String) (p : Parameters) (m : Memory)
    (moment moment' : Moment) {outcome : Outcome}
    (hfirst : (reconcile (Memory.asStore moment) (.threeWay key) IgnoreRule.defaults p
      m).result = .ok outcome)
    (hread : ∀ stored, (reconcile (Memory.asStore moment) (.threeWay key)
      IgnoreRule.defaults p m).store.peek p.ns p.name = some stored →
        ∃ applied, Snapshot.read key stored.subject = .ok applied) :
    let first := reconcile (Memory.asStore moment) (.threeWay key) IgnoreRule.defaults p m
    let second := reconcile (Memory.asStore moment') (.threeWay key) IgnoreRule.defaults p
      first.store
    second.result = .ok .unchanged ∧ second.store.calls.create = first.store.calls.create ∧
      second.store.calls.update = first.store.calls.update ∧
      second.store.objects = first.store.objects := by
  intro first second
  have haddress := Memory.fetched_of_reconcile_ok hfirst
  have hran := Memory.ran_reconcile moment key IgnoreRule.defaults p m
  rw [hfirst] at hran
  obtain ⟨desired, rendered, -, hfailures, hcases⟩ := hran.stands
  -- the second cycle fetches an object that differs in nothing, written now or found before
  have hsettled : ∃ stored patch, first.store.peek p.ns p.name = some stored ∧
      Patch.calculate key IgnoreRule.defaults stored.subject
        (copyStoreOwned stored desired).subject = .ok patch ∧ patch.isEmpty = true := by
    rcases hcases with ⟨x, stored, -, hspec, hpeek, hstands⟩ |
      ⟨stored, patch, -, -, hpeek, hcalc, hempty⟩
    · obtain ⟨applied, happlied⟩ := hread stored hpeek
      obtain ⟨patch, hcalc, hempty⟩ := calculate_of_stands hstands
        (hspec.trans (get?_copyStoreOwned_spec stored desired).symm) happlied
      exact ⟨stored, patch, hpeek, hcalc, hempty⟩
    · exact ⟨stored, patch, hpeek, hcalc, hempty⟩
  obtain ⟨stored, patch, hpeek, hcalc, hempty⟩ := hsettled
  have hsecond : second.result = .ok .unchanged ∧
      second.store = (first.store.called .get p.ns p.name).2 :=
    Memory.reconcile_unchanged haddress.1 ((congrArg PerOperation.get hfailures).trans haddress.2)
      rendered hpeek hcalc hempty
  rw [hsecond.2]
  exact ⟨hsecond.1, rfl, rfl, rfl⟩

def Outcome.isUpdated : Outcome → Bool
  | .updated _ => true
  | _ => false

theorem exists_ok_updated {result : Except CycleError Outcome}
    (h : result.toOption.any Outcome.isUpdated = true) :
    ∃ patch, result = .ok (.updated patch) := by
  rcases result with e | outcome
  · cases h
  · cases outcome with
    | updated patch => exact ⟨patch, rfl⟩
    | created => cases h
    | unchanged => cases h

def placedStore : Memory :=
  (Memory.empty true).insert "prod" ((Record.blank .statefulSet).put StatefulSet.metadata
    ((Record.blank .objectMeta).put ObjectMeta.name (.ofText "db")))

theorem reconcile_idempotent_after_placement :
    let first := reconcile (Memory.asStore ⟨⟨0, 0⟩, "u1"⟩) (.threeWay "applied")
      IgnoreRule.defaults databaseParameters placedStore
    let second := reconcile (Memory.asStore ⟨⟨60, 0⟩, "u2"⟩) (.threeWay "applied")
      IgnoreRule.defaults databaseParameters first.store
    (∃ patch, first.result = .ok (.updated patch)) ∧
      (∀ stored, first.store.peek "prod" "db" = some stored →
        ∃ applied, Snapshot.read "applied" stored.subject = .ok applied) ∧
      second.result = .ok .unchanged ∧ second.store.calls.create = first.store.calls.create ∧
      second.store.calls.update = first.store.calls.update ∧
      second.store.objects = first.store.objects := by
  intro first second
  have hname : databaseParameters.ns = "prod" ∧ databaseParameters.name = "db" := by
    decide +kernel
  have hupdated : first.result.toOption.any Outcome.isUpdated = true := by
    decide +kernel
  obtain ⟨patch, hpatch⟩ := exists_ok_updated hupdated
  have hread : ∀ stored, first.store.peek "prod" "db" = some stored →
      ∃ applied, Snapshot.read "applied" stored.subject = .ok applied := by
    intro stored hpeek
    have hran := Memory.ran_reconcile ⟨⟨0, 0⟩, "u1"⟩ "applied" IgnoreRule.defaults
      databaseParameters placedStore
    rw [show (reconcile _ _ _ _ placedStore).result = _ from hpatch] at hran
    obtain ⟨desired, hrender, -, -, ⟨x, stored', hx, -, hpeek', hstands⟩ | ⟨_, _, hu, _⟩⟩ :=
      hran.stands
    · rw [hname.1, hname.2] at hpeek' hx
      cases hpeek.symm.trans hpeek'
      have hlegible : ((placedStore.peek "prod" "db").any fun old =>
          (render databaseParameters).toOption.any fun desired => Json.Text.legible
            (Snapshot.ofJson "applied" (replacement old desired).toJson).chars) = true := by
        decide +kernel
      obtain ⟨old, hold, hlegible⟩ := (Option.any_eq_true _ _).1 hlegible
      rw [hrender] at hlegible
      rw [hold] at hx
      cases hx
      exact Snapshot.exists_read_eq_ok hstands.snapshot hlegible
    · cases hu
  exact ⟨⟨patch, hpatch⟩, hread, reconcile_idempotent "applied" databaseParameters placedStore
    ⟨⟨0, 0⟩, "u1"⟩ ⟨⟨60, 0⟩, "u2"⟩ hpatch (by rw [hname.1, hname.2]; exact hread)⟩

end DesiredState
