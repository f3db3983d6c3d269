import DesiredState.Proofs.Cycle.Idempotence
/-!
What a cycle records. Annotations of other writers are carried over before the snapshot is taken, so
that it takes them for the caller's own. Main statement: `recorded_of_write`, what the snapshot is
that a cycle writes; after an update it is that of the synthesized object if and only if no
annotation came from the stored object alone.
-/

set_option autoImplicit false
set_option relaxedAutoImplicit false

namespace DesiredState

/-- Where a cycle writes the object, the snapshot on it is of the synthesized object if there was
none, and otherwise of the object that replaces it, in whatever way the objects were compared. That
one holds, for each annotation but its own, what the synthesized object sets, or else what the
stored object carried; so it is the snapshot of the synthesized object just where nothing was
carried over. -/
theorem recorded_of_write (key : String) (rules : List IgnoreRule) (p : Parameters)
    (moment : Moment) (m : Memory) {outcome : Outcome} (hwritten : outcome ≠ .unchanged)
    (hok : (reconcile (Memory.asStore moment) (.threeWay key) rules p m).result = .ok outcome) :
    ∃ desired new, render p = .ok desired ∧
      (reconcile (Memory.asStore moment) (.threeWay key) rules p m).store.peek p.ns p.name =
        some new ∧
      (m.peek p.ns p.name = none → Snapshot.Carries key new desired) ∧
      ∀ old, m.peek p.ns p.name = some old → Snapshot.Carries key new (replacement old desired) ∧
        (∀ a, a ≠ key →
          (Snapshot.ofJson key (replacement old desired).toJson).at?
              ["metadata", "annotations", a] =
            ((desired.annotationText? a).or (old.annotationText? a)).map Value.toJson) ∧
        (Snapshot.ofJson key (replacement old desired).toJson =
            Snapshot.ofJson key desired.toJson ↔
          ∀ a, a ≠ key → (old.annotationText? a).isSome = true →
            (desired.annotationText? a).isSome = true) := by
  have hran := Memory.ran_reconcile moment key rules p m
  rw [hok] at hran
  obtain ⟨desired, hrender, -, -, ⟨x, new, hx, -, hpeek, hstands⟩ |
    ⟨_, _, hunchanged, -, -, -, -⟩⟩ := hran.stands
  · refine ⟨desired, new, hrender, hpeek, fun hnone => ?_, fun old hold => ⟨?_, ?_, ?_⟩⟩
    · rw [hnone] at hx
      exact hx ▸ hstands.snapshot
    · rw [hold] at hx
      exact hx ▸ hstands.snapshot
    · intro a ha
      rw [Snapshot.at?_ofJson_annotations, if_neg ha, annotationText?_replacement]
    · exact ofJson_replacement_eq_iff old desired key
  · exact absurd hunchanged hwritten

def annotatedStore : Memory :=
  (Memory.empty false).insert "prod" ((Record.blank .statefulSet).put StatefulSet.metadata
    (((Record.blank .objectMeta).put ObjectMeta.name (.ofText "db")).put ObjectMeta.annotations
      (Value.emptyMap.insert "backup" (.ofText "daily"))))

def equip : Cycle Memory :=
  reconcile (Memory.asStore ⟨⟨0, 0⟩, "u1"⟩) (.threeWay "applied") IgnoreRule.defaults
    databaseParameters annotatedStore

private theorem equip_updates : ∃ patch, equip.result = .ok (.updated patch) := by
  have hupdated : equip.result.toOption.any Outcome.isUpdated = true := by decide +kernel
  exact exists_ok_updated hupdated

theorem recorded_of_write_backup :
    ∃ outcome, outcome ≠ .unchanged ∧ equip.result = .ok outcome ∧
      ∃ desired new, render databaseParameters = .ok desired ∧
        equip.store.peek databaseParameters.ns databaseParameters.name = some new ∧
        (annotatedStore.peek databaseParameters.ns databaseParameters.name = none →
          Snapshot.Carries "applied" new desired) ∧
        ∀ old, annotatedStore.peek databaseParameters.ns databaseParameters.name = some old →
          Snapshot.Carries "applied" new (replacement old desired) ∧
          (∀ a, a ≠ "applied" → (Snapshot.ofJson "applied" (replacement old desired).toJson).at?
              ["metadata", "annotations", a] =
            ((desired.annotationText? a).or (old.annotationText? a)).map Value.toJson) ∧
          (Snapshot.ofJson "applied" (replacement old desired).toJson =
              Snapshot.ofJson "applied" desired.toJson ↔
            ∀ a, a ≠ "applied" → (old.annotationText? a).isSome = true →
              (desired.annotationText? a).isSome = true) := by
  obtain ⟨patch, hpatch⟩ := equip_updates
  have hchanged : Outcome.updated patch ≠ .unchanged := nofun
  refine ⟨.updated patch, hchanged, hpatch, ?_⟩
  rw [equip] at hpatch ⊢
  exact recorded_of_write "applied" IgnoreRule.defaults databaseParameters ⟨⟨0, 0⟩, "u1"⟩
    annotatedStore hchanged hpatch

/-- The snapshot that the update writes has the annotation of the other writer, which the snapshot
of the synthesized object has not. -/
theorem carried_annotation_recorded :
    ∃ patch desired new applied, equip.result = .ok (.updated patch) ∧
      render databaseParameters = .ok desired ∧ equip.store.peek "prod" "db" = some new ∧
      Snapshot.read "applied" new.subject = .ok (some applied) ∧
      applied.at? ["metadata", "annotations", "backup"] = some (.str "daily") ∧
      (Snapshot.ofJson "applied" desired.toJson).at? ["metadata", "annotations", "backup"] =
        none := by
  let backup := ["metadata", "annotations", "backup"]
  have hname : databaseParameters.ns = "prod" ∧ databaseParameters.name = "db" := by
    decide +kernel
  have hfacts : (render databaseParameters).toOption.any (fun desired =>
      (annotatedStore.peek "prod" "db").any fun old =>
        let snapshot := Snapshot.ofJson "applied" (replacement old desired).toJson
        Json.Text.read? snapshot.chars = some snapshot ∧
          snapshot.at? backup = some (.str "daily") ∧
          (Snapshot.ofJson "applied" desired.toJson).at? backup = none) = true := by
    decide +kernel
  obtain ⟨desired, hrender, hfacts⟩ := exists_render_of_any hfacts
  rw [Option.any_eq_true] at hfacts
  obtain ⟨old, hold, hfacts⟩ := hfacts
  obtain ⟨hlegible, hrecorded, hauthored⟩ := of_decide_eq_true hfacts
  obtain ⟨patch, hpatch⟩ := equip_updates
  have hran := Memory.ran_reconcile ⟨⟨0, 0⟩, "u1"⟩ "applied" IgnoreRule.defaults
    databaseParameters annotatedStore
  rw [show (reconcile _ _ _ _ annotatedStore).result = _ from hpatch] at hran
  obtain ⟨desired', hrender', -, -, ⟨x, new, hx, -, hpeek, hstands⟩ | ⟨_, _, hunchanged, -⟩⟩ :=
    hran.stands
  · rw [hname.1, hname.2] at hx hpeek
    rw [hold] at hx
    cases hrender.symm.trans hrender'
    cases hx
    exact ⟨patch, desired, new, _, hpatch, hrender, hpeek,
      Snapshot.read_of_carries hstands.snapshot hlegible, hrecorded, hauthored⟩
  · cases hunchanged

end DesiredState
