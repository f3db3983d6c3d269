import DesiredState.Proofs.Cycle.Idempotence
/-!
What a server fills in, as a later comparison sees it. Main statement: `apply_never_a_change`, that
defaults are filled in once, override nothing that is set, and are no change for the object that
they were filled in on.
-/

set_option autoImplicit false
set_option relaxedAutoImplicit false

namespace DesiredState.ServerDefaults

private theorem stands_apply {key : String} {x r : StatefulSet}
    (h : Snapshot.record key x = .ok r) : Memory.Stands key true x (apply r) := by
  obtain ⟨r', hr', hspec, -⟩ := Snapshot.record_eq_ok key x
  cases h.symm.trans hr'
  constructor
  · rw [get?_apply_spec, hspec]
    rfl
  · rw [Snapshot.Carries, StatefulSet.subject, get_apply_metadata]
    exact Snapshot.carries_record h

/-- Defaults that are filled in again change nothing; what is set outside of the status keeps its
value, at every position; and an object that was recorded, whatever the key, differs in nothing from
what a server makes of it, as far as the snapshot can be read back. -/
theorem apply_never_a_change (x : StatefulSet) :
    apply (apply x) = apply x ∧
    (∀ position d, position.head? ≠ some (.key "status") → x.datum.find? position = some d →
      ∃ e, (apply x).datum.find? position = some e ∧ e.root = d.root) ∧
    ∀ key, ∃ r, Snapshot.record key x = .ok r ∧
      ((∃ applied, Snapshot.read key (apply r).subject = .ok applied) →
        ∃ patch, Patch.calculate key IgnoreRule.defaults (apply r).subject x.subject = .ok patch ∧
          patch.isEmpty = true) := by
  refine ⟨apply_apply x, fun position d => find?_apply x, fun key => ?_⟩
  obtain ⟨r, hr, -⟩ := Snapshot.record_eq_ok key x
  refine ⟨r, hr, ?_⟩
  rintro ⟨applied, hread⟩
  exact calculate_of_stands (stands_apply hr) rfl hread

def parallel (o : StatefulSet) : StatefulSet :=
  o.modify StatefulSet.spec (·.put StatefulSetSpec.podManagementPolicy (.ofText "Parallel"))

def policyPosition : List Json.Step := [.key "spec", .key "podManagementPolicy"]

/-- A rendered database whose policy is not the one that a server fills in. -/
theorem apply_never_a_change_parallel :
    ∃ x r, render databaseParameters = .ok x ∧ policyPosition.head? ≠ some (.key "status") ∧
      (parallel x).datum.find? policyPosition = some (.text "Parallel") ∧
      (∃ e, (apply (parallel x)).datum.find? policyPosition = some e ∧
        e.root = (Datum.text "Parallel").root) ∧
      Snapshot.record "applied" (parallel x) = .ok r ∧
      (∃ applied, Snapshot.read "applied" (apply r).subject = .ok applied) ∧
      ∃ patch, Patch.calculate "applied" IgnoreRule.defaults (apply r).subject
        (parallel x).subject = .ok patch ∧ patch.isEmpty = true := by
  have hfacts : (render databaseParameters).toOption.any (fun o =>
      Json.Text.legible (Snapshot.ofJson "applied" (parallel o).toJson).chars &&
        decide ((parallel o).datum.find? policyPosition = some (.text "Parallel"))) = true := by
    decide +kernel
  obtain ⟨x, hx, hfacts⟩ := exists_render_of_any hfacts
  obtain ⟨hlegible, hpolicy⟩ := (Bool.and_eq_true _ _).mp hfacts
  have hpolicy := of_decide_eq_true hpolicy
  obtain ⟨-, hkept, hunseen⟩ := apply_never_a_change (parallel x)
  obtain ⟨r, hr, hunseen⟩ := hunseen "applied"
  have hread := Snapshot.exists_read_eq_ok (stands_apply hr).snapshot hlegible
  exact ⟨x, r, hx, by decide, hpolicy, hkept _ _ (by decide) hpolicy, hr, hread, hunseen hread⟩

end DesiredState.ServerDefaults
