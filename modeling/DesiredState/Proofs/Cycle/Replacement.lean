import DesiredState.Proofs.Cycle.Idempotence
import DesiredState.Proofs.Patch.Compared
/-!
What an update makes of a specification, and what its patch says. An update replaces the stored
object whole, while a merge of its patch leaves alone what only the stored object has. Main
statement: `updated_spec_of_patch`, that the two agree but for such members.
-/

set_option autoImplicit false
set_option relaxedAutoImplicit false

namespace DesiredState

open IgnoreRule (comparedSpec)

/-- After an update the stored specification is the synthesized one: in content, and but for what
is ignored, the stored one with the patch merged into it, less the members that neither the snapshot
nor the desired object has. -/
theorem updated_spec_of_patch (key : String) (p : Parameters) (moment : Moment) (m : Memory)
    (hplain : m.serverDefaults = false) {patch : Patch}
    (hupdated : (reconcile (Memory.asStore moment) (.threeWay key) IgnoreRule.defaults p
      m).result = .ok (.updated patch)) :
    ∃ old new desired applied change, m.peek p.ns p.name = some old ∧
      (reconcile (Memory.asStore moment) (.threeWay key) IgnoreRule.defaults p m).store.peek
        p.ns p.name = some new ∧
      render p = .ok desired ∧ Snapshot.read key old.subject = .ok applied ∧
      patch.change? = some change ∧
      new.get? StatefulSet.spec = desired.get? StatefulSet.spec ∧
      (comparedSpec new.toJson).content.same (Json.known (comparedSpec (applied.getD .null))
        (comparedSpec desired.toJson)
        (comparedSpec (old.toJson.merge change))).content = true := by
  have hran := Memory.ran_reconcile moment key IgnoreRule.defaults p m
  rw [hupdated] at hran
  cases hran with
  | @updated desired old r _ _ rendered found calculated changed recorded written =>
    obtain ⟨-, claims, c, -, -, hspec⟩ := render_eq_ok rendered
    have hcopied := (get?_copyStoreOwned_spec old desired).trans hspec
    obtain ⟨applied, change, hread, hchange, hsame⟩ :=
      Patch.same_known_of_calculate hcopied calculated changed
    have hstands : Memory.Stands key m.serverDefaults (replacement old desired)
        (m.stamped moment r (Memory.updatedMeta p.ns r old)) :=
      Memory.stands_stamped recorded (Memory.annotations_updatedMeta p.ns r old)
    have hnew : (m.stamped moment r (Memory.updatedMeta p.ns r old)).get? StatefulSet.spec =
        desired.get? StatefulSet.spec := by
      rw [hstands.spec, hplain, get?_replacement_spec]
      exact congrFun Option.map_id _
    refine ⟨old, _, desired, applied, change, found, written.peek_self, rendered, hread, hchange,
      hnew, ?_⟩
    rw [IgnoreRule.comparedSpec_of_spec (hnew.trans hspec),
      IgnoreRule.comparedSpec_of_spec hspec]
    exact hsame

def StatefulSetSpec.minReadySeconds : Slot .statefulSetSpec .int32 false :=
  ⟨"minReadySeconds", rfl⟩

def patientStore : Memory :=
  match render databaseParameters with
  | .ok o => (Memory.empty false).insert "prod" (o.modify StatefulSet.spec
      (·.put StatefulSetSpec.minReadySeconds (.ofInt32 7 (Eq.refl true))))
  | .error _ => Memory.empty false

def growPatient : Cycle Memory :=
  reconcile (Memory.asStore ⟨⟨60, 0⟩, "u2"⟩) (.threeWay "applied") IgnoreRule.defaults
    grownParameters patientStore

theorem updated_spec_of_patch_patient :
    patientStore.serverDefaults = false ∧ ∃ patch, growPatient.result = .ok (.updated patch) ∧
      ∃ old new desired applied change,
        patientStore.peek grownParameters.ns grownParameters.name = some old ∧
        growPatient.store.peek grownParameters.ns grownParameters.name = some new ∧
        render grownParameters = .ok desired ∧
        Snapshot.read "applied" old.subject = .ok applied ∧ patch.change? = some change ∧
        new.get? StatefulSet.spec = desired.get? StatefulSet.spec ∧
        (comparedSpec new.toJson).content.same (Json.known (comparedSpec (applied.getD .null))
          (comparedSpec desired.toJson)
          (comparedSpec (old.toJson.merge change))).content = true := by
  have hplain : patientStore.serverDefaults = false := by decide +kernel
  have hupdated : growPatient.result.toOption.any Outcome.isUpdated = true := by decide +kernel
  obtain ⟨patch, hpatch⟩ := exists_ok_updated hupdated
  refine ⟨hplain, patch, hpatch, ?_⟩
  rw [growPatient] at hpatch ⊢
  exact updated_spec_of_patch "applied" grownParameters ⟨⟨60, 0⟩, "u2"⟩ patientStore hplain hpatch

/-- The patch asks for three pods and says nothing else; the update also drops what the other writer
asked for, which a merge of the patch would keep. -/
theorem stored_only_member_dropped :
    patientStore.serverDefaults = false ∧
    ∃ change old new, growPatient.result = .ok (.updated ⟨some change⟩) ∧
      change = .obj [("spec", .obj [("replicas", .int 3)])] ∧
      patientStore.peek "prod" "db" = some old ∧ growPatient.store.peek "prod" "db" = some new ∧
      (comparedSpec old.toJson).member? "minReadySeconds" = some (.int 7) ∧
      (comparedSpec (old.toJson.merge change)).member? "minReadySeconds" = some (.int 7) ∧
      (comparedSpec new.toJson).member? "minReadySeconds" = none ∧
      (comparedSpec new.toJson).content.same
        (comparedSpec (old.toJson.merge change)).content = false := by
  let change : Json := .obj [("spec", .obj [("replicas", .int 3)])]
  have hresult : growPatient.result = .ok (.updated ⟨some change⟩) := by
    decide +kernel
  have hstored : ((patientStore.peek "prod" "db").any fun old =>
      (growPatient.store.peek "prod" "db").any fun new =>
        (comparedSpec old.toJson).member? "minReadySeconds" = some (.int 7) ∧
        (comparedSpec (old.toJson.merge change)).member? "minReadySeconds" = some (.int 7) ∧
        (comparedSpec new.toJson).member? "minReadySeconds" = none ∧
        (comparedSpec new.toJson).content.same
          (comparedSpec (old.toJson.merge change)).content = false) = true := by
    decide +kernel
  rw [Option.any_eq_true] at hstored
  obtain ⟨old, hold, hstored⟩ := hstored
  rw [Option.any_eq_true] at hstored
  obtain ⟨new, hnew, hstored⟩ := hstored
  have hplain : patientStore.serverDefaults = false := by decide +kernel
  exact ⟨hplain, change, old, new, hresult, rfl, hold, hnew, of_decide_eq_true hstored⟩

end DesiredState
