import DesiredState.Proofs.Except
import DesiredState.Proofs.Schema.Json
import DesiredState.Store.Basic
import DesiredState.Synthesis
/-!
What synthesis gives. Main statements: `render_eq_ok`, that a rendered object carries the name of
its parameters and the specification of their settings; and `sameBut_render`, what becomes of the
metadata of the parameters.
-/

set_option autoImplicit false
set_option relaxedAutoImplicit false

namespace DesiredState

theorem name_settings (p : Parameters) : p.settings.name = p.name := by
  simp only [Settings.name, Parameters.name, Parameters.settings, ObjectMeta.text?]
  rw [Value.get?_put_of_ne _ (by decide), Value.get?_put_of_ne _ (by decide)]

namespace Synthesis

private theorem name_metadata (s : Settings) :
    (ObjectMeta.text? (metadata s) ObjectMeta.name).getD "" = s.name := by
  have hname : (metadata s).get? ObjectMeta.name = s.metadata.get? ObjectMeta.name := by
    rw [metadata]
    cases s.owner with
    | none => exact Value.get?_put_of_ne _ (by decide) _
    | some owner =>
      rw [Option.elim_some, ObjectMeta.addOwner, Value.get?_put_of_ne _ (by decide),
        Value.get?_put_of_ne _ (by decide)]
  rw [ObjectMeta.text?, hname]
  rfl

end Synthesis

def writtenMetadata : List String := ["annotations", "labels", "namespace", "ownerReferences"]

private theorem sameBut_metadata_settings (p : Parameters) :
    Value.SameBut writtenMetadata p.settings.metadata p.metadata := by
  have hannotations : [ObjectMeta.annotations.name] ⊆ writtenMetadata := by decide
  have hlabels : [ObjectMeta.labels.name] ⊆ writtenMetadata := by decide
  exact ((Value.sameBut_put _ ObjectMeta.annotations _).mono hannotations).trans
    ((Value.sameBut_put _ ObjectMeta.labels _).mono hlabels)

private theorem Synthesis.sameBut_metadata (s : Settings) :
    Value.SameBut writtenMetadata (metadata s) s.metadata := by
  have hplaced : Value.SameBut writtenMetadata (s.metadata.put ObjectMeta.ns (.ofText s.ns))
      s.metadata := by
    have hns : [ObjectMeta.ns.name] ⊆ writtenMetadata := by decide
    exact (Value.sameBut_put _ ObjectMeta.ns _).mono hns
  rw [metadata]
  cases s.owner with
  | none => exact hplaced
  | some owner =>
    have howners : [ObjectMeta.ownerReferences.name] ⊆ writtenMetadata := by decide
    rw [Option.elim_some, ObjectMeta.addOwner]
    exact ((Value.sameBut_put _ ObjectMeta.ownerReferences _).mono howners).trans hplaced

def Synthesis.podMetadata (s : Settings) : ObjectMeta :=
  ((Record.blank .objectMeta).put ObjectMeta.labels s.labels).put ObjectMeta.annotations
    s.annotations

def Synthesis.template (s : Settings) (c : Container) : Record .podTemplateSpec :=
  ((Record.blank .podTemplateSpec).put PodTemplate.metadata (podMetadata s)).put PodTemplate.spec
    (pod s c)

theorem Synthesis.get_spec_template (s : Settings) (claims : List VolumeClaim) (c : Container) :
    (spec s claims c).get StatefulSetSpec.template = template s c := by
  refine Value.get_eq_of_get? ?_
  rw [spec, Value.get?_set_of_ne _ (by decide), Value.get?_put_self]
  rfl

theorem Synthesis.pod_spec (s : Settings) (claims : List VolumeClaim) (c : Container) :
    ((spec s claims c).get StatefulSetSpec.template).get? PodTemplate.spec = some (pod s c) := by
  rw [get_spec_template, template, Value.get?_put_self]

theorem Synthesis.volumeClaims_cases {s : Settings} {claims : List VolumeClaim}
    (h : volumeClaims s = .ok claims) :
    (claimsVolume s = true ∧ ∃ claim, volumeClaim s = .ok claim ∧ claims = [claim]) ∨
      claimsVolume s = false ∧ claims = [] := by
  rw [volumeClaims] at h
  split at h
  · rename_i hclaims
    obtain ⟨claim, hclaim, rfl⟩ := ok_of_map h
    exact .inl ⟨hclaims, claim, hclaim, rfl⟩
  · rename_i hclaims
    cases h
    exact .inr ⟨Bool.eq_false_iff.2 hclaims, rfl⟩

/-- What a synthesized object is made of. -/
theorem synthesize_inv {s : Settings} {o : StatefulSet} (h : synthesize s = .ok o) :
    ∃ claims c, Synthesis.volumeClaims s = .ok claims ∧ Synthesis.container s = .ok c ∧
      o = ((Record.blank .statefulSet).put StatefulSet.metadata (Synthesis.metadata s)).put
        StatefulSet.spec (Synthesis.spec s claims c) := by
  rw [synthesize] at h
  split at h
  · cases h
  · obtain ⟨claims, hclaims, h⟩ := ok_of_bind (ok_of_mapError h)
    obtain ⟨c, hc, h⟩ := ok_of_bind h
    exact ⟨claims, c, hclaims, hc, (Except.ok.inj h).symm⟩

private theorem render_inv {p : Parameters} {o : StatefulSet} (h : render p = .ok o) :
    ∃ claims c, Synthesis.volumeClaims p.settings = .ok claims ∧
      Synthesis.container p.settings = .ok c ∧
      o = ((Record.blank .statefulSet).put StatefulSet.metadata
        (Synthesis.metadata p.settings)).put StatefulSet.spec
        (Synthesis.spec p.settings claims c) :=
  synthesize_inv h

private theorem metadata_of_render {p : Parameters} {o : StatefulSet} (h : render p = .ok o) :
    o.get StatefulSet.metadata = Synthesis.metadata p.settings := by
  obtain ⟨claims, c, -, -, rfl⟩ := render_inv h
  rw [Value.get_put_of_ne _ (by decide), Value.get_put_self]

theorem render_eq_ok {p : Parameters} {o : StatefulSet} (h : render p = .ok o) :
    o.objectName = p.name ∧ ∃ claims c, Synthesis.volumeClaims p.settings = .ok claims ∧
      Synthesis.container p.settings = .ok c ∧
      o.get? StatefulSet.spec = some (Synthesis.spec p.settings claims c) := by
  have hname : o.objectName = p.name := by
    rw [StatefulSet.objectName, metadata_of_render h, Synthesis.name_metadata, name_settings]
  obtain ⟨claims, c, hclaims, hc, rfl⟩ := render_inv h
  exact ⟨hname, claims, c, hclaims, hc, Value.get?_put_self _ _ _⟩

theorem sameBut_render {p : Parameters} {o : StatefulSet} (h : render p = .ok o) :
    Value.SameBut writtenMetadata (o.get StatefulSet.metadata) p.metadata := by
  rw [metadata_of_render h]
  exact (Synthesis.sameBut_metadata p.settings).trans (sameBut_metadata_settings p)

theorem exists_render_of_any {p : Parameters} {test : StatefulSet → Bool}
    (h : (render p).toOption.any test = true) : ∃ o, render p = .ok o ∧ test o = true := by
  cases hr : render p with
  | error e =>
    rw [hr] at h
    cases h
  | ok o =>
    rw [hr] at h
    exact ⟨o, rfl, h⟩

def databaseParameters : Parameters :=
  { metadata := (Record.blank .objectMeta).put ObjectMeta.name (.ofText "db"), ns := "prod"
    owner := none
    container :=
      { image := "postgres", imagePullPolicy := none, command := none, args := none, env := none
        ports := none, resources := none, persistenceEnabled := some true, dataMountPath := none
        configMountPath := none }
    labels := some (Value.emptyMap.insert "app" (.ofText "db")), annotations := none
    replicas := none
    storage :=
      { name := "", labels := none, annotations := none, accessModes := none
        storageClassName := none, size := some "512Mi" }
    extraVolumes := none, imagePullSecret := none, affinity := none, nodeSelector := none
    tolerations := none, priorityClassName := none, additionalConfig := none
    securityContext := none }

theorem databaseParameters_ns : databaseParameters.ns = "prod" := rfl

theorem databaseParameters_name : databaseParameters.name = "db" := by decide +kernel

def grownParameters : Parameters :=
  { databaseParameters with replicas := some (.ofInt32 3 (Eq.refl true)) }

example : ((render databaseParameters).toOption.map StatefulSet.objectName) = some "db" := by
  decide +kernel

end DesiredState
