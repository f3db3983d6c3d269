import DesiredState.Proofs.Synthesis
import DesiredState.Proofs.Text.Blank
/-!
Parameters and the settings they are filled in to. Main statement: `filled_once`, that filling in
keeps whatever the caller set and, once done, has nothing left to do.
-/

set_option autoImplicit false
set_option relaxedAutoImplicit false

namespace DesiredState.Parameters

variable (p : Parameters)

/-- The settings hold what the parameters set. An empty storage name, an empty list of access modes
and a blank size set nothing; a size counts without the blanks around it. -/
structure KeptBy (s : Settings) : Prop where
  metadata : Value.SameBut ["annotations", "labels"] s.metadata p.metadata
  metadataLabels : ∀ v ∈ p.metadata.get? ObjectMeta.labels,
    s.metadata.get? ObjectMeta.labels = some v
  metadataAnnotations : ∀ v ∈ p.metadata.get? ObjectMeta.annotations,
    s.metadata.get? ObjectMeta.annotations = some v
  ns : s.ns = p.ns
  owner : s.owner = p.owner
  container : { s.container with persistenceEnabled := none } =
    { p.container with persistenceEnabled := none }
  persistenceEnabled : ∀ b ∈ p.container.persistenceEnabled, s.persistenceEnabled = b
  labels : ∀ v ∈ p.labels, s.labels = v
  annotations : ∀ v ∈ p.annotations, s.annotations = v
  replicas : ∀ v ∈ p.replicas, s.replicas = v
  storageName : p.storage.name ≠ "" → s.storage.name = p.storage.name
  storageLabels : ∀ v ∈ p.storage.labels, s.storage.labels = v
  storageAnnotations : ∀ v ∈ p.storage.annotations, s.storage.annotations = v
  accessModes : ∀ v ∈ p.storage.accessModes, v.items ≠ [] → s.storage.accessModes = v
  storageClassName : s.storage.storageClassName = p.storage.storageClassName
  size : ∀ z ∈ p.storage.size, ¬ Text.Blank z → Text.Padded s.storage.size z
  extraVolumes : ∀ v ∈ p.extraVolumes, s.extraVolumes = v
  imagePullSecret : s.imagePullSecret = p.imagePullSecret
  affinity : ∀ v ∈ p.affinity, s.affinity = v
  nodeSelector : ∀ v ∈ p.nodeSelector, s.nodeSelector = v
  tolerations : ∀ v ∈ p.tolerations, s.tolerations = v
  priorityClassName : s.priorityClassName = p.priorityClassName
  additionalConfig : s.additionalConfig = p.additionalConfig
  securityContext : ∀ v ∈ p.securityContext, s.securityContext = v

private theorem getD_of_mem {α : Type} {o : Option α} {other : α} : ∀ v ∈ o, o.getD other = v := by
  rintro v rfl
  rfl

private theorem sizeAsked?_of_size {q : StorageParameters} {z : String} (hz : z ∈ q.size)
    (hblank : ¬ Text.Blank z) : sizeAsked? q = some (Text.trim z) := by
  have htrim : Text.trim z ≠ "" := fun h => hblank (Text.trim_eq_empty_iff.1 h)
  rw [sizeAsked?, hz, Option.map_some, Option.filter_some, decide_eq_true htrim]
  rfl

private theorem accessModesAsked?_of_accessModes {q : StorageParameters} {v : Value (.list .text)}
    (hv : v ∈ q.accessModes) (hne : v.items ≠ []) : accessModesAsked? q = some v := by
  have hitems : (!v.items.isEmpty) = true := by
    rw [Bool.not_eq_true', List.isEmpty_eq_false_iff]
    exact hne
  rw [accessModesAsked?, hv, Option.filter_some, hitems]
  rfl

private theorem keptBy_settings : p.KeptBy p.settings where
  metadata :=
    ((Value.sameBut_put _ ObjectMeta.annotations _).mono (by decide)).trans
      ((Value.sameBut_put _ ObjectMeta.labels _).mono (by decide))
  metadataLabels := by
    intro v hv
    simp only [settings]
    rw [Value.get?_put_of_ne _ (by decide), Value.get?_put_self, getD_of_mem v hv]
  metadataAnnotations := by
    intro v hv
    simp only [settings]
    rw [Value.get?_put_self, getD_of_mem v hv]
  ns := rfl
  owner := rfl
  container := rfl
  persistenceEnabled := getD_of_mem
  labels := getD_of_mem
  annotations := getD_of_mem
  replicas := getD_of_mem
  storageName := fun h => if_neg h
  storageLabels := getD_of_mem
  storageAnnotations := getD_of_mem
  accessModes := fun v hv hne => getD_of_mem v (accessModesAsked?_of_accessModes hv hne)
  storageClassName := rfl
  size := by
    intro z hz hblank
    have hsize : p.settings.storage.size = Text.trim z :=
      getD_of_mem _ (sizeAsked?_of_size hz hblank)
    rw [hsize]
    exact Text.padded_trim z
  extraVolumes := getD_of_mem
  imagePullSecret := rfl
  affinity := getD_of_mem
  nodeSelector := getD_of_mem
  tolerations := getD_of_mem
  priorityClassName := rfl
  additionalConfig := rfl
  securityContext := getD_of_mem

private theorem size_settings_eq :
    p.settings.storage.size = (sizeAsked? p.storage).getD defaultSize := rfl

private theorem settings_of_toParameters (s : Settings) :
    s.toParameters.settings =
      { s with
        metadata := s.toParameters.settings.metadata
        container := { s.container with persistenceEnabled := some s.persistenceEnabled }
        storage := { s.storage with
          name := s.toParameters.settings.storage.name
          accessModes := s.toParameters.settings.storage.accessModes
          size := s.toParameters.settings.storage.size } } := by
  simp only [Settings.toParameters, settings, Option.getD_some]

theorem size_settings : p.settings.storage.size ≠ "" ∧ Text.Trimmed p.settings.storage.size := by
  rw [size_settings_eq]
  cases hasked : sizeAsked? p.storage with
  | none => exact ⟨by decide, by decide⟩
  | some size =>
    obtain ⟨hmap, hne⟩ := Option.filter_eq_some_iff.1 hasked
    obtain ⟨z, -, rfl⟩ := Option.map_eq_some_iff.1 hmap
    exact ⟨of_decide_eq_true hne, Text.trimmed_trim z⟩

private theorem accessModes_settings : p.settings.storage.accessModes.items ≠ [] := by
  have hmodes : p.settings.storage.accessModes =
      (accessModesAsked? p.storage).getD (.ofItems [.ofText defaultAccessMode]) := rfl
  rw [hmodes]
  cases hasked : accessModesAsked? p.storage with
  | none =>
    rw [Option.getD_none, Value.items_ofItems]
    exact List.cons_ne_nil _ _
  | some v =>
    have hne := (Option.filter_eq_some_iff.1 hasked).2
    rw [Bool.not_eq_true', List.isEmpty_eq_false_iff] at hne
    exact hne

private theorem metadata_settings_toParameters :
    p.settings.toParameters.settings.metadata = p.settings.metadata := by
  have hlabels : p.settings.metadata.get? ObjectMeta.labels =
      some ((p.metadata.get? ObjectMeta.labels).getD .emptyMap) := by
    simp only [settings]
    rw [Value.get?_put_of_ne _ (by decide), Value.get?_put_self]
  have hannotations : p.settings.metadata.get? ObjectMeta.annotations =
      some ((p.metadata.get? ObjectMeta.annotations).getD .emptyMap) :=
    Value.get?_put_self _ _ _
  have hagain : p.settings.toParameters.settings.metadata =
      (p.settings.metadata.put ObjectMeta.labels
        ((p.settings.metadata.get? ObjectMeta.labels).getD .emptyMap)).put ObjectMeta.annotations
          ((p.settings.metadata.get? ObjectMeta.annotations).getD .emptyMap) := rfl
  rw [hagain, hlabels, hannotations, Option.getD_some, Option.getD_some,
    Value.put_of_get? hlabels, Value.put_of_get? hannotations]

private theorem storageName_settings_toParameters :
    p.settings.toParameters.settings.storage.name = p.settings.storage.name := by
  have hname : p.settings.toParameters.name = p.name := name_settings p
  have hagain : p.settings.toParameters.settings.storage.name =
      if p.settings.storage.name = "" then p.settings.toParameters.name
      else p.settings.storage.name := rfl
  have hfirst : p.settings.storage.name = if p.storage.name = "" then p.name else p.storage.name :=
    rfl
  rw [hagain, hname]
  split
  · rename_i hempty
    rw [hfirst] at hempty ⊢
    split at hempty
    · rename_i hunset
      rw [if_pos hunset]
    · rename_i hset
      exact absurd hempty hset
  · rfl

private theorem size_settings_toParameters :
    p.settings.toParameters.settings.storage.size = p.settings.storage.size := by
  obtain ⟨hne, htrimmed⟩ := p.size_settings
  have htrim := Text.trim_eq_self htrimmed
  have hasked : sizeAsked? p.settings.toParameters.storage = some p.settings.storage.size := by
    rw [sizeAsked?_of_size rfl, htrim]
    rwa [← Text.trim_eq_empty_iff, htrim]
  rw [size_settings_eq, hasked, Option.getD_some]

private theorem settings_toParameters : p.settings.toParameters.settings = p.settings := by
  have hmodes : p.settings.toParameters.settings.storage.accessModes =
      p.settings.storage.accessModes :=
    (keptBy_settings p.settings.toParameters).accessModes _ rfl p.accessModes_settings
  have hflag : { p.settings.container with
      persistenceEnabled := some p.settings.persistenceEnabled } = p.settings.container := rfl
  rw [settings_of_toParameters, metadata_settings_toParameters, storageName_settings_toParameters,
    hmodes, size_settings_toParameters, hflag]

/-- Settings hold whatever the parameters set, and an access mode and a size in any case; the
container has its persistence flag. As parameters they are filled in to themselves, and what is
rendered from them is what is rendered from the parameters, or the same error. -/
theorem filled_once :
    p.settings.toParameters.settings = p.settings ∧
      p.settings.container.persistenceEnabled = some p.settings.persistenceEnabled ∧
      p.settings.storage.accessModes.items ≠ [] ∧
      (p.settings.storage.size ≠ "" ∧ Text.Trimmed p.settings.storage.size) ∧
      p.KeptBy p.settings ∧
      render p.settings.toParameters = render p := by
  have hrender : render p.settings.toParameters = render p := by
    rw [render, render, settings_toParameters]
  exact ⟨p.settings_toParameters, rfl, p.accessModes_settings, p.size_settings, p.keptBy_settings,
    hrender⟩

def paddedParameters : Parameters :=
  { databaseParameters with
    storage := { databaseParameters.storage with
      accessModes := some .emptyList, size := some " 512Mi " } }

/-- The size is kept without the blanks, the missing access mode is filled in, and the pods are not
given other labels. -/
theorem filled_once_of_padded_size :
    ¬ Text.Blank " 512Mi " ∧ Text.Padded paddedParameters.settings.storage.size " 512Mi " ∧
      Text.Trimmed paddedParameters.settings.storage.size ∧
      paddedParameters.settings.storage.accessModes.items ≠ [] ∧
      paddedParameters.settings.labels = Value.emptyMap.insert "app" (.ofText "db") ∧
      paddedParameters.settings.toParameters.settings = paddedParameters.settings ∧
      render paddedParameters.settings.toParameters = render paddedParameters := by
  obtain ⟨hagain, -, hmodes, ⟨-, htrimmed⟩, hkept, hrender⟩ := filled_once paddedParameters
  have hsize : ¬ Text.Blank " 512Mi " := by
    rw [← Text.trim_eq_empty_iff]
    decide
  exact ⟨hsize, hkept.size _ rfl hsize, htrimmed, hmodes, hkept.labels _ rfl, hagain, hrender⟩

end DesiredState.Parameters
