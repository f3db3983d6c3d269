import DesiredState.Proofs.Parameters.Filling
import Mathlib.Data.List.Nodup
/-!
Which volumes the containers of a rendered object mount. The volumes that synthesis adds are named
after the storage and by a fixed name; it does not look at how the volumes of the caller are named.
Main statement: `mounts_resolve`, that every mount names a volume or a claim, and just one of them
if and only if no two of these names collide.
-/

set_option autoImplicit false
set_option relaxedAutoImplicit false

namespace DesiredState

def Volume.nameText (v : Volume) : String := (v.get Volume.name).text

namespace StatefulSet

/-- What the object says of its pods. -/
def pod? (o : StatefulSet) : Option PodSpec :=
  (o.get? spec).bind fun s => (s.get StatefulSetSpec.template).get? PodTemplate.spec

def volumeNames (o : StatefulSet) : List String :=
  ((o.pod?.bind (·.get? PodSpec.volumes)).elim [] Value.items).map Volume.nameText

def claimNames (o : StatefulSet) : List String :=
  (((o.get? spec).bind (·.get? StatefulSetSpec.volumeClaimTemplates)).elim [] Value.items).map
    fun claim => (ObjectMeta.text? (claim.get VolumeClaim.metadata) ObjectMeta.name).getD ""

def mountNames (o : StatefulSet) : List String :=
  (o.pod?.elim [] fun pod => (pod.get PodSpec.containers).items).flatMap fun c =>
    ((c.get? Container.volumeMounts).elim [] Value.items).map fun m => (m.get VolumeMount.name).text

end StatefulSet

namespace Parameters

def extraVolumeNames (p : Parameters) : List String :=
  (p.extraVolumes.elim [] Value.items).map Volume.nameText

def storageName (p : Parameters) : String := if p.storage.name = "" then p.name else p.storage.name

/-- A volume that synthesis adds has the name of another one. -/
inductive Collision (p : Parameters) : Prop
  | configuration (configured : p.additionalConfig.isSome = true)
    (extra : Synthesis.configVolumeName ∈ p.extraVolumeNames)
  | data (persistent : p.container.persistenceEnabled = some true)
    (extra : p.storageName ∈ p.extraVolumeNames)
  | both (persistent : p.container.persistenceEnabled = some true)
    (configured : p.additionalConfig.isSome = true)
    (same : p.storageName = Synthesis.configVolumeName)

private theorem claimsVolume_settings (p : Parameters) :
    Synthesis.claimsVolume p.settings = true ↔ p.container.persistenceEnabled = some true := by
  have hflag : p.settings.persistenceEnabled = p.container.persistenceEnabled.getD false := rfl
  rw [Synthesis.claimsVolume, hflag, Bool.and_eq_true, decide_eq_true_iff]
  constructor
  · rintro ⟨hpersistent, -⟩
    cases hp : p.container.persistenceEnabled with
    | none =>
      rw [hp] at hpersistent
      cases hpersistent
    | some b =>
      rw [hp] at hpersistent
      exact congrArg some hpersistent
  · intro hpersistent
    rw [hpersistent]
    exact ⟨rfl, p.size_settings.1⟩

end Parameters

namespace Synthesis

def dataNames (p : Parameters) : List String :=
  if p.container.persistenceEnabled = some true then [p.storageName] else []

def configNames (p : Parameters) : List String :=
  if p.additionalConfig.isSome = true then [configVolumeName] else []

private theorem mem_dataNames {p : Parameters} {name : String} : name ∈ dataNames p ↔
    p.container.persistenceEnabled = some true ∧ name = p.storageName := by
  rw [dataNames, List.mem_ite_nil_right, List.mem_singleton]

private theorem nodup_dataNames (p : Parameters) : (dataNames p).Nodup := by
  rw [dataNames]
  split
  · exact List.nodup_singleton _
  · exact List.nodup_nil

private theorem mem_configNames {p : Parameters} {name : String} : name ∈ configNames p ↔
    p.additionalConfig.isSome = true ∧ name = configVolumeName := by
  rw [configNames, List.mem_ite_nil_right, List.mem_singleton]

private theorem nodup_configNames (p : Parameters) : (configNames p).Nodup := by
  rw [configNames]
  split
  · exact List.nodup_singleton _
  · exact List.nodup_nil

theorem elim_nonEmptyItems {t : Ty} (vs : List (Value t)) :
    (nonEmptyItems vs).elim [] Value.items = vs := by
  rw [nonEmptyItems]
  cases vs with
  | nil => rfl
  | cons v vs => exact Value.items_ofItems (v :: vs)

theorem get?_spec_claims (s : Settings) (claims : List VolumeClaim) (c : Container) :
    (spec s claims c).get? StatefulSetSpec.volumeClaimTemplates = nonEmptyItems claims := by
  rw [spec, Value.get?_set_self]

private theorem get?_pod_volumes (s : Settings) (c : Container) :
    (pod s c).get? PodSpec.volumes = nonEmptyItems (volumes s) := by
  rw [pod, Value.get?_set_of_ne _ (by decide), Value.get?_set_self]

theorem get_pod_containers (s : Settings) (c : Container) :
    (pod s c).get PodSpec.containers = .ofItems [c] := by
  apply Value.get_eq_of_get?
  rw [pod, Value.get?_set_of_ne _ (by decide), Value.get?_set_of_ne _ (by decide),
    Value.get?_put_of_ne _ (by decide), Value.get?_set_of_ne _ (by decide),
    Value.get?_put_of_ne _ (by decide), Value.get?_put_of_ne _ (by decide),
    Value.get?_put_of_ne _ (by decide), Value.get?_put_self]

private theorem volumeMounts_of_container {s : Settings} {c : Container} (h : container s = .ok c) :
    c.get? Container.volumeMounts = nonEmptyItems (mounts s) := by
  obtain ⟨resources, -, h⟩ := ok_of_bind h
  cases h
  exact Value.get?_set_self _ _ _

private theorem name_volumeMount (name path : String) :
    ((volumeMount name path).get VolumeMount.name).text = name := by
  rw [volumeMount, Value.get_put_self, Value.text_ofText]

private theorem names_mounts (p : Parameters) :
    (mounts p.settings).map (fun m => (m.get VolumeMount.name).text) =
      dataNames p ++ configNames p := by
  have hconfig : p.settings.additionalConfig = p.additionalConfig := rfl
  have hstorage : p.settings.storage.name = p.storageName := rfl
  rw [mounts, List.map_append, dataNames, configNames, hconfig]
  congr 1
  · rw [if_congr p.claimsVolume_settings rfl rfl]
    split
    · rw [List.map_singleton, name_volumeMount, hstorage]
    · rfl
  · split
    · rw [List.map_singleton, Value.get_put_of_ne _ (by decide), name_volumeMount]
    · rfl

private theorem names_volumes (p : Parameters) :
    (volumes p.settings).map Volume.nameText = p.extraVolumeNames ++ configNames p := by
  have hextra : p.settings.extraVolumes.items.map Volume.nameText = p.extraVolumeNames := by
    have hfilled : p.settings.extraVolumes = p.extraVolumes.getD .emptyList := rfl
    rw [hfilled, Parameters.extraVolumeNames]
    cases p.extraVolumes with
    | none => exact congrArg _ (Value.items_ofItems [])
    | some v => rfl
  have hconfig : p.settings.additionalConfig = p.additionalConfig := rfl
  rw [volumes, List.map_append, hextra, configNames, hconfig]
  congr 1
  cases p.additionalConfig with
  | none => rfl
  | some config =>
    have hname : (configVolume config).nameText = configVolumeName := by
      rw [Volume.nameText, configVolume, Value.get_put_of_ne _ (by decide), Value.get_put_self,
        Value.text_ofText]
    exact congrArg ([·]) hname

private theorem name_volumeClaim {s : Settings} {claim : VolumeClaim}
    (h : volumeClaim s = .ok claim) :
    (ObjectMeta.text? (claim.get VolumeClaim.metadata) ObjectMeta.name).getD "" =
      s.storage.name := by
  obtain ⟨size, -, h⟩ := ok_of_bind h
  cases h
  rw [Value.get_put_of_ne _ (by decide), Value.get_put_self, ObjectMeta.text?,
    Value.get?_set_of_ne _ (by decide), Value.get?_set_of_ne _ (by decide), Value.get?_put_self]
  rfl

private theorem names_claims {p : Parameters} {claims : List VolumeClaim}
    (h : volumeClaims p.settings = .ok claims) :
    claims.map (fun claim => (ObjectMeta.text? (claim.get VolumeClaim.metadata)
      ObjectMeta.name).getD "") = dataNames p := by
  have hstorage : p.settings.storage.name = p.storageName := rfl
  rw [dataNames, ← if_congr p.claimsVolume_settings rfl rfl]
  obtain ⟨hclaims, claim, hclaim, rfl⟩ | ⟨hnone, rfl⟩ := volumeClaims_cases h
  · rw [if_pos hclaims, List.map_singleton, name_volumeClaim hclaim, hstorage]
  · rw [if_neg (Bool.eq_false_iff.1 hnone)]
    rfl

end Synthesis

section Rendered

variable {p : Parameters} {o : StatefulSet} (h : render p = .ok o)

include h

private theorem volumeNames_of_render :
    o.volumeNames = p.extraVolumeNames ++ Synthesis.configNames p := by
  obtain ⟨-, claims, c, -, -, hspec⟩ := render_eq_ok h
  rw [StatefulSet.volumeNames, StatefulSet.pod?, hspec, Option.bind_some, Synthesis.pod_spec,
    Option.bind_some, Synthesis.get?_pod_volumes, Synthesis.elim_nonEmptyItems,
    Synthesis.names_volumes]

private theorem claimNames_of_render : o.claimNames = Synthesis.dataNames p := by
  obtain ⟨-, claims, c, hclaims, -, hspec⟩ := render_eq_ok h
  rw [StatefulSet.claimNames, hspec, Option.bind_some, Synthesis.get?_spec_claims,
    Synthesis.elim_nonEmptyItems, Synthesis.names_claims hclaims]

private theorem mountNames_of_render :
    o.mountNames = Synthesis.dataNames p ++ Synthesis.configNames p := by
  obtain ⟨-, claims, c, -, hc, hspec⟩ := render_eq_ok h
  rw [StatefulSet.mountNames, StatefulSet.pod?, hspec, Option.bind_some, Synthesis.pod_spec,
    Option.elim_some, Synthesis.get_pod_containers, Value.items_ofItems, List.flatMap_singleton,
    Synthesis.volumeMounts_of_container hc, Synthesis.elim_nonEmptyItems, Synthesis.names_mounts]

private theorem names_perm :
    (o.volumeNames ++ o.claimNames).Perm (p.extraVolumeNames ++ o.mountNames) := by
  rw [volumeNames_of_render h, claimNames_of_render h, mountNames_of_render h, List.append_assoc]
  exact List.Perm.append_left _ List.perm_append_comm

end Rendered

private theorem count_append_eq_one_iff {others names : List String} (hothers : others.Nodup) :
    (∀ name ∈ names, (others ++ names).count name = 1) ↔ (others ++ names).Nodup := by
  constructor
  · intro honce
    rw [List.nodup_iff_count_le_one]
    intro name
    by_cases hname : name ∈ names
    · exact Nat.le_of_eq (honce name hname)
    · have hmissing : names.count name = 0 := List.count_eq_zero.2 hname
      have hfew : others.count name ≤ 1 := List.nodup_iff_count_le_one.1 hothers name
      rw [List.count_append]
      omega
  · intro hdistinct name hname
    exact List.count_eq_one_of_mem hdistinct (List.mem_append_right _ hname)

open Synthesis in
private theorem Parameters.Collision.not_nodup {p : Parameters} (h : p.Collision) :
    ¬ (p.extraVolumeNames ++ (dataNames p ++ configNames p)).Nodup := by
  intro hdistinct
  obtain ⟨-, hmounts, hextraMounts⟩ := List.nodup_append.1 hdistinct
  obtain ⟨-, -, hdataConfig⟩ := List.nodup_append.1 hmounts
  cases h with
  | configuration configured extra =>
    have hmem := mem_configNames.2 ⟨configured, rfl⟩
    exact hextraMounts _ extra _ (List.mem_append_right _ hmem) rfl
  | data persistent extra =>
    have hmem := mem_dataNames.2 ⟨persistent, rfl⟩
    exact hextraMounts _ extra _ (List.mem_append_left _ hmem) rfl
  | both persistent configured same =>
    have hdata := mem_dataNames.2 ⟨persistent, rfl⟩
    have hconfig := mem_configNames.2 ⟨configured, rfl⟩
    exact hdataConfig _ hdata _ hconfig same

open Synthesis in
private theorem nodup_of_not_collision {p : Parameters} (hextra : p.extraVolumeNames.Nodup)
    (hnone : ¬ p.Collision) : (p.extraVolumeNames ++ (dataNames p ++ configNames p)).Nodup := by
  have hmounts : (dataNames p ++ configNames p).Nodup := by
    refine List.nodup_append.2 ⟨nodup_dataNames p, nodup_configNames p, ?_⟩
    rintro name hname other hother rfl
    obtain ⟨persistent, rfl⟩ := mem_dataNames.1 hname
    obtain ⟨configured, same⟩ := mem_configNames.1 hother
    exact hnone (.both persistent configured same)
  refine List.nodup_append.2 ⟨hextra, hmounts, ?_⟩
  rintro name hname other hother rfl
  rcases List.mem_append.1 hother with hother | hother
  · obtain ⟨persistent, rfl⟩ := mem_dataNames.1 hother
    exact hnone (.data persistent hname)
  · obtain ⟨configured, rfl⟩ := mem_configNames.1 hother
    exact hnone (.configuration configured hname)

/-- Every mount of a rendered object names a volume or a claim. If the caller names the volumes that
it adds apart, then all volumes and claims have names of their own, and every mount names just one
of them, if and only if none of the names that synthesis adds collides. -/
theorem mounts_resolve {p : Parameters} {o : StatefulSet} (h : render p = .ok o)
    (hextra : p.extraVolumeNames.Nodup) :
    (∀ name ∈ o.mountNames, name ∈ o.volumeNames ++ o.claimNames) ∧
    ((o.volumeNames ++ o.claimNames).Nodup ↔ ¬ p.Collision) ∧
    ((∀ name ∈ o.mountNames, (o.volumeNames ++ o.claimNames).count name = 1) ↔
      ¬ p.Collision) := by
  have hperm := names_perm h
  have hdistinct : (o.volumeNames ++ o.claimNames).Nodup ↔ ¬ p.Collision := by
    rw [hperm.nodup_iff, mountNames_of_render h]
    constructor
    · intro hnodup hcollision
      exact hcollision.not_nodup hnodup
    · exact nodup_of_not_collision hextra
  refine ⟨?_, hdistinct, ?_⟩
  · intro name hname
    exact hperm.mem_iff.2 (List.mem_append_right _ hname)
  · rw [← hdistinct, hperm.nodup_iff, ← count_append_eq_one_iff hextra]
    apply forall₂_congr
    intro name _
    rw [hperm.count_eq]

def volumeParameters (extra : String) : Parameters :=
  { databaseParameters with
    additionalConfig := some "db-config"
    extraVolumes := some (.ofItems [(Record.blank .volume).put Volume.name (.ofText extra)]) }

theorem mounts_resolve_cache :
    ∃ o, render (volumeParameters "cache") = .ok o ∧
      (volumeParameters "cache").extraVolumeNames.Nodup ∧ o.mountNames = ["db", "external-config"] ∧
      (∀ name ∈ o.mountNames, name ∈ o.volumeNames ++ o.claimNames) ∧
      (o.volumeNames ++ o.claimNames).Nodup ∧
      ∀ name ∈ o.mountNames, (o.volumeNames ++ o.claimNames).count name = 1 := by
  have hrenders : (render (volumeParameters "cache")).toOption.any
      (fun o => o.mountNames = ["db", "external-config"]) = true := by decide +kernel
  obtain ⟨o, ho, hmounts⟩ := exists_render_of_any hrenders
  have hnames : (volumeParameters "cache").extraVolumeNames = ["cache"] := by decide +kernel
  have hextra : (volumeParameters "cache").extraVolumeNames.Nodup := by
    rw [hnames]
    exact List.nodup_singleton _
  have hstorage : (volumeParameters "cache").storageName = "db" := by decide +kernel
  have hnone : ¬ (volumeParameters "cache").Collision := by
    rintro (⟨-, extra⟩ | ⟨-, extra⟩ | ⟨-, -, same⟩)
    · rw [hnames] at extra
      exact absurd extra (by decide)
    · rw [hnames, hstorage] at extra
      exact absurd extra (by decide)
    · rw [hstorage] at same
      exact absurd same (by decide)
  obtain ⟨hresolves, hdistinct, honce⟩ := mounts_resolve ho hextra
  exact ⟨o, ho, hextra, of_decide_eq_true hmounts, hresolves, hdistinct.2 hnone, honce.2 hnone⟩

/-- A volume of the caller may have the name of the one that shows the configuration, and the
container then mounts two at once. -/
theorem external_config_collides :
    ∃ o, render (volumeParameters "external-config") = .ok o ∧
      (volumeParameters "external-config").extraVolumeNames.Nodup ∧
      ¬ (o.volumeNames ++ o.claimNames).Nodup ∧
      ∃ name ∈ o.mountNames, (o.volumeNames ++ o.claimNames).count name = 2 := by
  have hrenders : (render (volumeParameters "external-config")).toOption.any (fun o =>
      decide ((volumeParameters "external-config").extraVolumeNames.Nodup ∧
        ¬ (o.volumeNames ++ o.claimNames).Nodup ∧
        ∃ name ∈ o.mountNames, (o.volumeNames ++ o.claimNames).count name = 2)) = true := by
    decide +kernel
  obtain ⟨o, ho, hcollides⟩ := exists_render_of_any hrenders
  exact ⟨o, ho, of_decide_eq_true hcollides⟩

end DesiredState
