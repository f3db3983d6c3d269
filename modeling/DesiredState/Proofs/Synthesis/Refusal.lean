import DesiredState.Proofs.Quantity.Respelling
import DesiredState.Proofs.Schema.Map
import DesiredState.Proofs.Synthesis.Mounts
/-!
Which settings synthesis refuses, and what it makes of the quantities of those that it takes. Main
statement: `synthesize_quantities`, that it fails for the first ground that there is, in the order
of `Refused`, and that otherwise the quantities of the settings are found again in the object, each
in its canonical spelling.
-/

set_option autoImplicit false
set_option relaxedAutoImplicit false

namespace DesiredState

namespace Quantity

/-- A storage size is refused: it is no quantity, or its bytes, rounded up, are too many for 64
bits. -/
inductive SizeRefused (size : String) : Refusal → Prop
  | unreadable {r : Refusal} (refused : parse size = .error r) : SizeRefused size r
  | tooLarge {q : Quantity} {w : Written} (read : parse size = .ok q)
    (written : w.chars = Text.trimChars size.toList) (large : 2 ^ 64 ≤ ⌈w.value⌉) :
    SizeRefused size ⟨size, .tooManyBytes⟩

/-- The first text that is no quantity is refused. -/
def FirstRefused (texts : List String) (r : Refusal) : Prop :=
  ∃ before text after, texts = before ++ text :: after ∧
    (∀ t ∈ before, ∃ q, parse t = .ok q) ∧ parse text = .error r

def Respells (old new : Value .text) : Prop :=
  ∃ q, parse old.text = .ok q ∧ new.text = q.canonical

/-- The maps have the same keys, with each quantity of the first one in its canonical spelling. -/
def MapRespelled (old new : StringMap) : Prop :=
  ∀ key, Option.Rel Respells (old.at? key) (new.at? key)

/-- The requirements are the same but for their limits and requests, whose quantities are in their
canonical spelling. -/
structure Respelled (old new : ResourceRequirements) : Prop where
  others : Value.SameBut ["limits", "requests"] new old
  limits : Option.Rel MapRespelled (old.get? ResourceRequirements.limits)
    (new.get? ResourceRequirements.limits)
  requests : Option.Rel MapRespelled (old.get? ResourceRequirements.requests)
    (new.get? ResourceRequirements.requests)

def texts (m : StringMap) : List String := m.entries.map fun e => e.2.text

def resourceTexts (r : ResourceRequirements) : List String :=
  (r.get? ResourceRequirements.limits).elim [] texts ++
    (r.get? ResourceRequirements.requests).elim [] texts

private theorem units_of_parse {size : String} {q : Quantity} {w : Written}
    (hq : parse size = .ok q)
    (hw : w.chars = Text.trimChars size.toList) : (q.units : ℤ) = ⌈w.value⌉ := by
  obtain ⟨q', hq', hnanos, -⟩ := exists_parse hw ((exists_parse_iff hw).1 ⟨q, hq⟩)
  cases hq.symm.trans hq'
  exact units_eq_ceil hnanos

private theorem storageSize_eq_error_iff {size : String} {r : Refusal} :
    storageSize size = .error r ↔ SizeRefused size r := by
  cases hq : parse size with
  | error e =>
    rw [storageSize, hq]
    constructor
    · intro h
      cases h
      exact .unreadable hq
    · rintro (hr | ⟨hq', -, -⟩)
      · cases hq.symm.trans hr
        rfl
      · cases hq.symm.trans hq'
  | ok q =>
    obtain ⟨w, hw⟩ := exists_written_of_parse hq
    have hunits := units_of_parse hq hw
    rw [storageSize_eq_of_parse hq]
    constructor
    · intro h
      split at h
      · cases h
      · rename_i hlarge
        cases h
        exact .tooLarge hq hw (by omega)
    · rintro (hr | ⟨hq', hw', hlarge⟩)
      · cases hq.symm.trans hr
      · rw [← units_of_parse hq hw'] at hlarge
        rw [if_neg (by omega)]

private theorem exists_of_storageSize {size spelled : String} (h : storageSize size = .ok spelled) :
    ∃ q, parse size = .ok q ∧ q.canonical = spelled := by
  cases hq : parse size with
  | error e =>
    rw [storageSize, hq] at h
    cases h
  | ok q =>
    rw [storageSize_eq_of_parse hq] at h
    split at h <;> cases h
    exact ⟨q, rfl, rfl⟩

def refusal? (text : String) : Option Refusal :=
  match parse text with
  | .error r => some r
  | .ok _ => none

private theorem refusal?_eq_some_iff {text : String} {r : Refusal} :
    refusal? text = some r ↔ parse text = .error r := by
  rw [refusal?]
  cases parse text <;> simp

private theorem refusal?_eq_none_iff {text : String} :
    refusal? text = none ↔ ∃ q, parse text = .ok q := by
  rw [refusal?]
  cases parse text <;> simp

private theorem findSome?_refusal?_iff {ts : List String} {r : Refusal} :
    ts.findSome? refusal? = some r ↔ FirstRefused ts r := by
  simp only [List.findSome?_eq_some_iff, refusal?_eq_some_iff, refusal?_eq_none_iff, FirstRefused]
  constructor
  · rintro ⟨before, text, after, hts, hr, hbefore⟩
    exact ⟨before, text, after, hts, hbefore, hr⟩
  · rintro ⟨before, text, after, hts, hbefore, hr⟩
    exact ⟨before, text, after, hts, hr, hbefore⟩

private theorem firstRefusal?_eq (m : StringMap) :
    firstRefusal? m = (texts m).findSome? refusal? := by
  rw [firstRefusal?, texts, List.findSome?_map]
  congr 1
  funext e
  rw [Function.comp_apply, refusal?, canonicalize]
  cases parse e.2.text <;> rfl

private theorem mapM_canonicalMap (o : Option StringMap) :
    o.mapM canonicalMap = ((o.elim [] texts).findSome? refusal?).elim
      (.ok (o.map (Value.mapEntries respell))) .error := by
  cases o with
  | none => rfl
  | some m =>
    have hmap : canonicalMap m = ((texts m).findSome? refusal?).elim
        (.ok (m.mapEntries respell)) .error := by
      rw [canonicalMap, firstRefusal?_eq]
    rw [Option.elim_some]
    change (canonicalMap m).map some = _
    rw [hmap]
    cases (texts m).findSome? refusal? <;> rfl

private theorem canonicalResources_eq (r : ResourceRequirements) :
    canonicalResources r = ((resourceTexts r).findSome? refusal?).elim
      (.ok ((r.set ResourceRequirements.limits
          ((r.get? ResourceRequirements.limits).map (Value.mapEntries respell))).set
        ResourceRequirements.requests
          ((r.get? ResourceRequirements.requests).map (Value.mapEntries respell)))) .error := by
  rw [canonicalResources, mapM_canonicalMap, mapM_canonicalMap, resourceTexts,
    List.findSome?_append]
  cases ((r.get? ResourceRequirements.limits).elim [] texts).findSome? refusal? with
  | some e => rfl
  | none =>
    cases ((r.get? ResourceRequirements.requests).elim [] texts).findSome? refusal? <;> rfl

private theorem mapRespelled {m : StringMap} (h : (texts m).findSome? refusal? = none) :
    MapRespelled m (m.mapEntries respell) := by
  intro key
  have hentries : (m.mapEntries respell).at? key = (m.at? key).map respell := by
    rw [Value.at?, Value.mapEntries, Value.entries_ofEntries, Members.get?_mapValues]
    rfl
  rw [hentries]
  cases hv : m.at? key with
  | none => exact .none
  | some v =>
    have hmem : v.text ∈ texts m :=
      List.mem_map_of_mem (f := fun e : String × Value .text => e.2.text) (Members.mem_of_get? hv)
    obtain ⟨q, hq⟩ := refusal?_eq_none_iff.1 (List.findSome?_eq_none_iff.1 h _ hmem)
    refine .some ⟨q, hq, ?_⟩
    rw [respell, canonicalize_of_parse hq]
    rfl

private theorem optionMapRespelled {o : Option StringMap}
    (h : (o.elim [] texts).findSome? refusal? = none) :
    Option.Rel MapRespelled o (o.map (Value.mapEntries respell)) := by
  cases o with
  | none => exact .none
  | some m => exact .some (mapRespelled h)

private theorem respelled_of_canonicalResources {r r' : ResourceRequirements}
    (h : canonicalResources r = .ok r') : Respelled r r' := by
  rw [canonicalResources_eq] at h
  cases hnone : (resourceTexts r).findSome? refusal? with
  | some e =>
    rw [hnone] at h
    cases h
  | none =>
    rw [hnone] at h
    cases h
    rw [resourceTexts, List.findSome?_append, Option.or_eq_none_iff] at hnone
    refine ⟨?_, ?_, ?_⟩
    · have hlimits : [ResourceRequirements.limits.name] ⊆ ["limits", "requests"] := by decide
      have hrequests : [ResourceRequirements.requests.name] ⊆ ["limits", "requests"] := by decide
      exact ((Value.sameBut_set _ ResourceRequirements.requests _).mono hrequests).trans
        ((Value.sameBut_set _ ResourceRequirements.limits _).mono hlimits)
    · rw [Value.get?_set_of_ne _ (by decide), Value.get?_set_self]
      exact optionMapRespelled hnone.1
    · rw [Value.get?_set_self]
      exact optionMapRespelled hnone.2

private theorem optionRespelled {o o' : Option ResourceRequirements}
    (h : o.mapM canonicalResources = .ok o') : Option.Rel Respelled o o' := by
  cases o with
  | none =>
    cases h
    exact .none
  | some r =>
    have hmap : (canonicalResources r).map some = .ok o' := h
    obtain ⟨r', hr, rfl⟩ := ok_of_map hmap
    exact .some (respelled_of_canonicalResources hr)

end Quantity

namespace Settings

/-- Whether a volume is to be claimed: data are to persist, and a size is given. -/
def AsksForVolume (s : Settings) : Prop := s.persistenceEnabled = true ∧ s.storage.size ≠ ""

def containerTexts (s : Settings) : List String :=
  s.container.resources.elim [] Quantity.resourceTexts

/-- Why settings are refused: for a missing name or namespace, else for the size of a volume that is
asked for, else for a quantity of the container. -/
inductive Refused (s : Settings) : ParameterError → Prop
  | unnamed (missing : s.name = "" ∨ s.ns = "") : Refused s (.unnamed s.name s.ns)
  | size {r : Quantity.Refusal} (named : ¬ (s.name = "" ∨ s.ns = "")) (asks : s.AsksForVolume)
    (refused : Quantity.SizeRefused s.storage.size r) : Refused s (.badQuantity r)
  | container {r : Quantity.Refusal} (named : ¬ (s.name = "" ∨ s.ns = ""))
    (size : s.AsksForVolume → ∀ r, ¬ Quantity.SizeRefused s.storage.size r)
    (refused : Quantity.FirstRefused s.containerTexts r) : Refused s (.badQuantity r)

end Settings

namespace Synthesis

variable {s : Settings}

private theorem claimsVolume_iff : claimsVolume s = true ↔ s.AsksForVolume := by
  rw [claimsVolume, Settings.AsksForVolume, Bool.and_eq_true, decide_eq_true_eq]

private theorem volumeClaims_eq_error_iff {r : Quantity.Refusal} :
    volumeClaims s = .error r ↔ s.AsksForVolume ∧ Quantity.SizeRefused s.storage.size r := by
  rw [volumeClaims, ← claimsVolume_iff, ← Quantity.storageSize_eq_error_iff]
  split
  · rename_i hclaims
    rw [and_iff_right hclaims, map_eq_error_iff, volumeClaim]
    exact bind_pure_eq_error_iff
  · rename_i hclaims
    exact iff_of_false (by rintro ⟨⟩) fun h => hclaims h.1

private theorem container_eq_error_iff {r : Quantity.Refusal} :
    container s = .error r ↔ Quantity.FirstRefused s.containerTexts r := by
  have hresources : container s = .error r ↔
      s.container.resources.mapM Quantity.canonicalResources = .error r := bind_pure_eq_error_iff
  rw [hresources, ← Quantity.findSome?_refusal?_iff, Settings.containerTexts]
  cases s.container.resources with
  | none => exact iff_of_false (by rintro ⟨⟩) (by rintro ⟨⟩)
  | some resources =>
    have hmap : (some resources).mapM Quantity.canonicalResources =
        (Quantity.canonicalResources resources).map some := rfl
    rw [hmap, map_eq_error_iff, Option.elim_some, Quantity.canonicalResources_eq]
    cases (Quantity.resourceTexts resources).findSome? Quantity.refusal? <;> simp

private theorem resources_of_container {c : Container} (h : container s = .ok c) :
    Option.Rel Quantity.Respelled s.container.resources (c.get? Container.resources) := by
  obtain ⟨resources, hresources, h⟩ := ok_of_bind h
  cases h
  rw [Value.get?_set_of_ne _ (by decide), Value.get?_set_self]
  exact Quantity.optionRespelled hresources

/-- What a volume claim requests. -/
def requested? (claim : VolumeClaim) : Option StringMap :=
  ((claim.get? VolumeClaim.spec).bind (·.get? VolumeClaim.resources)).bind
    (·.get? VolumeClaim.requests)

def storageRequest (size : String) : StringMap := Value.emptyMap.insert "storage" (.ofText size)

private theorem requested?_volumeClaim {claim : VolumeClaim} (h : volumeClaim s = .ok claim) :
    ∃ q, Quantity.parse s.storage.size = .ok q ∧
      requested? claim = some (storageRequest q.canonical) := by
  obtain ⟨size, hsize, h⟩ := ok_of_bind h
  obtain ⟨q, hq, rfl⟩ := Quantity.exists_of_storageSize hsize
  cases h
  refine ⟨q, hq, ?_⟩
  rw [requested?, Value.get?_put_self, Option.bind_some, Value.get?_set_of_ne _ (by decide),
    Value.get?_put_self, Option.bind_some, Value.get?_put_self]
  rfl

private theorem selectedLabels_spec (claims : List VolumeClaim) (c : Container) :
    ((spec s claims c).get StatefulSetSpec.selector).get? LabelSelector.matchLabels =
      some s.labels := by
  have hselector : (spec s claims c).get? StatefulSetSpec.selector =
      some ((Record.blank .labelSelector).put LabelSelector.matchLabels s.labels) := by
    rw [spec, Value.get?_set_of_ne _ (by decide), Value.get?_put_of_ne _ (by decide),
      Value.get?_put_of_ne _ (by decide), Value.get?_put_self]
  rw [Value.get_eq_of_get? hselector, Value.get?_put_self]

private theorem podLabels_spec (claims : List VolumeClaim) (c : Container) :
    (((spec s claims c).get StatefulSetSpec.template).get? PodTemplate.metadata).bind
      (·.get? ObjectMeta.labels) = some s.labels := by
  rw [get_spec_template, template, Value.get?_put_of_ne _ (by decide), Value.get?_put_self,
    Option.bind_some, podMetadata, Value.get?_put_of_ne _ (by decide), Value.get?_put_self]

end Synthesis

open Synthesis in
private theorem synthesize_of_refused {s : Settings} {e : ParameterError} (h : s.Refused e) :
    synthesize s = .error e := by
  cases h with
  | unnamed missing => rw [synthesize, if_pos missing]
  | size named asks refused =>
    rw [synthesize, if_neg named, volumeClaims_eq_error_iff.2 ⟨asks, refused⟩]
    rfl
  | container named size refused =>
    rw [synthesize, if_neg named, container_eq_error_iff.2 refused]
    cases hclaims : volumeClaims s with
    | error r =>
      obtain ⟨asks, hsize⟩ := volumeClaims_eq_error_iff.1 hclaims
      exact absurd hsize (size asks r)
    | ok claims => rfl

open Synthesis in
private theorem refused_of_synthesize {s : Settings} {e : ParameterError}
    (h : synthesize s = .error e) : s.Refused e := by
  rw [synthesize] at h
  split at h
  · rename_i missing
    cases h
    exact .unnamed missing
  · rename_i named
    cases hclaims : volumeClaims s with
    | error r =>
      rw [hclaims] at h
      cases h
      obtain ⟨asks, refused⟩ := volumeClaims_eq_error_iff.1 hclaims
      exact .size named asks refused
    | ok claims =>
      have hsize : s.AsksForVolume → ∀ r, ¬ Quantity.SizeRefused s.storage.size r := by
        intro asks r refused
        cases hclaims.symm.trans (volumeClaims_eq_error_iff.2 ⟨asks, refused⟩)
      cases hc : container s with
      | error r =>
        rw [hclaims, hc] at h
        cases h
        exact .container named hsize (container_eq_error_iff.1 hc)
      | ok c =>
        rw [hclaims, hc] at h
        cases h

private theorem synthesize_eq_error_iff {s : Settings} {e : ParameterError} :
    synthesize s = .error e ↔ s.Refused e :=
  ⟨refused_of_synthesize, synthesize_of_refused⟩

namespace StatefulSet

def containers (o : StatefulSet) : List Container :=
  o.pod?.elim [] fun pod => (pod.get PodSpec.containers).items

def claimTemplates (o : StatefulSet) : List VolumeClaim :=
  ((o.get? spec).bind (·.get? StatefulSetSpec.volumeClaimTemplates)).elim [] Value.items

def selectedLabels? (o : StatefulSet) : Option StringMap :=
  (o.get? spec).bind fun s => (s.get StatefulSetSpec.selector).get? LabelSelector.matchLabels

def podLabels? (o : StatefulSet) : Option StringMap :=
  (o.get? spec).bind fun s =>
    ((s.get StatefulSetSpec.template).get? PodTemplate.metadata).bind (·.get? ObjectMeta.labels)

end StatefulSet

/-- Synthesis refuses settings exactly where there is ground for it, and for the first of the
grounds. In what it makes of all others, the quantities of the container stand under their keys in
their canonical spelling, a volume is claimed where one is asked for, of the size asked for in its
canonical spelling, and the selector asks for the labels of the pods. -/
theorem synthesize_quantities (s : Settings) :
    (∀ e, synthesize s = .error e ↔ s.Refused e) ∧
    ((∃ o, synthesize s = .ok o) ↔ ∀ e, ¬ s.Refused e) ∧
    ∀ o, synthesize s = .ok o →
      (∃ c, o.containers = [c] ∧
        Option.Rel Quantity.Respelled s.container.resources (c.get? Container.resources)) ∧
      (s.AsksForVolume → ∃ claim q, o.claimTemplates = [claim] ∧
        Quantity.parse s.storage.size = .ok q ∧
        Synthesis.requested? claim = some (Synthesis.storageRequest q.canonical)) ∧
      (¬ s.AsksForVolume → o.claimTemplates = []) ∧
      o.selectedLabels? = some s.labels ∧ o.podLabels? = some s.labels := by
  refine ⟨fun e => synthesize_eq_error_iff, ?_, fun o ho => ?_⟩
  · simp only [← synthesize_eq_error_iff]
    cases synthesize s with
    | error e =>
      refine iff_of_false ?_ fun h => h e rfl
      rintro ⟨o, ho⟩
      cases ho
    | ok o =>
      refine iff_of_true ⟨o, rfl⟩ fun e he => ?_
      cases he
  · obtain ⟨claims, c, hclaims, hc, rfl⟩ := synthesize_inv ho
    have hspec : ∀ r : StatefulSet, (r.put StatefulSet.spec (Synthesis.spec s claims c)).get?
        StatefulSet.spec = some (Synthesis.spec s claims c) := fun r => Value.get?_put_self _ _ _
    refine ⟨⟨c, ?_, Synthesis.resources_of_container hc⟩, fun hasks => ?_, fun hasks => ?_, ?_, ?_⟩
    · rw [StatefulSet.containers, StatefulSet.pod?, hspec, Option.bind_some, Synthesis.pod_spec,
        Option.elim_some, Synthesis.get_pod_containers, Value.items_ofItems]
    · obtain ⟨-, claim, hclaim, rfl⟩ | ⟨hnone, -⟩ := Synthesis.volumeClaims_cases hclaims
      · obtain ⟨q, hq, hrequested⟩ := Synthesis.requested?_volumeClaim hclaim
        refine ⟨claim, q, ?_, hq, hrequested⟩
        rw [StatefulSet.claimTemplates, hspec, Option.bind_some, Synthesis.get?_spec_claims,
          Synthesis.elim_nonEmptyItems]
      · cases hnone.symm.trans (Synthesis.claimsVolume_iff.2 hasks)
    · obtain ⟨hclaimed, -⟩ | ⟨-, rfl⟩ := Synthesis.volumeClaims_cases hclaims
      · exact absurd (Synthesis.claimsVolume_iff.1 hclaimed) hasks
      · rw [StatefulSet.claimTemplates, hspec, Option.bind_some, Synthesis.get?_spec_claims,
          Synthesis.elim_nonEmptyItems]
    · rw [StatefulSet.selectedLabels?, hspec, Option.bind_some, Synthesis.selectedLabels_spec]
    · rw [StatefulSet.podLabels?, hspec, Option.bind_some, Synthesis.podLabels_spec]

def mismeasured (persistenceEnabled : Bool) : Settings :=
  { databaseParameters.settings with
    persistenceEnabled := persistenceEnabled
    storage := { databaseParameters.settings.storage with size := "much" }
    container := { databaseParameters.settings.container with
      resources := some ((Record.blank .resourceRequirements).put ResourceRequirements.limits
        ((Value.emptyMap.insert "cpu" (.ofText "500m")).insert "memory" (.ofText "-1"))) } }

/-- A bad size comes before a bad limit, unless no volume is asked for; a good one is claimed. -/
theorem synthesize_quantities_database :
    (mismeasured true).Refused (.badQuantity ⟨"much", .noDigits⟩) ∧
    (mismeasured false).Refused (.badQuantity ⟨"-1", .negative⟩) ∧
    ∃ o, synthesize databaseParameters.settings = .ok o ∧
      databaseParameters.settings.AsksForVolume ∧
      ∃ claim q, o.claimTemplates = [claim] ∧ Quantity.parse "512Mi" = .ok q ∧
        Synthesis.requested? claim = some (Synthesis.storageRequest q.canonical) := by
  have hsize : synthesize (mismeasured true) = .error (.badQuantity ⟨"much", .noDigits⟩) := by
    decide +kernel
  have hlimit : synthesize (mismeasured false) = .error (.badQuantity ⟨"-1", .negative⟩) := by
    decide +kernel
  have hasks : databaseParameters.settings.AsksForVolume := by
    rw [← Synthesis.claimsVolume_iff]
    decide +kernel
  have hrendered : (render databaseParameters).toOption.any (fun _ => true) = true := by
    decide +kernel
  obtain ⟨o, ho, -⟩ := exists_render_of_any hrendered
  obtain ⟨-, -, hmade⟩ := synthesize_quantities databaseParameters.settings
  exact ⟨((synthesize_quantities _).1 _).1 hsize, ((synthesize_quantities _).1 _).1 hlimit,
    o, ho, hasks, (hmade o ho).2.1 hasks⟩

end DesiredState
