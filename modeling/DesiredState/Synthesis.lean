import DesiredState.Parameters.Settings
import DesiredState.ParameterError
/-!
The desired StatefulSet: what the settings ask for, spelled as the API server would store it.
Synthesis fails when the object has no name or no namespace, or when a quantity is bad; the
storage size is looked at before the resources, and of these the limits before the requests.
-/

set_option autoImplicit false
set_option relaxedAutoImplicit false

namespace DesiredState

namespace Quantity

def firstRefusal? (m : StringMap) : Option Refusal :=
  m.entries.findSome? fun e =>
    match canonicalize e.2.text with
    | .error r => some r
    | .ok _ => none

def respell (v : Value .text) : Value .text :=
  match canonicalize v.text with
  | .ok s => .ofText s
  | .error _ => v

def canonicalMap (m : StringMap) : Except Refusal StringMap :=
  (firstRefusal? m).elim (.ok (m.mapEntries respell)) .error

def canonicalResources (r : ResourceRequirements) : Except Refusal ResourceRequirements := do
  let limits ← (r.get? ResourceRequirements.limits).mapM canonicalMap
  let requests ← (r.get? ResourceRequirements.requests).mapM canonicalMap
  return (r.set ResourceRequirements.limits limits).set ResourceRequirements.requests requests

end Quantity

/-- Adds an owner, unless one of the same uid is there. -/
def ObjectMeta.addOwner (m : ObjectMeta) (owner : OwnerReference) : ObjectMeta :=
  let owners := ((m.get? ObjectMeta.ownerReferences).getD .emptyList).items
  let known := owners.any fun o => o.get OwnerReference.uid = owner.get OwnerReference.uid
  m.put ObjectMeta.ownerReferences (.ofItems (if known then owners else owners ++ [owner]))

namespace Synthesis

def dataMountPath : String := "/data"
def configMountPath : String := "/etc/config"
def configVolumeName : String := "external-config"

def textOf (s : Option String) : Option (Value .text) := s.map .ofText

/-- A text that counts as missing when it is empty. -/
def nonEmptyText (s : String) : Option (Value .text) := if s = "" then none else some (.ofText s)

def nonEmptyItems {t : Ty} (vs : List (Value t)) : Option (Value (.list t)) :=
  if vs.isEmpty then none else some (.ofItems vs)

def nonEmptyMap (m : StringMap) : Option StringMap := if m.isEmptyMap then none else some m

def claimsVolume (s : Settings) : Bool := s.persistenceEnabled && s.storage.size ≠ ""

def volumeMount (name path : String) : Record .volumeMount :=
  ((Record.blank .volumeMount).put VolumeMount.mountPath (.ofText path)).put VolumeMount.name
    (.ofText name)

def mounts (s : Settings) : List (Record .volumeMount) :=
  (if claimsVolume s then
    [volumeMount s.storage.name (s.container.dataMountPath.getD dataMountPath)] else [])
  ++ (if s.additionalConfig.isSome then
    [(volumeMount configVolumeName (s.container.configMountPath.getD configMountPath)).put
      VolumeMount.readOnly (.ofBool true)] else [])

def container (s : Settings) : Except Quantity.Refusal Container := do
  let resources ← s.container.resources.mapM Quantity.canonicalResources
  let c := (Record.blank .container).put Container.name (.ofText s.name)
  let c := c.set Container.image (nonEmptyText s.container.image)
  let c := c.set Container.imagePullPolicy (textOf s.container.imagePullPolicy)
  let c := c.set Container.command s.container.command
  let c := c.set Container.args s.container.args
  let c := c.set Container.env s.container.env
  let c := c.set Container.ports s.container.ports
  let c := c.set Container.resources resources
  return c.set Container.volumeMounts (nonEmptyItems (mounts s))

def volumeClaim (s : Settings) : Except Quantity.Refusal VolumeClaim := do
  let size ← Quantity.storageSize s.storage.size
  let m := (Record.blank .objectMeta).put ObjectMeta.name (.ofText s.storage.name)
  let m := m.set ObjectMeta.labels (nonEmptyMap s.storage.labels)
  let m := m.set ObjectMeta.annotations (nonEmptyMap s.storage.annotations)
  let resources := (Record.blank .volumeResourceRequirements).put VolumeClaim.requests
    (Value.emptyMap.insert "storage" (.ofText size))
  let spec := (Record.blank .persistentVolumeClaimSpec).put VolumeClaim.accessModes
    s.storage.accessModes
  let spec := spec.put VolumeClaim.resources resources
  let spec := spec.set VolumeClaim.storageClassName (textOf s.storage.storageClassName)
  return ((Record.blank .persistentVolumeClaim).put VolumeClaim.metadata m).put VolumeClaim.spec
    spec

def volumeClaims (s : Settings) : Except Quantity.Refusal (List VolumeClaim) :=
  if claimsVolume s then (volumeClaim s).map ([·]) else .ok []

def configVolume (config : String) : Volume :=
  let source := (Record.blank .configMapVolumeSource).put Volume.configMapName (.ofText config)
  ((Record.blank .volume).put Volume.name (.ofText configVolumeName)).put Volume.configMap source

def volumes (s : Settings) : List Volume :=
  s.extraVolumes.items ++ s.additionalConfig.toList.map configVolume

def pullSecrets (s : Settings) : Option (Value (.list (.object .localObjectReference))) :=
  s.imagePullSecret.map fun secret =>
    .ofItems [(Record.blank .localObjectReference).put LocalObjectReference.name (.ofText secret)]

def pod (s : Settings) (c : Container) : PodSpec :=
  let p := (Record.blank .podSpec).put PodSpec.containers (.ofItems [c])
  let p := p.put PodSpec.nodeSelector s.nodeSelector
  let p := p.put PodSpec.affinity s.affinity
  let p := p.put PodSpec.tolerations s.tolerations
  let p := p.set PodSpec.priorityClassName (textOf s.priorityClassName)
  let p := p.put PodSpec.securityContext s.securityContext
  let p := p.set PodSpec.volumes (nonEmptyItems (volumes s))
  p.set PodSpec.imagePullSecrets (pullSecrets s)

def metadata (s : Settings) : ObjectMeta :=
  let m := s.metadata.put ObjectMeta.ns (.ofText s.ns)
  s.owner.elim m (ObjectMeta.addOwner m)

/-- The specification; the selector is what the pods are labelled with. -/
def spec (s : Settings) (claims : List VolumeClaim) (c : Container) : Record .statefulSetSpec :=
  let selector := (Record.blank .labelSelector).put LabelSelector.matchLabels s.labels
  let podMeta := ((Record.blank .objectMeta).put ObjectMeta.labels s.labels).put
    ObjectMeta.annotations s.annotations
  let template := ((Record.blank .podTemplateSpec).put PodTemplate.metadata podMeta).put
    PodTemplate.spec (pod s c)
  let r := (Record.blank .statefulSetSpec).put StatefulSetSpec.replicas s.replicas
  let r := r.put StatefulSetSpec.selector selector
  let r := r.put StatefulSetSpec.serviceName (.ofText s.name)
  let r := r.put StatefulSetSpec.template template
  r.set StatefulSetSpec.volumeClaimTemplates (nonEmptyItems claims)

end Synthesis

open Synthesis in
def synthesize (s : Settings) : Except ParameterError StatefulSet :=
  if s.name = "" ∨ s.ns = "" then .error (.unnamed s.name s.ns)
  else (do
    let claims ← volumeClaims s
    let c ← container s
    let o := (Record.blank .statefulSet).put StatefulSet.metadata (metadata s)
    return o.put StatefulSet.spec (spec s claims c)).mapError .badQuantity

def synthesisNotices (s : Settings) : List Notice :=
  if s.name ≠ "" ∧ s.ns ≠ "" ∧ s.labels.isEmptyMap then
    [.about .warn s.name s.ns "Pod labels are empty; the selector will match nothing" []]
  else []

def render (p : Parameters) : Except ParameterError StatefulSet := synthesize p.settings

def renderNotices (p : Parameters) : List Notice :=
  p.fillingNotices ++ synthesisNotices p.settings

end DesiredState
