import DesiredState.Parameters.Basic
import DesiredState.Notice
import DesiredState.Text.Blank
/-!
Settings: parameters in which nothing is left out. Filling in cannot fail and never overrides what
the caller set, save that an empty storage name, an empty list of access modes and a blank size
count as left out. Each value filled in is reported, a missing size as a warning.
-/

set_option autoImplicit false
set_option relaxedAutoImplicit false

namespace DesiredState

structure StorageSettings where
  name : String
  labels : StringMap
  annotations : StringMap
  accessModes : Value (.list .text)
  storageClassName : Option String
  size : String
deriving DecidableEq

structure Settings where
  metadata : ObjectMeta
  ns : String
  owner : Option OwnerReference
  container : ContainerParameters
  persistenceEnabled : Bool
  labels : StringMap
  annotations : StringMap
  replicas : Value .int32
  storage : StorageSettings
  extraVolumes : Value (.list (.object .volume))
  imagePullSecret : Option String
  affinity : Record .affinity
  nodeSelector : StringMap
  tolerations : Value (.list (.object .toleration))
  priorityClassName : Option String
  additionalConfig : Option String
  securityContext : Record .podSecurityContext
deriving DecidableEq

def Settings.name (s : Settings) : String := (s.metadata.text? ObjectMeta.name).getD ""

def Settings.toParameters (s : Settings) : Parameters :=
  { metadata := s.metadata, ns := s.ns, owner := s.owner
    container := { s.container with persistenceEnabled := some s.persistenceEnabled }
    labels := some s.labels, annotations := some s.annotations, replicas := some s.replicas
    storage :=
      { name := s.storage.name, labels := some s.storage.labels
        annotations := some s.storage.annotations, accessModes := some s.storage.accessModes
        storageClassName := s.storage.storageClassName, size := some s.storage.size }
    extraVolumes := some s.extraVolumes, imagePullSecret := s.imagePullSecret
    affinity := some s.affinity, nodeSelector := some s.nodeSelector
    tolerations := some s.tolerations, priorityClassName := s.priorityClassName
    additionalConfig := s.additionalConfig, securityContext := some s.securityContext }

namespace Parameters

def defaultSize : String := "1Gi"
def defaultAccessMode : String := "ReadWriteOnce"

/-- The size asked for, without blanks around it, unless nothing remains. -/
def sizeAsked? (p : StorageParameters) : Option String := (p.size.map Text.trim).filter (· ≠ "")

def accessModesAsked? (p : StorageParameters) : Option (Value (.list .text)) :=
  p.accessModes.filter fun v => !v.items.isEmpty

def settings (p : Parameters) : Settings :=
  let persistence := p.container.persistenceEnabled.getD false
  let labels := (p.metadata.get? ObjectMeta.labels).getD .emptyMap
  let annotations := (p.metadata.get? ObjectMeta.annotations).getD .emptyMap
  { metadata := (p.metadata.put ObjectMeta.labels labels).put ObjectMeta.annotations annotations
    ns := p.ns
    owner := p.owner
    container := { p.container with persistenceEnabled := some persistence }
    persistenceEnabled := persistence
    labels := p.labels.getD .emptyMap
    annotations := p.annotations.getD .emptyMap
    replicas := p.replicas.getD (.ofInt32 1 (Eq.refl true))
    storage :=
      { name := if p.storage.name = "" then p.name else p.storage.name
        labels := p.storage.labels.getD .emptyMap
        annotations := p.storage.annotations.getD .emptyMap
        accessModes := (accessModesAsked? p.storage).getD (.ofItems [.ofText defaultAccessMode])
        storageClassName := p.storage.storageClassName
        size := (sizeAsked? p.storage).getD defaultSize }
    extraVolumes := p.extraVolumes.getD .emptyList
    imagePullSecret := p.imagePullSecret
    affinity := p.affinity.getD (Record.blank .affinity)
    nodeSelector := p.nodeSelector.getD .emptyMap
    tolerations := p.tolerations.getD .emptyList
    priorityClassName := p.priorityClassName
    additionalConfig := p.additionalConfig
    securityContext := p.securityContext.getD (Record.blank .podSecurityContext) }

/-- One notice for each value that `settings` fills in. -/
def fillingNotices (p : Parameters) : List Notice :=
  let note (level : Level) (missing : Bool) (message : String)
      (more : List (String × String)) : List Notice :=
    if missing then [.about level p.name p.ns message more] else []
  let field (missing : Bool) (name : String) : List Notice :=
    note .info missing "Field is unset, using an empty default" [("field", name)]
  note .info p.replicas.isNone "Replicas is unset, defaulting to 1" []
    ++ note .warn (sizeAsked? p.storage).isNone "Storage size is missing, using the default"
      [("default", defaultSize)]
    ++ note .info (p.storage.name == "") "Storage name is empty, using the StatefulSet name" []
    ++ note .info (accessModesAsked? p.storage).isNone
      "Storage access modes are unset, using the default" [("default", defaultAccessMode)]
    ++ note .info p.container.persistenceEnabled.isNone
      "Persistence flag is unset, defaulting to false" []
    ++ field (p.metadata.get? ObjectMeta.labels).isNone "metadata.labels"
    ++ field (p.metadata.get? ObjectMeta.annotations).isNone "metadata.annotations"
    ++ field p.labels.isNone "labels"
    ++ field p.annotations.isNone "annotations"
    ++ field p.storage.labels.isNone "storage.labels"
    ++ field p.storage.annotations.isNone "storage.annotations"
    ++ field p.extraVolumes.isNone "extraVolumes"
    ++ field p.affinity.isNone "affinity"
    ++ field p.nodeSelector.isNone "nodeSelector"
    ++ field p.tolerations.isNone "tolerations"
    ++ field p.securityContext.isNone "securityContext"

end Parameters

end DesiredState
