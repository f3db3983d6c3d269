import DesiredState.StatefulSet
/-!
What a caller asks for one StatefulSet. Whatever may be left out is an option; an empty value is
not the same as none.
-/

set_option autoImplicit false
set_option relaxedAutoImplicit false

namespace DesiredState

structure ContainerParameters where
  image : String
  imagePullPolicy : Option String
  command : Option (Value (.list .text))
  args : Option (Value (.list .text))
  env : Option (Value (.list (.object .envVar)))
  ports : Option (Value (.list (.object .containerPort)))
  resources : Option ResourceRequirements
  persistenceEnabled : Option Bool
  dataMountPath : Option String
  configMountPath : Option String
deriving DecidableEq

structure StorageParameters where
  name : String
  labels : Option StringMap
  annotations : Option StringMap
  accessModes : Option (Value (.list .text))
  storageClassName : Option String
  size : Option String
deriving DecidableEq

structure Parameters where
  metadata : ObjectMeta
  ns : String
  owner : Option OwnerReference
  container : ContainerParameters
  /-- Labels of the pods, which are also what the selector matches. -/
  labels : Option StringMap
  annotations : Option StringMap
  replicas : Option (Value .int32)
  storage : StorageParameters
  extraVolumes : Option (Value (.list (.object .volume)))
  imagePullSecret : Option String
  affinity : Option (Record .affinity)
  nodeSelector : Option StringMap
  tolerations : Option (Value (.list (.object .toleration)))
  priorityClassName : Option String
  additionalConfig : Option String
  securityContext : Option (Record .podSecurityContext)
deriving DecidableEq

def Parameters.name (p : Parameters) : String := (p.metadata.text? ObjectMeta.name).getD ""

end DesiredState
