import DesiredState.Parameters.Basic
/-!
Parameters as JSON: every field in the order of its declaration, null where there is no value.
-/

set_option autoImplicit false
set_option relaxedAutoImplicit false

namespace DesiredState

namespace Json

def ofText? (s : Option String) : Json := s.elim .null .str

def ofValue? {t : Ty} (v : Option (Value t)) : Json := v.elim .null Value.toJson

end Json

open Json (ofText? ofValue?)

def ContainerParameters.toJson (p : ContainerParameters) : Json :=
  .obj [("image", .str p.image), ("imagePullPolicy", ofText? p.imagePullPolicy),
    ("command", ofValue? p.command), ("args", ofValue? p.args), ("env", ofValue? p.env),
    ("ports", ofValue? p.ports), ("resources", ofValue? p.resources),
    ("persistenceEnabled", p.persistenceEnabled.elim .null .bool),
    ("dataMountPath", ofText? p.dataMountPath), ("configMountPath", ofText? p.configMountPath)]

def StorageParameters.toJson (p : StorageParameters) : Json :=
  .obj [("name", .str p.name), ("labels", ofValue? p.labels),
    ("annotations", ofValue? p.annotations), ("accessModes", ofValue? p.accessModes),
    ("storageClassName", ofText? p.storageClassName), ("size", ofText? p.size)]

def Parameters.toJson (p : Parameters) : Json :=
  .obj [("metadata", p.metadata.toJson), ("namespace", .str p.ns), ("owner", ofValue? p.owner),
    ("container", p.container.toJson), ("labels", ofValue? p.labels),
    ("annotations", ofValue? p.annotations), ("replicas", ofValue? p.replicas),
    ("storage", p.storage.toJson), ("extraVolumes", ofValue? p.extraVolumes),
    ("imagePullSecret", ofText? p.imagePullSecret), ("affinity", ofValue? p.affinity),
    ("nodeSelector", ofValue? p.nodeSelector), ("tolerations", ofValue? p.tolerations),
    ("priorityClassName", ofText? p.priorityClassName),
    ("additionalConfig", ofText? p.additionalConfig),
    ("securityContext", ofValue? p.securityContext)]

end DesiredState
