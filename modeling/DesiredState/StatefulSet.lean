import DesiredState.Schema.Record
/-!
The kinds that the library works with by name, and their slots.
-/

set_option autoImplicit false
set_option relaxedAutoImplicit false

namespace DesiredState

abbrev StatefulSet := Record .statefulSet
abbrev ObjectMeta := Record .objectMeta
abbrev OwnerReference := Record .ownerReference
abbrev Container := Record .container
abbrev Volume := Record .volume
abbrev PodSpec := Record .podSpec
abbrev ResourceRequirements := Record .resourceRequirements
abbrev VolumeClaim := Record .persistentVolumeClaim
abbrev StringMap := Value (.map .text)

namespace StatefulSet

def metadata : Slot .statefulSet (.object .objectMeta) true := ⟨"metadata", rfl⟩
def spec : Slot .statefulSet (.object .statefulSetSpec) false := ⟨"spec", rfl⟩
def status : Slot .statefulSet (.object .statefulSetStatus) false := ⟨"status", rfl⟩

end StatefulSet

namespace ObjectMeta

def annotations : Slot .objectMeta (.map .text) false := ⟨"annotations", rfl⟩
def creationTimestamp : Slot .objectMeta .time false := ⟨"creationTimestamp", rfl⟩
def generation : Slot .objectMeta .int64 false := ⟨"generation", rfl⟩
def labels : Slot .objectMeta (.map .text) false := ⟨"labels", rfl⟩
def managedFields : Slot .objectMeta (.list (.object .managedFieldsEntry)) false :=
  ⟨"managedFields", rfl⟩
def name : Slot .objectMeta .text false := ⟨"name", rfl⟩
def ns : Slot .objectMeta .text false := ⟨"namespace", rfl⟩
def ownerReferences : Slot .objectMeta (.list (.object .ownerReference)) false :=
  ⟨"ownerReferences", rfl⟩
def resourceVersion : Slot .objectMeta .text false := ⟨"resourceVersion", rfl⟩
def uid : Slot .objectMeta .text false := ⟨"uid", rfl⟩

def text? (m : ObjectMeta) (s : Slot .objectMeta .text false) : Option String :=
  (m.get? s).map Value.text

end ObjectMeta

namespace ManagedFieldsEntry

def apiVersion : Slot .managedFieldsEntry .text false := ⟨"apiVersion", rfl⟩
def manager : Slot .managedFieldsEntry .text false := ⟨"manager", rfl⟩
def operation : Slot .managedFieldsEntry .text false := ⟨"operation", rfl⟩
def time : Slot .managedFieldsEntry .time false := ⟨"time", rfl⟩

end ManagedFieldsEntry

namespace OwnerReference

def uid : Slot .ownerReference .text true := ⟨"uid", rfl⟩

end OwnerReference

namespace StatefulSetSpec

def podManagementPolicy : Slot .statefulSetSpec .text false := ⟨"podManagementPolicy", rfl⟩
def replicas : Slot .statefulSetSpec .int32 false := ⟨"replicas", rfl⟩
def revisionHistoryLimit : Slot .statefulSetSpec .int32 false := ⟨"revisionHistoryLimit", rfl⟩
def selector : Slot .statefulSetSpec (.object .labelSelector) true := ⟨"selector", rfl⟩
def serviceName : Slot .statefulSetSpec .text true := ⟨"serviceName", rfl⟩
def template : Slot .statefulSetSpec (.object .podTemplateSpec) true := ⟨"template", rfl⟩
def updateStrategy : Slot .statefulSetSpec (.object .statefulSetUpdateStrategy) false :=
  ⟨"updateStrategy", rfl⟩
def volumeClaimTemplates : Slot .statefulSetSpec (.list (.object .persistentVolumeClaim)) false :=
  ⟨"volumeClaimTemplates", rfl⟩

end StatefulSetSpec

namespace StatefulSetStatus

def replicas : Slot .statefulSetStatus .int32 true := ⟨"replicas", rfl⟩

end StatefulSetStatus

namespace UpdateStrategy

def rollingUpdate :
    Slot .statefulSetUpdateStrategy (.object .rollingUpdateStatefulSetStrategy) false :=
  ⟨"rollingUpdate", rfl⟩
def type : Slot .statefulSetUpdateStrategy .text false := ⟨"type", rfl⟩
def partition : Slot .rollingUpdateStatefulSetStrategy .int32 false := ⟨"partition", rfl⟩

end UpdateStrategy

namespace LabelSelector

def matchLabels : Slot .labelSelector (.map .text) false := ⟨"matchLabels", rfl⟩

end LabelSelector

namespace PodTemplate

def metadata : Slot .podTemplateSpec (.object .objectMeta) false := ⟨"metadata", rfl⟩
def spec : Slot .podTemplateSpec (.object .podSpec) false := ⟨"spec", rfl⟩

end PodTemplate

namespace PodSpec

def affinity : Slot .podSpec (.object .affinity) false := ⟨"affinity", rfl⟩
def containers : Slot .podSpec (.list (.object .container)) true := ⟨"containers", rfl⟩
def dnsPolicy : Slot .podSpec .text false := ⟨"dnsPolicy", rfl⟩
def imagePullSecrets : Slot .podSpec (.list (.object .localObjectReference)) false :=
  ⟨"imagePullSecrets", rfl⟩
def nodeSelector : Slot .podSpec (.map .text) false := ⟨"nodeSelector", rfl⟩
def priorityClassName : Slot .podSpec .text false := ⟨"priorityClassName", rfl⟩
def restartPolicy : Slot .podSpec .text false := ⟨"restartPolicy", rfl⟩
def schedulerName : Slot .podSpec .text false := ⟨"schedulerName", rfl⟩
def securityContext : Slot .podSpec (.object .podSecurityContext) false :=
  ⟨"securityContext", rfl⟩
def terminationGracePeriodSeconds : Slot .podSpec .int64 false :=
  ⟨"terminationGracePeriodSeconds", rfl⟩
def tolerations : Slot .podSpec (.list (.object .toleration)) false := ⟨"tolerations", rfl⟩
def volumes : Slot .podSpec (.list (.object .volume)) false := ⟨"volumes", rfl⟩

end PodSpec

namespace LocalObjectReference

def name : Slot .localObjectReference .text true := ⟨"name", rfl⟩

end LocalObjectReference

namespace Container

def args : Slot .container (.list .text) false := ⟨"args", rfl⟩
def command : Slot .container (.list .text) false := ⟨"command", rfl⟩
def env : Slot .container (.list (.object .envVar)) false := ⟨"env", rfl⟩
def image : Slot .container .text false := ⟨"image", rfl⟩
def imagePullPolicy : Slot .container .text false := ⟨"imagePullPolicy", rfl⟩
def name : Slot .container .text true := ⟨"name", rfl⟩
def ports : Slot .container (.list (.object .containerPort)) false := ⟨"ports", rfl⟩
def resources : Slot .container (.object .resourceRequirements) false := ⟨"resources", rfl⟩
def terminationMessagePath : Slot .container .text false := ⟨"terminationMessagePath", rfl⟩
def terminationMessagePolicy : Slot .container .text false := ⟨"terminationMessagePolicy", rfl⟩
def volumeMounts : Slot .container (.list (.object .volumeMount)) false := ⟨"volumeMounts", rfl⟩

end Container

namespace ResourceRequirements

def limits : Slot .resourceRequirements (.map .text) false := ⟨"limits", rfl⟩
def requests : Slot .resourceRequirements (.map .text) false := ⟨"requests", rfl⟩

end ResourceRequirements

namespace VolumeMount

def mountPath : Slot .volumeMount .text true := ⟨"mountPath", rfl⟩
def name : Slot .volumeMount .text true := ⟨"name", rfl⟩
def readOnly : Slot .volumeMount .bool false := ⟨"readOnly", rfl⟩

end VolumeMount

namespace Volume

def configMap : Slot .volume (.object .configMapVolumeSource) false := ⟨"configMap", rfl⟩
def name : Slot .volume .text true := ⟨"name", rfl⟩
def configMapName : Slot .configMapVolumeSource .text true := ⟨"name", rfl⟩

end Volume

namespace VolumeClaim

def metadata : Slot .persistentVolumeClaim (.object .objectMeta) true := ⟨"metadata", rfl⟩
def spec : Slot .persistentVolumeClaim (.object .persistentVolumeClaimSpec) false :=
  ⟨"spec", rfl⟩
def status : Slot .persistentVolumeClaim (.object .persistentVolumeClaimStatus) false :=
  ⟨"status", rfl⟩
def accessModes : Slot .persistentVolumeClaimSpec (.list .text) false := ⟨"accessModes", rfl⟩
def resources : Slot .persistentVolumeClaimSpec (.object .volumeResourceRequirements) false :=
  ⟨"resources", rfl⟩
def storageClassName : Slot .persistentVolumeClaimSpec .text false := ⟨"storageClassName", rfl⟩
def volumeMode : Slot .persistentVolumeClaimSpec .text false := ⟨"volumeMode", rfl⟩
def requests : Slot .volumeResourceRequirements (.map .text) false := ⟨"requests", rfl⟩
def phase : Slot .persistentVolumeClaimStatus .text false := ⟨"phase", rfl⟩

end VolumeClaim

end DesiredState
