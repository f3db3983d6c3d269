import DesiredState.Schema.Datum
/-!
The kinds of object that a StatefulSet is made of, the types of their fields, and what a field is:
its name, its type and, where it may not be missing, the datum it starts with.
-/

set_option autoImplicit false
set_option relaxedAutoImplicit false

namespace DesiredState

inductive Kind where
  | statefulSet | objectMeta | statefulSetSpec | statefulSetStatus | managedFieldsEntry
  | ownerReference | statefulSetOrdinals | claimRetentionPolicy
  | labelSelector | podTemplateSpec | statefulSetUpdateStrategy | persistentVolumeClaim
  | statefulSetCondition | labelSelectorRequirement | podSpec | rollingUpdateStatefulSetStrategy
  | persistentVolumeClaimSpec | persistentVolumeClaimStatus | affinity | container | podDNSConfig
  | ephemeralContainer | hostAlias | localObjectReference | podOS | podReadinessGate
  | podResourceClaim | podSchedulingGate | podSecurityContext | toleration
  | topologySpreadConstraint | volume | typedLocalObjectReference | typedObjectReference
  | volumeResourceRequirements | persistentVolumeClaimCondition | modifyVolumeStatus
  | nodeAffinity | podAffinity | podAntiAffinity | envVar | envFromSource | lifecycle | probe
  | containerPort | containerResizePolicy | resourceRequirements | securityContext | volumeDevice
  | volumeMount | podDNSConfigOption | appArmorProfile | seLinuxOptions | seccompProfile | sysctl
  | windowsSecurityContextOptions | awsElasticBlockStoreVolumeSource | azureDiskVolumeSource
  | azureFileVolumeSource | cephFSVolumeSource | cinderVolumeSource | configMapVolumeSource
  | csiVolumeSource | downwardAPIVolumeSource | emptyDirVolumeSource | ephemeralVolumeSource
  | fcVolumeSource | flexVolumeSource | flockerVolumeSource | gcePersistentDiskVolumeSource
  | gitRepoVolumeSource | glusterfsVolumeSource | hostPathVolumeSource | imageVolumeSource
  | iscsiVolumeSource | nfsVolumeSource | persistentVolumeClaimVolumeSource
  | photonPersistentDiskVolumeSource | portworxVolumeSource | projectedVolumeSource
  | quobyteVolumeSource | rbdVolumeSource | scaleIOVolumeSource | secretVolumeSource
  | storageOSVolumeSource | vsphereVirtualDiskVolumeSource | preferredSchedulingTerm
  | nodeSelector | weightedPodAffinityTerm | podAffinityTerm | envVarSource | configMapEnvSource
  | secretEnvSource | lifecycleHandler | execAction | grpcAction | httpGetAction | tcpSocketAction
  | resourceClaim | capabilities | keyToPath | downwardAPIVolumeFile
  | persistentVolumeClaimTemplate | volumeProjection | nodeSelectorTerm | configMapKeySelector
  | objectFieldSelector | resourceFieldSelector | secretKeySelector | sleepAction | httpHeader
  | clusterTrustBundleProjection | configMapProjection | downwardAPIProjection | secretProjection
  | serviceAccountTokenProjection | nodeSelectorRequirement
deriving DecidableEq

inductive Ty where
  | bool
  | int32
  | int64
  | text
  | literal (word : String)
  | time
  | intOrText
  | free
  | list (item : Ty)
  | map (value : Ty)
  | object (kind : Kind)
deriving DecidableEq

structure Field where
  name : String
  type : Ty
  /-- The datum of a field that may not be missing, until it is given another. -/
  initial? : Option Datum
deriving DecidableEq

namespace Field

def optional (name : String) (type : Ty) : Field := ⟨name, type, none⟩
def required (name : String) (type : Ty) (initial : Datum) : Field := ⟨name, type, some initial⟩
def literal (name word : String) : Field := ⟨name, .literal word, some (.text word)⟩

end Field

end DesiredState
