import DesiredState.Schema.Kind
/-!
The fields of every kind, ordered by name.
-/

set_option autoImplicit false
set_option relaxedAutoImplicit false

namespace DesiredState.Kind

open DesiredState.Field

def fields : Kind → List Field
  | .statefulSet =>
    [literal "apiVersion" "apps/v1", literal "kind" "StatefulSet",
     required "metadata" (.object .objectMeta) (.fields []),
     optional "spec" (.object .statefulSetSpec), optional "status" (.object .statefulSetStatus)]
  | .objectMeta =>
    [optional "annotations" (.map .text), optional "creationTimestamp" .time,
     optional "deletionGracePeriodSeconds" .int64, optional "deletionTimestamp" .time,
     optional "finalizers" (.list .text), optional "generateName" .text,
     optional "generation" .int64, optional "labels" (.map .text),
     optional "managedFields" (.list (.object .managedFieldsEntry)), optional "name" .text,
     optional "namespace" .text, optional "ownerReferences" (.list (.object .ownerReference)),
     optional "resourceVersion" .text, optional "selfLink" .text, optional "uid" .text]
  | .statefulSetSpec =>
    [optional "minReadySeconds" .int32, optional "ordinals" (.object .statefulSetOrdinals),
     optional "persistentVolumeClaimRetentionPolicy" (.object .claimRetentionPolicy),
     optional "podManagementPolicy" .text, optional "replicas" .int32,
     optional "revisionHistoryLimit" .int32,
     required "selector" (.object .labelSelector) (.fields []),
     required "serviceName" .text (.text ""),
     required "template" (.object .podTemplateSpec) (.fields []),
     optional "updateStrategy" (.object .statefulSetUpdateStrategy),
     optional "volumeClaimTemplates" (.list (.object .persistentVolumeClaim))]
  | .statefulSetStatus =>
    [optional "availableReplicas" .int32, optional "collisionCount" .int32,
     optional "conditions" (.list (.object .statefulSetCondition)),
     optional "currentReplicas" .int32, optional "currentRevision" .text,
     optional "observedGeneration" .int64, optional "readyReplicas" .int32,
     required "replicas" .int32 (.int 0), optional "updateRevision" .text,
     optional "updatedReplicas" .int32]
  | .managedFieldsEntry =>
    [optional "apiVersion" .text, optional "fieldsType" .text, optional "fieldsV1" .free,
     optional "manager" .text, optional "operation" .text, optional "subresource" .text,
     optional "time" .time]
  | .ownerReference =>
    [required "apiVersion" .text (.text ""), optional "blockOwnerDeletion" .bool,
     optional "controller" .bool, required "kind" .text (.text ""),
     required "name" .text (.text ""), required "uid" .text (.text "")]
  | .statefulSetOrdinals => [optional "start" .int32]
  | .claimRetentionPolicy =>
    [optional "whenDeleted" .text, optional "whenScaled" .text]
  | .labelSelector =>
    [optional "matchExpressions" (.list (.object .labelSelectorRequirement)),
     optional "matchLabels" (.map .text)]
  | .podTemplateSpec =>
    [optional "metadata" (.object .objectMeta), optional "spec" (.object .podSpec)]
  | .statefulSetUpdateStrategy =>
    [optional "rollingUpdate" (.object .rollingUpdateStatefulSetStrategy), optional "type" .text]
  | .persistentVolumeClaim =>
    [literal "apiVersion" "v1", literal "kind" "PersistentVolumeClaim",
     required "metadata" (.object .objectMeta) (.fields []),
     optional "spec" (.object .persistentVolumeClaimSpec),
     optional "status" (.object .persistentVolumeClaimStatus)]
  | .statefulSetCondition =>
    [optional "lastTransitionTime" .time, optional "message" .text, optional "reason" .text,
     required "status" .text (.text ""), required "type" .text (.text "")]
  | .labelSelectorRequirement =>
    [required "key" .text (.text ""), required "operator" .text (.text ""),
     optional "values" (.list .text)]
  | .podSpec =>
    [optional "activeDeadlineSeconds" .int64, optional "affinity" (.object .affinity),
     optional "automountServiceAccountToken" .bool,
     required "containers" (.list (.object .container)) (.list []),
     optional "dnsConfig" (.object .podDNSConfig), optional "dnsPolicy" .text,
     optional "enableServiceLinks" .bool,
     optional "ephemeralContainers" (.list (.object .ephemeralContainer)),
     optional "hostAliases" (.list (.object .hostAlias)), optional "hostIPC" .bool,
     optional "hostNetwork" .bool, optional "hostPID" .bool, optional "hostUsers" .bool,
     optional "hostname" .text, optional "imagePullSecrets" (.list (.object .localObjectReference)),
     optional "initContainers" (.list (.object .container)), optional "nodeName" .text,
     optional "nodeSelector" (.map .text), optional "os" (.object .podOS),
     optional "overhead" (.map .text), optional "preemptionPolicy" .text,
     optional "priority" .int32, optional "priorityClassName" .text,
     optional "readinessGates" (.list (.object .podReadinessGate)),
     optional "resourceClaims" (.list (.object .podResourceClaim)), optional "restartPolicy" .text,
     optional "runtimeClassName" .text, optional "schedulerName" .text,
     optional "schedulingGates" (.list (.object .podSchedulingGate)),
     optional "securityContext" (.object .podSecurityContext), optional "serviceAccount" .text,
     optional "serviceAccountName" .text, optional "setHostnameAsFQDN" .bool,
     optional "shareProcessNamespace" .bool, optional "subdomain" .text,
     optional "terminationGracePeriodSeconds" .int64,
     optional "tolerations" (.list (.object .toleration)),
     optional "topologySpreadConstraints" (.list (.object .topologySpreadConstraint)),
     optional "volumes" (.list (.object .volume))]
  | .rollingUpdateStatefulSetStrategy =>
    [optional "maxUnavailable" .intOrText, optional "partition" .int32]
  | .persistentVolumeClaimSpec =>
    [optional "accessModes" (.list .text),
     optional "dataSource" (.object .typedLocalObjectReference),
     optional "dataSourceRef" (.object .typedObjectReference),
     optional "resources" (.object .volumeResourceRequirements),
     optional "selector" (.object .labelSelector), optional "storageClassName" .text,
     optional "volumeAttributesClassName" .text, optional "volumeMode" .text,
     optional "volumeName" .text]
  | .persistentVolumeClaimStatus =>
    [optional "accessModes" (.list .text), optional "allocatedResourceStatuses" (.map .text),
     optional "allocatedResources" (.map .text), optional "capacity" (.map .text),
     optional "conditions" (.list (.object .persistentVolumeClaimCondition)),
     optional "currentVolumeAttributesClassName" .text,
     optional "modifyVolumeStatus" (.object .modifyVolumeStatus), optional "phase" .text]
  | .affinity =>
    [optional "nodeAffinity" (.object .nodeAffinity), optional "podAffinity" (.object .podAffinity),
     optional "podAntiAffinity" (.object .podAntiAffinity)]
  | .container =>
    [optional "args" (.list .text), optional "command" (.list .text),
     optional "env" (.list (.object .envVar)), optional "envFrom" (.list (.object .envFromSource)),
     optional "image" .text, optional "imagePullPolicy" .text,
     optional "lifecycle" (.object .lifecycle), optional "livenessProbe" (.object .probe),
     required "name" .text (.text ""), optional "ports" (.list (.object .containerPort)),
     optional "readinessProbe" (.object .probe),
     optional "resizePolicy" (.list (.object .containerResizePolicy)),
     optional "resources" (.object .resourceRequirements), optional "restartPolicy" .text,
     optional "securityContext" (.object .securityContext),
     optional "startupProbe" (.object .probe), optional "stdin" .bool, optional "stdinOnce" .bool,
     optional "terminationMessagePath" .text, optional "terminationMessagePolicy" .text,
     optional "tty" .bool, optional "volumeDevices" (.list (.object .volumeDevice)),
     optional "volumeMounts" (.list (.object .volumeMount)), optional "workingDir" .text]
  | .podDNSConfig =>
    [optional "nameservers" (.list .text), optional "options" (.list (.object .podDNSConfigOption)),
     optional "searches" (.list .text)]
  | .ephemeralContainer =>
    [optional "args" (.list .text), optional "command" (.list .text),
     optional "env" (.list (.object .envVar)), optional "envFrom" (.list (.object .envFromSource)),
     optional "image" .text, optional "imagePullPolicy" .text,
     optional "lifecycle" (.object .lifecycle), optional "livenessProbe" (.object .probe),
     required "name" .text (.text ""), optional "ports" (.list (.object .containerPort)),
     optional "readinessProbe" (.object .probe),
     optional "resizePolicy" (.list (.object .containerResizePolicy)),
     optional "resources" (.object .resourceRequirements), optional "restartPolicy" .text,
     optional "securityContext" (.object .securityContext),
     optional "startupProbe" (.object .probe), optional "stdin" .bool, optional "stdinOnce" .bool,
     optional "targetContainerName" .text, optional "terminationMessagePath" .text,
     optional "terminationMessagePolicy" .text, optional "tty" .bool,
     optional "volumeDevices" (.list (.object .volumeDevice)),
     optional "volumeMounts" (.list (.object .volumeMount)), optional "workingDir" .text]
  | .hostAlias => [optional "hostnames" (.list .text), required "ip" .text (.text "")]
  | .localObjectReference => [required "name" .text (.text "")]
  | .podOS => [required "name" .text (.text "")]
  | .podReadinessGate => [required "conditionType" .text (.text "")]
  | .podResourceClaim =>
    [required "name" .text (.text ""), optional "resourceClaimName" .text,
     optional "resourceClaimTemplateName" .text]
  | .podSchedulingGate => [required "name" .text (.text "")]
  | .podSecurityContext =>
    [optional "appArmorProfile" (.object .appArmorProfile), optional "fsGroup" .int64,
     optional "fsGroupChangePolicy" .text, optional "runAsGroup" .int64,
     optional "runAsNonRoot" .bool, optional "runAsUser" .int64,
     optional "seLinuxOptions" (.object .seLinuxOptions),
     optional "seccompProfile" (.object .seccompProfile),
     optional "supplementalGroups" (.list .int64), optional "supplementalGroupsPolicy" .text,
     optional "sysctls" (.list (.object .sysctl)),
     optional "windowsOptions" (.object .windowsSecurityContextOptions)]
  | .toleration =>
    [optional "effect" .text, optional "key" .text, optional "operator" .text,
     optional "tolerationSeconds" .int64, optional "value" .text]
  | .topologySpreadConstraint =>
    [optional "labelSelector" (.object .labelSelector), optional "matchLabelKeys" (.list .text),
     required "maxSkew" .int32 (.int 0), optional "minDomains" .int32,
     optional "nodeAffinityPolicy" .text, optional "nodeTaintsPolicy" .text,
     required "topologyKey" .text (.text ""), required "whenUnsatisfiable" .text (.text "")]
  | .volume =>
    [optional "awsElasticBlockStore" (.object .awsElasticBlockStoreVolumeSource),
     optional "azureDisk" (.object .azureDiskVolumeSource),
     optional "azureFile" (.object .azureFileVolumeSource),
     optional "cephfs" (.object .cephFSVolumeSource),
     optional "cinder" (.object .cinderVolumeSource),
     optional "configMap" (.object .configMapVolumeSource),
     optional "csi" (.object .csiVolumeSource),
     optional "downwardAPI" (.object .downwardAPIVolumeSource),
     optional "emptyDir" (.object .emptyDirVolumeSource),
     optional "ephemeral" (.object .ephemeralVolumeSource), optional "fc" (.object .fcVolumeSource),
     optional "flexVolume" (.object .flexVolumeSource),
     optional "flocker" (.object .flockerVolumeSource),
     optional "gcePersistentDisk" (.object .gcePersistentDiskVolumeSource),
     optional "gitRepo" (.object .gitRepoVolumeSource),
     optional "glusterfs" (.object .glusterfsVolumeSource),
     optional "hostPath" (.object .hostPathVolumeSource),
     optional "image" (.object .imageVolumeSource), optional "iscsi" (.object .iscsiVolumeSource),
     required "name" .text (.text ""), optional "nfs" (.object .nfsVolumeSource),
     optional "persistentVolumeClaim" (.object .persistentVolumeClaimVolumeSource),
     optional "photonPersistentDisk" (.object .photonPersistentDiskVolumeSource),
     optional "portworxVolume" (.object .portworxVolumeSource),
     optional "projected" (.object .projectedVolumeSource),
     optional "quobyte" (.object .quobyteVolumeSource), optional "rbd" (.object .rbdVolumeSource),
     optional "scaleIO" (.object .scaleIOVolumeSource),
     optional "secret" (.object .secretVolumeSource),
     optional "storageos" (.object .storageOSVolumeSource),
     optional "vsphereVolume" (.object .vsphereVirtualDiskVolumeSource)]
  | .typedLocalObjectReference =>
    [optional "apiGroup" .text, required "kind" .text (.text ""), required "name" .text (.text "")]
  | .typedObjectReference =>
    [optional "apiGroup" .text, required "kind" .text (.text ""), required "name" .text (.text ""),
     optional "namespace" .text]
  | .volumeResourceRequirements =>
    [optional "limits" (.map .text), optional "requests" (.map .text)]
  | .persistentVolumeClaimCondition =>
    [optional "lastProbeTime" .time, optional "lastTransitionTime" .time, optional "message" .text,
     optional "reason" .text, required "status" .text (.text ""), required "type" .text (.text "")]
  | .modifyVolumeStatus =>
    [required "status" .text (.text ""), optional "targetVolumeAttributesClassName" .text]
  | .nodeAffinity =>
    [optional "preferredDuringSchedulingIgnoredDuringExecution"
       (.list (.object .preferredSchedulingTerm)),
     optional "requiredDuringSchedulingIgnoredDuringExecution" (.object .nodeSelector)]
  | .podAffinity =>
    [optional "preferredDuringSchedulingIgnoredDuringExecution"
       (.list (.object .weightedPodAffinityTerm)),
     optional "requiredDuringSchedulingIgnoredDuringExecution" (.list (.object .podAffinityTerm))]
  | .podAntiAffinity =>
    [optional "preferredDuringSchedulingIgnoredDuringExecution"
       (.list (.object .weightedPodAffinityTerm)),
     optional "requiredDuringSchedulingIgnoredDuringExecution" (.list (.object .podAffinityTerm))]
  | .envVar =>
    [required "name" .text (.text ""), optional "value" .text,
     optional "valueFrom" (.object .envVarSource)]
  | .envFromSource =>
    [optional "configMapRef" (.object .configMapEnvSource), optional "prefix" .text,
     optional "secretRef" (.object .secretEnvSource)]
  | .lifecycle =>
    [optional "postStart" (.object .lifecycleHandler),
     optional "preStop" (.object .lifecycleHandler)]
  | .probe =>
    [optional "exec" (.object .execAction), optional "failureThreshold" .int32,
     optional "grpc" (.object .grpcAction), optional "httpGet" (.object .httpGetAction),
     optional "initialDelaySeconds" .int32, optional "periodSeconds" .int32,
     optional "successThreshold" .int32, optional "tcpSocket" (.object .tcpSocketAction),
     optional "terminationGracePeriodSeconds" .int64, optional "timeoutSeconds" .int32]
  | .containerPort =>
    [required "containerPort" .int32 (.int 0), optional "hostIP" .text, optional "hostPort" .int32,
     optional "name" .text, optional "protocol" .text]
  | .containerResizePolicy =>
    [required "resourceName" .text (.text ""), required "restartPolicy" .text (.text "")]
  | .resourceRequirements =>
    [optional "claims" (.list (.object .resourceClaim)), optional "limits" (.map .text),
     optional "requests" (.map .text)]
  | .securityContext =>
    [optional "allowPrivilegeEscalation" .bool,
     optional "appArmorProfile" (.object .appArmorProfile),
     optional "capabilities" (.object .capabilities), optional "privileged" .bool,
     optional "procMount" .text, optional "readOnlyRootFilesystem" .bool,
     optional "runAsGroup" .int64, optional "runAsNonRoot" .bool, optional "runAsUser" .int64,
     optional "seLinuxOptions" (.object .seLinuxOptions),
     optional "seccompProfile" (.object .seccompProfile),
     optional "windowsOptions" (.object .windowsSecurityContextOptions)]
  | .volumeDevice => [required "devicePath" .text (.text ""), required "name" .text (.text "")]
  | .volumeMount =>
    [required "mountPath" .text (.text ""), optional "mountPropagation" .text,
     required "name" .text (.text ""), optional "readOnly" .bool,
     optional "recursiveReadOnly" .text, optional "subPath" .text, optional "subPathExpr" .text]
  | .podDNSConfigOption => [optional "name" .text, optional "value" .text]
  | .appArmorProfile => [optional "localhostProfile" .text, required "type" .text (.text "")]
  | .seLinuxOptions =>
    [optional "level" .text, optional "role" .text, optional "type" .text, optional "user" .text]
  | .seccompProfile => [optional "localhostProfile" .text, required "type" .text (.text "")]
  | .sysctl => [required "name" .text (.text ""), required "value" .text (.text "")]
  | .windowsSecurityContextOptions =>
    [optional "gmsaCredentialSpec" .text, optional "gmsaCredentialSpecName" .text,
     optional "hostProcess" .bool, optional "runAsUserName" .text]
  | .awsElasticBlockStoreVolumeSource =>
    [optional "fsType" .text, optional "partition" .int32, optional "readOnly" .bool,
     required "volumeID" .text (.text "")]
  | .azureDiskVolumeSource =>
    [optional "cachingMode" .text, required "diskName" .text (.text ""),
     required "diskURI" .text (.text ""), optional "fsType" .text, optional "kind" .text,
     optional "readOnly" .bool]
  | .azureFileVolumeSource =>
    [optional "readOnly" .bool, required "secretName" .text (.text ""),
     required "shareName" .text (.text "")]
  | .cephFSVolumeSource =>
    [required "monitors" (.list .text) (.list []), optional "path" .text, optional "readOnly" .bool,
     optional "secretFile" .text, optional "secretRef" (.object .localObjectReference),
     optional "user" .text]
  | .cinderVolumeSource =>
    [optional "fsType" .text, optional "readOnly" .bool,
     optional "secretRef" (.object .localObjectReference), required "volumeID" .text (.text "")]
  | .configMapVolumeSource =>
    [optional "defaultMode" .int32, optional "items" (.list (.object .keyToPath)),
     required "name" .text (.text ""), optional "optional" .bool]
  | .csiVolumeSource =>
    [required "driver" .text (.text ""), optional "fsType" .text,
     optional "nodePublishSecretRef" (.object .localObjectReference), optional "readOnly" .bool,
     optional "volumeAttributes" (.map .text)]
  | .downwardAPIVolumeSource =>
    [optional "defaultMode" .int32, optional "items" (.list (.object .downwardAPIVolumeFile))]
  | .emptyDirVolumeSource => [optional "medium" .text, optional "sizeLimit" .text]
  | .ephemeralVolumeSource =>
    [optional "volumeClaimTemplate" (.object .persistentVolumeClaimTemplate)]
  | .fcVolumeSource =>
    [optional "fsType" .text, optional "lun" .int32, optional "readOnly" .bool,
     optional "targetWWNs" (.list .text), optional "wwids" (.list .text)]
  | .flexVolumeSource =>
    [required "driver" .text (.text ""), optional "fsType" .text, optional "options" (.map .text),
     optional "readOnly" .bool, optional "secretRef" (.object .localObjectReference)]
  | .flockerVolumeSource => [optional "datasetName" .text, optional "datasetUUID" .text]
  | .gcePersistentDiskVolumeSource =>
    [optional "fsType" .text, optional "partition" .int32, required "pdName" .text (.text ""),
     optional "readOnly" .bool]
  | .gitRepoVolumeSource =>
    [optional "directory" .text, required "repository" .text (.text ""), optional "revision" .text]
  | .glusterfsVolumeSource =>
    [required "endpoints" .text (.text ""), required "path" .text (.text ""),
     optional "readOnly" .bool]
  | .hostPathVolumeSource => [required "path" .text (.text ""), optional "type" .text]
  | .imageVolumeSource => [optional "pullPolicy" .text, optional "reference" .text]
  | .iscsiVolumeSource =>
    [optional "chapAuthDiscovery" .bool, optional "chapAuthSession" .bool, optional "fsType" .text,
     optional "initiatorName" .text, required "iqn" .text (.text ""),
     optional "iscsiInterface" .text, required "lun" .int32 (.int 0),
     optional "portals" (.list .text), optional "readOnly" .bool,
     optional "secretRef" (.object .localObjectReference), required "targetPortal" .text (.text "")]
  | .nfsVolumeSource =>
    [required "path" .text (.text ""), optional "readOnly" .bool,
     required "server" .text (.text "")]
  | .persistentVolumeClaimVolumeSource =>
    [required "claimName" .text (.text ""), optional "readOnly" .bool]
  | .photonPersistentDiskVolumeSource => [optional "fsType" .text, required "pdID" .text (.text "")]
  | .portworxVolumeSource =>
    [optional "fsType" .text, optional "readOnly" .bool, required "volumeID" .text (.text "")]
  | .projectedVolumeSource =>
    [optional "defaultMode" .int32, optional "sources" (.list (.object .volumeProjection))]
  | .quobyteVolumeSource =>
    [optional "group" .text, optional "readOnly" .bool, required "registry" .text (.text ""),
     optional "tenant" .text, optional "user" .text, required "volume" .text (.text "")]
  | .rbdVolumeSource =>
    [optional "fsType" .text, required "image" .text (.text ""), optional "keyring" .text,
     required "monitors" (.list .text) (.list []), optional "pool" .text, optional "readOnly" .bool,
     optional "secretRef" (.object .localObjectReference), optional "user" .text]
  | .scaleIOVolumeSource =>
    [optional "fsType" .text, required "gateway" .text (.text ""),
     optional "protectionDomain" .text, optional "readOnly" .bool,
     required "secretRef" (.object .localObjectReference) (.fields [("name", .text "")]),
     optional "sslEnabled" .bool, optional "storageMode" .text, optional "storagePool" .text,
     required "system" .text (.text ""), optional "volumeName" .text]
  | .secretVolumeSource =>
    [optional "defaultMode" .int32, optional "items" (.list (.object .keyToPath)),
     optional "optional" .bool, optional "secretName" .text]
  | .storageOSVolumeSource =>
    [optional "fsType" .text, optional "readOnly" .bool,
     optional "secretRef" (.object .localObjectReference), optional "volumeName" .text,
     optional "volumeNamespace" .text]
  | .vsphereVirtualDiskVolumeSource =>
    [optional "fsType" .text, optional "storagePolicyID" .text, optional "storagePolicyName" .text,
     required "volumePath" .text (.text "")]
  | .preferredSchedulingTerm =>
    [required "preference" (.object .nodeSelectorTerm) (.fields []),
     required "weight" .int32 (.int 0)]
  | .nodeSelector => [required "nodeSelectorTerms" (.list (.object .nodeSelectorTerm)) (.list [])]
  | .weightedPodAffinityTerm =>
    [required "podAffinityTerm" (.object .podAffinityTerm) (.fields [("topologyKey", .text "")]),
     required "weight" .int32 (.int 0)]
  | .podAffinityTerm =>
    [optional "labelSelector" (.object .labelSelector), optional "matchLabelKeys" (.list .text),
     optional "mismatchLabelKeys" (.list .text),
     optional "namespaceSelector" (.object .labelSelector), optional "namespaces" (.list .text),
     required "topologyKey" .text (.text "")]
  | .envVarSource =>
    [optional "configMapKeyRef" (.object .configMapKeySelector),
     optional "fieldRef" (.object .objectFieldSelector),
     optional "resourceFieldRef" (.object .resourceFieldSelector),
     optional "secretKeyRef" (.object .secretKeySelector)]
  | .configMapEnvSource => [required "name" .text (.text ""), optional "optional" .bool]
  | .secretEnvSource => [required "name" .text (.text ""), optional "optional" .bool]
  | .lifecycleHandler =>
    [optional "exec" (.object .execAction), optional "httpGet" (.object .httpGetAction),
     optional "sleep" (.object .sleepAction), optional "tcpSocket" (.object .tcpSocketAction)]
  | .execAction => [optional "command" (.list .text)]
  | .grpcAction => [required "port" .int32 (.int 0), optional "service" .text]
  | .httpGetAction =>
    [optional "host" .text, optional "httpHeaders" (.list (.object .httpHeader)),
     optional "path" .text, required "port" .intOrText (.int 0), optional "scheme" .text]
  | .tcpSocketAction => [optional "host" .text, required "port" .intOrText (.int 0)]
  | .resourceClaim => [required "name" .text (.text ""), optional "request" .text]
  | .capabilities => [optional "add" (.list .text), optional "drop" (.list .text)]
  | .keyToPath =>
    [required "key" .text (.text ""), optional "mode" .int32, required "path" .text (.text "")]
  | .downwardAPIVolumeFile =>
    [optional "fieldRef" (.object .objectFieldSelector), optional "mode" .int32,
     required "path" .text (.text ""), optional "resourceFieldRef" (.object .resourceFieldSelector)]
  | .persistentVolumeClaimTemplate =>
    [optional "metadata" (.object .objectMeta),
     required "spec" (.object .persistentVolumeClaimSpec) (.fields [])]
  | .volumeProjection =>
    [optional "clusterTrustBundle" (.object .clusterTrustBundleProjection),
     optional "configMap" (.object .configMapProjection),
     optional "downwardAPI" (.object .downwardAPIProjection),
     optional "secret" (.object .secretProjection),
     optional "serviceAccountToken" (.object .serviceAccountTokenProjection)]
  | .nodeSelectorTerm =>
    [optional "matchExpressions" (.list (.object .nodeSelectorRequirement)),
     optional "matchFields" (.list (.object .nodeSelectorRequirement))]
  | .configMapKeySelector =>
    [required "key" .text (.text ""), required "name" .text (.text ""), optional "optional" .bool]
  | .objectFieldSelector => [optional "apiVersion" .text, required "fieldPath" .text (.text "")]
  | .resourceFieldSelector =>
    [optional "containerName" .text, optional "divisor" .text, required "resource" .text (.text "")]
  | .secretKeySelector =>
    [required "key" .text (.text ""), required "name" .text (.text ""), optional "optional" .bool]
  | .sleepAction => [required "seconds" .int64 (.int 0)]
  | .httpHeader => [required "name" .text (.text ""), required "value" .text (.text "")]
  | .clusterTrustBundleProjection =>
    [optional "labelSelector" (.object .labelSelector), optional "name" .text,
     optional "optional" .bool, required "path" .text (.text ""), optional "signerName" .text]
  | .configMapProjection =>
    [optional "items" (.list (.object .keyToPath)), required "name" .text (.text ""),
     optional "optional" .bool]
  | .downwardAPIProjection => [optional "items" (.list (.object .downwardAPIVolumeFile))]
  | .secretProjection =>
    [optional "items" (.list (.object .keyToPath)), required "name" .text (.text ""),
     optional "optional" .bool]
  | .serviceAccountTokenProjection =>
    [optional "audience" .text, optional "expirationSeconds" .int64,
     required "path" .text (.text "")]
  | .nodeSelectorRequirement =>
    [required "key" .text (.text ""), required "operator" .text (.text ""),
     optional "values" (.list .text)]

def field? (k : Kind) (name : String) : Option Field := k.fields.find? (fun f => f.name == name)

private theorem fields_ascending (k : Kind) :
    Members.ascending (k.fields.map Field.name) = true := by
  cases k <;> decide +kernel

theorem fields_increasing (k : Kind) : k.fields.Pairwise (fun a b => a.name < b.name) :=
  List.pairwise_map.1 (Members.pairwise_of_ascending k.fields_ascending)

end DesiredState.Kind
