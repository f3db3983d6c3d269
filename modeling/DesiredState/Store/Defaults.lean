import DesiredState.StatefulSet
/-!
What an API server adds to a StatefulSet that it stores: a status, and values for the fields that
were left out. A field that was set keeps its value.
-/

set_option autoImplicit false
set_option relaxedAutoImplicit false

namespace DesiredState.ServerDefaults

def container (c : Container) : Container :=
  let c := c.putNew Container.terminationMessagePath (.ofText "/dev/termination-log")
  let c := c.putNew Container.terminationMessagePolicy (.ofText "File")
  c.putNew Container.imagePullPolicy (.ofText "IfNotPresent")

def pod (p : PodSpec) : PodSpec :=
  let p := p.putNew PodSpec.restartPolicy (.ofText "Always")
  let p := p.putNew PodSpec.dnsPolicy (.ofText "ClusterFirst")
  let p := p.putNew PodSpec.schedulerName (.ofText "default-scheduler")
  let p := p.putNew PodSpec.terminationGracePeriodSeconds (.ofInt64 30 (Eq.refl true))
  p.modify PodSpec.containers fun cs => .ofItems (cs.items.map container)

def claim (c : VolumeClaim) : VolumeClaim :=
  let c := c.modify VolumeClaim.spec (·.putNew VolumeClaim.volumeMode (.ofText "Filesystem"))
  c.putNew VolumeClaim.status
    ((Record.blank .persistentVolumeClaimStatus).put VolumeClaim.phase (.ofText "Pending"))

def updateStrategy : Record .statefulSetUpdateStrategy :=
  let rolling := (Record.blank .rollingUpdateStatefulSetStrategy).put UpdateStrategy.partition
    (.ofInt32 0 (Eq.refl true))
  ((Record.blank .statefulSetUpdateStrategy).put UpdateStrategy.type
    (.ofText "RollingUpdate")).put UpdateStrategy.rollingUpdate rolling

def spec (s : Record .statefulSetSpec) : Record .statefulSetSpec :=
  let s := s.putNew StatefulSetSpec.replicas (.ofInt32 1 (Eq.refl true))
  let s := s.putNew StatefulSetSpec.revisionHistoryLimit (.ofInt32 10 (Eq.refl true))
  let s := s.putNew StatefulSetSpec.podManagementPolicy (.ofText "OrderedReady")
  let s := s.putNew StatefulSetSpec.updateStrategy updateStrategy
  let s := s.modify StatefulSetSpec.template (·.modify PodTemplate.spec pod)
  s.modify StatefulSetSpec.volumeClaimTemplates fun cs => .ofItems (cs.items.map claim)

def replicas (o : StatefulSet) : Value .int32 :=
  ((o.get? StatefulSet.spec).bind (·.get? StatefulSetSpec.replicas)).getD
    (.ofInt32 1 (Eq.refl true))

def apply (o : StatefulSet) : StatefulSet :=
  let status := (Record.blank .statefulSetStatus).put StatefulSetStatus.replicas (replicas o)
  (o.put StatefulSet.status status).modify StatefulSet.spec spec

end DesiredState.ServerDefaults
