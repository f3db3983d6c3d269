import DesiredState.Proofs.Schema.Kept
import DesiredState.Store.Defaults
/-!
What the defaults of a server leave of an object. Main statements: they keep the metadata
(`get_apply_metadata`) and whatever is set but the status (`find?_apply`), a specification is within
the one that the server makes of it (`within_spec`), and an object that has its defaults is given
none again (`apply_apply`).
-/

set_option autoImplicit false
set_option relaxedAutoImplicit false

namespace DesiredState

namespace Value

variable {k : Kind} {t : Ty} {required : Bool} {names : List String} {r : Record k}

def Filled (names : List String) (r : Record k) : Prop :=
  ∀ name ∈ names, (r.members.get? name).isSome = true

private theorem filled_nil (r : Record k) : Filled [] r := nofun

private theorem Filled.put (h : Filled names r) (s : Slot k t required) (v : Value t) :
    Filled (s.name :: names) (r.put s v) := by
  intro name hn
  rw [get?_members_put]
  split
  · rfl
  · rename_i hne
    exact h name (List.mem_of_ne_of_mem hne hn)

private theorem Filled.putNew (h : Filled names r) (s : Slot k t required) (v : Value t) :
    Filled (s.name :: names) (r.putNew s v) := by
  rw [Value.putNew]
  split
  · rename_i w hw
    refine List.forall_mem_cons.2 ⟨?_, h⟩
    rw [get?_members, hw]
    rfl
  · exact h.put s v

private theorem Filled.modify (h : Filled names r) (s : Slot k t required) (f : Value t → Value t) :
    Filled names (r.modify s f) := by
  rw [Value.modify]
  split
  · exact fun name hn => h.put s _ name (List.mem_cons_of_mem _ hn)
  · exact h

private theorem Filled.putNew_eq (h : Filled names r) {s : Slot k t required} (hs : s.name ∈ names)
    (v : Value t) : r.putNew s v = r := by
  have hsome := h s.name hs
  rw [get?_members, Option.isSome_map] at hsome
  obtain ⟨w, hw⟩ := Option.isSome_iff_exists.1 hsome
  rw [Value.putNew, hw]

private theorem get?_putNew_self (r : Record k) (s : Slot k t required) (v : Value t) :
    (r.putNew s v).get? s = some ((r.get? s).getD v) := by
  rw [putNew]
  split
  · rename_i w hw
    rw [hw]
    rfl
  · rename_i hw
    rw [get?_put_self, hw]
    rfl

private theorem modify_eq_self {s : Slot k t required} {f : Value t → Value t}
    (h : ∀ v, r.get? s = some v → f v = v) : r.modify s f = r := by
  rw [modify]
  split
  · rename_i v hv
    rw [h v hv, put_of_get? hv]
  · rfl

private theorem modify_modify {s : Slot k t required} {f : Value t → Value t}
    (h : ∀ v, f (f v) = f v) : (r.modify s f).modify s f = r.modify s f := by
  refine modify_eq_self fun v hv => ?_
  rw [get?_modify_self, Option.map_eq_some_iff] at hv
  obtain ⟨w, -, rfl⟩ := hv
  exact h w

private theorem mapItems_mapItems {f : Value t → Value t} (h : ∀ v, f (f v) = f v)
    (vs : Value (.list t)) :
    (.ofItems ((ofItems (vs.items.map f)).items.map f) : Value (.list t)) =
      .ofItems (vs.items.map f) := by
  rw [items_ofItems, List.map_map]
  exact congrArg ofItems (List.map_congr_left fun v _ => h v)

end Value

namespace ServerDefaults

open Value

private theorem keptIn_container (c : Container) : c.datum.KeptIn (container c).datum :=
  ((keptIn_putNew c _ _).trans (keptIn_putNew _ _ _)).trans (keptIn_putNew _ _ _)

private theorem keptIn_pod (p : PodSpec) : p.datum.KeptIn (pod p).datum :=
  ((((keptIn_putNew p _ _).trans (keptIn_putNew _ _ _)).trans (keptIn_putNew _ _ _)).trans
    (keptIn_putNew _ _ _)).trans (keptIn_modify (keptIn_mapItems keptIn_container))

private theorem keptIn_claim (c : VolumeClaim) : c.datum.KeptIn (claim c).datum :=
  (keptIn_modify fun v => keptIn_putNew v _ _).trans (keptIn_putNew _ _ _)

private theorem keptIn_spec (s : Record .statefulSetSpec) : s.datum.KeptIn (spec s).datum :=
  (((((keptIn_putNew s _ _).trans (keptIn_putNew _ _ _)).trans (keptIn_putNew _ _ _)).trans
    (keptIn_putNew _ _ _)).trans (keptIn_modify fun _ => keptIn_modify keptIn_pod)).trans
      (keptIn_modify (keptIn_mapItems keptIn_claim))

theorem within_spec (s : Record .statefulSetSpec) : s.toJson.Within (spec s).toJson :=
  (keptIn_spec s).within s.ordered_toJson

theorem get?_apply_spec (o : StatefulSet) :
    (apply o).get? StatefulSet.spec =
      (o.get? StatefulSet.spec).map spec := by
  rw [apply, get?_modify_self, get?_put_of_ne _ (by decide)]

theorem get_apply_metadata (o : StatefulSet) :
    (apply o).get StatefulSet.metadata = o.get StatefulSet.metadata := by
  refine get_eq_of_get? ?_
  rw [apply, get?_modify_of_ne _ (by decide), get?_put_of_ne _ (by decide), get?_eq_some_get]

/-- Whatever is set in an object, at any position outside of its status, keeps its value. -/
theorem find?_apply (o : StatefulSet) {position : List Json.Step} {d : Datum}
    (hstatus : position.head? ≠ some (.key "status")) (hd : o.datum.find? position = some d) :
    ∃ e, (apply o).datum.find? position = some e ∧ e.root = d.root := by
  cases position with
  | nil =>
    cases hd
    refine ⟨_, rfl, ?_⟩
    rw [(apply o).datum_eq, o.datum_eq]
    rfl
  | cons s position =>
    cases s with
    | index i =>
      rw [o.datum_eq] at hd
      cases hd
    | key name =>
      have hname : name ≠ StatefulSet.status.name := fun h => hstatus (h ▸ rfl)
      refine keptIn_modify keptIn_spec _ d ?_
      rwa [find?_put_of_ne _ _ _ hname]

private theorem filled_container (c : Container) :
    Filled [Container.imagePullPolicy.name, Container.terminationMessagePolicy.name,
      Container.terminationMessagePath.name] (container c) :=
  (((filled_nil c).putNew _ _).putNew _ _).putNew _ _

private theorem container_container (c : Container) : container (container c) = container c := by
  have h := filled_container c
  rw [container, h.putNew_eq (by simp), h.putNew_eq (by simp), h.putNew_eq (by simp)]

private theorem filled_pod (p : PodSpec) :
    Filled [PodSpec.terminationGracePeriodSeconds.name, PodSpec.schedulerName.name,
      PodSpec.dnsPolicy.name, PodSpec.restartPolicy.name] (pod p) :=
  (((((filled_nil p).putNew _ _).putNew _ _).putNew _ _).putNew _ _).modify _ _

private theorem pod_pod (p : PodSpec) : pod (pod p) = pod p := by
  have h := filled_pod p
  have hcontainers : (pod p).modify PodSpec.containers
      (fun cs => .ofItems (cs.items.map container)) = pod p :=
    modify_modify (mapItems_mapItems container_container)
  rw [pod, h.putNew_eq (by simp), h.putNew_eq (by simp), h.putNew_eq (by simp),
    h.putNew_eq (by simp), hcontainers]

private theorem claim_claim (c : VolumeClaim) : claim (claim c) = claim c := by
  have hspec : (claim c).modify VolumeClaim.spec
      (·.putNew VolumeClaim.volumeMode (.ofText "Filesystem")) = claim c := by
    refine modify_eq_self fun v hv => ?_
    rw [claim, get?_putNew_of_ne _ (by decide), get?_modify_self, Option.map_eq_some_iff] at hv
    obtain ⟨w, -, rfl⟩ := hv
    exact ((filled_nil w).putNew _ _).putNew_eq List.mem_cons_self _
  have h : Filled [VolumeClaim.status.name] (claim c) := (filled_nil _).putNew _ _
  rw [claim, hspec, h.putNew_eq (by simp)]

private theorem filled_spec (s : Record .statefulSetSpec) :
    Filled [StatefulSetSpec.updateStrategy.name, StatefulSetSpec.podManagementPolicy.name,
      StatefulSetSpec.revisionHistoryLimit.name, StatefulSetSpec.replicas.name] (spec s) :=
  ((((((filled_nil s).putNew _ _).putNew _ _).putNew _ _).putNew _ _).modify _ _).modify _ _

private theorem spec_spec (s : Record .statefulSetSpec) : spec (spec s) = spec s := by
  have h := filled_spec s
  have htemplate : (spec s).modify StatefulSetSpec.template (·.modify PodTemplate.spec pod) =
      spec s := by
    refine modify_eq_self fun v hv => ?_
    rw [spec, get?_modify_of_ne _ (by decide), get?_modify_self, Option.map_eq_some_iff] at hv
    obtain ⟨w, -, rfl⟩ := hv
    exact modify_modify pod_pod
  have hclaims : (spec s).modify StatefulSetSpec.volumeClaimTemplates
      (fun cs => .ofItems (cs.items.map claim)) = spec s :=
    modify_modify (mapItems_mapItems claim_claim)
  rw [spec, h.putNew_eq (by simp), h.putNew_eq (by simp), h.putNew_eq (by simp),
    h.putNew_eq (by simp), htemplate, hclaims]

private theorem replicas_apply (o : StatefulSet) : replicas (apply o) = replicas o := by
  rw [replicas, replicas, get?_apply_spec]
  cases o.get? StatefulSet.spec with
  | none => rfl
  | some s =>
    have hspec : (spec s).get? StatefulSetSpec.replicas =
        some ((s.get? StatefulSetSpec.replicas).getD (.ofInt32 1 (Eq.refl true))) := by
      rw [spec, get?_modify_of_ne _ (by decide), get?_modify_of_ne _ (by decide),
        get?_putNew_of_ne _ (by decide), get?_putNew_of_ne _ (by decide),
        get?_putNew_of_ne _ (by decide), get?_putNew_self]
    rw [Option.map_some, Option.bind_some, hspec]
    rfl

/-- An object that has its defaults is given none again. -/
theorem apply_apply (o : StatefulSet) : apply (apply o) = apply o := by
  have hstatus : (apply o).get? StatefulSet.status =
      some ((Record.blank .statefulSetStatus).put StatefulSetStatus.replicas (replicas o)) := by
    rw [apply, get?_modify_of_ne _ (by decide), get?_put_self]
  have hspec : (apply o).modify StatefulSet.spec spec = apply o := modify_modify spec_spec
  rw [apply, replicas_apply, put_of_get? hstatus, hspec]

end ServerDefaults

end DesiredState
