import DesiredState.Proofs.Patch.Ignore
import DesiredState.Proofs.Patch.Settled
import DesiredState.Proofs.Schema.Json
import DesiredState.Store.Defaults
/-!
Comparing what is desired with what a server made of what was written. Main statement:
`settled_spec`, that a comparison of specifications, after the default rules, which finds nothing
to change leaves the stored one alike in content to what the desired one would be stored as.
-/

set_option autoImplicit false
set_option relaxedAutoImplicit false

namespace DesiredState

namespace Value

variable {k : Kind} {t u : Ty} {required other : Bool}

private theorem get?_jsonMembers_putNew (r : Record k) (s : Slot k t required) (v : Value t)
    (name : String) :
    (r.putNew s v).jsonMembers.get? name =
      if name = s.name then some ((r.get? s).getD v).toJson else r.jsonMembers.get? name := by
  rw [putNew]
  split
  · rename_i u hu
    split
    · rename_i hn
      rw [hn, get?_jsonMembers, hu]
      rfl
    · rfl
  · rename_i hu
    rw [get?_jsonMembers_put, hu]
    rfl

private theorem get?_jsonMembers_modify (r : Record k) (s : Slot k t required)
    (f : Value t → Value t) (name : String) :
    (r.modify s f).jsonMembers.get? name =
      if name = s.name then (r.get? s).map fun v => (f v).toJson
      else r.jsonMembers.get? name := by
  rw [modify]
  split
  · rename_i v hv
    rw [get?_jsonMembers_put, hv]
    rfl
  · rename_i hv
    split
    · rename_i hn
      rw [hn, get?_jsonMembers, hv]
      rfl
    · rfl

/-- Objects of a kind, one written before and one desired now, that are stored as `F` says. -/
def SettledBy (F : Record k → Record k) (w m : Record k) : Prop :=
  ∀ name, Json.SettledMember (w.jsonMembers.get? name) (m.jsonMembers.get? name)
    ((F w).jsonMembers.get? name) ((F m).jsonMembers.get? name)

private theorem ordered_getD_jsonMembers (r : Record k) (name : String) :
    ((r.jsonMembers.get? name).getD .null).ordered = true :=
  Json.ordered_getD (toJson_eq_obj r ▸ r.ordered_toJson) name

private theorem settledBy_id (w m : Record k) : SettledBy (fun r => r) w m := by
  refine fun name => .plain fun j hj => ?_
  refine Json.settled_self (w.ordered_getD_jsonMembers name) ?_
  have := m.ordered_getD_jsonMembers name
  rwa [hj] at this

private theorem toJson_ne_null (ht : t ∈ [Ty.text, .int32, .int64]) (v : Value t) :
    v.toJson ≠ .null := by
  obtain ⟨d, h⟩ := v
  simp only [List.mem_cons, List.not_mem_nil, or_false] at ht
  rcases ht with rfl | rfl | rfl <;> cases d <;> simp [Datum.hasType] at h <;>
    simp [toJson, Datum.toJson]

section Steps

variable {F : Record k → Record k} {w m : Record k} (h : SettledBy F w m)
  (s : Slot k t required) (hF : ∀ r, (F r).get? s = r.get? s)

private theorem SettledBy.settled (h : SettledBy F w m) :
    Json.Settled w.toJson m.toJson (F w).toJson (F m).toJson := by
  rw [toJson_eq_obj, toJson_eq_obj, toJson_eq_obj, toJson_eq_obj]
  exact Json.settled_obj (increasing_jsonMembers _) (increasing_jsonMembers _)
    (increasing_jsonMembers _) h

include h hF

private theorem SettledBy.putNew (ht : t ∈ [Ty.text, .int32, .int64]) (v : Value t)
    (hv : v.toJson.isAtom = true) : SettledBy (fun r => (F r).putNew s v) w m := by
  intro name
  rw [get?_jsonMembers_putNew, get?_jsonMembers_putNew, hF, hF]
  split
  · rename_i hn
    subst hn
    have hd : ∀ o : Option (Value t), (o.getD v).toJson = (o.map toJson).getD v.toJson := by
      intro o
      cases o <;> rfl
    rw [hd, hd, ← get?_jsonMembers, ← get?_jsonMembers]
    refine .defaulted hv ?_ (w.ordered_getD_jsonMembers _) (m.ordered_getD_jsonMembers _)
    rw [get?_jsonMembers]
    intro he
    obtain ⟨u, _, hu⟩ := Option.map_eq_some_iff.1 he
    exact toJson_ne_null ht u hu
  · exact h name

private theorem SettledBy.putNew_of_none (v : Value t) (hw : w.get? s = none)
    (hm : m.get? s = none) : SettledBy (fun r => (F r).putNew s v) w m := by
  intro name
  rw [get?_jsonMembers_putNew, get?_jsonMembers_putNew, hF, hF]
  split
  · rename_i hn
    rw [hn, get?_jsonMembers, get?_jsonMembers, hw, hm]
    exact .constant v.toJson
  · exact h name

private theorem SettledBy.modify {f : Value t → Value t} {a b : Value t} (hw : w.get? s = some a)
    (hm : m.get? s = some b) (hab : Json.Settled a.toJson b.toJson (f a).toJson (f b).toJson) :
    SettledBy (fun r => (F r).modify s f) w m := by
  intro name
  rw [get?_jsonMembers_modify, get?_jsonMembers_modify, hF, hF]
  split
  · rename_i hn
    rw [hn, get?_jsonMembers, get?_jsonMembers, hw, hm]
    exact .present hab
  · exact h name

end Steps

private theorem settled_mapItems {f : Value t → Value t}
    (h : ∀ a b : Value t, Json.Settled a.toJson b.toJson (f a).toJson (f b).toJson)
    (as bs : Value (.list t)) :
    Json.Settled as.toJson bs.toJson (ofItems (as.items.map f)).toJson
      (ofItems (bs.items.map f)).toJson := by
  simp only [toJson_eq_arr, items_ofItems, List.map_map]
  exact Json.settled_arr fun a _ b _ => h a b

end Value

namespace ServerDefaults

open Value

private theorem settledBy_container (w m : Container) : SettledBy container w m := by
  have h₁ := (settledBy_id w m).putNew Container.terminationMessagePath (fun _ => rfl) (by decide)
    (.ofText "/dev/termination-log") rfl
  have h₂ := h₁.putNew Container.terminationMessagePolicy
    (fun r => get?_putNew_of_ne r (by decide) _) (by decide) (.ofText "File") rfl
  refine h₂.putNew Container.imagePullPolicy (fun r => ?_) (by decide) (.ofText "IfNotPresent") rfl
  simp (disch := decide) only [get?_putNew_of_ne]

private theorem settledBy_pod (w m : PodSpec) : SettledBy pod w m := by
  have h₁ := (settledBy_id w m).putNew PodSpec.restartPolicy (fun _ => rfl) (by decide)
    (.ofText "Always") rfl
  have h₂ := h₁.putNew PodSpec.dnsPolicy (fun r => get?_putNew_of_ne r (by decide) _) (by decide)
    (.ofText "ClusterFirst") rfl
  have h₃ := h₂.putNew PodSpec.schedulerName
    (fun r => by simp (disch := decide) only [get?_putNew_of_ne])
    (by decide) (.ofText "default-scheduler") rfl
  have h₄ := h₃.putNew PodSpec.terminationGracePeriodSeconds
    (fun r => by simp (disch := decide) only [get?_putNew_of_ne]) (by decide)
    (.ofInt64 30 (Eq.refl true)) rfl
  refine h₄.modify PodSpec.containers (fun r => ?_) (get?_eq_some_get w _) (get?_eq_some_get m _)
    (settled_mapItems (fun a b => (settledBy_container a b).settled) _ _)
  simp (disch := decide) only [get?_putNew_of_ne]

open IgnoreRule (compared)

def comparedClaim (j : Json) : Json :=
  IgnoreRule.claimVolatile.dropFromClaim (IgnoreRule.claimTypeMetaAndStatus.dropFromClaim j)

private theorem comparedClaim_eq (j : Json) : comparedClaim j =
    ((((j.dropMember "kind").dropMember "apiVersion").dropMember "status").mapMember "metadata"
      (Json.dropMember "creationTimestamp")).mapMember "spec" (Json.dropMember "volumeMode") := rfl

/-- Without one member, objects that hold the same but under its name are equal. -/
theorem dropMember_toJson_congr {k : Kind} {name : String} {a b : Record k}
    (h : SameBut [name] a b) : a.toJson.dropMember name = b.toJson.dropMember name := by
  have ho := fun r : Record k => Json.ordered_dropMember r.ordered_toJson name
  have hobj : ∀ r : Record k, (r.toJson.dropMember name).members?.isSome = true := fun r => by
    rw [toJson_eq_obj]
    rfl
  refine Json.eq_of_member? (ho _) (ho _) (hobj _) (hobj _) fun other => ?_
  rw [Json.member?_dropMember, Json.member?_dropMember]
  split
  · rfl
  · rename_i hn
    rw [toJson_eq_obj, toJson_eq_obj]
    exact h.get?_jsonMembers fun hmem => hn (List.mem_singleton.1 hmem)

private theorem sameBut_putNew {k : Kind} {t : Ty} {required : Bool} (r : Record k)
    (s : Slot k t required) (v : Value t) : SameBut [s.name] (r.putNew s v) r := by
  rw [putNew]
  split
  · exact sameBut_refl _ r
  · exact sameBut_put r s v

theorem member?_comparedClaim (j : Json) (name : String) :
    (comparedClaim j).member? name =
      if name ∈ ["apiVersion", "kind", "status"] then none
      else if name = "metadata" then (j.member? name).map (Json.dropMember "creationTimestamp")
      else if name = "spec" then (j.member? name).map (Json.dropMember "volumeMode")
      else j.member? name := by
  rw [comparedClaim_eq]
  simp only [Json.member?_mapMember, Json.member?_dropMember, List.mem_cons, List.not_mem_nil,
    or_false]
  by_cases hsp : name = "spec"
  · simp [hsp]
  by_cases hm : name = "metadata"
  · simp [hm]
  by_cases hs : name = "status"
  · simp [hs]
  by_cases ha : name = "apiVersion"
  · simp [ha]
  by_cases hk : name = "kind"
  · simp [hk]
  · simp [hsp, hm, hs, ha, hk]

theorem isObject_comparedClaim (c : VolumeClaim) :
    (comparedClaim c.toJson).members?.isSome = true := by
  rw [toJson_eq_obj]
  rfl

theorem ordered_comparedClaim (c : VolumeClaim) : (comparedClaim c.toJson).ordered = true :=
  IgnoreRule.ordered_dropFromClaim _ (IgnoreRule.ordered_dropFromClaim _ c.ordered_toJson)

private theorem comparedClaim_claim (c : VolumeClaim) :
    comparedClaim (claim c).toJson = comparedClaim c.toJson := by
  refine Json.eq_of_member? (ordered_comparedClaim _) (ordered_comparedClaim _)
    (isObject_comparedClaim _) (isObject_comparedClaim _) fun name => ?_
  have hmember : ∀ c : VolumeClaim, c.toJson.member? name = c.jsonMembers.get? name := fun c => by
    rw [toJson_eq_obj]
    rfl
  rw [member?_comparedClaim, member?_comparedClaim, hmember, hmember, claim,
    get?_jsonMembers_putNew, get?_jsonMembers_modify]
  by_cases hs : name = VolumeClaim.status.name
  · subst hs
    rfl
  by_cases hsp : name = VolumeClaim.spec.name
  · subst hsp
    have hget := get?_jsonMembers c VolumeClaim.spec
    rw [hget, if_neg hs, if_pos rfl]
    have hdrop := fun v : Record .persistentVolumeClaimSpec =>
      dropMember_toJson_congr (sameBut_putNew v VolumeClaim.volumeMode (.ofText "Filesystem"))
    cases c.get? VolumeClaim.spec with
    | none => rfl
    | some v => exact congrArg some (hdrop v)
  · rw [if_neg hs, if_neg hsp]

theorem member?_compared_spec (s : Record .statefulSetSpec) (name : String) :
    (compared s.toJson).member? name =
      if name = "volumeClaimTemplates" then
        (s.get? StatefulSetSpec.volumeClaimTemplates).map fun cs =>
          .arr (cs.items.map fun c => comparedClaim c.toJson)
      else s.jsonMembers.get? name := by
  rw [compared, IgnoreRule.dropFromSpec, IgnoreRule.dropFromSpec, Json.member?_mapMember,
    Json.member?_mapMember]
  split
  · rename_i hn
    subst hn
    have hget : s.toJson.member? "volumeClaimTemplates" =
        (s.get? StatefulSetSpec.volumeClaimTemplates).map toJson :=
      member?_toJson s StatefulSetSpec.volumeClaimTemplates
    rw [hget]
    cases s.get? StatefulSetSpec.volumeClaimTemplates with
    | none => rfl
    | some cs =>
      simp only [Option.map_some, toJson_eq_arr, List.map_map]
      rfl
  · rw [toJson_eq_obj]
    rfl

def besideClaims (s : Record .statefulSetSpec) : Record .statefulSetSpec :=
  let s := s.putNew StatefulSetSpec.replicas (.ofInt32 1 (Eq.refl true))
  let s := s.putNew StatefulSetSpec.revisionHistoryLimit (.ofInt32 10 (Eq.refl true))
  let s := s.putNew StatefulSetSpec.podManagementPolicy (.ofText "OrderedReady")
  let s := s.putNew StatefulSetSpec.updateStrategy updateStrategy
  s.modify StatefulSetSpec.template (·.modify PodTemplate.spec pod)

private theorem spec_eq (s : Record .statefulSetSpec) :
    spec s = (besideClaims s).modify StatefulSetSpec.volumeClaimTemplates
      fun cs => .ofItems (cs.items.map claim) := rfl

private theorem get?_besideClaims (s : Record .statefulSetSpec) :
    (besideClaims s).get? StatefulSetSpec.volumeClaimTemplates =
      s.get? StatefulSetSpec.volumeClaimTemplates := by
  rw [besideClaims, get?_modify_of_ne _ (by decide), get?_putNew_of_ne _ (by decide),
    get?_putNew_of_ne _ (by decide), get?_putNew_of_ne _ (by decide),
    get?_putNew_of_ne _ (by decide)]

/-- A server adds nothing to the volume claim templates that a comparison looks at. -/
private theorem member?_compared_filled (s : Record .statefulSetSpec) (name : String) :
    (compared (spec s).toJson).member? name =
      if name = "volumeClaimTemplates" then (compared s.toJson).member? name
      else (besideClaims s).jsonMembers.get? name := by
  rw [member?_compared_spec, member?_compared_spec, spec_eq, get?_modify_self, get?_besideClaims]
  split
  · rw [Option.map_map]
    refine congrArg (fun f => (s.get? StatefulSetSpec.volumeClaimTemplates).map f) ?_
    funext cs
    simp only [Function.comp_apply, items_ofItems, List.map_map]
    exact congrArg Json.arr (List.map_congr_left fun c _ => comparedClaim_claim c)
  · rename_i hn
    exact (get?_jsonMembers_modify _ _ _ _).trans (if_neg hn)

/-- What the settings of a StatefulSet never ask for, and what they always do. -/
structure Synthesized (s : Record .statefulSetSpec) : Prop where
  strategy : s.get? StatefulSetSpec.updateStrategy = none
  pods : ((s.get StatefulSetSpec.template).get? PodTemplate.spec).isSome = true

private theorem settledBy_besideClaims {w m : Record .statefulSetSpec} (hw : Synthesized w)
    (hm : Synthesized m) : SettledBy besideClaims w m := by
  have h₁ := (settledBy_id w m).putNew StatefulSetSpec.replicas (fun _ => rfl) (by decide)
    (.ofInt32 1 (Eq.refl true)) rfl
  have h₂ := h₁.putNew StatefulSetSpec.revisionHistoryLimit
    (fun r => get?_putNew_of_ne r (by decide) _) (by decide) (.ofInt32 10 (Eq.refl true)) rfl
  have h₃ := h₂.putNew StatefulSetSpec.podManagementPolicy
    (fun r => by simp (disch := decide) only [get?_putNew_of_ne])
    (by decide) (.ofText "OrderedReady") rfl
  have h₄ := h₃.putNew_of_none StatefulSetSpec.updateStrategy
    (fun r => by simp (disch := decide) only [get?_putNew_of_ne]) updateStrategy hw.strategy
    hm.strategy
  obtain ⟨a, ha⟩ := Option.isSome_iff_exists.1 hw.pods
  obtain ⟨b, hb⟩ := Option.isSome_iff_exists.1 hm.pods
  have htemplate := (settledBy_id _ _).modify PodTemplate.spec (fun _ => rfl) ha hb
    (settledBy_pod a b).settled
  refine h₄.modify StatefulSetSpec.template (fun r => ?_) (get?_eq_some_get w _)
    (get?_eq_some_get m _) htemplate.settled
  simp (disch := decide) only [get?_putNew_of_ne]

theorem exists_compared_eq_obj (s : Record .statefulSetSpec) :
    ∃ ms : Members Json, compared s.toJson = .obj ms ∧ Members.Increasing ms := by
  have ho : (compared s.toJson).ordered = true := IgnoreRule.ordered_compared s.ordered_toJson
  rw [toJson_eq_obj] at ho ⊢
  exact ⟨_, rfl, Json.increasing_of_ordered ho⟩

/-- A comparison of specifications that finds nothing to change leaves the stored one alike in
content to what a server would make of the desired one. -/
theorem settled_spec {w m : Record .statefulSetSpec} (hw : Synthesized w) (hm : Synthesized m) :
    Json.Settled (compared w.toJson) (compared m.toJson) (compared (spec w).toJson)
      (compared (spec m).toJson) := by
  obtain ⟨ws, hws, _⟩ := exists_compared_eq_obj w
  obtain ⟨ms, hms, him⟩ := exists_compared_eq_obj m
  obtain ⟨ws', hws', hiw'⟩ := exists_compared_eq_obj (spec w)
  obtain ⟨ms', hms', him'⟩ := exists_compared_eq_obj (spec m)
  have hordered := fun s : Record .statefulSetSpec => IgnoreRule.ordered_compared s.ordered_toJson
  rw [hws, hms, hws', hms']
  -- the claims are compared without what a server adds; every other member is settled by itself
  refine Json.settled_obj him hiw' him' fun name => ?_
  have hget : ∀ {j : Json} {ns : Members Json}, j = .obj ns → ns.get? name = j.member? name := by
    rintro _ ns rfl
    rfl
  rw [hget hws', hget hms', member?_compared_filled, member?_compared_filled]
  by_cases hn : name = "volumeClaimTemplates"
  · rw [if_pos hn, if_pos hn, ← hget hws, ← hget hms]
    refine .plain fun j hj => Json.settled_self ?_ ?_
    · exact Json.ordered_getD (hws ▸ hordered w) name
    · exact Json.ordered_of_get? (hms ▸ hordered m) hj
  · have hw' := member?_compared_spec w name
    have hm' := member?_compared_spec m name
    rw [if_neg hn] at hw' hm'
    rw [if_neg hn, if_neg hn, hget hws, hget hms, hw', hm']
    exact settledBy_besideClaims hw hm name

end ServerDefaults

end DesiredState
