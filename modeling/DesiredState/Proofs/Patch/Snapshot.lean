import DesiredState.Proofs.Json.Reading
import DesiredState.Proofs.Patch.Convergence
import DesiredState.Proofs.Patch.Within
import DesiredState.Proofs.Schema.Json
import DesiredState.Proofs.Schema.Map
import DesiredState.Store.Basic
/-!
Snapshots of StatefulSets: what recording one changes, and what reading it back gives. Main
statements: `record_eq_ok`, and `shape_of_read`, that a snapshot that can be read has the shape of
what was recorded; after the default rules it is the specification that was recorded.
-/

set_option autoImplicit false
set_option relaxedAutoImplicit false

namespace DesiredState

namespace Snapshot

/-- The object carries the snapshot of `x` under a key. -/
def Carries (key : String) (o x : StatefulSet) : Prop :=
  o.subject.annotations.bind (·.at? key) = some (.ofText (ofJson key x.toJson).compact)

theorem authored_keeps {P : Json → Prop} (hdrop : ∀ {j : Json}, P j → ∀ k, P (j.dropMember k))
    (hget : ∀ {ms : Members Json}, P (.obj ms) → ∀ {k : String} {j : Json},
      ms.get? k = some j → P j)
    (hinsert : ∀ {ms : Members Json} {j : Json}, P (.obj ms) → P j → ∀ k, P (.obj (ms.insert k j)))
    (key : String) {j : Json} (h : P j) : P (authored key j) := by
  cases j with
  | obj ms =>
    have herase : ∀ (ks : List String) {ms : Members Json}, P (.obj ms) →
        P (.obj (ks.foldl (fun ms k => Members.erase k ms) ms)) := by
      intro ks
      induction ks with
      | nil => exact fun h => h
      | cons k ks ih => exact fun h => ih (hdrop h k)
    have howned := herase storeOwned h
    rw [authored]
    generalize storeOwned.foldl (fun ms k => Members.erase k ms) ms = ms at howned
    simp only
    split
    · rename_i annotations hannotations
      have hrest : P (.obj (Members.erase key annotations)) := hdrop (hget howned hannotations) key
      split
      · exact hdrop howned "annotations"
      · exact hinsert howned hrest "annotations"
    · exact howned
  | _ => exact h

theorem ordered_authored (key : String) {j : Json} (h : j.ordered = true) :
    (authored key j).ordered = true :=
  authored_keeps (P := fun j => j.ordered = true) Json.ordered_dropMember Json.ordered_of_get?
    Json.ordered_insert key h

theorem ordered_ofJson (key : String) {j : Json} (h : j.ordered = true) :
    (ofJson key j).ordered = true :=
  Json.ordered_mapMember (fun _ => ordered_authored key) (Json.ordered_dropMember h _) _

theorem member?_ofJson {k : String} (hm : k ≠ "metadata") (hs : k ≠ "status") (key : String)
    (j : Json) : (ofJson key j).member? k = j.member? k := by
  rw [ofJson, Json.member?_mapMember, if_neg hm, Json.member?_dropMember, if_neg hs]

theorem isObject_ofJson (key : String) (o : StatefulSet) :
    (ofJson key o.toJson).members?.isSome = true := by
  rw [Value.toJson_eq_obj]
  rfl

theorem isObject_authored (key : String) (m : ObjectMeta) :
    (authored key m.toJson).members?.isSome = true := by
  rw [Value.toJson_eq_obj, authored]
  split <;> rfl

theorem record_eq_ok (key : String) (o : StatefulSet) : ∃ r, record key o = .ok r ∧
    r.get? StatefulSet.spec = o.get? StatefulSet.spec ∧ r.objectName = o.objectName ∧
    r.version? = o.version? ∧
    r.subject.annotations = some ((o.subject.annotations.getD .emptyMap).insert key
      (.ofText (ofJson key o.toJson).compact)) := by
  refine ⟨_, rfl, Value.get?_put_of_ne _ (by decide) _, ?_, ?_, ?_⟩
  · rw [StatefulSet.objectName, Value.get_put_self, ObjectMeta.text?,
      Value.get?_put_of_ne _ (by decide)]
    rfl
  · rw [StatefulSet.version?, Value.get_put_self, ObjectMeta.text?,
      Value.get?_put_of_ne _ (by decide)]
    rfl
  · rw [StatefulSet.subject]
    simp only [Value.get_put_self, Value.get?_put_self]
    rfl

theorem objectName_of_record {key : String} {o r : StatefulSet} (h : record key o = .ok r) :
    r.objectName = o.objectName := by
  obtain ⟨r', hr', -, hname, -⟩ := record_eq_ok key o
  cases h.symm.trans hr'
  exact hname

theorem carries_record {key : String} {o r : StatefulSet} (h : record key o = .ok r) :
    Carries key r o := by
  obtain ⟨r', hr, _, _, _, ha⟩ := record_eq_ok key o
  cases h.symm.trans hr
  rw [Carries, ha, Option.bind_some, Value.at?_insert, if_pos rfl]

theorem Carries.modify_spec {key : String} {o x : StatefulSet} (hc : Carries key o x)
    (change : Record .statefulSetSpec → Record .statefulSetSpec) :
    Carries key (o.modify StatefulSet.spec change) x := by
  have hmetadata : (o.modify StatefulSet.spec change).get StatefulSet.metadata =
      o.get StatefulSet.metadata := by
    rw [Value.modify]
    split
    · exact Value.get_put_of_ne _ (by decide) _
    · rfl
  rw [Carries, StatefulSet.subject, hmetadata]
  exact hc

theorem shape_of_read {key : String} {o x : StatefulSet} (hc : Carries key o x)
    {applied : Option Json} (h : read key o.subject = .ok applied) :
    ∃ j, applied = some j ∧ j.shape = (ofJson key x.toJson).shape := by
  rw [Carries] at hc
  rw [read, hc] at h
  simp only [Value.text_ofText] at h
  have ho := ordered_ofJson key x.ordered_toJson
  split at h
  · cases h
  · rename_i ms hp
    cases h
    exact ⟨_, rfl, Json.shape_of_parse ho hp⟩
  · cases h

theorem read_of_parse {key : String} {o x : StatefulSet} (hc : Carries key o x)
    {ms : Members Json} (hp : Json.parse (ofJson key x.toJson).compact = .ok (.obj ms)) :
    read key o.subject = .ok (some (.obj ms)) := by
  rw [Carries] at hc
  rw [read, hc]
  simp only [Value.text_ofText, hp]

theorem exists_read_eq_ok {key : String} {o x : StatefulSet} (hc : Carries key o x)
    (h : Json.Text.legible (ofJson key x.toJson).chars = true) :
    ∃ applied, read key o.subject = .ok applied := by
  obtain ⟨ms, hp⟩ := Json.parse_compact_of_legible h
  exact ⟨some (.obj ms), read_of_parse hc hp⟩

theorem read_of_parse_self {key : String} {o x : StatefulSet} (hc : Carries key o x)
    (hp : Json.parse (ofJson key x.toJson).compact = .ok (ofJson key x.toJson)) :
    read key o.subject = .ok (some (ofJson key x.toJson)) := by
  obtain ⟨ms, hms⟩ := Json.exists_obj_of_members? (isObject_ofJson key x)
  rw [hms] at hp ⊢
  exact read_of_parse hc (hms ▸ hp)

/-- A snapshot that reads back as it is, by its characters, is read as what was recorded. -/
theorem read_of_carries {key : String} {o x : StatefulSet} (hc : Carries key o x)
    (h : Json.Text.read? (ofJson key x.toJson).chars = some (ofJson key x.toJson)) :
    read key o.subject = .ok (some (ofJson key x.toJson)) :=
  read_of_parse_self hc (Json.parse_compact_of_read? h)

end Snapshot

namespace IgnoreRule

private theorem field?_statefulSet {k : String}
    (hk : k ∉ ["apiVersion", "kind", "metadata", "spec", "status"]) :
    Kind.field? .statefulSet k = none :=
  Kind.field?_eq_none (by decide +kernel) hk

theorem member?_applyAll_defaults_toJson (o : StatefulSet) (k : String) :
    (applyAll defaults o.toJson).member? k =
      if k = "spec" then (o.get? StatefulSet.spec).map fun s => compared s.toJson else none := by
  rw [member?_applyAll_defaults]
  by_cases hs : k = "spec"
  · subst hs
    have hspec : o.toJson.member? "spec" = (o.get? StatefulSet.spec).map Value.toJson :=
      Value.member?_toJson o StatefulSet.spec
    rw [if_neg (by decide), if_pos rfl, if_pos rfl, hspec, Option.map_map]
    rfl
  · rw [if_neg hs, if_neg hs]
    split
    · rfl
    · rename_i hk
      rw [Value.toJson_eq_obj]
      refine Value.get?_jsonMembers_of_field? o (field?_statefulSet ?_)
      simp_all

theorem isObject_applyAll_defaults_toJson (o : StatefulSet) :
    (applyAll defaults o.toJson).members?.isSome = true := by
  rw [members?_applyAll_defaults, Value.toJson_eq_obj]
  rfl

theorem applyAll_defaults_toJson (o : StatefulSet) :
    applyAll defaults o.toJson =
      .obj ((o.get? StatefulSet.spec).elim [] fun s => [("spec", compared s.toJson)]) := by
  refine Json.eq_of_member? (ordered_applyAll _ o.ordered_toJson) ?_
    (isObject_applyAll_defaults_toJson o) rfl fun k => ?_
  · cases ho : o.get? StatefulSet.spec with
    | none => rfl
    | some s =>
      refine Json.ordered_obj_iff.2 ⟨List.pairwise_singleton _ _, ?_⟩
      exact List.forall_mem_singleton.2 (ordered_compared s.ordered_toJson)
  · rw [member?_applyAll_defaults_toJson]
    cases o.get? StatefulSet.spec <;> simp [Json.member?, Members.get?_cons]

private theorem applyAll_defaults_ofJson (key : String) (o : StatefulSet) :
    applyAll defaults (Snapshot.ofJson key o.toJson) = applyAll defaults o.toJson := by
  have ho := o.ordered_toJson
  refine Json.eq_of_member? (ordered_applyAll _ (Snapshot.ordered_ofJson key ho))
    (ordered_applyAll _ ho) ?_ (isObject_applyAll_defaults_toJson o) fun k => ?_
  · rw [members?_applyAll_defaults]
    exact Snapshot.isObject_ofJson key o
  · rw [member?_applyAll_defaults, member?_applyAll_defaults]
    split
    · rfl
    · rename_i hk
      simp only [List.mem_cons, List.not_mem_nil, or_false, not_or] at hk
      rw [Snapshot.member?_ofJson hk.2.2.1 hk.2.2.2]

end IgnoreRule

namespace Snapshot

theorem shape_appliedBefore {key : String} {o x : StatefulSet} (hc : Carries key o x)
    {applied : Option Json} (h : read key o.subject = .ok applied) :
    (Patch.appliedBefore IgnoreRule.defaults applied).shape =
      (IgnoreRule.applyAll IgnoreRule.defaults x.toJson).shape := by
  obtain ⟨j, rfl, hj⟩ := shape_of_read hc h
  rw [← IgnoreRule.applyAll_defaults_ofJson key x]
  exact IgnoreRule.shape_applyAll_congr _ hj

end Snapshot

end DesiredState
