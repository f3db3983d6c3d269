import DesiredState.Proofs.Store.Defaults
import DesiredState.Store.Memory
/-!
The calls of the store in memory: what each answers, what it leaves untouched and what a write
adds. Main statements: `create_cases` and `update_cases`, that a call either fails and keeps the
objects or writes one object under a new version.
-/

set_option autoImplicit false
set_option relaxedAutoImplicit false

namespace DesiredState

theorem PerOperation.select_counted_le (p : PerOperation Nat) (op op' : Operation) :
    (p.set op (p.select op + 1)).select op' ≤ p.select op' + 1 := by
  cases op <;> cases op' <;> first | exact Nat.le_refl _ | exact Nat.le_succ _

namespace Memory

/-- `m'` is `m` but for the calls counted and the objects handed over. -/
structure Kept (m m' : Memory) : Prop where
  objects : m'.objects = m.objects
  nextVersion : m'.nextVersion = m.nextVersion
  serverDefaults : m'.serverDefaults = m.serverDefaults
  failures : m'.failures = m.failures

/-- `m'` is `m` after one write of an object, but for the calls counted and the objects handed
over. -/
structure Written (m : Memory) (k : String) (o : StatefulSet) (m' : Memory) : Prop where
  objects : m'.objects = m.objects.insert k o
  nextVersion : m'.nextVersion = m.nextVersion + 1
  serverDefaults : m'.serverDefaults = m.serverDefaults
  failures : m'.failures = m.failures

variable {m m' m'' : Memory} {k : String} {o : StatefulSet}

theorem Kept.refl (m : Memory) : m.Kept m := ⟨rfl, rfl, rfl, rfl⟩

theorem Kept.trans (h : m.Kept m') (h' : m'.Kept m'') : m.Kept m'' :=
  ⟨h'.objects.trans h.objects, h'.nextVersion.trans h.nextVersion,
    h'.serverDefaults.trans h.serverDefaults, h'.failures.trans h.failures⟩

theorem Kept.written (h : m.Kept m') (h' : m'.Written k o m'') : m.Written k o m'' :=
  ⟨by rw [h'.objects, h.objects], by rw [h'.nextVersion, h.nextVersion],
    h'.serverDefaults.trans h.serverDefaults, h'.failures.trans h.failures⟩

theorem Kept.peek (h : m.Kept m') (ns name : String) : m'.peek ns name = m.peek ns name := by
  rw [Memory.peek, h.objects, Memory.peek]

theorem Kept.stamped (h : m.Kept m') (moment : Moment) (o : StatefulSet) (written : ObjectMeta) :
    m'.stamped moment o written = m.stamped moment o written := by
  simp only [Memory.stamped, h.nextVersion, h.serverDefaults]

theorem Written.peek_self {ns name : String} (h : m.Written (key ns name) o m') :
    m'.peek ns name = some o := by
  rw [Memory.peek, h.objects, Members.get?_insert_self]

theorem kept_called (m : Memory) (op : Operation) (ns name : String) :
    m.Kept (m.called op ns name).2 := ⟨rfl, rfl, rfl, rfl⟩

private theorem kept_handed (m : Memory) (op : Operation) (o : StatefulSet) :
    m.Kept (m.handed op o) :=
  ⟨rfl, rfl, rfl, rfl⟩

private theorem written_store (m : Memory) (k : String) (o : StatefulSet) :
    m.Written k o (m.store k o).store := ⟨rfl, rfl, rfl, rfl⟩

def editSpec (m : Memory) (ns name : String)
    (change : Record .statefulSetSpec → Record .statefulSetSpec) : Memory :=
  match m.peek ns name with
  | some o =>
    { m with objects := m.objects.insert (key ns name) (o.modify StatefulSet.spec change) }
  | none => m

theorem peek_editSpec (m : Memory) (ns name : String)
    (change : Record .statefulSetSpec → Record .statefulSetSpec) :
    (m.editSpec ns name change).peek ns name =
      (m.peek ns name).map (·.modify StatefulSet.spec change) := by
  rw [editSpec]
  cases hp : m.peek ns name with
  | none => exact hp
  | some o => exact Members.get?_insert_self _ _ _

def filledSpec (serverDefaults : Bool) (s : Record .statefulSetSpec) : Record .statefulSetSpec :=
  if serverDefaults then ServerDefaults.spec s else s

theorem within_filledSpec (serverDefaults : Bool) (s : Record .statefulSetSpec) :
    s.toJson.Within (filledSpec serverDefaults s).toJson := by
  rw [filledSpec]
  split
  · exact ServerDefaults.within_spec s
  · exact .refl s.ordered_toJson

section Stamps

variable {moment : Moment} {written : ObjectMeta}

theorem get?_stamped_spec :
    (m.stamped moment o written).get? StatefulSet.spec =
      (o.get? StatefulSet.spec).map (filledSpec m.serverDefaults) := by
  have hs : ∀ r : ObjectMeta, (o.put StatefulSet.metadata r).get? StatefulSet.spec =
      o.get? StatefulSet.spec := fun r => Value.get?_put_of_ne _ (by decide) _
  rw [stamped]
  split
  · rename_i hd
    rw [ServerDefaults.get?_apply_spec, hs, hd]
    rfl
  · rename_i hd
    rw [hs, Bool.eq_false_iff.2 hd]
    exact (congrFun Option.map_id _).symm

theorem get_stamped_metadata :
    (m.stamped moment o written).get StatefulSet.metadata =
      (written.put ObjectMeta.resourceVersion (.ofText (toString m.nextVersion))).put
        ObjectMeta.managedFields (managedFields moment.now) := by
  rw [stamped]
  split
  · rw [ServerDefaults.get_apply_metadata, Value.get_put_self]
  · rw [Value.get_put_self]

theorem version?_stamped :
    (m.stamped moment o written).version? = some (toString m.nextVersion) := by
  rw [StatefulSet.version?, get_stamped_metadata, ObjectMeta.text?,
    Value.get?_put_of_ne _ (by decide), Value.get?_put_self]
  rfl

theorem annotations_stamped :
    ((m.stamped moment o written).get StatefulSet.metadata).get? ObjectMeta.annotations =
      written.get? ObjectMeta.annotations := by
  rw [get_stamped_metadata, Value.get?_put_of_ne _ (by decide), Value.get?_put_of_ne _ (by decide)]

theorem annotations_createdMeta (moment : Moment) (ns : String) (o : StatefulSet) :
    (createdMeta moment ns o).get? ObjectMeta.annotations =
      (o.get StatefulSet.metadata).get? ObjectMeta.annotations := by
  rw [createdMeta, Value.get?_put_of_ne _ (by decide), Value.get?_put_of_ne _ (by decide),
    Value.get?_put_of_ne _ (by decide), Value.get?_put_of_ne _ (by decide)]

theorem annotations_updatedMeta (ns : String) (o existing : StatefulSet) :
    (updatedMeta ns o existing).get? ObjectMeta.annotations =
      (o.get StatefulSet.metadata).get? ObjectMeta.annotations := by
  rw [updatedMeta, Value.get?_set_of_ne _ (by decide), Value.get?_set_of_ne _ (by decide),
    Value.get?_set_of_ne _ (by decide), Value.get?_put_of_ne _ (by decide)]

end Stamps

theorem get_result (ns name : String) (m : Memory) :
    (get ns name m).result = match m.failures.get with
      | some message => .error (.transport .get (.statefulSet ns name) (.injected message))
      | none => .ok (m.peek ns name) := by
  have hf : m.failures.select .get = m.failures.get := rfl
  rw [get, called, hf]
  cases m.failures.get <;> rfl

theorem kept_get (ns name : String) (m : Memory) : m.Kept (get ns name m).store := by
  have hk := kept_called m .get ns name
  rw [get]
  split
  · rename_i hc
    rw [hc] at hk
    exact hk
  · rename_i hc
    rw [hc] at hk
    exact hk

theorem calls_get (ns name : String) (m : Memory) :
    (get ns name m).store.calls = m.calls.set .get (m.calls.select .get + 1) := by
  simp only [get, called]
  cases m.failures.select .get <;> rfl

theorem calls_create (moment : Moment) (ns : String) (o : StatefulSet) (m : Memory) :
    (create moment ns o m).store.calls = m.calls.set .create (m.calls.select .create + 1) := by
  simp only [create, called]
  cases m.failures.select .create with
  | some message => rfl
  | none =>
    simp only [Option.map_none]
    split <;> rfl

theorem calls_update (moment : Moment) (ns : String) (o : StatefulSet) (m : Memory) :
    (update moment ns o m).store.calls = m.calls.set .update (m.calls.select .update + 1) := by
  simp only [update, called]
  cases m.failures.select .update with
  | some message => rfl
  | none =>
    simp only [Option.map_none]
    split
    · rfl
    · split <;> rfl

/-- A creation fails and keeps what is stored, or writes an object where there was none. -/
theorem create_cases (moment : Moment) (ns : String) (o : StatefulSet) (m : Memory) :
    ((∃ e, (create moment ns o m).result = .error e) ∧ m.Kept (create moment ns o m).store) ∨
    (m.peek ns o.objectName = none ∧
      (create moment ns o m).result = .ok (m.stamped moment o (createdMeta moment ns o)) ∧
      m.Written (key ns o.objectName) (m.stamped moment o (createdMeta moment ns o))
        (create moment ns o m).store) := by
  have hk := kept_called m .create ns o.objectName
  rw [create]
  split
  · rename_i e m' hc
    rw [hc] at hk
    exact .inl ⟨⟨e, rfl⟩, hk⟩
  · rename_i m' hc
    rw [hc] at hk
    have hh := hk.trans (kept_handed m' .create o)
    simp only
    split
    · exact .inl ⟨⟨_, rfl⟩, hh⟩
    · rename_i hnone
      refine .inr ⟨?_, ?_, ?_⟩
      · rw [← hh.peek]
        exact hnone
      · rw [hh.stamped]
        rfl
      · rw [hh.stamped]
        exact hh.written (written_store _ _ _)

/-- An update fails and keeps what is stored, or replaces an object of the version it names. -/
theorem update_cases (moment : Moment) (ns : String) (o : StatefulSet) (m : Memory) :
    ((∃ e, (update moment ns o m).result = .error e) ∧ m.Kept (update moment ns o m).store) ∨
    ∃ existing, m.peek ns o.objectName = some existing ∧ o.version? = existing.version? ∧
      (update moment ns o m).result = .ok (m.stamped moment o (updatedMeta ns o existing)) ∧
      m.Written (key ns o.objectName) (m.stamped moment o (updatedMeta ns o existing))
        (update moment ns o m).store := by
  have hk := kept_called m .update ns o.objectName
  rw [update]
  split
  · rename_i e m' hc
    rw [hc] at hk
    exact .inl ⟨⟨e, rfl⟩, hk⟩
  · rename_i m' hc
    rw [hc] at hk
    have hh := hk.trans (kept_handed m' .update o)
    simp only
    split
    · exact .inl ⟨⟨_, rfl⟩, hh⟩
    · rename_i existing hsome
      split
      · exact .inl ⟨⟨_, rfl⟩, hh⟩
      · rename_i hv
        refine .inr ⟨existing, ?_, Decidable.of_not_not hv, ?_, ?_⟩
        · rw [← hh.peek]
          exact hsome
        · rw [hh.stamped]
          rfl
        · rw [hh.stamped]
          exact hh.written (written_store _ _ _)

theorem update_ok (moment : Moment) (ns : String) {o existing : StatefulSet} {m : Memory}
    (hf : m.failures.update = none) (hp : m.peek ns o.objectName = some existing)
    (hv : o.version? = existing.version?) : ∃ new, (update moment ns o m).result = .ok new := by
  have hselect : m.failures.select .update = none := hf
  rw [update]
  simp only [called, hselect, Option.map_none]
  have hget : ((m.called .update ns o.objectName).2.handed .update o).objects.get?
      (key ns o.objectName) = some existing := hp
  simp only [called] at hget
  simp only [hget, hv, ne_eq, not_true_eq_false, if_false]
  exact ⟨_, rfl⟩

end Memory

end DesiredState
