import DesiredState.Proofs.Store.Requests
/-!
What the generation of a stored object counts. Main statement: `generation_of_update`, an update
counts whether the specification that is submitted differs from the stored one, before a server
fills anything in; so it counts the changes of what is stored exactly where the two comparisons
agree.
-/

set_option autoImplicit false
set_option relaxedAutoImplicit false

namespace DesiredState.Memory

/-- The generation of the object is that of the one it replaced, and one more if the specification
that is stored has changed. -/
def CountsChange (existing new : StatefulSet) (g : Int) : Prop :=
  new.generation? = some (if specChanged new existing then g + 1 else g)

instance (existing new : StatefulSet) (g : Int) : Decidable (CountsChange existing new g) :=
  inferInstanceAs (Decidable (_ = _))

private theorem specChanged_congr {a b : StatefulSet}
    (h : a.get? StatefulSet.spec = b.get? StatefulSet.spec) (existing : StatefulSet) :
    specChanged a existing = specChanged b existing := by
  rw [specChanged, specChanged, h]

private theorem some_counted_inj {g : Int} {a b : Bool} :
    some (if a then g + 1 else g) = some (if b then g + 1 else g) ↔ a = b := by
  cases a <;> cases b <;> grind

/-- An update that succeeds counts a change where the submitted specification, as it is, differs
from the stored one. What is stored is the submitted one with the defaults of the server, so the
generation counts the changes of what is stored where these make no difference to the comparison,
and always where the server has nothing to add. -/
theorem generation_of_update {m : Memory} {moment : Moment} {ns : String} {o new : StatefulSet}
    (hok : (update moment ns o m).result = .ok new) :
    ∃ existing, m.peek ns o.objectName = some existing ∧
      (update moment ns o m).store.peek ns o.objectName = some new ∧
      new.get? StatefulSet.spec = (o.get? StatefulSet.spec).map (filledSpec m.serverDefaults) ∧
      (∀ g, existing.generation? = some g → g < 2 ^ 63 - 1 →
        new.generation? = some (if specChanged o existing then g + 1 else g) ∧
        (CountsChange existing new g ↔ specChanged o existing = specChanged new existing)) ∧
      ((o.get? StatefulSet.spec).map (filledSpec m.serverDefaults) = o.get? StatefulSet.spec →
        specChanged o existing = specChanged new existing) := by
  rcases update_cases moment ns o m with ⟨⟨e, he⟩, -⟩ | ⟨existing, hfound, -, hresult, hwritten⟩
  · cases he.symm.trans hok
  · cases hresult.symm.trans hok
    refine ⟨existing, hfound, hwritten.peek_self, get?_stamped_spec, fun g hg hmax => ?_,
      fun hsame => ?_⟩
    · have hcounted : (m.stamped moment o (updatedMeta ns o existing)).generation? =
          some (if specChanged o existing then g + 1 else g) :=
        generation?_stamped_updatedMeta hg (by omega)
      refine ⟨hcounted, ?_⟩
      rw [CountsChange, hcounted]
      exact some_counted_inj
    · exact specChanged_congr (hsame.symm.trans get?_stamped_spec.symm) existing

def replicated (version : String) (replicas : Value .int32) : StatefulSet :=
  let r := (Record.blank .objectMeta).put ObjectMeta.name (.ofText "db")
  ((Record.blank .statefulSet).put StatefulSet.metadata
    (r.put ObjectMeta.resourceVersion (.ofText version))).put StatefulSet.spec
      ((Record.blank .statefulSetSpec).put StatefulSetSpec.replicas replicas)

def replicatedStore (serverDefaults : Bool) : Memory :=
  (create ⟨⟨0, 0⟩, "u"⟩ "prod" (replicated "" (.ofInt32 3 (Eq.refl true)))
    (empty serverDefaults)).store

private theorem exists_update_of_any {m : Memory} {moment : Moment} {ns name : String}
    {o : StatefulSet} {test : StatefulSet → StatefulSet → Bool}
    (h : (m.peek ns name).any (fun existing =>
      (update moment ns o m).result.toOption.any (test existing)) = true) :
    ∃ existing new, m.peek ns name = some existing ∧ (update moment ns o m).result = .ok new ∧
      test existing new = true := by
  obtain ⟨existing, hfound, h⟩ := (Option.any_eq_true _ _).1 h
  cases hr : (update moment ns o m).result with
  | error e =>
    rw [hr] at h
    cases h
  | ok new =>
    rw [hr] at h
    exact ⟨existing, new, hfound, rfl, h⟩

/-- What was created is submitted with other replicas, to a store that adds nothing to it. -/
theorem generation_of_update_replicas :
    ∃ existing new, (replicatedStore false).peek "prod" "db" = some existing ∧
      (update ⟨⟨60, 0⟩, "v"⟩ "prod" (replicated "1" (.ofInt32 5 (Eq.refl true)))
        (replicatedStore false)).result = .ok new ∧
      existing.generation? = some 1 ∧ new.generation? = some 2 ∧ CountsChange existing new 1 := by
  have hfacts : ((replicatedStore false).peek "prod" "db").any (fun existing =>
      (update ⟨⟨60, 0⟩, "v"⟩ "prod" (replicated "1" (.ofInt32 5 (Eq.refl true)))
        (replicatedStore false)).result.toOption.any fun _ => existing.generation? = some 1 ∧
          specChanged (replicated "1" (.ofInt32 5 (Eq.refl true))) existing = true) = true := by
    decide +kernel
  obtain ⟨existing, new, hfound, hok, hfacts⟩ := exists_update_of_any hfacts
  obtain ⟨hg, hchanged⟩ := of_decide_eq_true hfacts
  obtain ⟨existing', hfound', -, -, hcounted, hagree⟩ := generation_of_update hok
  cases hfound.symm.trans hfound'
  obtain ⟨hnew, hiff⟩ := hcounted 1 hg (by decide)
  rw [if_pos hchanged] at hnew
  refine ⟨existing, new, hfound, hok, hg, hnew, hiff.2 (hagree ?_)⟩
  exact congrFun Option.map_id _

/-- What was created is submitted once more as it was, without what the server filled in. The
specification that is stored does not change, and the generation grows. -/
theorem resubmission_counted :
    ∃ existing new, (replicatedStore true).peek "prod" "db" = some existing ∧
      (update ⟨⟨60, 0⟩, "v"⟩ "prod" (replicated "1" (.ofInt32 3 (Eq.refl true)))
        (replicatedStore true)).result = .ok new ∧
      existing.generation? = some 1 ∧
      new.get? StatefulSet.spec = existing.get? StatefulSet.spec ∧
      specChanged new existing = false ∧ new.generation? = some 2 ∧
      ¬ CountsChange existing new 1 := by
  have hfacts : ((replicatedStore true).peek "prod" "db").any (fun existing =>
      (update ⟨⟨60, 0⟩, "v"⟩ "prod" (replicated "1" (.ofInt32 3 (Eq.refl true)))
        (replicatedStore true)).result.toOption.any fun new =>
          decide (existing.generation? = some 1 ∧
            new.get? StatefulSet.spec = existing.get? StatefulSet.spec ∧
            specChanged new existing = false ∧ new.generation? = some 2 ∧
            ¬ CountsChange existing new 1)) = true := by
    decide +kernel
  obtain ⟨existing, new, hfound, hok, hfacts⟩ := exists_update_of_any hfacts
  exact ⟨existing, new, hfound, hok, of_decide_eq_true hfacts⟩

end DesiredState.Memory
