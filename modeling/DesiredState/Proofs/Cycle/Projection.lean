import DesiredState.Cycle.Basic
/-!
Cycles over a store that carries more than another one. Main statements: `map_reconcile`, that a
cycle over the richer store is the cycle over the other one, as far as the latter can tell, and
`keeps_reconcile`, that a cycle keeps what every call of the store keeps.
-/

set_option autoImplicit false
set_option relaxedAutoImplicit false

namespace DesiredState

variable {σ τ α ε φ π : Type}

def Answer.map (f : τ → σ) (a : Answer τ α ε) : Answer σ α ε := ⟨a.result, a.notices, f a.store⟩

def Cycle.map (f : τ → σ) (c : Cycle τ ε π) : Cycle σ ε π := ⟨c.result, c.reports, f c.store⟩

theorem Cycle.result_map (f : τ → σ) (c : Cycle τ ε π) : (c.map f).result = c.result := rfl

/-- Seen through `f`, every call of the richer store is a call of the other one. -/
structure Store.Follows (f : τ → σ) (rich : Store τ ε) (store : Store σ ε) : Prop where
  get : ∀ ns name t, (rich.get ns name t).map f = store.get ns name (f t)
  create : ∀ ns o t, (rich.create ns o t).map f = store.create ns o (f t)
  update : ∀ ns o t, (rich.update ns o t).map f = store.update ns o (f t)

section Following

variable [Wraps ε φ] {f : τ → σ} {rich : Store τ ε} {store : Store σ ε} (h : rich.Follows f store)
  (engine : Engine φ π) (rules : List IgnoreRule)

include h

private theorem map_createDesired (ns : String) (desired : StatefulSet) (t : τ) :
    (createDesired rich engine ns desired t).map f =
      createDesired store engine ns desired (f t) := by
  rw [createDesired, createDesired]
  cases engine.record desired with
  | error e => rfl
  | ok r =>
    simp only [← h.create ns r t]
    cases hr : (rich.create ns r t).result <;> simp only [Answer.map, hr] <;> rfl

variable [PatchResult π]

private theorem map_updateStored (ns : String) (stored desired : StatefulSet) (t : τ) :
    (updateStored rich engine rules ns stored desired t).map f =
      updateStored store engine rules ns stored desired (f t) := by
  rw [updateStored, updateStored]
  cases engine.calculate stored (copyStoreOwned stored desired) rules with
  | error e => rfl
  | ok patch =>
    by_cases hempty : PatchResult.isEmpty patch = true
    · simp only [if_pos hempty]
      rfl
    · simp only [if_neg hempty]
      cases engine.record (carryAnnotations stored (copyStoreOwned stored desired)) with
      | error e => rfl
      | ok r =>
        simp only [← h.update ns r t]
        cases hr : (rich.update ns r t).result <;> simp only [Answer.map, hr] <;> rfl

variable [Wraps ε ParameterError]

theorem map_reconcile (p : Parameters) (t : τ) :
    (reconcile rich engine rules p t).map f = reconcile store engine rules p (f t) := by
  by_cases haddress : p.name = "" ∨ p.ns = ""
  · rw [reconcile, reconcile, if_pos haddress, if_pos haddress]
    rfl
  · rw [reconcile, reconcile, if_neg haddress, if_neg haddress]
    simp only [← h.get p.ns p.name t]
    cases hr : (rich.get p.ns p.name t).result with
    | error e =>
      simp only [Answer.map, hr]
      rfl
    | ok found =>
      simp only [Answer.map, hr]
      cases render p with
      | error e => rfl
      | ok desired =>
        cases found with
        | none =>
          have hcreate := map_createDesired h engine p.ns desired (rich.get p.ns p.name t).store
          simp only [← hcreate]
          rfl
        | some o =>
          have hupdate := map_updateStored h engine rules p.ns o desired
            (rich.get p.ns p.name t).store
          simp only [← hupdate]
          rfl

end Following

/-- A property of its states that every call of the store keeps. -/
structure Store.Keeps (store : Store σ ε) (I : σ → Prop) : Prop where
  get : ∀ ns name s, I s → I (store.get ns name s).store
  create : ∀ ns o s, I s → I (store.create ns o s).store
  update : ∀ ns o s, I s → I (store.update ns o s).store

namespace Store.Keeps

variable {store : Store σ ε} {I : σ → Prop}

def certify (a : Answer σ α ε) (h : I a.store) : Answer {s // I s} α ε :=
  ⟨a.result, a.notices, ⟨a.store, h⟩⟩

def restrict (h : store.Keeps I) : Store {s // I s} ε where
  get ns name s := certify (store.get ns name s.1) (h.get ns name s.1 s.2)
  create ns o s := certify (store.create ns o s.1) (h.create ns o s.1 s.2)
  update ns o s := certify (store.update ns o s.1) (h.update ns o s.1 s.2)

private theorem follows_restrict (h : store.Keeps I) : h.restrict.Follows Subtype.val store :=
  ⟨fun _ _ _ => rfl, fun _ _ _ => rfl, fun _ _ _ => rfl⟩

end Store.Keeps

/-- What every call of the store keeps, a cycle keeps: it is a cycle on the states with the
property. -/
theorem keeps_reconcile [Wraps ε ParameterError] [Wraps ε φ] [PatchResult π] {store : Store σ ε}
    {I : σ → Prop} (h : store.Keeps I) (engine : Engine φ π) (rules : List IgnoreRule)
    (p : Parameters) (s : σ) (hs : I s) :
    I (reconcile store engine rules p s).store := by
  have hmap := map_reconcile h.follows_restrict engine rules p ⟨s, hs⟩
  rw [← hmap]
  exact (reconcile h.restrict engine rules p ⟨s, hs⟩).store.2

end DesiredState
