/-!
Members of an object: a list of keyed values. The operations keep the keys strictly increasing,
so that equal objects are equal lists; strings are ordered by code point, which is the order of
their UTF-8 bytes. Main statements: what `get?` answers after `insert` and `erase`, and that both
keep the keys increasing.
-/

set_option autoImplicit false
set_option relaxedAutoImplicit false

namespace DesiredState

abbrev Members (α : Type) := List (String × α)

namespace Members

variable {α β : Type}

/-- The keys strictly increase: they are distinct and the smallest comes first. -/
def Increasing (ms : Members α) : Prop := ms.Pairwise (fun a b => a.1 < b.1)

instance (ms : Members α) : Decidable (Increasing ms) :=
  inferInstanceAs (Decidable (ms.Pairwise (fun a b => a.1 < b.1)))

def get? (k : String) : Members α → Option α
  | [] => none
  | (k', v) :: ms => if k = k' then some v else get? k ms

def insert (k : String) (v : α) : Members α → Members α
  | [] => [(k, v)]
  | (k', v') :: ms =>
    if k < k' then (k, v) :: (k', v') :: ms
    else if k = k' then (k, v) :: ms
    else (k', v') :: insert k v ms

def erase (k : String) (ms : Members α) : Members α := ms.filter (fun m => m.1 ≠ k)

def insertNew (k : String) (v : α) (ms : Members α) : Members α :=
  if (ms.get? k).isSome then ms else ms.insert k v

/-- Inserts the members one after the other: of equal keys the last one wins. -/
def ofList (ms : List (String × α)) : Members α :=
  ms.foldl (fun acc m => acc.insert m.1 m.2) []

/-- The union of two objects; on shared keys the first one wins. -/
def union (first second : Members α) : Members α :=
  second.foldl (fun acc m => insertNew m.1 m.2 acc) first

def mapValues (f : α → β) (ms : Members α) : Members β := ms.map (fun m => (m.1, f m.2))

def keys (ms : Members α) : List String := ms.map Prod.fst

@[simp] theorem get?_nil (k : String) : get? k ([] : Members α) = none := rfl

theorem get?_cons (k k' : String) (v : α) (ms : Members α) :
    get? k ((k', v) :: ms) = if k = k' then some v else get? k ms := rfl

theorem mem_of_get? {k : String} {ms : Members α} {v : α} (h : ms.get? k = some v) :
    (k, v) ∈ ms := by
  induction ms with
  | nil => simp at h
  | cons m ms ih =>
    obtain ⟨k', w⟩ := m
    rw [get?_cons] at h
    split at h
    · rename_i he
      cases h; subst he
      exact List.mem_cons_self
    · exact List.mem_cons_of_mem _ (ih h)

@[simp] theorem get?_insert_self (k : String) (v : α) (ms : Members α) :
    (ms.insert k v).get? k = some v := by
  induction ms with
  | nil => simp [insert, get?]
  | cons m ms ih =>
    obtain ⟨k', v'⟩ := m
    unfold insert
    split
    · simp [get?]
    · split
      · simp [get?]
      · rename_i hne
        simp [get?, hne, ih]

@[simp] theorem get?_insert_of_ne {k k' : String} (h : k ≠ k') (v : α) (ms : Members α) :
    (ms.insert k' v).get? k = ms.get? k := by
  induction ms with
  | nil => simp [insert, get?, h]
  | cons m ms ih =>
    obtain ⟨k'', v''⟩ := m
    unfold insert
    split
    · simp [get?, h]
    · split
      · rename_i he
        subst he
        simp [get?, h]
      · simp [get?, ih]

@[simp] theorem get?_erase_self (k : String) (ms : Members α) : (ms.erase k).get? k = none := by
  induction ms with
  | nil => rfl
  | cons m ms ih =>
    obtain ⟨k', v'⟩ := m
    by_cases h : k' = k
    · simpa [erase, h] using ih
    · have : ¬ k = k' := fun e => h e.symm
      simpa [erase, h, get?, this] using ih

@[simp] theorem get?_erase_of_ne {k k' : String} (h : k ≠ k') (ms : Members α) :
    (ms.erase k').get? k = ms.get? k := by
  induction ms with
  | nil => rfl
  | cons m ms ih =>
    obtain ⟨k'', v''⟩ := m
    by_cases h' : k'' = k'
    · have : ¬ k = k'' := fun e => h (e.trans h')
      rw [get?_cons, if_neg this, ← ih]
      simp [erase, h']
    · rw [get?_cons, ← ih]
      simp [erase, h', get?]

@[simp] theorem get?_mapValues (f : α → β) (k : String) (ms : Members α) :
    (ms.mapValues f).get? k = (ms.get? k).map f := by
  induction ms with
  | nil => rfl
  | cons m ms ih =>
    obtain ⟨k', v'⟩ := m
    have ih' : get? k (List.map (fun m => (m.1, f m.2)) ms) = (get? k ms).map f := ih
    by_cases h : k = k' <;> simp [mapValues, get?, h, ih']

def ascending : List String → Bool
  | a :: b :: rest => decide (a < b) && ascending (b :: rest)
  | _ => true

theorem pairwise_of_ascending {ks : List String} (h : ascending ks = true) :
    ks.Pairwise (· < ·) := by
  induction ks with
  | nil => exact List.Pairwise.nil
  | cons a rest ih =>
    cases rest with
    | nil => exact List.pairwise_singleton _ _
    | cons b rest =>
      simp only [ascending, Bool.and_eq_true, decide_eq_true_eq] at h
      have hb := ih h.2
      refine List.pairwise_cons.2 ⟨fun x hx => ?_, hb⟩
      rcases List.mem_cons.1 hx with hx | hx
      · exact hx ▸ h.1
      · exact String.lt_trans h.1 ((List.pairwise_cons.1 hb).1 x hx)

theorem increasing_nil : Increasing ([] : Members α) := List.Pairwise.nil

theorem Increasing.tail {m : String × α} {ms : Members α} (h : Increasing (m :: ms)) :
    Increasing ms := (List.pairwise_cons.1 h).2

theorem mem_insert {k : String} {v : α} {ms : Members α} {m : String × α}
    (h : m ∈ ms.insert k v) : m = (k, v) ∨ m ∈ ms := by
  induction ms with
  | nil => simpa [insert] using h
  | cons m' ms ih =>
    obtain ⟨k', v'⟩ := m'
    unfold insert at h
    split at h
    · simpa using h
    · split at h
      · rcases List.mem_cons.1 h with h | h
        · exact .inl h
        · exact .inr (List.mem_cons_of_mem _ h)
      · rcases List.mem_cons.1 h with h | h
        · exact .inr (h ▸ List.mem_cons_self)
        · exact (ih h).imp_right (List.mem_cons_of_mem _)

private theorem lt_of_not_lt_of_ne {a b : String} (h : ¬ a < b) (hne : a ≠ b) : b < a := by
  rcases String.le_total a b with hle | hle
  · exact absurd (String.le_antisymm hle (String.not_lt.1 h)) hne
  · exact Classical.byContradiction fun hn =>
      hne (String.le_antisymm (String.not_lt.1 hn) hle)

theorem Increasing.insert {ms : Members α} (h : Increasing ms) (k : String) (v : α) :
    Increasing (ms.insert k v) := by
  induction ms with
  | nil => exact List.pairwise_singleton _ _
  | cons m ms ih =>
    obtain ⟨k', v'⟩ := m
    have hc := List.pairwise_cons.1 h
    unfold Members.insert
    split
    · rename_i hlt
      refine List.pairwise_cons.2 ⟨fun a ha => ?_, h⟩
      rcases List.mem_cons.1 ha with ha | ha
      · subst ha; exact hlt
      · exact String.lt_trans hlt (hc.1 a ha)
    · rename_i hlt
      split
      · rename_i he
        subst he
        exact List.pairwise_cons.2 ⟨hc.1, hc.2⟩
      · rename_i hne
        refine List.pairwise_cons.2 ⟨fun a ha => ?_, ih hc.2⟩
        rcases mem_insert ha with ha | ha
        · subst ha; exact lt_of_not_lt_of_ne hlt hne
        · exact hc.1 a ha

theorem Increasing.erase {ms : Members α} (h : Increasing ms) (k : String) :
    Increasing (ms.erase k) := List.Pairwise.filter _ h

theorem Increasing.mapValues {ms : Members α} (h : Increasing ms) (f : α → β) :
    Increasing (ms.mapValues f) := List.pairwise_map.2 h

private theorem Increasing.insertNew {ms : Members α} (h : Increasing ms) (k : String) (v : α) :
    Increasing (insertNew k v ms) := by
  unfold Members.insertNew
  split
  · exact h
  · exact h.insert k v

private theorem Increasing.foldl {γ : Type} (f : Members α → γ → Members α)
    (hf : ∀ ms x, Increasing ms → Increasing (f ms x)) (xs : List γ) {ms : Members α}
    (h : Increasing ms) : Increasing (xs.foldl f ms) := by
  induction xs generalizing ms with
  | nil => exact h
  | cons x xs ih => exact ih (hf ms x h)

theorem mem_of_mem_ofList {ms : List (String × α)} {m : String × α} (h : m ∈ ofList ms) :
    m ∈ ms := by
  have key : ∀ (xs : List (String × α)) (acc : Members α),
      m ∈ xs.foldl (fun acc m => acc.insert m.1 m.2) acc → m ∈ acc ∨ m ∈ xs := by
    intro xs
    induction xs with
    | nil => exact fun acc h => .inl h
    | cons x xs ih =>
      intro acc h
      rcases ih _ h with h | h
      · rcases mem_insert h with h | h
        · exact .inr (h ▸ List.mem_cons_self)
        · exact .inl h
      · exact .inr (List.mem_cons_of_mem _ h)
  exact (key ms [] h).resolve_left List.not_mem_nil

theorem increasing_ofList (ms : List (String × α)) : Increasing (ofList ms) :=
  Increasing.foldl _ (fun _ m h => h.insert m.1 m.2) ms increasing_nil

theorem Increasing.union {ms : Members α} (h : Increasing ms) (more : Members α) :
    Increasing (ms.union more) :=
  Increasing.foldl _ (fun _ m h => h.insertNew m.1 m.2) more h

theorem Increasing.get?_eq_none_of_lt {ms : Members α} {k k' : String} {v : α}
    (h : Increasing ((k', v) :: ms)) (hk : k < k') : ms.get? k = none := by
  have hall := (List.pairwise_cons.1 h).1
  clear h
  induction ms with
  | nil => rfl
  | cons m ms ih =>
    obtain ⟨k'', v''⟩ := m
    have hlt : k' < k'' := hall _ List.mem_cons_self
    have hne : ¬ k = k'' := by
      rintro rfl
      exact String.lt_irrefl _ (String.lt_trans hlt hk)
    rw [get?_cons, if_neg hne]
    exact ih fun a ha => hall a (List.mem_cons_of_mem _ ha)

end Members

end DesiredState
