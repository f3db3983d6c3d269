import DesiredState.Members
import Mathlib.Data.List.Forall2
/-!
Members as finite maps: with increasing keys an object is determined by what it answers to each
key. Main statements: `Increasing.ext`, and what a filtering of the values leaves under a key.
-/

set_option autoImplicit false
set_option relaxedAutoImplicit false

namespace DesiredState.Members

variable {α β : Type}

private theorem mem_keys {k : String} {ms : Members α} : k ∈ ms.keys ↔ ∃ v, (k, v) ∈ ms := by
  constructor
  · intro h
    obtain ⟨m, hm, rfl⟩ := List.mem_map.1 h
    exact ⟨m.2, hm⟩
  · rintro ⟨v, h⟩
    exact List.mem_map.2 ⟨(k, v), h, rfl⟩

theorem get?_eq_none_iff {k : String} {ms : Members α} : ms.get? k = none ↔ k ∉ ms.keys := by
  induction ms with
  | nil => simp [keys]
  | cons m ms ih =>
    obtain ⟨k', v⟩ := m
    have hk : keys ((k', v) :: ms) = k' :: keys ms := rfl
    rw [get?_cons, hk, List.mem_cons, not_or]
    split
    · rename_i he
      simp [he]
    · rename_i hne
      simp [hne, ih]

theorem isSome_get?_iff {k : String} {ms : Members α} :
    (ms.get? k).isSome = true ↔ k ∈ ms.keys := by
  rw [Option.isSome_iff_ne_none, ne_eq, get?_eq_none_iff, not_not]

theorem Increasing.get?_of_mem {ms : Members α} (h : Increasing ms) {k : String} {v : α}
    (hm : (k, v) ∈ ms) : ms.get? k = some v := by
  induction ms with
  | nil => simp at hm
  | cons m ms ih =>
    obtain ⟨k', v'⟩ := m
    rw [get?_cons]
    rcases List.mem_cons.1 hm with hm | hm
    · cases hm
      rw [if_pos rfl]
    · have hlt : k' < k := (List.pairwise_cons.1 h).1 _ hm
      have hne : ¬ k = k' := fun e => String.lt_irrefl k' (e ▸ hlt)
      rw [if_neg hne]
      exact ih h.tail hm

private theorem Increasing.get?_head_eq_none {k k' : String} {v' : α} {ms : Members α}
    (h : Increasing ((k', v') :: ms)) (hk : k < k') : get? k ((k', v') :: ms) = none := by
  have hne : ¬ k = k' := fun e => String.lt_irrefl k' (e ▸ hk)
  rw [get?_cons, if_neg hne]
  exact h.get?_eq_none_of_lt hk

theorem Increasing.get?_tail_self {k : String} {v : α} {ms : Members α}
    (h : Increasing ((k, v) :: ms)) : ms.get? k = none := by
  rw [get?_eq_none_iff, mem_keys]
  rintro ⟨w, hw⟩
  exact String.lt_irrefl k ((List.pairwise_cons.1 h).1 _ hw)

private theorem lt_or_eq_or_gt (a b : String) : a < b ∨ a = b ∨ b < a := by
  by_cases hab : a < b
  · exact .inl hab
  · by_cases hba : b < a
    · exact .inr (.inr hba)
    · exact .inr (.inl (String.le_antisymm (String.not_lt.1 hba) (String.not_lt.1 hab)))

theorem Increasing.forall₂ {R : α → β → Prop} {as : Members α} {bs : Members β}
    (ha : Increasing as) (hb : Increasing bs)
    (h : ∀ k, Option.Rel R (as.get? k) (bs.get? k)) :
    List.Forall₂ (fun a b => a.1 = b.1 ∧ R a.2 b.2) as bs := by
  induction as generalizing bs with
  | nil =>
    cases bs with
    | nil => exact .nil
    | cons b bs =>
      have hk := h b.1
      rw [get?_nil, get?_cons, if_pos rfl] at hk
      cases hk
  | cons a as ih =>
    obtain ⟨k, v⟩ := a
    cases bs with
    | nil =>
      have hk := h k
      rw [get?_nil, get?_cons, if_pos rfl] at hk
      cases hk
    | cons b bs =>
      obtain ⟨l, w⟩ := b
      -- unless the first keys agree, the smaller of them is answered by one list only
      rcases lt_or_eq_or_gt k l with hlt | rfl | hlt
      · have hk := h k
        rw [hb.get?_head_eq_none hlt, get?_cons, if_pos rfl] at hk
        cases hk
      · have hk := h k
        rw [get?_cons, get?_cons, if_pos rfl, if_pos rfl] at hk
        cases hk with
        | some hr =>
          refine .cons ⟨rfl, hr⟩ (ih ha.tail hb.tail fun k' => ?_)
          by_cases he : k' = k
          · subst he
            rw [ha.get?_tail_self, hb.get?_tail_self]
            exact .none
          · have hk' := h k'
            rwa [get?_cons, get?_cons, if_neg he, if_neg he] at hk'
      · have hk := h l
        rw [ha.get?_head_eq_none hlt, get?_cons, if_pos rfl] at hk
        cases hk

theorem rel_get?_of_forall₂ {R : α → β → Prop} {as : Members α} {bs : Members β}
    (h : List.Forall₂ (fun a b => a.1 = b.1 ∧ R a.2 b.2) as bs) (k : String) :
    Option.Rel R (as.get? k) (bs.get? k) := by
  induction h with
  | nil => exact .none
  | @cons a b _ _ hab _ ih =>
    obtain ⟨hkey, hvalue⟩ := hab
    rw [get?_cons, get?_cons, ← hkey]
    split
    · exact .some hvalue
    · exact ih

theorem Increasing.ext {as bs : Members α} (ha : Increasing as) (hb : Increasing bs)
    (h : ∀ k, as.get? k = bs.get? k) : as = bs := by
  have hall := ha.forall₂ (R := Eq) hb fun k => by
    rw [h k]
    cases bs.get? k
    · exact .none
    · exact .some rfl
  clear ha hb h
  induction hall with
  | nil => rfl
  | cons hab _ ih => rw [ih, Prod.ext hab.1 hab.2]

theorem Increasing.ofList_eq {ms : Members α} (h : Increasing ms) : ofList ms = ms := by
  -- generalised to what was put in before, all of it below the members to come
  have key : ∀ (acc rest : Members α), Increasing (acc ++ rest) →
      rest.foldl (fun acc m => acc.insert m.1 m.2) acc = acc ++ rest := by
    intro acc rest
    induction rest generalizing acc with
    | nil => simp
    | cons m rest ih =>
      intro hi
      have hlt : ∀ a ∈ acc, a.1 < m.1 := fun a ha =>
        (List.pairwise_append.1 hi).2.2 a ha m List.mem_cons_self
      have hins : acc.insert m.1 m.2 = acc ++ [m] := by
        clear ih hi
        induction acc with
        | nil => rfl
        | cons a acc ih =>
          have ha := hlt a List.mem_cons_self
          have h₁ : ¬ m.1 < a.1 := fun hc => String.lt_irrefl _ (String.lt_trans ha hc)
          have h₂ : ¬ m.1 = a.1 := fun e => String.lt_irrefl a.1 (e ▸ ha)
          rw [Members.insert, if_neg h₁, if_neg h₂,
            ih fun b hb => hlt b (List.mem_cons_of_mem _ hb)]
          rfl
      rw [List.foldl_cons, hins, ih (acc ++ [m]) (by simpa using hi)]
      simp
  exact key [] ms h

theorem eq_nil_iff_get? {ms : Members α} : ms = [] ↔ ∀ k, ms.get? k = none := by
  constructor
  · rintro rfl k
    rfl
  · intro h
    cases ms with
    | nil => rfl
    | cons m ms =>
      have hk := h m.1
      rw [get?_cons, if_pos rfl] at hk
      cases hk

theorem Increasing.get?_filterMap {ms : Members α} (h : Increasing ms)
    (f : String → α → Option β) (k : String) :
    get? k (ms.filterMap fun m => (f m.1 m.2).map (m.1, ·)) = (ms.get? k).bind (f k) := by
  induction ms with
  | nil => rfl
  | cons m ms ih =>
    obtain ⟨k', v⟩ := m
    rw [List.filterMap_cons, get?_cons]
    by_cases he : k = k'
    · subst he
      rw [if_pos rfl]
      cases hf : f k v with
      | none => simp [hf, ih h.tail, h.get?_tail_self]
      | some w => simp [hf, get?_cons]
    · rw [if_neg he]
      cases hf : f k' v with
      | none => simp [ih h.tail]
      | some w => simp [get?_cons, he, ih h.tail]

theorem Increasing.filterMap {ms : Members α} (h : Increasing ms)
    (f : String → α → Option β) :
    Increasing (ms.filterMap fun m => (f m.1 m.2).map (m.1, ·)) := by
  refine List.Pairwise.filterMap _ (fun a b hab c hc d hd => ?_) h
  obtain ⟨x, _, rfl⟩ := Option.map_eq_some_iff.1 hc
  obtain ⟨y, _, rfl⟩ := Option.map_eq_some_iff.1 hd
  exact hab

theorem get?_foldl_insert (v : α) (ks : List String) (ms : Members α) (k : String) :
    get? k (ks.foldl (fun ms k => ms.insert k v) ms) = if k ∈ ks then some v else ms.get? k := by
  induction ks generalizing ms with
  | nil => simp
  | cons k' ks ih =>
    rw [List.foldl_cons, ih]
    by_cases hk : k ∈ ks
    · simp [hk]
    · by_cases he : k = k'
      · simp [he]
      · simp [hk, he, get?_insert_of_ne he]

theorem get?_foldl_erase (ks : List String) (ms : Members α) (k : String) :
    get? k (ks.foldl (fun ms k => ms.erase k) ms) = if k ∈ ks then none else ms.get? k := by
  induction ks generalizing ms with
  | nil => simp
  | cons l ks ih =>
    rw [List.foldl_cons, ih]
    by_cases hk : k ∈ ks
    · simp [hk]
    · by_cases hl : k = l
      · simp [hl]
      · simp [hk, hl]

theorem Increasing.foldl_insert {ms : Members α} (h : Increasing ms) (v : α)
    (ks : List String) : Increasing (ks.foldl (fun ms k => ms.insert k v) ms) := by
  induction ks generalizing ms with
  | nil => exact h
  | cons k ks ih => exact ih (h.insert k v)

end DesiredState.Members
