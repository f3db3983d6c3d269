import DesiredState.Proofs.Members
import DesiredState.Schema.Record
/-!
The entries of typed maps. Main statements: what a map answers for a key after an entry was put in
(`at?_insert`) and after it was united with another one (`at?_union`), and that its answers
determine it (`eq_of_at?`).
-/

set_option autoImplicit false
set_option relaxedAutoImplicit false

namespace DesiredState

private theorem Members.get?_union {α : Type} (first second : Members α) (hs : Increasing second)
    (k : String) : (first.union second).get? k = (first.get? k).or (second.get? k) := by
  unfold union
  induction second generalizing first with
  | nil => simp
  | cons m ms ih =>
    obtain ⟨l, v⟩ := m
    have hl : Members.get? l ms = none := hs.get?_tail_self
    have hnew : (insertNew l v first).get? k =
        if k = l then (first.get? k).or (some v) else first.get? k := by
      unfold insertNew
      by_cases hk : k = l
      · subst hk
        cases hf : first.get? k <;> simp [hf]
      · cases hf : first.get? l <;> simp [hk]
    rw [List.foldl_cons, ih _ hs.tail, hnew, get?_cons]
    by_cases hk : k = l
    · subst hk
      simp [hl]
    · simp [hk]

namespace Value

variable {t : Ty}

theorem entries_ofEntries (ms : Members (Value t)) (h : Members.Increasing ms) :
    (ofEntries ms h).entries = ms := by
  have hd : (ofEntries ms h).memberData = ms.mapValues datum := rfl
  unfold entries
  simp only [hd, Members.mapValues, List.pmap_map]
  induction ms with
  | nil => rfl
  | cons m ms ih => rw [List.pmap_cons, ih h.tail rfl]

private theorem datum_eq_entries (v : Value (.map t)) :
    v.datum = .fields (v.entries.mapValues datum) := by
  rw [v.datum_eq_map, entries, Members.mapValues, List.map_pmap]
  simp

theorem eq_of_at? {v w : Value (.map t)} (h : ∀ k, v.at? k = w.at? k) : v = w := by
  have hentries : v.entries = w.entries := v.entries_increasing.ext w.entries_increasing h
  apply Value.ext
  rw [datum_eq_entries, datum_eq_entries, hentries]

theorem at?_insert (v : Value (.map t)) (k l : String) (x : Value t) :
    (v.insert l x).at? k = if k = l then some x else v.at? k := by
  rw [at?, insert, entries_ofEntries]
  split
  · rename_i he
    subst he
    exact Members.get?_insert_self _ _ _
  · rename_i hne
    exact Members.get?_insert_of_ne hne _ _

theorem at?_union (first second : Value (.map t)) (k : String) :
    (first.union second).at? k = (first.at? k).or (second.at? k) := by
  rw [at?, union, entries_ofEntries, Members.get?_union _ _ second.entries_increasing]
  rfl

end Value

end DesiredState
