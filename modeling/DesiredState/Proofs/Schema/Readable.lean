import DesiredState.Proofs.Json.Readable
import DesiredState.Proofs.Schema.Json
/-!
Typed data that can be read back: their integers are in range, and they nest within some levels.
Main statements: `inRange_of_read`, for data that were read; `readable_of_nestsWithin`, for data of
a type without free-form data; and `readable_of_fields`, for an object that has such types but for
some fields.
-/

set_option autoImplicit false
set_option relaxedAutoImplicit false

namespace DesiredState

namespace Kind

private theorem initial_inRange (k : Kind) :
    k.fields.all (fun f => f.initial?.all fun d => d.toJson.inRange) = true := by
  cases k <;> decide +kernel

private theorem complete_inRange {k : Kind} {found : String → Option Datum}
    (h : ∀ f ∈ k.fields, ∀ d, found f.name = some d → d.toJson.inRange = true) :
    (Datum.fields (k.complete found)).toJson.inRange = true := by
  rw [Datum.toJson, Datum.fieldsToJson_eq_mapValues, Json.inRange_obj_iff]
  intro m hm
  obtain ⟨n, hn, rfl⟩ := List.mem_map.1 hm
  obtain ⟨f, hf, hfn⟩ := List.mem_filterMap.1 hn
  obtain ⟨d, hd, rfl⟩ := Option.map_eq_some_iff.1 hfn
  cases hfound : found f.name with
  | some e =>
    rw [hfound, Option.some_or] at hd
    exact h f hf d (hfound.trans hd)
  | none =>
    rw [hfound, Option.none_or] at hd
    have hinitial := List.all_eq_true.1 k.initial_inRange f hf
    rw [hd] at hinitial
    exact hinitial

end Kind

theorem isInt64_of_isInt32 {n : Int} (h : isInt32 n = true) : isInt64 n = true := by
  rw [isInt32, Bool.and_eq_true, decide_eq_true_eq, decide_eq_true_eq] at h
  rw [isInt64, Bool.and_eq_true, decide_eq_true_eq, decide_eq_true_eq]
  omega

theorem inRange_of_isInt64 {n : Int} (h : isInt64 n = true) : (Json.int n).inRange = true := by
  rw [isInt64, Bool.and_eq_true, decide_eq_true_eq, decide_eq_true_eq] at h
  exact Json.inRange_int_iff.2 ⟨by omega, by omega⟩

namespace Scalar

private theorem inRange_of_datum? {s : Scalar} (hs : s.inRange = true) {t : Ty} {d : Datum}
    (h : s.datum? t = some d) : d.toJson.inRange = true := by
  cases t with
  | free =>
    obtain ⟨j, hj, rfl⟩ := Option.map_eq_some_iff.1 h
    rw [inRange, hj] at hs
    exact hs
  | intOrText =>
    simp only [datum?] at h
    split at h
    · split at h
      · rename_i hi
        cases h
        exact inRange_of_isInt64 (isInt64_of_isInt32 hi)
      · cases h
    · cases h
      rfl
    · cases h
  | list t =>
    simp only [datum?] at h
    split at h <;> cases h
    rfl
  | map t =>
    simp only [datum?] at h
    split at h <;> cases h
    rfl
  | object k =>
    simp only [datum?] at h
    split at h <;> cases h
    exact Kind.complete_inRange (by simp)
  | bool | text | time | literal w =>
    obtain ⟨x, _, rfl⟩ := Option.map_eq_some_iff.1 h
    rfl
  | int32 =>
    obtain ⟨x, hx, rfl⟩ := Option.map_eq_some_iff.1 h
    exact inRange_of_isInt64 (isInt64_of_isInt32 (Option.filter_eq_some_iff.1 hx).2)
  | int64 =>
    obtain ⟨x, hx, rfl⟩ := Option.map_eq_some_iff.1 h
    exact inRange_of_isInt64 (Option.filter_eq_some_iff.1 hx).2

end Scalar

namespace Node

mutual
theorem inRange_of_read {depth : Nat} {t : Ty} :
    (n : Node) → n.inRange = true → {d : Datum} → n.read depth t = .ok d →
      d.toJson.inRange = true
  | .scalar s, hn, d, h => by
    cases hs : s.datum? t with
    | none => simp [read, hs] at h
    | some x =>
      simp only [read, hs, Option.elim_some, Except.ok.injEq] at h
      exact h ▸ Scalar.inRange_of_datum? hn hs
  | .seq items, hn, d, h => by
    unfold read at h
    split at h
    · rename_i t m
      cases hi : readItems m t items with
      | error e => simp [hi, Except.map] at h
      | ok ds =>
        simp only [hi, Except.map, Except.ok.injEq] at h
        rw [← h, Datum.toJson, Datum.itemsToJson_eq_map, Json.inRange_arr_iff]
        intro j hj
        obtain ⟨e, he, rfl⟩ := List.mem_map.1 hj
        exact inRange_of_readItems items hn hi e he
    · cases hj : toJson depth (.seq items) with
      | error e => simp [hj, Except.map] at h
      | ok j =>
        simp only [hj, Except.map, Except.ok.injEq] at h
        exact h ▸ (readable_of_toJson _ hn hj).inRange
    · cases h
    · cases h
  | .map entries, hn, d, h => by
    unfold read at h
    split at h
    · rename_i t m
      cases hi : readEntries m t entries with
      | error e => simp [hi, Except.map] at h
      | ok ms =>
        simp only [hi, Except.map, Except.ok.injEq] at h
        rw [← h, Datum.toJson, Datum.fieldsToJson_eq_mapValues, Json.inRange_obj_iff]
        intro x hx
        obtain ⟨e, he, rfl⟩ := List.mem_map.1 hx
        exact inRange_of_readEntries entries hn hi e (Members.mem_of_mem_ofList he)
    · rename_i k m
      cases hi : readMembers m k entries with
      | error e => simp [hi, Except.map] at h
      | ok ms =>
        simp only [hi, Except.map, Except.ok.injEq] at h
        refine h ▸ Kind.complete_inRange fun f _ d hd => ?_
        obtain ⟨d', hg, rfl⟩ : ∃ d', Members.get? f.name ms.reverse = some d' ∧ d' = some d := by
          cases hg : Members.get? f.name ms.reverse with
          | none => simp [hg] at hd
          | some d' => exact ⟨d', rfl, by simpa [hg] using hd⟩
        exact inRange_of_readMembers entries hn hi f.name d
          (List.mem_reverse.1 (Members.mem_of_get? hg))
    · cases hj : toJson depth (.map entries) with
      | error e => simp [hj, Except.map] at h
      | ok j =>
        simp only [hj, Except.map, Except.ok.injEq] at h
        exact h ▸ (readable_of_toJson _ hn hj).inRange
    · cases h
    · cases h
    · cases h
theorem inRange_of_readItems {depth : Nat} {t : Ty} :
    (ns : List Node) → inRangeItems ns = true → {ds : List Datum} →
      readItems depth t ns = .ok ds → ∀ d ∈ ds, d.toJson.inRange = true
  | [], _, ds, h => by
    cases h
    simp
  | n :: ns, hns, ds, h => by
    rw [inRangeItems, Bool.and_eq_true] at hns
    obtain ⟨d, hd, h⟩ := ok_of_bind h
    obtain ⟨ds', hds, h⟩ := ok_of_bind h
    cases h
    exact List.forall_mem_cons.2 ⟨inRange_of_read n hns.1 hd, inRange_of_readItems ns hns.2 hds⟩
theorem inRange_of_readEntries {depth : Nat} {t : Ty} :
    (es : List (Option String × Node)) → inRangeEntries es = true →
      {ms : List (String × Datum)} → readEntries depth t es = .ok ms →
        ∀ m ∈ ms, m.2.toJson.inRange = true
  | [], _, ms, h => by
    cases h
    simp
  | (none, _) :: _, _, ms, h => by cases h
  | (some k, n) :: es, hes, ms, h => by
    rw [inRangeEntries, Bool.and_eq_true] at hes
    obtain ⟨d, hd, h⟩ := ok_of_bind h
    obtain ⟨ms', hms, h⟩ := ok_of_bind h
    cases h
    exact List.forall_mem_cons.2 ⟨inRange_of_read n hes.1 hd, inRange_of_readEntries es hes.2 hms⟩
theorem inRange_of_readMembers {depth : Nat} {k : Kind} :
    (es : List (Option String × Node)) → inRangeEntries es = true →
      {ms : List (String × Option Datum)} → readMembers depth k es = .ok ms →
        ∀ name d, (name, some d) ∈ ms → d.toJson.inRange = true
  | [], _, ms, h => by
    cases h
    simp
  | (none, _) :: _, _, ms, h => by cases h
  | (some key, n) :: es, hes, ms, h => by
    rw [inRangeEntries, Bool.and_eq_true] at hes
    unfold readMembers at h
    split at h
    · exact inRange_of_readMembers es hes.2 h
    · split at h
      · obtain ⟨d, hd, h⟩ := ok_of_bind h
        obtain ⟨ms', hms, h⟩ := ok_of_bind h
        cases h
        intro name d' hm
        rcases List.mem_cons.1 hm with hm | hm
        · cases hm
          exact inRange_of_read n hes.1 hd
        · exact inRange_of_readMembers es hes.2 hms name d' hm
      · obtain ⟨ms', hms, h⟩ := ok_of_bind h
        cases h
        intro name d hm
        rcases List.mem_cons.1 hm with hm | hm
        · cases hm
        · exact inRange_of_readMembers es hes.2 hms name d hm
      · cases h
end

end Node

theorem Value.inRange_of_read {t : Ty} {depth : Nat} {n : Node} {v : Value t}
    (hn : n.inRange = true) (h : Value.read depth n = .ok v) : v.toJson.inRange = true := by
  unfold Value.read at h
  split at h
  · rename_i d hd
    cases h
    exact Node.inRange_of_read n hn hd
  · cases h

/-- Data of the type nest within some levels, and none of them are free-form. -/
def Ty.nestsWithin : Nat → Ty → Bool
  | _, .free | 0, .list _ | 0, .map _ | 0, .object _ => false
  | n + 1, .list t | n + 1, .map t => t.nestsWithin n
  | n + 1, .object k => k.fields.all fun f => f.type.nestsWithin n
  | _, _ => true

namespace Datum

private theorem not_hasType_free {j : Json} {t : Ty} {n : Nat} (hn : t.nestsWithin n = true) :
    (Datum.free j).hasType t = false := by
  cases t with
  | free =>
    rw [Ty.nestsWithin] at hn
    cases hn
  | _ => rfl

private theorem inRange_of_isAtom {d : Datum} (ha : d.toJson.isAtom = true) {t : Ty} {n : Nat}
    (h : d.hasType t = true) (hn : t.nestsWithin n = true) : d.toJson.inRange = true := by
  cases d with
  | int i =>
    cases t with
    | int32 => exact inRange_of_isInt64 (isInt64_of_isInt32 h)
    | int64 => exact inRange_of_isInt64 h
    | intOrText => exact inRange_of_isInt64 (isInt64_of_isInt32 h)
    | _ => cases h
  | free j =>
    rw [not_hasType_free hn] at h
    cases h
  | list ds => cases ha
  | fields ms => cases ha
  | bool | text | time => rfl

theorem readable_of_nestsWithin {d : Datum} {t : Ty} (h : d.hasType t = true) {n : Nat}
    (hn : t.nestsWithin n = true) : d.toJson.Readable n := by
  induction d using inductionOn generalizing t n with
  | atom d ha =>
    refine ⟨inRange_of_isAtom ha h hn, ?_⟩
    rw [Json.depth_of_isAtom ha]
    exact Nat.zero_le n
  | free j =>
    rw [not_hasType_free hn] at h
    cases h
  | list ds ih =>
    cases t with
    | list t =>
      cases n with
      | zero => cases hn
      | succ n =>
        rw [Ty.nestsWithin] at hn
        rw [toJson, itemsToJson_eq_map, Json.readable_arr_iff]
        intro j hj
        obtain ⟨d, hd, rfl⟩ := List.mem_map.1 hj
        exact ih d hd (hasType_list_iff.1 h d hd) hn
    | _ => cases h
  | fields ms ih =>
    have hmembers : ∃ m, n = m + 1 ∧ ∀ e ∈ ms, ∃ u, e.2.hasType u = true ∧
        u.nestsWithin m = true := by
      cases t with
      | map t =>
        cases n with
        | zero => cases hn
        | succ n => exact ⟨n, rfl, fun e he => ⟨t, (hasType_map_iff.1 h).2 e he, hn⟩⟩
      | object k =>
        cases n with
        | zero => cases hn
        | succ n =>
          refine ⟨n, rfl, fun e he => ?_⟩
          obtain ⟨f, hf, ht⟩ := (hasType_object_iff.1 h).2.1 e he
          exact ⟨f.type, ht, List.all_eq_true.1 hn f (Kind.mem_of_field? hf).1⟩
      | _ => cases h
    obtain ⟨m, rfl, hmembers⟩ := hmembers
    rw [toJson, fieldsToJson_eq_mapValues, Json.readable_obj_iff]
    intro e he
    obtain ⟨e', he', rfl⟩ := List.mem_map.1 he
    obtain ⟨u, hu, hm⟩ := hmembers e' he'
    exact ih e' he' hu hm

end Datum

namespace Value

variable {k : Kind}

def fieldsNestWithin (k : Kind) (levels : Nat) (others : List String) : Bool :=
  k.fields.all fun f => decide (f.name ∈ others) || f.type.nestsWithin levels

theorem readable_of_member? (r : Record k) {levels : Nat} {others : List String}
    (hfields : fieldsNestWithin k levels others = true) {name : String} (hname : name ∉ others)
    {v : Json} (hv : r.toJson.member? name = some v) : v.Readable levels := by
  rw [toJson_eq_obj] at hv
  have hget : (r.members.get? name).map Datum.toJson = some v := by
    rw [← Members.get?_mapValues]
    exact hv
  obtain ⟨d, hd, rfl⟩ := Option.map_eq_some_iff.1 hget
  obtain ⟨f, hf, ht⟩ := r.members_spec.2.1 _ (Members.mem_of_get? hd)
  have hplain := List.all_eq_true.1 hfields f (Kind.mem_of_field? hf).1
  rw [(Kind.mem_of_field? hf).2, Bool.or_eq_true, decide_eq_true_eq] at hplain
  exact Datum.readable_of_nestsWithin ht (hplain.resolve_left hname)

/-- An object is readable where its fields nest within the levels, but for some that hold what is
readable. -/
theorem readable_of_fields (r : Record k) {levels n : Nat} {others : List String}
    (hfields : fieldsNestWithin k levels others = true) (hle : levels ≤ n)
    (hothers : ∀ name ∈ others, ∀ v, r.toJson.member? name = some v → v.Readable n) :
    r.toJson.Readable (n + 1) := by
  refine Json.readable_of_member? r.ordered_toJson (by rw [toJson_eq_obj]; rfl) fun name v hv => ?_
  by_cases hname : name ∈ others
  · exact hothers name hname v hv
  · exact (r.readable_of_member? hfields hname hv).mono hle

end Value

end DesiredState
