import DesiredState.Document
import DesiredState.Schema.Typing
/-!
Documents as data of a type. Unknown fields of an object are skipped unread; a null counts as a
missing field; a field that occurs twice is read twice, and its last occurrence counts. Main
statement: what is read belongs to the type.
-/

set_option autoImplicit false
set_option relaxedAutoImplicit false

namespace DesiredState

def Ty.describe : Ty → String
  | .bool => "a boolean"
  | .int32 => "a 32-bit integer"
  | .int64 => "a 64-bit integer"
  | .text => "a string"
  | .literal word => word
  | .time => "an RFC 3339 time"
  | .intOrText => "a 32-bit integer or a string"
  | .free => "a value"
  | .list _ => "a sequence"
  | .map _ => "a map"
  | .object _ => "an object"

namespace Ty

/-- A null in place of a fixed text is no missing field. -/
def mayBeNull : Ty → Bool
  | .literal _ => false
  | _ => true

end Ty

namespace Scalar

def datum? (s : Scalar) : Ty → Option Datum
  | .bool => s.bool?.map .bool
  | .int32 => (s.int?.filter isInt32).map .int
  | .int64 => (s.int?.filter isInt64).map .int
  | .text => s.text?.map .text
  | .literal w => (s.text?.filter (· == w)).map .text
  | .time => (s.text?.bind Timestamp.parse?).map .time
  | .intOrText =>
    match s.value? with
    | some (.int n) => if isInt32 n then some (.int n) else none
    | some (.str s) => some (.text s)
    | _ => none
  | .free => s.value?.map .free
  | .list _ => if s.empty then some (.list []) else none
  | .map _ => if s.empty then some (.fields []) else none
  | .object k => if s.empty then some (.fields (k.complete fun _ => none)) else none

private theorem hasType_of_datum? {s : Scalar} {t : Ty} {d : Datum} (h : s.datum? t = some d) :
    d.hasType t = true := by
  cases t with
  | free =>
    obtain ⟨j, hj, rfl⟩ := Option.map_eq_some_iff.1 h
    have ha := s.atomic
    rw [hj] at ha
    exact Json.ordered_of_isAtom ha
  | intOrText =>
    simp only [datum?] at h
    split at h
    · split at h
      · rename_i hi; cases h; exact hi
      · cases h
    · cases h; rfl
    · cases h
  | list t =>
    simp only [datum?] at h
    split at h <;> cases h
    rfl
  | map t =>
    simp only [datum?] at h
    split at h <;> cases h
    exact Datum.hasType_map_iff.2 ⟨Members.increasing_nil, by simp⟩
  | object k =>
    simp only [datum?] at h
    split at h <;> cases h
    exact Kind.complete_hasType (by simp)
  | bool | text | time =>
    obtain ⟨x, _, rfl⟩ := Option.map_eq_some_iff.1 h
    rfl
  | int32 | int64 =>
    obtain ⟨x, hx, rfl⟩ := Option.map_eq_some_iff.1 h
    exact (Option.filter_eq_some_iff.1 hx).2
  | literal w =>
    obtain ⟨x, hx, rfl⟩ := Option.map_eq_some_iff.1 h
    exact (Option.filter_eq_some_iff.1 hx).2

end Scalar

namespace Node

mutual
def read (depth : Nat) (t : Ty) : Node → Except Mismatch Datum
  | .scalar s => (s.datum? t).elim (.error (.wrongShape t.describe)) .ok
  | .seq items =>
    match t, depth with
    | .list t, d + 1 => (readItems d t items).map .list
    | .free, _ => (toJson depth (.seq items)).map .free
    | .list _, 0 => .error .tooDeep
    | t, _ => .error (.wrongShape t.describe)
  | .map entries =>
    match t, depth with
    | .map t, d + 1 => (readEntries d t entries).map fun ms => .fields (Members.ofList ms)
    | .object k, d + 1 =>
      (readMembers d k entries).map fun ms =>
        .fields (k.complete fun name => (Members.get? name ms.reverse).join)
    | .free, _ => (toJson depth (.map entries)).map .free
    | .map _, 0 => .error .tooDeep
    | .object _, 0 => .error .tooDeep
    | t, _ => .error (.wrongShape t.describe)
def readItems (depth : Nat) (t : Ty) : List Node → Except Mismatch (List Datum)
  | [] => .ok []
  | n :: ns => do
    let d ← n.read depth t
    let ds ← readItems depth t ns
    .ok (d :: ds)
def readEntries (depth : Nat) (t : Ty) :
    List (Option String × Node) → Except Mismatch (List (String × Datum))
  | [] => .ok []
  | (none, _) :: _ => .error .keyNotText
  | (some k, n) :: es => do
    let d ← n.read depth t
    let ms ← readEntries depth t es
    .ok ((k, d) :: ms)
/-- Reads the members of an object; a member whose value is missing is `none`. -/
def readMembers (depth : Nat) (k : Kind) :
    List (Option String × Node) → Except Mismatch (List (String × Option Datum))
  | [] => .ok []
  | (none, _) :: _ => .error .keyNotText
  | (some name, n) :: es =>
    match k.field? name with
    | none => readMembers depth k es
    | some f =>
      match if f.type.mayBeNull then n.presence else .given with
      | .given => do
        let d ← n.read depth f.type
        let ms ← readMembers depth k es
        .ok ((name, some d) :: ms)
      | .missing => do
        let ms ← readMembers depth k es
        .ok ((name, none) :: ms)
      | .contradictory => .error .notNull
end

mutual
theorem hasType_of_read {depth : Nat} {t : Ty} :
    (n : Node) → {d : Datum} → n.read depth t = .ok d → d.hasType t = true
  | .scalar s, d, h => by
    cases hs : s.datum? t with
    | none => simp [read, hs] at h
    | some x =>
      simp only [read, hs, Option.elim_some, Except.ok.injEq] at h
      exact h ▸ Scalar.hasType_of_datum? hs
  | .seq items, d, h => by
    unfold read at h
    split at h
    · rename_i t m
      cases hi : readItems m t items with
      | error e => simp [hi, Except.map] at h
      | ok ds =>
        simp only [hi, Except.map, Except.ok.injEq] at h
        exact h ▸ Datum.hasType_list_iff.2 (hasType_of_readItems items hi)
    · cases hj : toJson depth (.seq items) with
      | error e => simp [hj, Except.map] at h
      | ok j =>
        simp only [hj, Except.map, Except.ok.injEq] at h
        exact h ▸ ordered_of_toJson _ hj
    · cases h
    · cases h
  | .map entries, d, h => by
    unfold read at h
    split at h
    · rename_i t m
      cases hi : readEntries m t entries with
      | error e => simp [hi, Except.map] at h
      | ok ms =>
        simp only [hi, Except.map, Except.ok.injEq] at h
        exact h ▸ Datum.hasType_map_iff.2 ⟨Members.increasing_ofList ms, fun x hx =>
          hasType_of_readEntries entries hi x (Members.mem_of_mem_ofList hx)⟩
    · rename_i k m
      cases hi : readMembers m k entries with
      | error e => simp [hi, Except.map] at h
      | ok ms =>
        simp only [hi, Except.map, Except.ok.injEq] at h
        refine h ▸ Kind.complete_hasType fun f hf d hd => ?_
        obtain ⟨d', hg, rfl⟩ :
            ∃ d', Members.get? f.name ms.reverse = some d' ∧ d' = some d := by
          cases hg : Members.get? f.name ms.reverse with
          | none => simp [hg] at hd
          | some d' => exact ⟨d', rfl, by simpa [hg] using hd⟩
        obtain ⟨g, hgf, ht⟩ := hasType_of_readMembers entries hi f.name d
          (List.mem_reverse.1 (Members.mem_of_get? hg))
        rw [Kind.field?_of_mem hf] at hgf
        cases hgf
        exact ht
    · cases hj : toJson depth (.map entries) with
      | error e => simp [hj, Except.map] at h
      | ok j =>
        simp only [hj, Except.map, Except.ok.injEq] at h
        exact h ▸ ordered_of_toJson _ hj
    · cases h
    · cases h
    · cases h
theorem hasType_of_readItems {depth : Nat} {t : Ty} :
    (ns : List Node) → {ds : List Datum} → readItems depth t ns = .ok ds →
      ∀ d ∈ ds, d.hasType t = true
  | [], ds, h => by
    simp only [readItems, Except.ok.injEq] at h
    simp [← h]
  | n :: ns, ds, h => by
    simp only [readItems, bind, Except.bind] at h
    split at h
    · cases h
    · rename_i d hd
      split at h
      · cases h
      · rename_i ds' hds
        cases h
        exact List.forall_mem_cons.2 ⟨hasType_of_read n hd, hasType_of_readItems ns hds⟩
theorem hasType_of_readEntries {depth : Nat} {t : Ty} :
    (es : List (Option String × Node)) → {ms : List (String × Datum)} →
      readEntries depth t es = .ok ms → ∀ m ∈ ms, m.2.hasType t = true
  | [], ms, h => by
    simp only [readEntries, Except.ok.injEq] at h
    simp [← h]
  | (none, _) :: _, ms, h => by simp [readEntries] at h
  | (some k, n) :: es, ms, h => by
    simp only [readEntries, bind, Except.bind] at h
    split at h
    · cases h
    · rename_i d hd
      split at h
      · cases h
      · rename_i ms' hms
        cases h
        exact List.forall_mem_cons.2 ⟨hasType_of_read n hd, hasType_of_readEntries es hms⟩
theorem hasType_of_readMembers {depth : Nat} {k : Kind} :
    (es : List (Option String × Node)) → {ms : List (String × Option Datum)} →
      readMembers depth k es = .ok ms →
        ∀ name d, (name, some d) ∈ ms → Datum.BelongsTo k name d
  | [], ms, h => by
    simp only [readMembers, Except.ok.injEq] at h
    simp [← h]
  | (none, _) :: _, ms, h => by simp [readMembers] at h
  | (some key, n) :: es, ms, h => by
    unfold readMembers at h
    split at h
    · exact hasType_of_readMembers es h
    · rename_i f hf
      split at h
      · simp only [bind, Except.bind] at h
        split at h
        · cases h
        · rename_i d hd
          split at h
          · cases h
          · rename_i ms' hms
            cases h
            intro name d' hm
            rcases List.mem_cons.1 hm with hm | hm
            · cases hm
              exact ⟨f, hf, hasType_of_read n hd⟩
            · exact hasType_of_readMembers es hms name d' hm
      · simp only [bind, Except.bind] at h
        split at h
        · cases h
        · rename_i ms' hms
          cases h
          intro name d hm
          rcases List.mem_cons.1 hm with hm | hm
          · cases hm
          · exact hasType_of_readMembers es hms name d hm
      · cases h
end

end Node

end DesiredState
