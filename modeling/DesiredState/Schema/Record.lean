import DesiredState.Schema.Read
/-!
Values of a type, and objects of a kind with their fields. A slot names a field together with the
proof that the kind has it; reading and writing through slots cannot leave the kind. Main
statements: what a slot reads after it, or another, was written.
-/

set_option autoImplicit false
set_option relaxedAutoImplicit false

namespace DesiredState

structure Value (t : Ty) where
  datum : Datum
  hasType : datum.hasType t = true
deriving DecidableEq

abbrev Record (k : Kind) := Value (.object k)

namespace Value

variable {t : Ty}

@[ext] theorem ext {a b : Value t} (h : a.datum = b.datum) : a = b := by
  cases a; cases b; cases h; rfl

def toJson (v : Value t) : Json := v.datum.toJson

def same (a b : Value t) : Bool := a.datum.same b.datum

def read (depth : Nat) (n : Node) : Except Mismatch (Value t) :=
  match h : n.read depth t with
  | .ok d => .ok ⟨d, Node.hasType_of_read n h⟩
  | .error e => .error e

def ofBool (b : Bool) : Value .bool := ⟨.bool b, rfl⟩
def ofText (s : String) : Value .text := ⟨.text s, rfl⟩
def ofTime (t : Timestamp) : Value .time := ⟨.time t, rfl⟩
def ofInt32 (n : Int) (h : isInt32 n = true) : Value .int32 := ⟨.int n, h⟩
def ofInt64 (n : Int) (h : isInt64 n = true) : Value .int64 := ⟨.int n, h⟩

def text (v : Value .text) : String :=
  match v.datum with
  | .text s => s
  | _ => ""

@[simp] theorem text_ofText (s : String) : (ofText s).text = s := rfl

def int (v : Value t) : Int :=
  match v.datum with
  | .int n => n
  | _ => 0

theorem isInt64_int (v : Value .int64) : isInt64 v.int = true := by
  obtain ⟨d, h⟩ := v
  cases d <;> first | exact h | rfl

def itemData (v : Value (.list t)) : List Datum :=
  match v.datum with
  | .list ds => ds
  | _ => []

theorem datum_eq_list (v : Value (.list t)) : v.datum = .list v.itemData := by
  obtain ⟨d, h⟩ := v
  cases d <;> first | rfl | simp [Datum.hasType] at h

theorem hasType_of_mem_itemData {v : Value (.list t)} {d : Datum} (h : d ∈ v.itemData) :
    d.hasType t = true :=
  Datum.hasType_list_iff.1 (v.datum_eq_list ▸ v.hasType) d h

def items (v : Value (.list t)) : List (Value t) :=
  v.itemData.pmap Value.mk fun _ h => hasType_of_mem_itemData h

def ofItems (vs : List (Value t)) : Value (.list t) :=
  ⟨.list (vs.map datum), Datum.hasType_list_iff.2 fun d hd => by
    obtain ⟨v, _, rfl⟩ := List.mem_map.1 hd
    exact v.hasType⟩

@[simp] theorem items_ofItems (vs : List (Value t)) : (ofItems vs).items = vs := by
  have : (ofItems vs).itemData = vs.map datum := rfl
  unfold items
  simp only [this, List.pmap_map]
  induction vs with
  | nil => rfl
  | cons v vs ih =>
    rw [List.pmap_cons, ih rfl]

@[simp] theorem ofItems_items (v : Value (.list t)) : ofItems v.items = v := by
  ext1
  rw [v.datum_eq_list]
  simp [ofItems, items, List.map_pmap]

def memberData (v : Value t) : Members Datum :=
  match v.datum with
  | .fields ms => ms
  | _ => []

theorem datum_eq_map (v : Value (.map t)) : v.datum = .fields v.memberData := by
  obtain ⟨d, h⟩ := v
  cases d <;> first | rfl | simp [Datum.hasType] at h

private theorem map_spec (v : Value (.map t)) :
    Members.Increasing v.memberData ∧ ∀ m ∈ v.memberData, m.2.hasType t = true :=
  Datum.hasType_map_iff.1 (v.datum_eq_map ▸ v.hasType)

def entries (v : Value (.map t)) : Members (Value t) :=
  v.memberData.pmap (fun m h => (m.1, Value.mk m.2 h)) v.map_spec.2

theorem entries_increasing (v : Value (.map t)) : Members.Increasing v.entries :=
  List.Pairwise.pmap v.map_spec.1 _ fun _ _ _ _ h => h

def ofEntries (ms : Members (Value t)) (h : Members.Increasing ms) : Value (.map t) :=
  ⟨.fields (ms.mapValues datum), Datum.hasType_map_iff.2 ⟨h.mapValues datum, fun m hm => by
    obtain ⟨n, _, rfl⟩ := List.mem_map.1 hm
    exact n.2.hasType⟩⟩

def emptyList : Value (.list t) := ofItems []
def emptyMap : Value (.map t) := ofEntries [] Members.increasing_nil

def insert (v : Value (.map t)) (k : String) (x : Value t) : Value (.map t) :=
  ofEntries (v.entries.insert k x) (v.entries_increasing.insert k x)

/-- The entries of both maps; on shared keys the first one wins. -/
def union (first second : Value (.map t)) : Value (.map t) :=
  ofEntries (first.entries.union second.entries) (first.entries_increasing.union second.entries)

def mapEntries {u : Ty} (f : Value t → Value u) (v : Value (.map t)) : Value (.map u) :=
  ofEntries (v.entries.mapValues f) (v.entries_increasing.mapValues f)

def at? (v : Value (.map t)) (k : String) : Option (Value t) := v.entries.get? k

def isEmptyMap (v : Value (.map t)) : Bool := v.entries.isEmpty

end Value

/-- A field of a kind; `required` says whether it may not be missing. -/
structure Slot (k : Kind) (t : Ty) (required : Bool) where
  name : String
  isField : (k.field? name).map (fun f => (f.type, f.initial?.isSome)) = some (t, required)

namespace Slot

variable {k : Kind} {t : Ty} {required : Bool}

private theorem field_spec (s : Slot k t required) :
    ∃ f, k.field? s.name = some f ∧ f ∈ k.fields ∧ f.name = s.name ∧ f.type = t ∧
      f.initial?.isSome = required := by
  obtain ⟨f, hf, he⟩ := Option.map_eq_some_iff.1 s.isField
  have hm := Kind.mem_of_field? hf
  exact ⟨f, hf, hm.1, hm.2, congrArg Prod.fst he, congrArg Prod.snd he⟩

end Slot

namespace Value

variable {k : Kind} {t u : Ty} {required other : Bool}

def members (r : Record k) : Members Datum := r.memberData

theorem datum_eq (r : Record k) : r.datum = .fields r.members := by
  obtain ⟨d, h⟩ := r
  cases d <;> first | rfl | simp [Datum.hasType] at h

theorem members_spec (r : Record k) :
    Members.Increasing r.members ∧ (∀ m ∈ r.members, Datum.BelongsTo k m.1 m.2) ∧
      ∀ f ∈ k.fields, f.initial?.isSome → (r.members.get? f.name).isSome :=
  Datum.hasType_object_iff.1 (r.datum_eq ▸ r.hasType)

theorem hasType_of_get? (r : Record k) (s : Slot k t required) {d : Datum}
    (h : r.members.get? s.name = some d) : d.hasType t = true := by
  obtain ⟨f, hf, _, _, rfl, _⟩ := s.field_spec
  obtain ⟨g, hg, ht⟩ := r.members_spec.2.1 _ (Members.mem_of_get? h)
  rw [hf] at hg
  cases hg
  exact ht

def get? (r : Record k) (s : Slot k t required) : Option (Value t) :=
  (r.members.get? s.name).pmap Value.mk fun _ h => r.hasType_of_get? s h

theorem isSome_get? (r : Record k) (s : Slot k t true) : (r.get? s).isSome = true := by
  obtain ⟨f, _, hf, hn, _, hi⟩ := s.field_spec
  have := r.members_spec.2.2 f hf hi
  simpa [get?, hn] using this

def get (r : Record k) (s : Slot k t true) : Value t := (r.get? s).get (r.isSome_get? s)

def put (r : Record k) (s : Slot k t required) (v : Value t) : Record k :=
  ⟨.fields (r.members.insert s.name v.datum), by
    obtain ⟨f, hf, _, _, ht, _⟩ := s.field_spec
    obtain ⟨h₁, h₂, h₃⟩ := r.members_spec
    refine Datum.hasType_object_iff.2 ⟨h₁.insert _ _, fun m hm => ?_, fun g hg hi => ?_⟩
    · rcases Members.mem_insert hm with hm | hm
      · exact hm ▸ ⟨f, hf, ht ▸ v.hasType⟩
      · exact h₂ m hm
    · by_cases hn : g.name = s.name
      · simp [hn]
      · rw [Members.get?_insert_of_ne hn]
        exact h₃ g hg hi⟩

def clear (r : Record k) (s : Slot k t false) : Record k :=
  ⟨.fields (r.members.erase s.name), by
    obtain ⟨f, hf, _, hfn, _, hr⟩ := s.field_spec
    obtain ⟨h₁, h₂, h₃⟩ := r.members_spec
    refine Datum.hasType_object_iff.2 ⟨h₁.erase _, fun m hm => ?_, fun g hg hi => ?_⟩
    · exact h₂ m (List.mem_filter.1 hm).1
    · by_cases hn : g.name = s.name
      · have := Kind.field?_of_mem hg
        rw [hn, hf] at this
        cases this
        rw [hr] at hi
        cases hi
      · rw [Members.get?_erase_of_ne hn]
        exact h₃ g hg hi⟩

def set (r : Record k) (s : Slot k t false) : Option (Value t) → Record k
  | some v => r.put s v
  | none => r.clear s

def modify (r : Record k) (s : Slot k t required) (f : Value t → Value t) : Record k :=
  match r.get? s with
  | some v => r.put s (f v)
  | none => r

def putNew (r : Record k) (s : Slot k t required) (v : Value t) : Record k :=
  match r.get? s with
  | some _ => r
  | none => r.put s v

@[simp] theorem get?_put_self (r : Record k) (s : Slot k t required) (v : Value t) :
    (r.put s v).get? s = some v := by
  have : (r.put s v).members.get? s.name = some v.datum := Members.get?_insert_self _ _ _
  simp [get?, this]

theorem get?_put_of_ne (r : Record k) {s : Slot k t required} {s' : Slot k u other}
    (h : s.name ≠ s'.name) (v : Value u) : (r.put s' v).get? s = r.get? s := by
  have : (r.put s' v).members.get? s.name = r.members.get? s.name :=
    Members.get?_insert_of_ne h _ _
  simp [get?, this]

@[simp] theorem get_put_self (r : Record k) (s : Slot k t true) (v : Value t) :
    (r.put s v).get s = v := by
  simp [get]

@[simp] theorem get?_clear_self (r : Record k) (s : Slot k t false) :
    (r.clear s).get? s = none := by
  have : (r.clear s).members.get? s.name = none := Members.get?_erase_self _ _
  simp [get?, this]

private theorem get?_clear_of_ne (r : Record k) {s : Slot k t required} {s' : Slot k u false}
    (h : s.name ≠ s'.name) : (r.clear s').get? s = r.get? s := by
  have : (r.clear s').members.get? s.name = r.members.get? s.name :=
    Members.get?_erase_of_ne h _
  simp [get?, this]

@[simp] theorem get?_set_self (r : Record k) (s : Slot k t false) (v : Option (Value t)) :
    (r.set s v).get? s = v := by
  cases v <;> simp [set]

theorem get?_set_of_ne (r : Record k) {s : Slot k t required} {s' : Slot k u false}
    (h : s.name ≠ s'.name) (v : Option (Value u)) : (r.set s' v).get? s = r.get? s := by
  cases v
  · exact r.get?_clear_of_ne h
  · exact r.get?_put_of_ne h _

end Value

def Record.blank (k : Kind) : Record k :=
  ⟨.fields (k.complete fun _ => none), Kind.complete_hasType (by simp)⟩

end DesiredState
