import DesiredState.Schema.Table
/-!
When a datum belongs to a type, and how an object is completed with its required fields. Main
statement: completing members that belong to their fields gives an object of the kind.
-/

set_option autoImplicit false
set_option relaxedAutoImplicit false

namespace DesiredState

def isInt32 (n : Int) : Bool := -(2 ^ 31) ≤ n && n < 2 ^ 31
def isInt64 (n : Int) : Bool := -(2 ^ 63) ≤ n && n < 2 ^ 63

namespace Datum

mutual
/-- Whether a datum belongs to a type. Members of an object belong to the fields of its kind and
no required field is missing. -/
def hasType : Datum → Ty → Bool
  | .bool _, .bool => true
  | .int n, .int32 => isInt32 n
  | .int n, .int64 => isInt64 n
  | .int n, .intOrText => isInt32 n
  | .text _, .text => true
  | .text _, .intOrText => true
  | .text s, .literal w => s == w
  | .time _, .time => true
  | .free j, .free => j.ordered
  | .list ds, .list t => itemsHaveType ds t
  | .fields ms, .map t => decide (Members.Increasing ms) && valuesHaveType ms t
  | .fields ms, .object k =>
    decide (Members.Increasing ms) && membersHaveType ms k
      && k.fields.all fun f => f.initial?.isNone || (Members.get? f.name ms).isSome
  | _, _ => false
def itemsHaveType : List Datum → Ty → Bool
  | [], _ => true
  | d :: ds, t => d.hasType t && itemsHaveType ds t
def valuesHaveType : List (String × Datum) → Ty → Bool
  | [], _ => true
  | (_, d) :: ms, t => d.hasType t && valuesHaveType ms t
def membersHaveType : List (String × Datum) → Kind → Bool
  | [], _ => true
  | (name, d) :: ms, k =>
    (match k.field? name with
      | some f => d.hasType f.type
      | none => false) && membersHaveType ms k
end

def BelongsTo (k : Kind) (name : String) (d : Datum) : Prop :=
  ∃ f, k.field? name = some f ∧ d.hasType f.type = true

private theorem itemsHaveType_iff {ds : List Datum} {t : Ty} :
    itemsHaveType ds t = true ↔ ∀ d ∈ ds, d.hasType t = true := by
  induction ds with
  | nil => simp [itemsHaveType]
  | cons d ds ih => simp [itemsHaveType, ih]

private theorem valuesHaveType_iff {ms : List (String × Datum)} {t : Ty} :
    valuesHaveType ms t = true ↔ ∀ m ∈ ms, m.2.hasType t = true := by
  induction ms with
  | nil => simp [valuesHaveType]
  | cons m ms ih => obtain ⟨k, d⟩ := m; simp [valuesHaveType, ih]

private theorem membersHaveType_iff {ms : List (String × Datum)} {k : Kind} :
    membersHaveType ms k = true ↔ ∀ m ∈ ms, BelongsTo k m.1 m.2 := by
  induction ms with
  | nil => simp [membersHaveType]
  | cons m ms ih =>
    obtain ⟨name, d⟩ := m
    simp only [membersHaveType, Bool.and_eq_true, ih, List.forall_mem_cons]
    refine and_congr_left fun _ => ?_
    cases h : k.field? name <;> simp [BelongsTo, h]

theorem hasType_list_iff {ds : List Datum} {t : Ty} :
    (Datum.list ds).hasType (.list t) = true ↔ ∀ d ∈ ds, d.hasType t = true := by
  rw [← itemsHaveType_iff]; rfl

theorem hasType_map_iff {ms : List (String × Datum)} {t : Ty} :
    (Datum.fields ms).hasType (.map t) = true ↔
      Members.Increasing ms ∧ ∀ m ∈ ms, m.2.hasType t = true := by
  rw [← valuesHaveType_iff]
  simp [hasType]

theorem hasType_object_iff {ms : List (String × Datum)} {k : Kind} :
    (Datum.fields ms).hasType (.object k) = true ↔
      Members.Increasing ms ∧ (∀ m ∈ ms, BelongsTo k m.1 m.2) ∧
        ∀ f ∈ k.fields, f.initial?.isSome → (Members.get? f.name ms).isSome := by
  rw [← membersHaveType_iff]
  simp only [hasType, Bool.and_eq_true, decide_eq_true_eq, List.all_eq_true, Bool.or_eq_true,
    Option.isNone_iff_eq_none, and_assoc]
  refine and_congr_right fun _ => and_congr_right fun _ => forall_congr' fun f => ?_
  refine imp_congr_right fun _ => ?_
  cases f.initial? <;> simp

end Datum

namespace Kind

private theorem initial_hasType (k : Kind) :
    k.fields.all (fun f => f.initial?.all (·.hasType f.type)) = true := by
  cases k <;> decide +kernel

private theorem find?_of_mem {fs : List Field} (hp : fs.Pairwise (fun a b => a.name < b.name))
    {f : Field} (h : f ∈ fs) : fs.find? (fun g => g.name == f.name) = some f := by
  induction fs with
  | nil => simp at h
  | cons g gs ih =>
    have hc := List.pairwise_cons.1 hp
    rcases List.mem_cons.1 h with h | h
    · subst h; simp
    · have hlt := hc.1 f h
      have hne : (g.name == f.name) = false := by
        simp only [beq_eq_false_iff_ne]
        exact fun e => String.lt_irrefl _ (e ▸ hlt)
      rw [List.find?_cons, hne]
      exact ih hc.2 h

theorem field?_of_mem {k : Kind} {f : Field} (h : f ∈ k.fields) : k.field? f.name = some f :=
  find?_of_mem k.fields_increasing h

theorem mem_of_field? {k : Kind} {name : String} {f : Field} (h : k.field? name = some f) :
    f ∈ k.fields ∧ f.name = name :=
  ⟨List.mem_of_find?_eq_some h, by simpa using List.find?_some h⟩

/-- The member of a field: the one found under its name, else the initial one. -/
def memberOf (found : String → Option Datum) (f : Field) : Option (String × Datum) :=
  ((found f.name).or f.initial?).map (f.name, ·)

def complete (k : Kind) (found : String → Option Datum) : List (String × Datum) :=
  k.fields.filterMap (memberOf found)

private theorem name_of_memberOf {found : String → Option Datum} {f : Field} {m : String × Datum}
    (h : memberOf found f = some m) : m.1 = f.name := by
  obtain ⟨d, _, rfl⟩ := Option.map_eq_some_iff.1 h
  rfl

theorem complete_increasing (k : Kind) (found : String → Option Datum) :
    Members.Increasing (k.complete found) :=
  List.Pairwise.filterMap _ (fun a b hab m hm n hn => by
    rw [name_of_memberOf hm, name_of_memberOf hn]; exact hab) k.fields_increasing

private theorem get?_filterMap_memberOf {fs : List Field} (found : String → Option Datum)
    (hp : fs.Pairwise (fun a b => a.name < b.name)) {f : Field} (h : f ∈ fs) :
    Members.get? f.name (fs.filterMap (memberOf found)) = (found f.name).or f.initial? := by
  induction fs with
  | nil => simp at h
  | cons g gs ih =>
    have hc := List.pairwise_cons.1 hp
    rw [List.filterMap_cons]
    rcases List.mem_cons.1 h with h | h
    · subst h
      cases hv : (found f.name).or f.initial? with
      | none =>
        simp only [memberOf, hv, Option.map_none]
        refine Option.eq_none_iff_forall_ne_some.2 fun d hd => ?_
        have : ∀ (ms : List (String × Datum)), (∀ m ∈ ms, f.name < m.1) →
            Members.get? f.name ms ≠ some d := by
          intro ms
          induction ms with
          | nil => simp
          | cons m ms ih' =>
            obtain ⟨n, v⟩ := m
            intro hall
            have hlt := hall (n, v) List.mem_cons_self
            have hne : ¬ f.name = n := fun e => String.lt_irrefl n (e ▸ hlt)
            rw [Members.get?_cons, if_neg hne]
            exact ih' fun m hm => hall m (List.mem_cons_of_mem _ hm)
        refine this _ (fun m hm => ?_) hd
        obtain ⟨a, ha, ham⟩ := List.mem_filterMap.1 hm
        exact name_of_memberOf ham ▸ hc.1 a ha
      | some d => simp [memberOf, hv, Members.get?_cons]
    · have hlt := hc.1 f h
      have hne : ¬ f.name = g.name := fun e => String.lt_irrefl _ (e ▸ hlt)
      cases hv : (found g.name).or g.initial? with
      | none => simpa [memberOf, hv] using ih hc.2 h
      | some d => simpa [memberOf, hv, Members.get?_cons, hne] using ih hc.2 h

theorem get?_complete {k : Kind} (found : String → Option Datum) {f : Field}
    (h : f ∈ k.fields) :
    Members.get? f.name (k.complete found) = (found f.name).or f.initial? :=
  get?_filterMap_memberOf found k.fields_increasing h

theorem complete_hasType {k : Kind} {found : String → Option Datum}
    (h : ∀ f ∈ k.fields, ∀ d, found f.name = some d → d.hasType f.type = true) :
    (Datum.fields (k.complete found)).hasType (.object k) = true := by
  refine Datum.hasType_object_iff.2
    ⟨k.complete_increasing found, fun m hm => ?_, fun f hf hi => ?_⟩
  · obtain ⟨f, hf, hfm⟩ := List.mem_filterMap.1 hm
    obtain ⟨d, hd, rfl⟩ := Option.map_eq_some_iff.1 hfm
    refine ⟨f, field?_of_mem hf, ?_⟩
    cases hv : found f.name with
    | some e =>
      rw [hv, Option.some_or] at hd
      exact h f hf d (hv.trans hd)
    | none =>
      rw [hv, Option.none_or] at hd
      have := List.all_eq_true.1 k.initial_hasType f hf
      simpa [hd] using this
  · rw [get?_complete found hf]
    cases found f.name <;> simp [hi]

end Kind

end DesiredState
