import DesiredState.Proofs.Patch.Agreement
import DesiredState.Proofs.Patch.Within
import DesiredState.Proofs.Schema.Json
/-!
Data that are kept in other data: whatever the one holds at any position, the other one holds there
too. Main statements: `keptIn_iff`, what writing slots keeps, and `KeptIn.within`, that the JSON
value of a datum is within that of any datum it is kept in.
-/

set_option autoImplicit false
set_option relaxedAutoImplicit false

namespace DesiredState

namespace Datum

open Json (Step)

def child? : Step → Datum → Option Datum
  | .key k, .fields ms => Members.get? k ms
  | .index i, .list ds => ds[i]?
  | _, _ => none

def find? : List Step → Datum → Option Datum
  | [], d => some d
  | s :: position, d => (d.child? s).bind (find? position)

private theorem find?_cons (s : Step) (position : List Step) (d : Datum) :
    d.find? (s :: position) = (d.child? s).bind (find? position) := rfl

def root : Datum → Datum
  | .list ds => .list (ds.map fun _ => .list [])
  | .fields _ => .fields []
  | d => d

/-- Whatever the datum holds, at any position, the other one holds there too. -/
def KeptIn (a b : Datum) : Prop :=
  ∀ position d, a.find? position = some d → ∃ e, b.find? position = some e ∧ e.root = d.root

private theorem KeptIn.refl (d : Datum) : d.KeptIn d := fun _ e he => ⟨e, he, rfl⟩

theorem KeptIn.trans {a b c : Datum} (h : a.KeptIn b) (h' : b.KeptIn c) : a.KeptIn c := by
  intro position x hx
  obtain ⟨y, hy, hyx⟩ := h position x hx
  obtain ⟨z, hz, hzy⟩ := h' position y hy
  exact ⟨z, hz, hzy.trans hyx⟩

/-- A datum is kept if its root is, and below every step from it. -/
theorem keptIn_iff {a b : Datum} :
    a.KeptIn b ↔ b.root = a.root ∧
      ∀ s x, a.child? s = some x → ∃ y, b.child? s = some y ∧ x.KeptIn y := by
  constructor
  · intro h
    constructor
    · obtain ⟨e, he, hroot⟩ := h [] a rfl
      cases he
      exact hroot
    · intro s x hx
      have hbelow : ∀ position d, x.find? position = some d →
          ∃ e, (b.child? s).bind (find? position) = some e ∧ e.root = d.root := by
        intro position d hd
        exact h (s :: position) d (by rw [find?_cons, hx, Option.bind_some, hd])
      cases hy : b.child? s with
      | none =>
        obtain ⟨e, he, -⟩ := hbelow [] x rfl
        rw [hy] at he
        cases he
      | some y =>
        rw [hy] at hbelow
        exact ⟨y, rfl, hbelow⟩
  · rintro ⟨hroot, hbelow⟩ position d hd
    cases position with
    | nil =>
      cases hd
      exact ⟨b, rfl, hroot⟩
    | cons s position =>
      rw [find?_cons, Option.bind_eq_some_iff] at hd
      obtain ⟨x, hx, hd⟩ := hd
      obtain ⟨y, hy, hxy⟩ := hbelow s x hx
      rw [find?_cons, hy]
      exact hxy position d hd

private theorem keptIn_list {as bs : List Datum} (h : List.Forall₂ KeptIn as bs) :
    (list as).KeptIn (list bs) := by
  refine keptIn_iff.2 ⟨?_, fun s x hx => ?_⟩
  · simp only [root, List.map_const', h.length_eq]
  · cases s with
    | key k => cases hx
    | index i =>
      obtain ⟨hi, rfl⟩ := List.getElem?_eq_some_iff.1 hx
      have hi' : i < bs.length := h.length_eq ▸ hi
      exact ⟨bs[i], List.getElem?_eq_getElem hi', h.get hi hi'⟩

private theorem keptIn_fields {ms ns : Members Datum}
    (h : ∀ name d, ms.get? name = some d → ∃ e, ns.get? name = some e ∧ d.KeptIn e) :
    (fields ms).KeptIn (fields ns) := by
  refine keptIn_iff.2 ⟨rfl, fun s x hx => ?_⟩
  cases s with
  | key name => exact h name x hx
  | index i => cases hx

private theorem eq_of_root_of_leaf {a b : Datum} (hlist : ∀ ds, a ≠ list ds)
    (hfields : ∀ ms, a ≠ fields ms) (h : b.root = a.root) : b = a := by
  cases a with
  | list ds => exact absurd rfl (hlist ds)
  | fields ms => exact absurd rfl (hfields ms)
  | _ => cases b <;> first | exact h | cases h

theorem KeptIn.within {a b : Datum} (ha : a.toJson.ordered = true) (h : a.KeptIn b) :
    a.toJson.Within b.toJson := by
  induction a using inductionOn generalizing b with
  | atom a hatom =>
    obtain rfl := eq_of_root_of_leaf (by rintro ds rfl; cases hatom)
      (by rintro ms rfl; cases hatom) (keptIn_iff.1 h).1
    exact .refl ha
  | free j =>
    obtain rfl := eq_of_root_of_leaf (fun _ => Datum.noConfusion) (fun _ => Datum.noConfusion)
      (keptIn_iff.1 h).1
    exact .refl ha
  | list ds ih =>
    obtain ⟨hroot, hbelow⟩ := keptIn_iff.1 h
    cases b with
    | list es =>
      have hlength : es.length = ds.length := by
        simpa only [List.length_map] using congrArg List.length (Datum.list.inj hroot)
      rw [toJson, itemsToJson_eq_map] at ha ⊢
      rw [toJson, itemsToJson_eq_map]
      refine Json.within_arr_iff.2 ⟨_, rfl, ?_⟩
      rw [List.forall₂_map_left_iff, List.forall₂_map_right_iff]
      refine List.forall₂_of_length_eq_of_get hlength.symm fun i hi hi' => ?_
      obtain ⟨e, he, hde⟩ := hbelow (.index i) ds[i] (List.getElem?_eq_getElem hi)
      obtain rfl : es[i] = e := Option.some.inj ((List.getElem?_eq_getElem hi').symm.trans he)
      have hmem : ds[i] ∈ ds := List.getElem_mem hi
      exact ih _ hmem (Json.ordered_of_mem_arr ha (List.mem_map_of_mem hmem)) hde
    | _ => cases hroot
  | fields ms ih =>
    obtain ⟨hroot, hbelow⟩ := keptIn_iff.1 h
    cases b with
    | fields ns =>
      rw [toJson, fieldsToJson_eq_mapValues] at ha ⊢
      rw [toJson, fieldsToJson_eq_mapValues]
      refine Json.within_obj_iff.2 ⟨_, rfl, fun m hm => ?_⟩
      have hget := (Json.increasing_of_ordered ha).get?_of_mem hm
      have hm' := Json.ordered_of_mem_obj ha hm
      rw [Members.get?_mapValues, Option.map_eq_some_iff] at hget
      obtain ⟨d, hd, hdm⟩ := hget
      obtain ⟨e, he, hde⟩ := hbelow (.key m.1) d hd
      have hns : Members.get? m.1 ns = some e := he
      rw [← hdm] at hm' ⊢
      rw [Members.get?_mapValues, hns]
      exact ⟨_, rfl, ih _ (Members.mem_of_get? hd) hm' hde⟩
    | _ => cases hroot

end Datum

namespace Value

variable {k : Kind} {t u : Ty} {required : Bool}

private theorem keptIn_put {r : Record k} {s : Slot k t required} {v : Value t}
    (h : ∀ w, r.get? s = some w → w.datum.KeptIn v.datum) :
    r.datum.KeptIn (r.put s v).datum := by
  rw [r.datum_eq, (r.put s v).datum_eq]
  refine Datum.keptIn_fields fun name d hd => ?_
  rw [get?_members_put]
  split
  · rename_i hn
    rw [hn, get?_members, Option.map_eq_some_iff] at hd
    obtain ⟨w, hw, rfl⟩ := hd
    exact ⟨_, rfl, h w hw⟩
  · exact ⟨d, hd, .refl d⟩

theorem find?_put_of_ne (r : Record k) (s : Slot k t required) (v : Value t) {name : String}
    (h : name ≠ s.name) (position : List Json.Step) :
    (r.put s v).datum.find? (.key name :: position) = r.datum.find? (.key name :: position) := by
  have hget : (r.put s v).members.get? name = r.members.get? name := by
    rw [get?_members_put, if_neg h]
  rw [Datum.find?_cons, Datum.find?_cons, r.datum_eq, (r.put s v).datum_eq]
  exact congrArg (fun d : Option Datum => d.bind (Datum.find? position)) hget

theorem keptIn_putNew (r : Record k) (s : Slot k t required) (v : Value t) :
    r.datum.KeptIn (r.putNew s v).datum := by
  rw [putNew]
  split
  · exact .refl r.datum
  · rename_i hn
    refine keptIn_put fun w hw => ?_
    rw [hn] at hw
    cases hw

theorem keptIn_modify {r : Record k} {s : Slot k t required} {f : Value t → Value t}
    (h : ∀ v : Value t, v.datum.KeptIn (f v).datum) : r.datum.KeptIn (r.modify s f).datum := by
  rw [modify]
  split
  · rename_i v hv
    refine keptIn_put fun w hw => ?_
    rw [hv] at hw
    cases hw
    exact h v
  · exact .refl r.datum

theorem keptIn_mapItems {f : Value t → Value t} (h : ∀ v : Value t, v.datum.KeptIn (f v).datum)
    (vs : Value (.list t)) : vs.datum.KeptIn (ofItems (vs.items.map f)).datum := by
  have hdatum : vs.datum = .list (vs.items.map datum) := congrArg datum (ofItems_items vs).symm
  rw [hdatum]
  refine Datum.keptIn_list ?_
  rw [List.map_map, List.forall₂_map_left_iff, List.forall₂_map_right_iff]
  exact List.forall₂_same.2 fun v _ => h v

end Value

end DesiredState
