import DesiredState.Proofs.Json.Basic
import DesiredState.Schema.Record
/-!
The JSON values of typed data. Main statements: `ordered_toJson`, that data of a type are ordered,
and what the value of an object holds under the name of a slot, also after slots were written.
-/

set_option autoImplicit false
set_option relaxedAutoImplicit false

namespace DesiredState

namespace Datum

theorem itemsToJson_eq_map (ds : List Datum) : itemsToJson ds = ds.map toJson := by
  induction ds with
  | nil => rfl
  | cons d ds ih => rw [itemsToJson, ih, List.map_cons]

theorem fieldsToJson_eq_mapValues (ms : Members Datum) :
    fieldsToJson ms = ms.mapValues toJson := by
  induction ms with
  | nil => rfl
  | cons m ms ih =>
    obtain ⟨k, d⟩ := m
    rw [fieldsToJson, ih]
    rfl

@[elab_as_elim]
theorem inductionOn {motive : Datum → Prop} (d : Datum)
    (atom : ∀ d, d.toJson.isAtom = true → motive d)
    (free : ∀ j, motive (.free j))
    (list : ∀ ds, (∀ d ∈ ds, motive d) → motive (.list ds))
    (fields : ∀ ms : Members Datum, (∀ m ∈ ms, motive m.2) → motive (.fields ms)) : motive d :=
  @Datum.rec motive (fun ds => ∀ d ∈ ds, motive d) (fun ms => ∀ m ∈ ms, motive m.2)
    (fun m => motive m.2) (fun _ => atom _ rfl) (fun _ => atom _ rfl) (fun _ => atom _ rfl)
    (fun _ => atom _ rfl) free list fields (by simp)
    (fun _ _ hd hds => List.forall_mem_cons.2 ⟨hd, hds⟩) (by simp)
    (fun _ _ hm hms => List.forall_mem_cons.2 ⟨hm, hms⟩) (fun _ _ hd => hd) d

theorem ordered_toJson {d : Datum} {t : Ty} (h : d.hasType t = true) :
    d.toJson.ordered = true := by
  induction d using inductionOn generalizing t with
  | atom d ha => exact Json.ordered_of_isAtom ha
  | free j => cases t <;> first | exact h | simp [hasType] at h
  | list ds ih =>
    rw [toJson, itemsToJson_eq_map]
    cases t with
    | list t =>
      refine Json.orderedList_iff.2 fun j hj => ?_
      obtain ⟨d, hd, rfl⟩ := List.mem_map.1 hj
      exact ih d hd (hasType_list_iff.1 h d hd)
    | _ => simp [hasType] at h
  | fields ms ih =>
    rw [toJson, fieldsToJson_eq_mapValues]
    have hms : Members.Increasing ms ∧ ∀ m ∈ ms, ∃ t, m.2.hasType t = true := by
      cases t with
      | map t => exact ⟨(hasType_map_iff.1 h).1, fun m hm => ⟨t, (hasType_map_iff.1 h).2 m hm⟩⟩
      | object k =>
        refine ⟨(hasType_object_iff.1 h).1, fun m hm => ?_⟩
        obtain ⟨f, _, hf⟩ := (hasType_object_iff.1 h).2.1 m hm
        exact ⟨f.type, hf⟩
      | _ => simp [hasType] at h
    refine Json.ordered_obj_iff.2 ⟨hms.1.mapValues toJson, fun m hm => ?_⟩
    obtain ⟨n, hn, rfl⟩ := List.mem_map.1 hm
    obtain ⟨u, hu⟩ := hms.2 n hn
    exact ih n hn hu

end Datum

theorem Kind.field?_eq_none {k : Kind} {names : List String}
    (h : (Kind.fields k).all (fun f => f.name ∈ names) = true) {name : String}
    (hn : name ∉ names) : k.field? name = none := by
  cases hf : k.field? name with
  | none => rfl
  | some f =>
    obtain ⟨hmem, hname⟩ := Kind.mem_of_field? hf
    exact absurd (hname ▸ of_decide_eq_true (List.all_eq_true.1 h f hmem)) hn

theorem Kind.get?_of_field? {k : Kind} {name : String} (h : k.field? name = none)
    {ms : Members Datum} (hms : ∀ m ∈ ms, Datum.BelongsTo k m.1 m.2) : ms.get? name = none := by
  cases hd : ms.get? name with
  | none => rfl
  | some d =>
    obtain ⟨f, hf, -⟩ := hms _ (Members.mem_of_get? hd)
    rw [h] at hf
    cases hf

namespace Value

variable {t u : Ty} {k : Kind} {required other : Bool}

theorem ordered_toJson (v : Value t) : v.toJson.ordered = true := Datum.ordered_toJson v.hasType

/-- The members of the JSON value of an object. -/
def jsonMembers (r : Record k) : Members Json := r.members.mapValues Datum.toJson

theorem toJson_eq_obj (r : Record k) : r.toJson = .obj r.jsonMembers := by
  rw [toJson, r.datum_eq, Datum.toJson, Datum.fieldsToJson_eq_mapValues, jsonMembers]

theorem toJson_eq_arr (v : Value (.list t)) : v.toJson = .arr (v.items.map toJson) := by
  rw [toJson, v.datum_eq_list, Datum.toJson, Datum.itemsToJson_eq_map, items, List.map_pmap]
  simp [toJson]

theorem toJson_eq_map (v : Value (.map t)) : v.toJson = .obj (v.entries.mapValues toJson) := by
  rw [toJson, v.datum_eq_map, Datum.toJson, Datum.fieldsToJson_eq_mapValues]
  congr 1
  rw [entries, Members.mapValues, Members.mapValues, List.map_pmap]
  simp [toJson]

theorem increasing_jsonMembers (r : Record k) : Members.Increasing r.jsonMembers :=
  r.members_spec.1.mapValues _

theorem get?_jsonMembers (r : Record k) (s : Slot k t required) :
    r.jsonMembers.get? s.name = (r.get? s).map toJson := by
  rw [jsonMembers, Members.get?_mapValues, get?, Option.map_pmap]
  simp [toJson]

theorem member?_toJson (r : Record k) (s : Slot k t required) :
    r.toJson.member? s.name = (r.get? s).map toJson := by
  rw [toJson_eq_obj]
  exact get?_jsonMembers r s

theorem get?_members (r : Record k) (s : Slot k t required) :
    r.members.get? s.name = (r.get? s).map datum := by
  rw [get?, Option.map_pmap]
  simp

theorem get?_members_put (r : Record k) (s : Slot k t required) (v : Value t) (name : String) :
    (r.put s v).members.get? name =
      if name = s.name then some v.datum else r.members.get? name := by
  have hm : (r.put s v).members = r.members.insert s.name v.datum := rfl
  rw [hm]
  split
  · rename_i he
    rw [he, Members.get?_insert_self]
  · rename_i hne
    exact Members.get?_insert_of_ne hne _ _

theorem get?_members_set (r : Record k) (s : Slot k t false) (v : Option (Value t))
    (name : String) :
    (r.set s v).members.get? name =
      if name = s.name then v.map datum else r.members.get? name := by
  cases v with
  | some v => exact get?_members_put r s v name
  | none =>
    have hm : (r.set s none).members = r.members.erase s.name := rfl
    rw [hm]
    split
    · rename_i he
      rw [he, Members.get?_erase_self]
      rfl
    · rename_i hne
      exact Members.get?_erase_of_ne hne _

theorem get?_jsonMembers_put (r : Record k) (s : Slot k t required) (v : Value t)
    (name : String) :
    (r.put s v).jsonMembers.get? name =
      if name = s.name then some v.toJson else r.jsonMembers.get? name := by
  rw [jsonMembers, jsonMembers, Members.get?_mapValues, Members.get?_mapValues, get?_members_put]
  split <;> rfl

theorem get?_eq_some_get (r : Record k) (s : Slot k t true) : r.get? s = some (r.get s) :=
  (Option.some_get _).symm

theorem get_eq_of_get? {r : Record k} {s : Slot k t true} {v : Value t}
    (h : r.get? s = some v) : r.get s = v := by
  rw [get?_eq_some_get] at h
  exact Option.some.inj h

theorem get_put_of_ne (r : Record k) {s : Slot k t true} {s' : Slot k u other}
    (h : s.name ≠ s'.name) (v : Value u) : (r.put s' v).get s = r.get s := by
  simp only [get, get?_put_of_ne r h]

theorem get?_putNew_of_ne (r : Record k) {s : Slot k t required} {s' : Slot k u other}
    (h : s.name ≠ s'.name) (v : Value u) : (r.putNew s' v).get? s = r.get? s := by
  rw [putNew]
  split
  · rfl
  · exact r.get?_put_of_ne h v

theorem get?_modify_of_ne (r : Record k) {s : Slot k t required} {s' : Slot k u other}
    (h : s.name ≠ s'.name) (f : Value u → Value u) : (r.modify s' f).get? s = r.get? s := by
  rw [modify]
  split
  · exact r.get?_put_of_ne h _
  · rfl

theorem get?_modify_self (r : Record k) (s : Slot k t required) (f : Value t → Value t) :
    (r.modify s f).get? s = (r.get? s).map f := by
  rw [modify]
  split
  · rename_i v hv
    rw [get?_put_self, hv]
    rfl
  · rename_i hv
    rw [hv]
    rfl

/-- The objects hold the same but under some names. -/
def SameBut (names : List String) (a b : Record k) : Prop :=
  ∀ name, name ∉ names → a.members.get? name = b.members.get? name

theorem SameBut.get?_jsonMembers {names : List String} {a b : Record k} (h : SameBut names a b)
    {name : String} (hn : name ∉ names) : a.jsonMembers.get? name = b.jsonMembers.get? name := by
  rw [jsonMembers, jsonMembers, Members.get?_mapValues, Members.get?_mapValues, h name hn]

theorem sameBut_refl (names : List String) (r : Record k) : SameBut names r r := fun _ _ => rfl

theorem SameBut.symm {names : List String} {a b : Record k} (h : SameBut names a b) :
    SameBut names b a :=
  fun name hn => (h name hn).symm

theorem SameBut.trans {names : List String} {a b c : Record k} (h : SameBut names a b)
    (h' : SameBut names b c) : SameBut names a c :=
  fun name hn => (h name hn).trans (h' name hn)

theorem SameBut.mono {names more : List String} {a b : Record k} (h : SameBut names a b)
    (hsub : names ⊆ more) : SameBut more a b :=
  fun name hn => h name fun hin => hn (hsub hin)

theorem sameBut_put (r : Record k) (s : Slot k t required) (v : Value t) :
    SameBut [s.name] (r.put s v) r := by
  intro name hn
  rw [get?_members_put, if_neg (List.ne_of_not_mem_cons hn)]

theorem sameBut_set (r : Record k) (s : Slot k t false) (v : Option (Value t)) :
    SameBut [s.name] (r.set s v) r := by
  intro name hn
  rw [get?_members_set, if_neg (List.ne_of_not_mem_cons hn)]

theorem SameBut.eq {a b : Record k} {s : Slot k t required} (h : SameBut [s.name] a b)
    (hs : a.get? s = b.get? s) : a = b := by
  have hmembers : a.members = b.members := by
    apply a.members_spec.1.ext b.members_spec.1
    intro name
    by_cases hname : name = s.name
    · rw [hname, get?_members, get?_members, hs]
    · apply h
      rw [List.mem_singleton]
      exact hname
  apply Value.ext
  rw [a.datum_eq, b.datum_eq, hmembers]

theorem put_of_get? {r : Record k} {s : Slot k t required} {v : Value t}
    (h : r.get? s = some v) : r.put s v = r :=
  (sameBut_put r s v).eq (by rw [get?_put_self, h])

theorem get?_jsonMembers_of_field? (r : Record k) {name : String} (h : k.field? name = none) :
    r.jsonMembers.get? name = none := by
  rw [jsonMembers, Members.get?_mapValues, Kind.get?_of_field? h r.members_spec.2.1]
  rfl

end Value

end DesiredState
