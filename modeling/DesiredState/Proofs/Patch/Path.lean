import DesiredState.Proofs.Patch.Compared
/-!
Members at the end of a path of keys. Main statements: `missing_of_diff`, where a comparison finds
nothing to change, a member that was applied last and is not desired is not stored either; and
`at?_toJson_ne_null`, that typed data have no null members on such paths.
-/

set_option autoImplicit false
set_option relaxedAutoImplicit false

namespace DesiredState

namespace Json

/-- The value at the end of a path of keys through objects. -/
def at? : List String → Json → Option Json
  | [], j => some j
  | k :: path, j => (j.member? k).bind (at? path)

theorem at?_cons (k : String) (path : List String) (j : Json) :
    j.at? (k :: path) = (j.member? k).bind (at? path) := rfl

theorem at?_singleton (k : String) (j : Json) : j.at? [k] = j.member? k :=
  Option.bind_fun_some (j.member? k)

theorem at?_append (path more : List String) (j : Json) :
    j.at? (path ++ more) = (j.at? path).bind (at? more) := by
  induction path generalizing j with
  | nil => rfl
  | cons k path ih =>
    rw [List.cons_append, at?_cons, at?_cons, Option.bind_assoc]
    exact congrArg _ (funext ih)

private theorem at?_shape (path : List String) (j : Json) :
    j.shape.at? path = (j.at? path).map shape := by
  induction path generalizing j with
  | nil => rfl
  | cons k path ih =>
    rw [at?_cons, at?_cons, member?_shape]
    cases j.member? k with
    | none => rfl
    | some i => exact ih i

theorem isSome_at?_congr {a b : Json} (h : a.shape = b.shape) (path : List String) :
    (a.at? path).isSome = (b.at? path).isSome := by
  have hs : (a.shape.at? path).isSome = (b.shape.at? path).isSome := by rw [h]
  rwa [at?_shape, at?_shape, Option.isSome_map, Option.isSome_map] at hs

/-- A comparison that finds nothing to change knows of no member to be removed: one that was applied
last, but is missing in an object that is still desired. -/
theorem missing_of_diff {path : List String} {k : String} {m applied c : Json} {ms : Members Json}
    (hm : m.ordered = true) (hparent : m.at? path = some (.obj ms)) (hdropped : ms.get? k = none)
    (happlied : (applied.at? (path ++ [k])).isSome = true) (hdiff : diff applied m c = none) :
    ((c.at? (path ++ [k])).getD .null) = .null := by
  induction path generalizing m applied c with
  | nil =>
    rw [at?, Option.some.injEq] at hparent
    subst hparent
    obtain rfl | ⟨cs, rfl⟩ := eq_null_or_obj_of_diff hdiff
    · rfl
    · have hkey : k ∈ applied.membersOrNone.keys := by
        rw [mem_keys_membersOrNone]
        rw [List.nil_append, at?_cons] at happlied
        exact Option.isSome_of_isSome_bind happlied
      have hgone := ((diff_obj_eq_none_iff (increasing_of_ordered hm)).1 hdiff).2 k hkey hdropped
      rw [List.nil_append, at?_cons, member?]
      cases hk : Members.get? k cs with
      | none => rfl
      | some j =>
        rw [hk, Option.getD_some] at hgone
        exact hgone
  | cons a path ih =>
    rw [at?_cons, Option.bind_eq_some_iff] at hparent
    obtain ⟨m', hm', hparent⟩ := hparent
    obtain ⟨ns, rfl⟩ : ∃ ns, m = .obj ns := by cases m <;> simp_all [member?]
    obtain rfl | ⟨cs, rfl⟩ := eq_null_or_obj_of_diff hdiff
    · rfl
    · have hsame := ((diff_obj_eq_none_iff (increasing_of_ordered hm)).1 hdiff).1 a m' hm'
      rw [List.cons_append, at?_cons, member?]
      cases ha : Members.get? a cs with
      | none => rfl
      | some c' =>
        rw [ha, Option.getD_some] at hsame
        refine ih (ordered_of_get? hm hm') hparent ?_ hsame
        rw [List.cons_append, at?_cons] at happlied
        cases hap : applied.member? a with
        | none =>
          rw [hap] at happlied
          cases happlied
        | some a' =>
          rw [hap, Option.bind_some] at happlied
          rw [memberOrNull, hap, Option.getD_some]
          exact happlied

end Json

namespace IgnoreRule

private theorem comparedClaims_eq_null {j : Json} (h : comparedClaims j = .null) : j = .null := by
  cases j <;> simp_all [comparedClaims]

private theorem members?_comparedClaims (j : Json) :
    (comparedClaims j).members?.isSome = j.members?.isSome := by
  cases j <;> rfl

private theorem at?_comparedClaims_cons (k : String) (path : List String) (j : Json) :
    (comparedClaims j).at? (k :: path) = j.at? (k :: path) := by
  cases j <;> rfl

theorem at?_compared (spec : Json) {path : List String} (hp : path ≠ []) :
    ∃ f : Json → Json, (∀ j, f j = .null → j = .null) ∧
      (∀ j, (f j).members?.isSome = j.members?.isSome) ∧
      (compared spec).at? path = (spec.at? path).map f := by
  obtain ⟨k, path, rfl⟩ := List.exists_cons_of_ne_nil hp
  rw [Json.at?_cons, Json.at?_cons, member?_compared]
  by_cases hk : k = "volumeClaimTemplates"
  · rw [if_pos hk]
    cases path with
    | nil =>
      refine ⟨comparedClaims, fun j => comparedClaims_eq_null, members?_comparedClaims, ?_⟩
      cases spec.member? k <;> rfl
    | cons l path =>
      refine ⟨id, fun _ h => h, fun _ => rfl, ?_⟩
      rw [Option.map_id, id, Option.bind_map]
      exact congrArg _ (funext (at?_comparedClaims_cons l path))
  · refine ⟨id, fun _ h => h, fun _ => rfl, ?_⟩
    rw [if_neg hk, Option.map_id, id]

theorem isSome_at?_compared (spec : Json) (path : List String) :
    ((compared spec).at? path).isSome = (spec.at? path).isSome := by
  cases path with
  | nil => rfl
  | cons k path =>
    obtain ⟨f, -, -, hf⟩ := at?_compared spec (List.cons_ne_nil k path)
    rw [hf, Option.isSome_map]

theorem exists_at?_compared {spec : Json} {path : List String} {k : String} {ms : Members Json}
    (hparent : spec.at? path = some (.obj ms)) (hmissing : ms.get? k = none) :
    ∃ ns : Members Json, (compared spec).at? path = some (.obj ns) ∧ ns.get? k = none := by
  have hobject : ∃ ns : Members Json, (compared spec).at? path = some (.obj ns) := by
    cases path with
    | nil =>
      cases hparent
      exact ⟨_, rfl⟩
    | cons l path =>
      obtain ⟨f, -, hobj, hf⟩ := at?_compared spec (List.cons_ne_nil l path)
      rw [hparent] at hf
      obtain ⟨ns, hns⟩ := Json.exists_obj_of_members? (hobj (.obj ms))
      exact ⟨ns, hf.trans (congrArg some hns)⟩
  obtain ⟨ns, hns⟩ := hobject
  refine ⟨ns, hns, ?_⟩
  have hnone : (spec.at? (path ++ [k])).isSome = false := by
    rw [Json.at?_append, hparent, Option.bind_some, Json.at?_cons, Json.member?, hmissing]
    rfl
  have hsome := isSome_at?_compared spec (path ++ [k])
  rw [hnone, Json.at?_append, hns, Option.bind_some, Json.at?_cons, Json.member?,
    Option.isSome_eq_false_iff, Option.isNone_iff_eq_none] at hsome
  cases hk : Members.get? k ns with
  | none => rfl
  | some j =>
    rw [hk] at hsome
    cases hsome

end IgnoreRule

def Ty.solid : Ty → Bool
  | .free => false
  | .object k => k ≠ .managedFieldsEntry
  | .map t => t.solid
  | _ => true

private theorem Kind.solid_of_mem_fields {k : Kind} (hk : k ≠ .managedFieldsEntry) {f : Field}
    (hf : f ∈ k.fields) : f.type.solid = true := by
  have hall : k.fields.all (fun f => f.type.solid) = true := by
    cases k <;> first | decide +kernel | exact absurd rfl hk
  exact List.all_eq_true.1 hall f hf

namespace Datum

private theorem not_hasType_of_solid {j : Json} {t : Ty} (hs : t.solid = true) :
    ¬ (Datum.free j).hasType t = true := by
  cases t <;> simp_all [hasType, Ty.solid]

private theorem toJson_ne_null {d : Datum} {t : Ty} (ht : d.hasType t = true)
    (hs : t.solid = true) : d.toJson ≠ .null := by
  cases d with
  | free j => exact absurd ht (not_hasType_of_solid hs)
  | _ => simp [toJson]

theorem at?_toJson_ne_null {path : List String} {d : Datum} {t : Ty}
    (ht : d.hasType t = true) (hs : t.solid = true) : d.toJson.at? path ≠ some .null := by
  induction path generalizing d t with
  | nil => exact fun h => toJson_ne_null ht hs (Option.some.inj h)
  | cons k path ih =>
    rw [Json.at?_cons]
    cases d with
    | fields ms =>
      rw [toJson, fieldsToJson_eq_mapValues, Json.member?, Members.get?_mapValues]
      cases hk : Members.get? k ms with
      | none => simp
      | some e =>
        have hmem := Members.mem_of_get? hk
        cases t with
        | map u => exact ih ((hasType_map_iff.1 ht).2 _ hmem) hs
        | object kind =>
          obtain ⟨f, hf, hft⟩ := (hasType_object_iff.1 ht).2.1 _ hmem
          have hsolid := Kind.solid_of_mem_fields (of_decide_eq_true hs) (Kind.mem_of_field? hf).1
          exact ih hft hsolid
        | _ => cases ht
    | free j => exact absurd ht (not_hasType_of_solid hs)
    | _ => simp [toJson, Json.member?]

end Datum

end DesiredState
