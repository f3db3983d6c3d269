import DesiredState.Proofs.Patch.Path
/-!
What a patch leaves alone, and what it changes. Main statement: `diff_frame`, that after a patch was
merged every member that only the stored value had is as it was, a member is gone only if it was
desired as null or was applied last and is no longer desired, and every entry of the patch changes
something.
-/

set_option autoImplicit false
set_option relaxedAutoImplicit false

namespace DesiredState.Json

/-- Where both hold objects a comparison goes on member by member. -/
def BothObjects (a b : Option Json) : Prop :=
  (∃ ms, a = some (.obj ms)) ∧ ∃ ns, b = some (.obj ns)

/-- Both values hold objects everywhere before the end of a path. -/
def Alongside (path : List String) (a b : Json) : Prop :=
  ∀ before, before <+: path → before ≠ path → BothObjects (a.at? before) (b.at? before)

private theorem alongside_cons_iff {k : String} {path : List String} {a b : Json} :
    Alongside (k :: path) a b ↔ ∃ ms ns, a = .obj ms ∧ b = .obj ns ∧
      (path = [] ∨ ∃ ms' ns', Members.get? k ms = some (.obj ms') ∧
        Members.get? k ns = some (.obj ns') ∧ Alongside path (.obj ms') (.obj ns')) := by
  constructor
  · intro h
    obtain ⟨⟨ms, hms⟩, ns, hns⟩ := h [] List.nil_prefix (List.cons_ne_nil k path).symm
    cases hms
    cases hns
    refine ⟨ms, ns, rfl, rfl, ?_⟩
    by_cases hend : path = []
    · exact .inl hend
    · have hcons (before : List String) : before <+: path → before ≠ path →
          BothObjects ((Members.get? k ms).bind (at? before))
            ((Members.get? k ns).bind (at? before)) := fun hprefix hne =>
        h (k :: before) (List.cons_prefix_cons.2 ⟨rfl, hprefix⟩) fun he =>
          hne (List.tail_eq_of_cons_eq he)
      obtain ⟨⟨ms', hms'⟩, ns', hns'⟩ := hcons [] List.nil_prefix (Ne.symm hend)
      obtain ⟨a', ha', hroot⟩ := Option.bind_eq_some_iff.1 hms'
      obtain ⟨b', hb', hroot'⟩ := Option.bind_eq_some_iff.1 hns'
      cases hroot
      cases hroot'
      refine .inr ⟨ms', ns', ha', hb', fun before hprefix hne => ?_⟩
      have hbelow := hcons before hprefix hne
      rwa [ha', hb'] at hbelow
  · rintro ⟨ms, ns, rfl, rfl, hpath⟩ before hprefix hne
    cases before with
    | nil => exact ⟨⟨ms, rfl⟩, ns, rfl⟩
    | cons l before =>
      obtain ⟨rfl, hbefore⟩ := List.cons_prefix_cons.1 hprefix
      obtain rfl | ⟨ms', ns', hms, hns, hbelow⟩ := hpath
      · exact absurd (by rw [List.prefix_nil.1 hbefore]) hne
      · rw [at?_cons, at?_cons, member?, member?, hms, hns]
        exact hbelow before hbefore fun he => hne (congrArg (l :: ·) he)

/-- The stored value after the patch, if there is one, was merged into it. -/
def patched (applied modified current : Json) : Json :=
  (diff applied modified current).elim current current.merge

private theorem eq_null_of_diff_eq_null {applied m c : Json} (hm : m.ordered = true)
    (h : diff applied m c = some .null) : m = .null := by
  cases hms : m.members? with
  | none => exact (eq_of_diff_eq_some hms h).symm
  | some ms =>
    obtain rfl := eq_obj_of_members? hms
    obtain ⟨ps, hps, -⟩ := exists_obj_of_diff_obj (increasing_of_ordered hm) h
    cases hps

private theorem ne_null_of_diff_eq_null {applied m c : Json} (hm : m.ordered = true)
    (h : diff applied m c = some .null) : c ≠ .null := by
  rintro rfl
  rw [eq_null_of_diff_eq_null hm h, diff_null_right] at h
  cases h

/-- What a patch between values that are not both objects leaves is another value than there was. -/
private theorem same_merge_of_diff {applied m c p : Json} (hm : m.ordered = true)
    (hd : diff applied m c = some p) (h : ¬ BothObjects (some m) (some c)) :
    (c.merge p).same c = false := by
  cases hms : m.members? with
  | none =>
    obtain rfl := eq_of_diff_eq_some hms hd
    rw [merge_of_members? c hms, Bool.eq_false_iff]
    intro hsame
    rw [diff_of_same hm applied hsame] at hd
    cases hd
  | some ms =>
    obtain rfl := eq_obj_of_members? hms
    obtain ⟨ps, rfl, -⟩ := exists_obj_of_diff_obj (increasing_of_ordered hm) hd
    rw [merge_obj]
    cases c with
    | obj cs => exact absurd ⟨⟨ms, rfl⟩, cs, rfl⟩ h
    | null | bool | int | float | str | arr => rfl

section Member

variable {applied : Json} {ms cs : Members Json} {k : String}

private theorem bind_member?_diff :
    (diff applied (.obj ms) (.obj cs)).bind (member? k) = (patchMembers applied ms cs).get? k := by
  rw [diff_obj_obj]
  split
  · rename_i hempty
    rw [List.isEmpty_iff.1 hempty]
    rfl
  · rfl

variable (hm : (Json.obj ms).ordered = true)

include hm

private theorem member?_patched :
    (patched applied (.obj ms) (.obj cs)).member? k =
      ((patchMembers applied ms cs).get? k).elim (cs.get? k) fun q =>
        if q.isNull then none else some (((cs.get? k).getD .null).merge q) := by
  rw [patched, diff_obj_obj]
  split
  · rename_i hempty
    rw [List.isEmpty_iff.1 hempty]
    rfl
  · rw [Option.elim_some, member?_merge_obj (increasing_patchMembers (increasing_of_ordered hm))]
    rfl

private theorem member?_patched_of_objects {ms' cs' : Members Json}
    (hk : ms.get? k = some (.obj ms')) (hc : cs.get? k = some (.obj cs')) :
    (patched applied (.obj ms) (.obj cs)).member? k =
      some (patched (applied.memberOrNull k) (.obj ms') (.obj cs')) := by
  rw [member?_patched hm, get?_patchMembers_of_some (increasing_of_ordered hm) hk, hc,
    Option.getD_some, patched]
  cases hd : diff (applied.memberOrNull k) (.obj ms') (.obj cs') with
  | none => rfl
  | some q =>
    obtain ⟨qs, rfl, -⟩ :=
      exists_obj_of_diff_obj (increasing_of_ordered (ordered_of_get? hm hk)) hd
    rfl

private theorem member?_patched_of_foreign (hk : ms.get? k = none) (ha : applied.member? k = none) :
    (patched applied (.obj ms) (.obj cs)).member? k = cs.get? k := by
  have hkey : k ∉ applied.membersOrNone.keys := by
    rw [mem_keys_membersOrNone, ha]
    exact Bool.false_ne_true
  rw [member?_patched hm, get?_patchMembers_of_none (increasing_of_ordered hm) hk,
    if_neg fun h => hkey h.1, Option.elim_none]

private theorem removed_of_member?_patched (hstored : (cs.get? k).isSome = true)
    (hgone : (patched applied (.obj ms) (.obj cs)).member? k = none) :
    ms.get? k = some .null ∨ (applied.member? k).isSome = true ∧ ms.get? k = none := by
  have hentry : (patchMembers applied ms cs).get? k = some .null := by
    rw [member?_patched hm] at hgone
    cases hq : (patchMembers applied ms cs).get? k with
    | none =>
      rw [hq, Option.elim_none] at hgone
      rw [hgone] at hstored
      cases hstored
    | some q =>
      rw [hq, Option.elim_some] at hgone
      by_cases hnull : q.isNull = true
      · rw [isNull_iff.1 hnull]
      · rw [if_neg hnull] at hgone
        cases hgone
  cases hk : ms.get? k with
  | some m =>
    rw [get?_patchMembers_of_some (increasing_of_ordered hm) hk] at hentry
    exact .inl (congrArg some (eq_null_of_diff_eq_null (ordered_of_get? hm hk) hentry))
  | none =>
    rw [get?_patchMembers_of_none (increasing_of_ordered hm) hk] at hentry
    split at hentry
    · rename_i happlied
      exact .inr ⟨mem_keys_membersOrNone.1 happlied.1, rfl⟩
    · cases hentry

private theorem ne_null_of_null_entry (hentry : (patchMembers applied ms cs).get? k = some .null) :
    (cs.get? k).getD .null ≠ .null := by
  cases hk : ms.get? k with
  | some m =>
    rw [get?_patchMembers_of_some (increasing_of_ordered hm) hk] at hentry
    exact ne_null_of_diff_eq_null (ordered_of_get? hm hk) hentry
  | none =>
    rw [get?_patchMembers_of_none (increasing_of_ordered hm) hk] at hentry
    split at hentry
    · rename_i hdropped
      exact hdropped.2
    · cases hentry

private theorem not_rel_member?_patched
    (hentry : ((patchMembers applied ms cs).get? k).isSome = true)
    (hend : ¬ BothObjects (ms.get? k) (cs.get? k)) :
    ¬ Option.Rel (fun a b => a.same b = true)
      ((patched applied (.obj ms) (.obj cs)).member? k) (cs.get? k) := by
  obtain ⟨q, hq⟩ := Option.isSome_iff_exists.1 hentry
  rw [member?_patched hm, hq, Option.elim_some]
  intro hrel
  by_cases hnull : q.isNull = true
  · -- the member is removed
    rw [isNull_iff.1 hnull] at hq
    rw [if_pos hnull] at hrel
    cases hc : cs.get? k with
    | none => exact ne_null_of_null_entry hm hq (by rw [hc]; rfl)
    | some c =>
      rw [hc] at hrel
      cases hrel
  · rw [if_neg hnull] at hrel
    cases hc : cs.get? k with
    | none =>
      rw [hc] at hrel
      cases hrel
    | some c =>
      cases hk : ms.get? k with
      | none =>
        rw [get?_patchMembers_of_none (increasing_of_ordered hm) hk] at hq
        split at hq <;> cases hq
        exact hnull rfl
      | some m =>
        rw [get?_patchMembers_of_some (increasing_of_ordered hm) hk, hc, Option.getD_some] at hq
        rw [hk, hc] at hend
        have hchanged := same_merge_of_diff (ordered_of_get? hm hk) hq hend
        rw [hc, Option.getD_some] at hrel
        cases hrel with
        | some hsame =>
          rw [hchanged] at hsame
          cases hsame

end Member

section Path

variable {path : List String} {m c : Json} (hm : m.ordered = true) (hpath : Alongside path m c)
  {applied : Option Json}

include hm hpath

private theorem at?_patched_of_foreign {v : Json} (hv : c.at? path = some v)
    (hmodified : m.at? path = none) (happlied : applied.bind (at? path) = none) :
    (patched (applied.getD .null) m c).at? path = some v := by
  -- the desired value lacks the member, so the path is not empty; its last step is one member of
  -- two objects, and any other step leads to objects that are patched by themselves
  induction path generalizing m c applied with
  | nil => cases hmodified
  | cons k path ih =>
    obtain ⟨ms, cs, rfl, rfl, hend | ⟨ms', cs', hm', hc', hbelow⟩⟩ := alongside_cons_iff.1 hpath
    · subst hend
      rw [at?_singleton] at hv hmodified ⊢
      have hforeign : (applied.getD .null).member? k = none := by
        cases applied with
        | none => rfl
        | some a => rwa [Option.bind_some, at?_singleton] at happlied
      rw [member?_patched_of_foreign hm hmodified hforeign]
      exact hv
    · rw [at?_cons, member?_patched_of_objects hm hm' hc', Option.bind_some, ← getD_bind_member]
      refine ih (ordered_of_get? hm hm') hbelow ?_ ?_ ?_
      · rwa [at?_cons, member?, hc'] at hv
      · rwa [at?_cons, member?, hm'] at hmodified
      · rwa [Option.bind_assoc]

private theorem removed_of_at?_patched (hstored : (c.at? path).isSome = true)
    (hgone : (patched (applied.getD .null) m c).at? path = none) :
    m.at? path = some .null ∨
      (applied.bind (at? path)).isSome = true ∧ m.at? path = none := by
  induction path generalizing m c applied with
  | nil => cases hgone
  | cons k path ih =>
    obtain ⟨ms, cs, rfl, rfl, hend | ⟨ms', cs', hm', hc', hbelow⟩⟩ := alongside_cons_iff.1 hpath
    · subst hend
      rw [at?_singleton] at hstored hgone ⊢
      obtain hnull | ⟨happlied, hmissing⟩ := removed_of_member?_patched hm hstored hgone
      · exact .inl hnull
      · refine .inr ⟨?_, hmissing⟩
        cases applied with
        | none => cases happlied
        | some a => rwa [Option.bind_some, at?_singleton]
    · rw [at?_cons, member?_patched_of_objects hm hm' hc', Option.bind_some,
        ← getD_bind_member] at hgone
      rw [at?_cons, member?, hc', Option.bind_some] at hstored
      have hbind := ih (ordered_of_get? hm hm') hbelow hstored hgone
      rw [at?_cons, member?, hm', Option.bind_some]
      rwa [Option.bind_assoc] at hbind

private theorem not_rel_at?_patched {a : Json}
    (hentry : ((diff a m c).bind (at? path)).isSome = true)
    (hend : ¬ BothObjects (m.at? path) (c.at? path)) :
    ¬ Option.Rel (fun a b => a.same b = true) ((patched a m c).at? path) (c.at? path) := by
  induction path generalizing m c a with
  | nil =>
    simp only [at?, Option.bind_fun_some] at hentry
    obtain ⟨p, hp⟩ := Option.isSome_iff_exists.1 hentry
    have hchanged := same_merge_of_diff hm hp hend
    rw [patched, hp, Option.elim_some]
    rintro (hsame | -)
    rw [hchanged] at hsame
    cases hsame
  | cons k path ih =>
    obtain ⟨ms, cs, rfl, rfl, hway⟩ := alongside_cons_iff.1 hpath
    have hentry :
        (((diff a (.obj ms) (.obj cs)).bind (member? k)).bind (at? path)).isSome = true := by
      rwa [Option.bind_assoc]
    rw [bind_member?_diff] at hentry
    obtain hlast | ⟨ms', cs', hm', hc', hbelow⟩ := hway
    · subst hlast
      rw [at?_singleton, at?_singleton] at hend ⊢
      refine not_rel_member?_patched hm ?_ hend
      exact Option.isSome_of_isSome_bind hentry
    · rw [get?_patchMembers_of_some (increasing_of_ordered hm) hm', hc', Option.getD_some] at hentry
      rw [at?_cons, member?_patched_of_objects hm hm' hc', Option.bind_some, at?_cons, member?, hc',
        Option.bind_some]
      refine ih (ordered_of_get? hm hm') hbelow hentry ?_
      rwa [at?_cons, at?_cons, member?, member?, hm', hc'] at hend

end Path

/-- After a patch was merged, along every path through objects of the desired and the stored value:
a member that neither the desired value nor the one applied last has is as it was; a member is gone
only if it is desired as null, or was applied last and is not desired; and where the patch has an
entry that does not come of comparing two objects, the value is another one than before. Keys of the
desired value are unique, as in any value that was read. -/
theorem diff_frame {modified : Json} (h : modified.ordered = true) {applied : Option Json}
    {current p : Json} (hp : diff (applied.getD .null) modified current = some p) :
    (∀ path, Alongside path modified current →
      (∀ v, current.at? path = some v → modified.at? path = none →
        applied.bind (at? path) = none → (current.merge p).at? path = some v) ∧
      ((current.at? path).isSome = true → (current.merge p).at? path = none →
        modified.at? path = some .null ∨
          (applied.bind (at? path)).isSome = true ∧ modified.at? path = none)) ∧
    ∀ path, Alongside path modified current → (p.at? path).isSome = true →
      ¬ BothObjects (modified.at? path) (current.at? path) →
        ¬ Option.Rel (fun a b => a.same b = true) ((current.merge p).at? path)
          (current.at? path) := by
  have hpatched : patched (applied.getD .null) modified current = current.merge p := by
    rw [patched, hp, Option.elim_some]
  rw [← hpatched]
  constructor
  · intro path hpath
    exact ⟨fun v => at?_patched_of_foreign h hpath, removed_of_at?_patched h hpath⟩
  · intro path hpath hentry hend
    refine not_rel_at?_patched h hpath ?_ hend
    rwa [hp, Option.bind_some]

private def appliedDatabase : Json :=
  .obj [("spec", .obj [("paused", .bool true), ("replicas", .int 3)])]

private def wantedDatabase : Json :=
  .obj [("note", .null),
    ("spec", .obj [("labels", .obj [("app", .str "db")]), ("replicas", .int 5)])]

private def servedDatabase : Json :=
  .obj [("note", .str "kept by hand"),
    ("spec", .obj [("labels", .obj [("app", .str "db"), ("team", .str "data")]),
      ("paused", .bool true), ("replicas", .int 3)])]

/-- The label that only the server has stays, the note desired as null and the dropped member go,
and the number of replicas is another one. -/
theorem diff_frame_with_null_and_drop :
    ∃ p, diff ((some appliedDatabase).getD .null) wantedDatabase servedDatabase = some p ∧
      (servedDatabase.merge p).at? ["spec", "labels", "team"] = some (.str "data") ∧
      ¬ Option.Rel (fun a b => a.same b = true) ((servedDatabase.merge p).at? ["note"])
        (some (.str "kept by hand")) ∧
      ¬ Option.Rel (fun a b => a.same b = true) ((servedDatabase.merge p).at? ["spec", "paused"])
        (some (.bool true)) ∧
      ¬ Option.Rel (fun a b => a.same b = true) ((servedDatabase.merge p).at? ["spec", "replicas"])
        (some (.int 3)) := by
  have hp : diff ((some appliedDatabase).getD .null) wantedDatabase servedDatabase =
      some (.obj [("note", .null), ("spec", .obj [("paused", .null), ("replicas", .int 5)])]) := by
    decide +kernel
  obtain ⟨hleft, hchanged⟩ := diff_frame (by decide) hp
  have hmember (k : String) : Alongside ["spec", k] wantedDatabase servedDatabase :=
    alongside_cons_iff.2 ⟨_, _, rfl, rfl, .inr ⟨_, _, rfl, rfl,
      alongside_cons_iff.2 ⟨_, _, rfl, rfl, .inl rfl⟩⟩⟩
  have hlabel : Alongside ["spec", "labels", "team"] wantedDatabase servedDatabase :=
    alongside_cons_iff.2 ⟨_, _, rfl, rfl, .inr ⟨_, _, rfl, rfl,
      alongside_cons_iff.2 ⟨_, _, rfl, rfl, .inr ⟨_, _, rfl, rfl,
        alongside_cons_iff.2 ⟨_, _, rfl, rfl, .inl rfl⟩⟩⟩⟩⟩
  have hnote : Alongside ["note"] wantedDatabase servedDatabase :=
    alongside_cons_iff.2 ⟨_, _, rfl, rfl, .inl rfl⟩
  refine ⟨_, hp, (hleft _ hlabel).1 _ (by decide) (by decide) (by decide),
    hchanged _ hnote (by decide) ?_, hchanged _ (hmember "paused") (by decide) ?_,
    hchanged _ (hmember "replicas") (by decide) ?_⟩
  · rintro ⟨⟨ms, hms⟩, -⟩
    cases hms
  · rintro ⟨⟨ms, hms⟩, -⟩
    cases hms
  · rintro ⟨⟨ms, hms⟩, -⟩
    cases hms

end DesiredState.Json
