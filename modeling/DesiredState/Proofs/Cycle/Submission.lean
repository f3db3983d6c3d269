import DesiredState.CommandLine.Run
import DesiredState.Proofs.Cycle.Prepared
import DesiredState.Proofs.Cycle.Protocol
import DesiredState.Proofs.Cycle.Recorded
import DesiredState.Proofs.Patch.Roundtrip
/-!
The objects that a cycle hands to the store. Main statements: `submits_created` and
`submits_updated`, which objects they are for any engine; `replaces_of_record`, what an update
submits, member by member; and `reconcile_submits`, both for the engine that keeps snapshots.
-/

set_option autoImplicit false
set_option relaxedAutoImplicit false

namespace DesiredState

open Snapshot (ofJson)
open StatefulSet (Annotated)

section

variable {ε φ π : Type} [Wraps ε ParameterError] [Wraps ε φ] [PatchResult π] {engine : Engine φ π}
  {rules : List IgnoreRule} {p : Parameters} {calls : List (Call ε)} {events : List (Event ε π)}
  {result : Except ε (Outcome π)}

theorem Course.submits_created (h : Course engine rules p calls events result) {ns : String}
    {o : StatefulSet} {answer : Except ε StatefulSet}
    (hc : .create ns o answer ∈ calls) :
    ns = p.ns ∧ .get p.ns p.name (.ok none) ∈ calls ∧
      ∃ desired, render p = .ok desired ∧ engine.record desired = .ok o := by
  cases h with
  | @createFailed desired _ _ _ rendered recorded | @created desired _ _ _ rendered recorded =>
    rcases List.mem_pair.1 hc with hget | hcreate
    · cases hget
    · cases hcreate
      exact ⟨rfl, List.mem_cons_self, desired, rendered, recorded⟩
  | updateFailed | updated =>
    rcases List.mem_pair.1 hc with hget | hupdate
    · cases hget
    · cases hupdate
  | unaddressed => cases hc
  | _ =>
    have hget := List.mem_singleton.1 hc
    cases hget

theorem Course.submits_updated (h : Course engine rules p calls events result) {ns : String}
    {o : StatefulSet} {answer : Except ε StatefulSet}
    (hc : .update ns o answer ∈ calls) :
    ns = p.ns ∧ ∃ stored desired, .get p.ns p.name (.ok (some stored)) ∈ calls ∧
      render p = .ok desired ∧ engine.record (replacement stored desired) = .ok o := by
  cases h with
  | @updateFailed desired stored _ _ _ _ rendered _ _ recorded
  | @updated desired stored _ _ _ _ rendered _ _ recorded =>
    rcases List.mem_pair.1 hc with hget | hupdate
    · cases hget
    · cases hupdate
      exact ⟨rfl, stored, desired, List.mem_cons_self, rendered, recorded⟩
  | createFailed | created =>
    rcases List.mem_pair.1 hc with hget | hcreate
    · cases hget
    · cases hcreate
  | unaddressed => cases hc
  | _ =>
    have hget := List.mem_singleton.1 hc
    cases hget

end

/-- The object `o` is to replace the stored one: it is the desired one, but for the metadata that
are copied from the stored one, and for the annotations. These are those of both objects, where the
desired ones win, and the text of the snapshot of `o` itself. -/
structure Replaces (key : String) (stored desired o : StatefulSet) : Prop where
  members : Value.SameBut ["metadata"] o desired
  metadata : ∀ name, name ≠ "annotations" →
    (o.get StatefulSet.metadata).members.get? name =
      if name ∈ copiedMetadata then (stored.get StatefulSet.metadata).members.get? name
      else (desired.get StatefulSet.metadata).members.get? name
  annotation : ∀ a, o.annotationText? a =
    if a = key then some (.ofText (ofJson key o.toJson).compact)
    else (desired.annotationText? a).or (stored.annotationText? a)

/-- There is one object that is to replace the stored one. -/
private theorem Replaces.unique {key : String} {stored desired o x : StatefulSet}
    (ho : Replaces key stored desired o) (hx : Replaces key stored desired x) : o = x := by
  have hmembers : Value.SameBut ["metadata"] o x := ho.members.trans hx.members.symm
  have hmetadata : Value.SameBut ["annotations"] (o.get StatefulSet.metadata)
      (x.get StatefulSet.metadata) := by
    intro name hname
    rw [List.mem_singleton] at hname
    rw [ho.metadata name hname, hx.metadata name hname]
  have hother : ∀ a, a ≠ key → o.annotationText? a = x.annotationText? a := by
    intro a ha
    rw [ho.annotation, hx.annotation, if_neg ha, if_neg ha]
  -- the snapshots agree, since neither holds its own annotation
  have hsnapshot : ofJson key o.toJson = ofJson key x.toJson := by
    refine Snapshot.ofJson_congr (fun k hk => ?_) (fun k _ hk => ?_) hother
    · exact hmembers.get?_jsonMembers (by rwa [List.mem_singleton])
    · exact hmetadata.get?_jsonMembers (by rwa [List.mem_singleton])
  have hannotations : ∀ a, o.annotationText? a = x.annotationText? a := by
    intro a
    rw [ho.annotation, hx.annotation, hsnapshot]
  have hkey : (o.annotationText? key).isSome = true := by
    rw [ho.annotation, if_pos rfl]
    rfl
  exact StatefulSet.eq_of_annotationText? hmembers hmetadata hannotations hkey

/-- An update submits the object that is to replace the stored one. -/
theorem replaces_of_record {key : String} {stored desired o : StatefulSet}
    (h : Snapshot.record key (replacement stored desired) = .ok o) :
    Replaces key stored desired o := by
  have hannotated := Snapshot.annotated_of_record h
  refine ⟨?_, ?_, ?_⟩
  · exact hannotated.members.trans (sameBut_replacement stored desired)
  · intro name hname
    rw [← get?_metadata_replacement stored desired hname]
    apply hannotated.metadata
    rwa [List.mem_singleton]
  · intro a
    rw [hannotated.annotation, annotationText?_replacement, Snapshot.ofJson_annotated hannotated]

private theorem CommandLine.renderText_eq_ok {p : Parameters} {desired o : StatefulSet}
    (hrender : render p = .ok desired)
    (hrecord : Snapshot.record Snapshot.defaultKey desired = .ok o) :
    renderText p = .ok (Yaml.print o.toJson) := by
  have hwrite : writeYaml (.ok o.toJson) = .ok (Yaml.print o.toJson) := rfl
  have hrendered : (render p).mapError CycleError.parameters = .ok desired := by
    rw [hrender]
    rfl
  have hrecorded : (Snapshot.record Snapshot.defaultKey desired).mapError CycleError.patch =
      .ok o := by
    rw [hrecord]
    rfl
  rw [renderText, hrendered]
  simp only [bind, Except.bind, hrecorded, hwrite]
  rfl

private theorem CommandLine.renderFile_eq {path : String} {entry : FileEntry} {p : Parameters}
    {text : String} (hfile : Parameters.ofFile path entry = .ok p)
    (htext : renderText p = .ok text) :
    renderFile path entry = { output := text ++ "\n", log := renderNotices p } := by
  rw [renderFile, hfile]
  simp only [htext]

variable {σ ε : Type} [Wraps ε ParameterError] [Wraps ε PatchError]

/-- Whatever the store answers, a cycle submits no object but these. What it creates is the
synthesized object with its snapshot in the annotation, which under the usual key is the object that
rendering prints. What it updates is to replace the object that was fetched, none of whose
annotations is lost. -/
theorem reconcile_submits (store : Store σ ε) (c : Config) (p : Parameters) (s : σ) :
    let traced := reconcile store.traced c.engine c.ignoreRules p (s, [])
    traced.map Prod.fst = reconcile store c.engine c.ignoreRules p s ∧
    (∀ ns o answer, .create ns o answer ∈ traced.store.2 →
      ns = p.ns ∧ .get p.ns p.name (.ok none) ∈ traced.store.2 ∧
      ∃ desired, render p = .ok desired ∧
        (∀ x, Annotated c.annotationKey (ofJson c.annotationKey desired.toJson).compact desired x ↔
          x = o) ∧
        (c.annotationKey = Snapshot.defaultKey →
          CommandLine.renderText p = .ok (Yaml.print o.toJson) ∧
          ∀ path entry, Parameters.ofFile path entry = .ok p →
            CommandLine.renderFile path entry =
              { output := Yaml.print o.toJson ++ "\n", log := renderNotices p })) ∧
    ∀ ns o answer, .update ns o answer ∈ traced.store.2 →
      ns = p.ns ∧ ∃ stored desired, .get p.ns p.name (.ok (some stored)) ∈ traced.store.2 ∧
        render p = .ok desired ∧ (∀ x, Replaces c.annotationKey stored desired x ↔ x = o) ∧
        ∀ a, (stored.annotationText? a).isSome = true → (o.annotationText? a).isSome = true := by
  intro traced
  have hcourse : Goes c.engine c.ignoreRules p traced :=
    goes_reconcile store c.engine c.ignoreRules p s
  have hsame : traced.map Prod.fst = reconcile store c.engine c.ignoreRules p s :=
    map_reconcile store.follows_traced c.engine c.ignoreRules p (s, [])
  refine ⟨hsame, ?_, ?_⟩
  · intro ns o answer hcreate
    obtain ⟨hns, hget, desired, hrender, hrecord⟩ := hcourse.submits_created hcreate
    have hannotated := Snapshot.annotated_of_record hrecord
    refine ⟨hns, hget, desired, hrender, ?_, ?_⟩
    · intro x
      constructor
      · intro hx
        exact hx.unique hannotated
      · rintro rfl
        exact hannotated
    · intro hkey
      have hdefault : Snapshot.record Snapshot.defaultKey desired = .ok o := hkey ▸ hrecord
      have htext := CommandLine.renderText_eq_ok hrender hdefault
      exact ⟨htext, fun path entry hfile => CommandLine.renderFile_eq hfile htext⟩
  · intro ns o answer hupdate
    obtain ⟨hns, stored, desired, hget, hrender, hrecord⟩ := hcourse.submits_updated hupdate
    have hreplaces := replaces_of_record hrecord
    refine ⟨hns, stored, desired, hget, hrender, ?_, ?_⟩
    · intro x
      constructor
      · intro hx
        exact hx.unique hreplaces
      · rintro rfl
        exact hreplaces
    · intro a ha
      exact isSome_annotationText?_of_record hrecord ha

/-- The database on an empty store is created as it is printed; in place of a bare object that is to
be backed up, it is submitted with that annotation. -/
theorem reconcile_submits_database :
    let cycle := fun m : Memory => reconcile (Memory.asStore ⟨⟨0, 0⟩, "u1"⟩).traced
      Config.default.engine Config.default.ignoreRules databaseParameters (m, [])
    (∃ ns o answer, .create ns o answer ∈ (cycle (Memory.empty false)).store.2 ∧
      CommandLine.renderText databaseParameters = .ok (Yaml.print o.toJson)) ∧
    ∃ ns o answer stored desired, .update ns o answer ∈ (cycle annotatedStore).store.2 ∧
      render databaseParameters = .ok desired ∧ Replaces Snapshot.defaultKey stored desired o := by
  intro cycle
  have hcreated : ((cycle (Memory.empty false)).store.2.any fun
      | .create .. => true
      | _ => false) = true := by decide +kernel
  have hupdated : ((cycle annotatedStore).store.2.any fun
      | .update .. => true
      | _ => false) = true := by decide +kernel
  obtain ⟨_, hcreates, -⟩ := reconcile_submits (Memory.asStore ⟨⟨0, 0⟩, "u1"⟩) Config.default
    databaseParameters (Memory.empty false)
  obtain ⟨_, -, hupdates⟩ := reconcile_submits (Memory.asStore ⟨⟨0, 0⟩, "u1"⟩) Config.default
    databaseParameters annotatedStore
  rw [List.any_eq_true] at hcreated hupdated
  refine ⟨?_, ?_⟩
  · obtain ⟨call, hmem, htest⟩ := hcreated
    cases call with
    | create ns o answer =>
      obtain ⟨-, -, desired, -, -, hprinted⟩ := hcreates ns o answer hmem
      exact ⟨ns, o, answer, hmem, (hprinted rfl).1⟩
    | get | update => cases htest
  · obtain ⟨call, hmem, htest⟩ := hupdated
    cases call with
    | update ns o answer =>
      obtain ⟨-, stored, desired, -, hrender, hreplaces, -⟩ := hupdates ns o answer hmem
      exact ⟨ns, o, answer, stored, desired, hmem, hrender, (hreplaces o).2 rfl⟩
    | get | create => cases htest

end DesiredState
