import DesiredState.Proofs.Cycle.Submission
/-!
Who writes the metadata that the store owns. A cycle copies three of them from the stored object and
takes the other ones as the caller gave them; an object that is created has them all as the caller
gave them. Main statement: `reconcile_owned_metadata`, what is submitted of them, and for which
parameters nothing is submitted but what the store wrote.
-/

set_option autoImplicit false
set_option relaxedAutoImplicit false

namespace DesiredState

open Snapshot (storeOwned)

/-- What metadata hold under a name. -/
def ObjectMeta.held? (m : ObjectMeta) (name : String) : Option Datum := m.members.get? name

def StatefulSet.held? (o : StatefulSet) (name : String) : Option Datum :=
  ObjectMeta.held? (o.get StatefulSet.metadata) name

namespace Snapshot

private theorem storeOwned_disjoint_written : ∀ k ∈ storeOwned, k ∉ writtenMetadata := by
  decide

private theorem ne_annotations_of_storeOwned {k : String} (h : k ∈ storeOwned) :
    k ≠ "annotations" := by
  rintro rfl
  have hnot : "annotations" ∉ storeOwned := by decide
  exact hnot h

end Snapshot

private theorem held?_of_render {p : Parameters} {o : StatefulSet} (h : render p = .ok o)
    {k : String} (hk : k ∈ storeOwned) : o.held? k = p.metadata.held? k :=
  sameBut_render h k (Snapshot.storeOwned_disjoint_written k hk)

private theorem held?_of_annotated {key text : String} {x r : StatefulSet}
    (h : StatefulSet.Annotated key text x r) {k : String} (hk : k ∈ storeOwned) :
    r.held? k = x.held? k := by
  apply h.metadata
  rw [List.mem_singleton]
  exact Snapshot.ne_annotations_of_storeOwned hk

private theorem held?_of_replaces {key : String} {stored desired o : StatefulSet}
    (h : Replaces key stored desired o) {k : String} (hk : k ∈ storeOwned) :
    o.held? k = if k ∈ copiedMetadata then stored.held? k else desired.held? k :=
  h.metadata k (Snapshot.ne_annotations_of_storeOwned hk)

variable {σ ε : Type} [Wraps ε ParameterError] [Wraps ε PatchError]

private theorem held?_of_created {c : Config} {rules : List IgnoreRule} {p : Parameters}
    {calls : List (Call ε)} {events : List (Event ε Patch)} {result : Except ε Outcome}
    (h : Course c.engine rules p calls events result) {ns : String} {o : StatefulSet}
    {answer : Except ε StatefulSet} (hc : .create ns o answer ∈ calls) {k : String}
    (hk : k ∈ storeOwned) : o.held? k = p.metadata.held? k := by
  obtain ⟨-, -, desired, hrender, hrecord⟩ := h.submits_created hc
  have hannotated := Snapshot.annotated_of_record hrecord
  rw [held?_of_annotated hannotated hk, held?_of_render hrender hk]

private theorem held?_of_updated {c : Config} {rules : List IgnoreRule} {p : Parameters}
    {calls : List (Call ε)} {events : List (Event ε Patch)} {result : Except ε Outcome}
    (h : Course c.engine rules p calls events result) {ns : String} {o : StatefulSet}
    {answer : Except ε StatefulSet} (hc : .update ns o answer ∈ calls) :
    ∃ stored, .get p.ns p.name (.ok (some stored)) ∈ calls ∧ ∀ k ∈ storeOwned,
      o.held? k = if k ∈ copiedMetadata then stored.held? k else p.metadata.held? k := by
  obtain ⟨-, stored, desired, hget, hrender, hrecord⟩ := h.submits_updated hc
  refine ⟨stored, hget, fun k hk => ?_⟩
  rw [held?_of_replaces (replaces_of_record hrecord) hk, held?_of_render hrender hk]

/-- Of the metadata that the store owns, an object that is created holds what the caller gave, and
an object that is updated what was fetched, for those that are copied, and what the caller gave for
the other ones. So nothing is submitted but what the store wrote if and only if the caller gives
none of them, respectively none of the other ones that differs from what was fetched. -/
theorem reconcile_owned_metadata (store : Store σ ε) (c : Config) (p : Parameters) (s : σ) :
    let traced := reconcile store.traced c.engine c.ignoreRules p (s, [])
    traced.map Prod.fst = reconcile store c.engine c.ignoreRules p s ∧
    (∀ ns o answer, .create ns o answer ∈ traced.store.2 →
      (∀ k ∈ storeOwned, o.held? k = p.metadata.held? k) ∧
      ((∀ k ∈ storeOwned, o.held? k = none) ↔ ∀ k ∈ storeOwned, p.metadata.held? k = none)) ∧
    ∀ ns o answer, .update ns o answer ∈ traced.store.2 →
      ∃ stored, .get p.ns p.name (.ok (some stored)) ∈ traced.store.2 ∧
        (∀ k ∈ storeOwned,
          o.held? k = if k ∈ copiedMetadata then stored.held? k else p.metadata.held? k) ∧
        ((∀ k ∈ storeOwned, o.held? k = none ∨ o.held? k = stored.held? k) ↔
          ∀ k ∈ storeOwned, k ∉ copiedMetadata →
            p.metadata.held? k = none ∨ p.metadata.held? k = stored.held? k) := by
  intro traced
  have hcourse : Goes c.engine c.ignoreRules p traced :=
    goes_reconcile store c.engine c.ignoreRules p s
  have hsame : traced.map Prod.fst = reconcile store c.engine c.ignoreRules p s :=
    map_reconcile store.follows_traced c.engine c.ignoreRules p (s, [])
  refine ⟨hsame, ?_, ?_⟩
  · intro ns o answer hcreate
    have hheld : ∀ k ∈ storeOwned, o.held? k = p.metadata.held? k := by
      intro k hk
      exact held?_of_created hcourse hcreate hk
    refine ⟨hheld, ?_⟩
    constructor
    · intro hclean k hk
      rw [← hheld k hk, hclean k hk]
    · intro hclean k hk
      rw [hheld k hk, hclean k hk]
  · intro ns o answer hupdate
    obtain ⟨stored, hget, hheld⟩ := held?_of_updated hcourse hupdate
    refine ⟨stored, hget, hheld, ?_⟩
    constructor
    · intro hclean k hk hcopied
      have hk' := hclean k hk
      rwa [hheld k hk, if_neg hcopied] at hk'
    · intro hclean k hk
      rw [hheld k hk]
      split
      · exact .inr rfl
      · rename_i hcopied
        exact hclean k hk hcopied

namespace ObjectMeta

def deletionTimestamp : Slot .objectMeta .time false := ⟨"deletionTimestamp", rfl⟩
def selfLink : Slot .objectMeta .text false := ⟨"selfLink", rfl⟩

end ObjectMeta

def copiedParameters : Parameters :=
  let m := grownParameters.metadata
  let m := m.put ObjectMeta.resourceVersion (.ofText "41")
  let m := m.put ObjectMeta.creationTimestamp (.ofTime ⟨0, 0⟩)
  let m := m.put ObjectMeta.managedFields (.ofItems [Record.blank .managedFieldsEntry])
  let m := m.put ObjectMeta.uid (.ofText "copied")
  let m := m.put ObjectMeta.generation (.ofInt64 7 (Eq.refl true))
  let m := m.put ObjectMeta.selfLink (.ofText "/old")
  let m := m.put ObjectMeta.deletionTimestamp (.ofTime ⟨60, 0⟩)
  { grownParameters with metadata := m }

def liveStore : Memory :=
  let m := (Record.blank .objectMeta).put ObjectMeta.name (.ofText "db")
  let m := (m.put ObjectMeta.uid (.ofText "u0")).put ObjectMeta.generation
    (.ofInt64 1 (Eq.refl true))
  (Memory.empty false).insert "prod" ((Record.blank .statefulSet).put StatefulSet.metadata m)

namespace Call

def found? : Call → Option StatefulSet
  | .get _ _ (.ok found) => found
  | _ => none

def creation? : Call → Option StatefulSet
  | .create _ o _ => some o
  | _ => none

def update? : Call → Option StatefulSet
  | .update _ o _ => some o
  | _ => none

end Call

/-- On an empty store all seven are created as they were copied; where there is an object, the
update carries the four that are not taken from there as they were copied. -/
theorem copied_metadata_submitted :
    let calls := fun m : Memory => (reconcile (Memory.asStore ⟨⟨0, 0⟩, "u1"⟩).traced
      Config.default.engine Config.default.ignoreRules copiedParameters (m, [])).store.2
    (∃ o ∈ (calls (Memory.empty false)).filterMap Call.creation?,
      ∀ k ∈ storeOwned, o.held? k ≠ none) ∧
    ∃ stored ∈ (calls liveStore).filterMap Call.found?,
      ∃ o ∈ (calls liveStore).filterMap Call.update?, ∀ k ∈ storeOwned, k ∉ copiedMetadata →
        o.held? k ≠ none ∧ o.held? k ≠ stored.held? k := by
  intro calls
  have hcreated : ∃ o ∈ (calls (Memory.empty false)).filterMap Call.creation?,
      ∀ k ∈ storeOwned, o.held? k ≠ none := by
    decide +kernel
  have hupdated : ∃ stored ∈ (calls liveStore).filterMap Call.found?,
      ∃ o ∈ (calls liveStore).filterMap Call.update?, ∀ k ∈ storeOwned, k ∉ copiedMetadata →
        o.held? k ≠ none ∧ o.held? k ≠ stored.held? k := by
    decide +kernel
  exact ⟨hcreated, hupdated⟩

end DesiredState
