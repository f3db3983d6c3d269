import DesiredState.Proofs.Schema.Json
import DesiredState.Synthesis
import Mathlib.Data.List.Induction
import Mathlib.Data.List.Nodup
/-!
The owners of an object. An owner is known by its uid, whatever else two references to it say. Main
statement: `addOwner_run`, that a sequence of owners leaves those that were there where they were
and appends, of each new uid, the first one given.
-/

set_option autoImplicit false
set_option relaxedAutoImplicit false

namespace DesiredState

def OwnerReference.uids (owners : List OwnerReference) : List (Value .text) :=
  owners.map fun o => o.get OwnerReference.uid

/-- The owners of a sequence of whose uid there is neither a known owner nor an earlier one. -/
def OwnerReference.newcomers (known given : List OwnerReference) : List OwnerReference :=
  (given.zipIdx.filter fun p =>
    p.1.get OwnerReference.uid ∉ uids (known ++ given.take p.2)).map Prod.fst

open OwnerReference (uids newcomers)

namespace OwnerReference

variable {known given : List OwnerReference} {owner : OwnerReference}

private theorem uids_append (as bs : List OwnerReference) : uids (as ++ bs) = uids as ++ uids bs :=
  List.map_append

private theorem mem_uids : owner.get uid ∈ uids known ↔ ∃ o ∈ known, o.get uid = owner.get uid :=
  List.mem_map

private theorem newcomers_concat :
    newcomers known (given ++ [owner]) = newcomers known given ++
      if owner.get uid ∈ uids (known ++ given) then [] else [owner] := by
  -- what comes before the last owner is not changed by it
  have hearlier : ∀ p ∈ given.zipIdx,
      decide (p.1.get uid ∉ uids (known ++ (given ++ [owner]).take p.2)) =
        decide (p.1.get uid ∉ uids (known ++ given.take p.2)) := by
    intro p hp
    have hlt : p.2 < given.length := List.snd_lt_of_mem_zipIdx hp
    rw [List.take_append_of_le_length (Nat.le_of_lt hlt)]
  have hlast : (given ++ [owner]).take given.length = given := List.take_left
  rw [newcomers, List.zipIdx_append, List.filter_append, List.map_append,
    List.filter_congr hearlier, newcomers]
  congr 1
  rw [List.zipIdx_singleton, Nat.zero_add, List.filter_singleton, hlast]
  by_cases hknown : owner.get uid ∈ uids (known ++ given)
  · simp [hknown]
  · simp [hknown]

private theorem mem_uids_newcomers (u : Value .text) :
    u ∈ uids (known ++ newcomers known given) ↔ u ∈ uids (known ++ given) := by
  induction given using List.reverseRecOn with
  | nil => rfl
  | append_singleton given owner ih =>
    have hlast : u ∈ uids [owner] ↔ u = owner.get uid := List.mem_singleton
    rw [newcomers_concat, ← List.append_assoc, ← List.append_assoc, uids_append,
      uids_append (known ++ given), List.mem_append, List.mem_append, ih]
    by_cases hknown : owner.get uid ∈ uids (known ++ given)
    · -- an owner that is no newcomer brings a uid that was there
      rw [if_pos hknown, hlast]
      constructor
      · rintro (h | h)
        · exact .inl h
        · cases h
      · rintro (h | rfl)
        · exact .inl h
        · exact .inl hknown
    · rw [if_neg hknown]

def named (name uid : String) : OwnerReference :=
  let nameSlot : Slot .ownerReference .text true := ⟨"name", rfl⟩
  ((Record.blank .ownerReference).put nameSlot (.ofText name)).put OwnerReference.uid (.ofText uid)

end OwnerReference

namespace ObjectMeta

variable (m : ObjectMeta) (owner : OwnerReference) (given : List OwnerReference)

def owners : List OwnerReference := ((m.get? ownerReferences).getD .emptyList).items

private theorem addOwner_eq :
    m.addOwner owner = m.put ownerReferences (.ofItems
      (if owner.get OwnerReference.uid ∈ uids m.owners then m.owners
        else m.owners ++ [owner])) := by
  have hknown : (m.owners.any fun o =>
      o.get OwnerReference.uid = owner.get OwnerReference.uid) = true ↔
        owner.get OwnerReference.uid ∈ uids m.owners := by
    rw [OwnerReference.mem_uids, List.any_eq_true]
    simp only [decide_eq_true_eq]
  have howners : ((m.get? ownerReferences).getD .emptyList).items = m.owners := rfl
  rw [addOwner, howners]
  congr 2
  exact if_congr hknown rfl rfl

private theorem owners_addOwner :
    (m.addOwner owner).owners = m.owners ++
      if owner.get OwnerReference.uid ∈ uids m.owners then [] else [owner] := by
  rw [addOwner_eq, owners, Value.get?_put_self, Option.getD_some, Value.items_ofItems]
  split_ifs
  · rw [List.append_nil]
  · rfl

private theorem sameBut_addOwner : Value.SameBut ["ownerReferences"] (m.addOwner owner) m := by
  rw [addOwner_eq]
  exact Value.sameBut_put m ownerReferences _

variable {m owner given}

private theorem addOwner_eq_self (h : owner.get OwnerReference.uid ∈ uids m.owners) :
    m.addOwner owner = m := by
  rw [addOwner_eq, if_pos h]
  cases hslot : m.get? ownerReferences with
  | none =>
    rw [owners, hslot] at h
    cases h
  | some v =>
    rw [owners, hslot, Option.getD_some, Value.ofItems_items]
    exact Value.put_of_get? hslot

private theorem nodup_uids_addOwner (h : (uids m.owners).Nodup) :
    (uids (m.addOwner owner).owners).Nodup := by
  rw [owners_addOwner, OwnerReference.uids_append]
  split_ifs with hknown
  · exact (List.append_nil _).symm ▸ h
  · refine List.nodup_append.2 ⟨h, List.nodup_singleton _, ?_⟩
    rintro a ha b hb rfl
    have huid : a = owner.get OwnerReference.uid := List.mem_singleton.1 hb
    exact hknown (huid ▸ ha)

private theorem nodup_uids_foldl_addOwner (h : (uids m.owners).Nodup) :
    (uids (given.foldl addOwner m).owners).Nodup := by
  induction given generalizing m with
  | nil => exact h
  | cons owner given ih => exact ih (nodup_uids_addOwner h)

variable (m given) in
private theorem sameBut_foldl_addOwner :
    Value.SameBut ["ownerReferences"] (given.foldl addOwner m) m := by
  induction given generalizing m with
  | nil => exact Value.sameBut_refl _ m
  | cons owner given ih => exact (ih (m.addOwner owner)).trans (sameBut_addOwner m owner)

private theorem owners_foldl_addOwner :
    (given.foldl addOwner m).owners = m.owners ++ newcomers m.owners given := by
  induction given using List.reverseRecOn with
  | nil => exact (List.append_nil _).symm
  | append_singleton given owner ih =>
    have hknown : owner.get OwnerReference.uid ∈ uids (m.owners ++ newcomers m.owners given) ↔
        owner.get OwnerReference.uid ∈ uids (m.owners ++ given) :=
      OwnerReference.mem_uids_newcomers _
    rw [List.foldl_append, List.foldl_cons, List.foldl_nil, owners_addOwner, ih,
      OwnerReference.newcomers_concat, List.append_assoc]
    simp only [hknown]

private theorem foldl_addOwner_eq_self {again : List OwnerReference}
    (h : ∀ o ∈ again, o.get OwnerReference.uid ∈ uids m.owners) : again.foldl addOwner m = m := by
  induction again with
  | nil => rfl
  | cons o again ih =>
    obtain ⟨ho, hagain⟩ := List.forall_mem_cons.1 h
    rw [List.foldl_cons, addOwner_eq_self ho, ih hagain]

/-- Adding owners one after the other appends those of a new uid, each once and in the order in
which they are given, and leaves the owners that were there and all other metadata as they are.
Uids that are distinct stay so, and giving any of the owners again changes nothing. -/
theorem addOwner_run (m : ObjectMeta) (given : List OwnerReference) :
    (given.foldl addOwner m).owners = m.owners ++ newcomers m.owners given ∧
      ((uids m.owners).Nodup → (uids (given.foldl addOwner m).owners).Nodup) ∧
      (∀ again : List OwnerReference, again ⊆ given →
        again.foldl addOwner (given.foldl addOwner m) = given.foldl addOwner m) ∧
      Value.SameBut ["ownerReferences"] (given.foldl addOwner m) m := by
  refine ⟨owners_foldl_addOwner, nodup_uids_foldl_addOwner, fun again hagain => ?_,
    sameBut_foldl_addOwner m given⟩
  apply foldl_addOwner_eq_self
  intro o ho
  rw [owners_foldl_addOwner, OwnerReference.mem_uids_newcomers, OwnerReference.uids_append]
  exact List.mem_append_right _ (List.mem_map_of_mem (hagain ho))

def owned (owner : OwnerReference) : ObjectMeta :=
  (Record.blank .objectMeta).put ownerReferences (.ofItems [owner])

end ObjectMeta

open OwnerReference (named)

def claimants : List OwnerReference :=
  [named "cache" "2", named "renamed" "1", named "mirror" "2", named "queue" "3"]

/-- Of two owners that share a uid the first one counts, also where it was there before. -/
theorem addOwner_run_of_shared_uids :
    (claimants.foldl ObjectMeta.addOwner (ObjectMeta.owned (named "database" "1"))).owners =
        [named "database" "1", named "cache" "2", named "queue" "3"] ∧
      (uids (claimants.foldl ObjectMeta.addOwner
        (ObjectMeta.owned (named "database" "1"))).owners).Nodup ∧
      (claimants.foldl ObjectMeta.addOwner (ObjectMeta.owned (named "database" "1"))).addOwner
          (named "mirror" "2") =
        claimants.foldl ObjectMeta.addOwner (ObjectMeta.owned (named "database" "1")) := by
  obtain ⟨howners, hnodup, hagain, -⟩ :=
    ObjectMeta.addOwner_run (ObjectMeta.owned (named "database" "1")) claimants
  refine ⟨?_, hnodup (by decide), hagain [named "mirror" "2"] ?_⟩
  · rw [howners]
    decide
  · intro o ho
    rw [List.mem_singleton.1 ho]
    decide

end DesiredState
