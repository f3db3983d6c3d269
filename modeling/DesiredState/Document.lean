import DesiredState.Json.Basic
/-!
Documents as they are read, before a type is asked for. A scalar says what each kind of reader
may take it for, so that JSON and YAML documents are read by the same typed readers.
-/

set_option autoImplicit false
set_option relaxedAutoImplicit false

namespace DesiredState

inductive Presence where
  | given
  | missing
  | contradictory
deriving DecidableEq

/-- What a scalar can be taken for. A scalar that can be taken for nothing can only be skipped. -/
structure Scalar where
  text? : Option String := none
  int? : Option Int := none
  bool? : Option Bool := none
  value? : Option Json := none
  presence : Presence := .given
  empty : Bool := false
  atomic : value?.all Json.isAtom = true := by rfl

/-- A document: scalars, sequences and mappings. A key that is no string is `none`. -/
inductive Node where
  | scalar (s : Scalar)
  | seq (items : List Node)
  | map (entries : List (Option String × Node))

namespace Scalar

def ofNull : Scalar := { value? := some .null, presence := .missing }
def ofBool (b : Bool) : Scalar := { bool? := some b, value? := some (.bool b) }
def ofInt (n : Int) : Scalar := { int? := some n, value? := some (.int n) }
def ofFloat (x : Binary64) : Scalar := { value? := some (.float x) }
def ofText (s : String) : Scalar := { text? := some s, value? := some (.str s) }
def unreadable : Scalar := {}

end Scalar

inductive Mismatch where
  | wrongShape (wanted : String)
  | tooDeep
  | keyNotText
  | repeatedField (name : String)
  | outOfRange
  | otherText (wanted : String)
  | tooManyItems
  | notNull
deriving DecidableEq

def Mismatch.message : Mismatch → String
  | .wrongShape wanted => "expected " ++ wanted
  | .tooDeep => "recursion limit exceeded"
  | .keyNotText => "expected a string key"
  | .repeatedField name => "duplicate field " ++ name
  | .outOfRange => "integer out of range"
  | .otherText wanted => "expected the text " ++ wanted
  | .tooManyItems => "too many items"
  | .notNull => "expected null"

namespace Node

def presence : Node → Presence
  | .scalar s => s.presence
  | _ => .given

mutual
/-- The document as free-form data, nested at most `depth` levels; of equal keys the last one
wins, and objects come out ordered. -/
def toJson (depth : Nat) : Node → Except Mismatch Json
  | .scalar s => s.value?.elim (.error (.wrongShape "a value")) .ok
  | .seq items =>
    match depth with
    | 0 => .error .tooDeep
    | d + 1 => (toJsonItems d items).map .arr
  | .map entries =>
    match depth with
    | 0 => .error .tooDeep
    | d + 1 => (toJsonEntries d entries).map (fun ms => .obj (Members.ofList ms))
def toJsonItems (depth : Nat) : List Node → Except Mismatch (List Json)
  | [] => .ok []
  | n :: ns => do
    let j ← toJson depth n
    let js ← toJsonItems depth ns
    pure (j :: js)
def toJsonEntries (depth : Nat) :
    List (Option String × Node) → Except Mismatch (List (String × Json))
  | [] => .ok []
  | (none, _) :: _ => .error .keyNotText
  | (some k, n) :: es => do
    let j ← toJson depth n
    let ms ← toJsonEntries depth es
    pure ((k, j) :: ms)
end

mutual
theorem ordered_of_toJson {depth : Nat} :
    (n : Node) → {j : Json} → n.toJson depth = .ok j → j.ordered = true
  | .scalar s, j, h => by
    have ha := s.atomic
    cases hv : s.value? with
    | none => simp [toJson, hv] at h
    | some v =>
      rw [hv] at ha
      simp only [toJson, hv, Option.elim_some, Except.ok.injEq] at h
      exact h ▸ Json.ordered_of_isAtom ha
  | .seq items, j, h => by
    cases depth with
    | zero => simp [toJson] at h
    | succ d =>
      cases hi : toJsonItems d items with
      | error e => simp [toJson, hi, Except.map] at h
      | ok js =>
        simp only [toJson, hi, Except.map, Except.ok.injEq] at h
        exact h ▸ Json.orderedList_iff.2 (ordered_of_toJsonItems items hi)
  | .map entries, j, h => by
    cases depth with
    | zero => simp [toJson] at h
    | succ d =>
      cases hi : toJsonEntries d entries with
      | error e => simp [toJson, hi, Except.map] at h
      | ok ms =>
        simp only [toJson, hi, Except.map, Except.ok.injEq] at h
        exact h ▸ Json.ordered_obj_iff.2 ⟨Members.increasing_ofList ms, fun m hm =>
          ordered_of_toJsonEntries entries hi m (Members.mem_of_mem_ofList hm)⟩
theorem ordered_of_toJsonItems {depth : Nat} :
    (ns : List Node) → {js : List Json} → toJsonItems depth ns = .ok js →
      ∀ j ∈ js, j.ordered = true
  | [], js, h => by
    simp only [toJsonItems, Except.ok.injEq] at h
    simp [← h]
  | n :: ns, js, h => by
    simp only [toJsonItems, bind, Except.bind, pure, Except.pure] at h
    split at h
    · cases h
    · rename_i j hj
      split at h
      · cases h
      · rename_i js' hjs
        cases h
        exact List.forall_mem_cons.2 ⟨ordered_of_toJson n hj, ordered_of_toJsonItems ns hjs⟩
theorem ordered_of_toJsonEntries {depth : Nat} :
    (es : List (Option String × Node)) → {ms : List (String × Json)} →
      toJsonEntries depth es = .ok ms → ∀ m ∈ ms, m.2.ordered = true
  | [], ms, h => by
    simp only [toJsonEntries, Except.ok.injEq] at h
    simp [← h]
  | (none, _) :: _, ms, h => by simp [toJsonEntries] at h
  | (some k, n) :: es, ms, h => by
    simp only [toJsonEntries, bind, Except.bind, pure, Except.pure] at h
    split at h
    · cases h
    · rename_i j hj
      split at h
      · cases h
      · rename_i ms' hms
        cases h
        exact List.forall_mem_cons.2 ⟨ordered_of_toJson n hj, ordered_of_toJsonEntries es hms⟩
end

end Node

end DesiredState
