import DesiredState.Yaml.Meaning
import DesiredState.Yaml.Token.Layout
/-!
Aliases. Each anchor has a number: how many other names are anchored before it; an alias stands
for the last node of the document that has the number of its name. Documents may contain
themselves, so an alias is followed through a bounded number of others, and one that stands for
too many nodes is not followed.
-/

set_option autoImplicit false
set_option relaxedAutoImplicit false

namespace DesiredState.Yaml

/-- A tree whose anchors and aliases are numbers. -/
inductive Linked where
  | link (target : Nat)
  | scalar (anchor : Option Nat) (s : Scalar)
  | seq (anchor : Option Nat) (items : List Linked)
  | map (anchor : Option Nat) (entries : List (Linked × Linked))

namespace Linked

/-- The names that are anchored so far, the latest first, and how many there are. -/
structure Names where
  known : List (String × Nat) := []
  count : Nat := 0

def Names.add (names : Names) : Option String → Option Nat × Names
  | none => (none, names)
  | some name =>
    let isNew := (names.known.lookup name).isNone
    (some names.count,
      ⟨(name, names.count) :: names.known, if isNew then names.count + 1 else names.count⟩)

mutual
def ofTree (names : Names) : Tree → Except Flaw (Linked × Names)
  | .alias name =>
    match names.known.lookup name with
    | some n => .ok (.link n, names)
    | none => .error .unknownAnchor
  | .scalar m text form =>
    let (n, names) := names.add m.anchor
    .ok (.scalar n (.ofYaml m.tag text form), names)
  | .seq m items => do
    let (n, names) := names.add m.anchor
    let (items, names) ← ofItems names items
    return (.seq n items, names)
  | .map m entries => do
    let (n, names) := names.add m.anchor
    let (entries, names) ← ofEntries names entries
    return (.map n entries, names)
def ofItems (names : Names) : List Tree → Except Flaw (List Linked × Names)
  | [] => .ok ([], names)
  | t :: ts => do
    let (l, names) ← ofTree names t
    let (ls, names) ← ofItems names ts
    return (l :: ls, names)
def ofEntries (names : Names) : List (Tree × Tree) → Except Flaw (List (Linked × Linked) × Names)
  | [] => .ok ([], names)
  | (k, v) :: es => do
    let (k, names) ← ofTree names k
    let (v, names) ← ofTree names v
    let (es, names) ← ofEntries names es
    return ((k, v) :: es, names)
end

mutual
def anchored (t : Linked) : List (Nat × Linked) :=
  match t with
  | .link _ => []
  | .scalar n s => (n.map fun n => (n, .scalar n s)).toList
  | .seq n items => (n.map fun n => (n, .seq n items)).toList ++ anchoredItems items
  | .map n entries => (n.map fun n => (n, .map n entries)).toList ++ anchoredEntries entries
def anchoredItems : List Linked → List (Nat × Linked)
  | [] => []
  | t :: ts => anchored t ++ anchoredItems ts
def anchoredEntries : List (Linked × Linked) → List (Nat × Linked)
  | [] => []
  | (k, v) :: es => anchored k ++ (anchored v ++ anchoredEntries es)
end

mutual
def size : Linked → Nat
  | .link _ | .scalar .. => 1
  | .seq _ items => 2 + sizeItems items
  | .map _ entries => 2 + sizeEntries entries
def sizeItems : List Linked → Nat
  | [] => 0
  | t :: ts => size t + sizeItems ts
def sizeEntries : List (Linked × Linked) → Nat
  | [] => 0
  | (k, v) :: es => size k + (size v + sizeEntries es)
end

/-- A document, and how many aliases are followed in reading all of it. -/
structure Followed where
  node : Node
  links : Nat

def Followed.none (links : Nat) : Followed := ⟨.scalar .unreadable, links⟩

mutual
def follow (known : Array Followed) : Linked → Followed
  | .link n =>
    let f := known.getD n (.none 0)
    ⟨f.node, f.links + 1⟩
  | .scalar _ s => ⟨.scalar s, 0⟩
  | .seq _ items =>
    let (ns, k) := followItems known items
    ⟨.seq ns, k⟩
  | .map _ entries =>
    let (es, k) := followEntries known entries
    ⟨.map es, k⟩
def followItems (known : Array Followed) : List Linked → List Node × Nat
  | [] => ([], 0)
  | t :: ts =>
    let f := follow known t
    let (ns, k) := followItems known ts
    (f.node :: ns, f.links + k)
def followEntries (known : Array Followed) :
    List (Linked × Linked) → List (Option String × Node) × Nat
  | [] => ([], 0)
  | (key, value) :: es =>
    let f := follow known key
    let g := follow known value
    let name := match f.node with
      | .scalar s => s.text?
      | _ => Option.none
    let (ns, k) := followEntries known es
    ((name, g.node) :: ns, f.links + (g.links + k))
end

def followAll (limit : Nat) (targets : List (Option Linked)) (known : Array Followed) :
    Array Followed :=
  (targets.map fun t =>
    let f := t.elim (.none 0) (follow known)
    if limit < f.links then .none (limit + 1) else f).toArray

/-- The documents of anchored nodes, with aliases followed through `depth` others. -/
def documents (limit : Nat) (targets : List (Option Linked)) : Nat → Array Followed
  | 0 => #[]
  | depth + 1 => followAll limit targets (documents limit targets depth)

def toNode (depth : Nat) (t : Linked) : Node :=
  let anchors := t.anchored.reverse
  let count := anchors.foldl (fun n a => max n (a.1 + 1)) 0
  let targets := (List.range count).map fun n => anchors.lookup n
  (follow (documents (100 * t.size) targets depth) t).node

end Linked

def maxDepth : Nat := 127

def document (text : String) : Except Flaw Node := do
  match ← Tree.ofTokens (← tokens text) with
  | none => return .scalar (.ofYaml none "" .plain)
  | some t =>
    let (l, _) ← Linked.ofTree {} t
    return l.toNode (maxDepth + 2)

end DesiredState.Yaml
