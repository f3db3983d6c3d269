import DesiredState.Yaml.Token.Basic
/-!
Documents as trees: nodes with their anchors and tags, and aliases. A text holds one document, or
none. Within a mapping a sequence need not be indented, and an item of a flow sequence may be a
single pair.
-/

set_option autoImplicit false
set_option relaxedAutoImplicit false

namespace DesiredState.Yaml

structure Marks where
  anchor : Option String := none
  tag : Option String := none
deriving DecidableEq

/-- A tag of an exclamation mark says nothing about a scalar that is written. -/
def Marks.ofScalar (m : Marks) : Marks := if m.tag = some "!" then { m with tag := none } else m

inductive Tree where
  | alias (name : String)
  | scalar (marks : Marks) (text : String) (form : Form)
  | seq (marks : Marks) (items : List Tree)
  | map (marks : Marks) (entries : List (Tree × Tree))

namespace Tree

def missing : Tree := .scalar {} "" .plain

/-- What the handles of a document stand for. -/
abbrev Handles := List (String × String)

def defaultHandles : Handles := [("!", "!"), ("!!", "tag:yaml.org,2002:")]

def directives (version : Bool) (handles : Handles) :
    List Token → Except Flaw (Handles × List Token)
  | .version major minor :: ts =>
    if version then .error .duplicateDirective
    else if major = 1 ∧ (minor = 1 ∨ minor = 2) then directives true handles ts
    else .error .unsupportedVersion
  | .handle name start :: ts =>
    if (handles.lookup name).isSome then .error .duplicateDirective
    else directives version (handles ++ [(name, start)]) ts
  | ts => .ok (handles, ts)

def tagOf (handles : Handles) (handle rest : String) : Except Flaw String :=
  if handle = "" then .ok rest
  else
    match (handles ++ defaultHandles).lookup handle with
    | some start => .ok (start ++ rest)
    | none => .error .unknownHandle

def marks (handles : Handles) : List Token → Except Flaw (Marks × List Token)
  | .anchor name :: .tag handle rest :: ts
  | .tag handle rest :: .anchor name :: ts => do
    return (⟨some name, some (← tagOf handles handle rest)⟩, ts)
  | .anchor name :: ts => .ok (⟨some name, none⟩, ts)
  | .tag handle rest :: ts => do return (⟨none, some (← tagOf handles handle rest)⟩, ts)
  | ts => .ok ({}, ts)

/-- Whether the next token shows that a node of a block collection is not written. -/
def skipsBlockNode (inMapping : Bool) : List Token → Bool
  | .blockEnd :: _ => true
  | .blockEntry :: _ => !inMapping
  | .key :: _ | .value :: _ => inMapping
  | _ => false

def skipsLooseItem : List Token → Bool
  | .blockEntry :: _ | .key :: _ | .value :: _ | .blockEnd :: _ => true
  | _ => false

def skipsFlowNode (last : Token) : List Token → Bool
  | t :: _ => t == .flowEntry || t == last
  | [] => false

def nextFlow (first : Bool) (last : Token) :
    List Token → Except Flaw (Option (List Token) × List Token)
  | [] => .error .wantsCommaOrEnd
  | t :: ts =>
    if t == last then .ok (none, ts)
    else if first then .ok (some (t :: ts), [])
    else if t == .flowEntry then
      match ts with
      | [] => .error .wantsContent
      | u :: us => if u == last then .ok (none, us) else .ok (some (u :: us), [])
    else .error .wantsCommaOrEnd

mutual
/-- Reads a node; `loose` admits a sequence that is not indented. -/
def node (handles : Handles) (isBlock loose : Bool) :
    Nat → List Token → Except Flaw (Tree × List Token)
  | 0, _ => .error .wantsContent
  | fuel + 1, ts =>
    match ts with
    | .alias name :: ts => .ok (.alias name, ts)
    | _ => do
      let (m, ts) ← marks handles ts
      match ts with
      | .scalar text form :: ts => return (.scalar m.ofScalar text form, ts)
      | .flowSequence :: ts => do
        let (items, ts) ← flowItems handles fuel true ts
        return (.seq m items, ts)
      | .flowMapping :: ts => do
        let (entries, ts) ← flowEntries handles fuel true ts
        return (.map m entries, ts)
      | .blockEntry :: _ =>
        if loose then do
          let (items, ts) ← looseItems handles fuel ts
          return (.seq m items, ts)
        else if m = {} then .error .wantsContent
        else return (.scalar m "" .plain, ts)
      | .blockSequence :: r =>
        if isBlock then do
          let (items, ts) ← blockItems handles fuel r
          return (.seq m items, ts)
        else if m = {} then .error .wantsContent
        else return (.scalar m "" .plain, ts)
      | .blockMapping :: r =>
        if isBlock then do
          let (entries, ts) ← blockEntries handles fuel r
          return (.map m entries, ts)
        else if m = {} then .error .wantsContent
        else return (.scalar m "" .plain, ts)
      | ts => if m = {} then .error .wantsContent else return (.scalar m "" .plain, ts)
def blockItems (handles : Handles) : Nat → List Token → Except Flaw (List Tree × List Token)
  | fuel + 1, .blockEntry :: ts => do
    let (t, ts) ← if skipsBlockNode false ts then pure (missing, ts)
      else node handles true false fuel ts
    let (rest, ts) ← blockItems handles fuel ts
    return (t :: rest, ts)
  | _, .blockEnd :: ts => .ok ([], ts)
  | _, _ => .error .wantsEntry
def looseItems (handles : Handles) : Nat → List Token → Except Flaw (List Tree × List Token)
  | fuel + 1, .blockEntry :: ts => do
    let (t, ts) ← if skipsLooseItem ts then pure (missing, ts) else node handles true false fuel ts
    let (rest, ts) ← looseItems handles fuel ts
    return (t :: rest, ts)
  | _, ts => .ok ([], ts)
def blockEntries (handles : Handles) :
    Nat → List Token → Except Flaw (List (Tree × Tree) × List Token)
  | fuel + 1, .key :: ts => do
    let (k, ts) ← if skipsBlockNode true ts then pure (missing, ts)
      else node handles true true fuel ts
    let (v, ts) ← blockValue handles fuel ts
    let (rest, ts) ← blockEntries handles fuel ts
    return ((k, v) :: rest, ts)
  | _, .blockEnd :: ts => .ok ([], ts)
  | _, _ => .error .wantsKey
def blockValue (handles : Handles) : Nat → List Token → Except Flaw (Tree × List Token)
  | fuel + 1, .value :: ts =>
    if skipsBlockNode true ts then .ok (missing, ts) else node handles true true fuel ts
  | _, ts => .ok (missing, ts)
def flowItems (handles : Handles) :
    Nat → Bool → List Token → Except Flaw (List Tree × List Token)
  | 0, _, _ => .error .wantsCommaOrEnd
  | fuel + 1, first, ts => do
    match ← nextFlow first .flowSequenceEnd ts with
    | (none, ts) => return ([], ts)
    | (some (.key :: ts), _) => do
      let (k, ts) ← match ts with
        | .value :: r | .flowEntry :: r | .flowSequenceEnd :: r => pure (missing, r)
        | _ => node handles false false fuel ts
      let (v, ts) ← flowValue handles .flowSequenceEnd fuel ts
      let (rest, ts) ← flowItems handles fuel false ts
      return (.map {} [(k, v)] :: rest, ts)
    | (some ts, _) => do
      let (t, ts) ← node handles false false fuel ts
      let (rest, ts) ← flowItems handles fuel false ts
      return (t :: rest, ts)
def flowEntries (handles : Handles) :
    Nat → Bool → List Token → Except Flaw (List (Tree × Tree) × List Token)
  | 0, _, _ => .error .wantsCommaOrEnd
  | fuel + 1, first, ts => do
    match ← nextFlow first .flowMappingEnd ts with
    | (none, ts) => return ([], ts)
    | (some (.key :: ts), _) => do
      let (k, ts) ← if ts.head? == some .value || skipsFlowNode .flowMappingEnd ts then
          pure (missing, ts)
        else node handles false false fuel ts
      let (v, ts) ← flowValue handles .flowMappingEnd fuel ts
      let (rest, ts) ← flowEntries handles fuel false ts
      return ((k, v) :: rest, ts)
    | (some ts, _) => do
      let (k, ts) ← node handles false false fuel ts
      let (rest, ts) ← flowEntries handles fuel false ts
      return ((k, missing) :: rest, ts)
def flowValue (handles : Handles) (last : Token) :
    Nat → List Token → Except Flaw (Tree × List Token)
  | fuel + 1, .value :: ts =>
    if skipsFlowNode last ts then .ok (missing, ts) else node handles false false fuel ts
  | _, ts => .ok (missing, ts)
end

def startsOutside : List Token → Bool
  | [] => true
  | .version .. :: _ | .handle .. :: _ | .documentStart :: _ | .documentEnd :: _ => true
  | _ => false

def ofTokens (ts : List Token) : Except Flaw (Option Tree) := do
  let fuel := 3 * ts.length + 3
  let explicit := match ts with
    | .version .. :: _ | .handle .. :: _ | .documentStart :: _ => true
    | _ => false
  let (t, rest) ←
    if ts.isEmpty then return none
    else if explicit then do
      let (handles, ts) ← directives false [] ts
      match ts with
      | .documentStart :: ts =>
        if startsOutside ts then pure (missing, ts) else node handles true false fuel ts
      | _ => .error .wantsDocument
    else node [] true false fuel ts
  if (rest.dropWhile (· == .documentEnd)).isEmpty then return some t
  else .error .severalDocuments

end Tree

end DesiredState.Yaml
