import DesiredState.Yaml.Token.Block
import DesiredState.Yaml.Token.Quoted
import DesiredState.Yaml.Token.Tag
import DesiredState.Yaml.Token.Word
/-!
Texts as tokens. Columns open and close block collections. A node on one line may turn out to be a
key when a colon follows it; until then it is a candidate, and the place where its mark would
stand is kept.
-/

set_option autoImplicit false
set_option relaxedAutoImplicit false

namespace DesiredState.Yaml

/-- A place in a text: characters before it, lines before it, and characters before it on its
line. -/
structure Place where
  index : Nat := 0
  line : Nat := 0
  column : Nat := 0

def Place.after (p : Place) (read : List Char) : Place :=
  read.foldl (fun p c =>
    if isBreak c then ⟨p.index + 1, p.line + 1, 0⟩ else ⟨p.index + 1, p.line, p.column + 1⟩) p

/-- A node that is a key if a colon follows. -/
structure Candidate where
  place : Place
  before : Nat
  required : Bool

def maxKeyLength : Nat := 1024

def Candidate.isStale (k : Candidate) (p : Place) : Bool :=
  k.place.line < p.line || k.place.index + maxKeyLength < p.index

structure Layout where
  rest : List Char
  place : Place := {}
  blocks : List Nat := []
  /-- The candidate of the innermost flow collection, or of the block context. -/
  candidate : Option Candidate := none
  /-- The candidates around each open flow collection. -/
  outer : List (Option Candidate) := []
  keyAllowed : Bool := true
  tokens : Array Token := #[]

namespace Layout

def inFlow (l : Layout) : Bool := !l.outer.isEmpty

def moveTo (l : Layout) (rest : List Char) : Layout :=
  { l with rest, place := l.place.after (l.rest.take (l.rest.length - rest.length)) }

def skip (l : Layout) (n : Nat) : Layout := l.moveTo (l.rest.drop n)

def push (l : Layout) (t : Token) : Layout := { l with tokens := l.tokens.push t }

def retire (p : Place) : Option Candidate → Except Flaw (Option Candidate)
  | none => .ok none
  | some k =>
    if !k.isStale p then .ok (some k)
    else if k.required then .error .keyWithoutValue
    else .ok none

def retireAll (l : Layout) : Except Flaw Layout := do
  let outer ← l.outer.mapM (retire l.place)
  let candidate ← retire l.place l.candidate
  return { l with outer, candidate }

def dropCandidate (l : Layout) : Except Flaw Layout :=
  if l.candidate.any Candidate.required then .error .keyWithoutValue
  else .ok { l with candidate := none }

def noteCandidate (l : Layout) : Except Flaw Layout :=
  if !l.keyAllowed then .ok l
  else do
    let l ← l.dropCandidate
    let required := !l.inFlow && l.blocks.head? == some l.place.column
    return { l with candidate := some ⟨l.place, l.tokens.size, required⟩ }

/-- Opens a block collection at a column, unless one is open there; its token goes before the
tokens from `before` on. -/
def openBlock (l : Layout) (column before : Nat) (t : Token) : Layout :=
  if l.inFlow || l.blocks.head?.any (column ≤ ·) then l
  else
    { l with
      blocks := column :: l.blocks
      tokens := l.tokens.insertIdxIfInBounds before t }

def closeBlocks (l : Layout) (p : Nat → Bool) : Layout :=
  if l.inFlow then l
  else
    { l with
      blocks := l.blocks.dropWhile p
      tokens := (l.blocks.takeWhile p).foldl (fun ts _ => ts.push .blockEnd) l.tokens }

/-- Spaces before a token; a tab counts where no key may start. -/
def skipSpaces (tabs : Bool) (cs : List Char) : List Char :=
  cs.dropWhile fun c => c == ' ' || (tabs && c == '\t')

def skipBlanks : Nat → Layout → Layout
  | 0, l => l
  | fuel + 1, l =>
    let cs := skipSpaces (l.inFlow || !l.keyAllowed) l.rest
    let cs := if cs.head? == some '#' then cs.dropWhile (!isBreak ·) else cs
    let l := l.moveTo cs
    if cs.head?.any isBreak then
      skipBlanks fuel { l.skip 1 with keyAllowed := l.keyAllowed || !l.inFlow }
    else l

/-- The first step of a text: a byte order mark may stand before it. -/
def start (cs : List Char) : Layout :=
  let l : Layout := { rest := cs }
  if cs.head? == some '\ufeff' then l.skip 1 else l

def outside (l : Layout) : Except Flaw Layout := do
  let l ← (l.closeBlocks fun _ => true).dropCandidate
  return { l with keyAllowed := false }

def mark (l : Layout) (n : Nat) (t : Token) : Layout := (l.push t).skip n

def openFlow (l : Layout) (t : Token) : Except Flaw Layout := do
  let l ← l.noteCandidate
  let l := { l with outer := l.candidate :: l.outer, candidate := none, keyAllowed := true }
  return l.mark 1 t

def closeFlow (l : Layout) (t : Token) : Except Flaw Layout := do
  let l ← l.dropCandidate
  let l := match l.outer with
    | [] => l
    | k :: ks => { l with outer := ks, candidate := k }
  return { l with keyAllowed := false }.mark 1 t

def flowEntry (l : Layout) : Except Flaw Layout := do
  let l ← l.dropCandidate
  return { l with keyAllowed := true }.mark 1 .flowEntry

def blockEntry (l : Layout) : Except Flaw Layout := do
  if !l.inFlow && !l.keyAllowed then .error .entryOutOfPlace
  else
    let l ← (l.openBlock l.place.column l.tokens.size .blockSequence).dropCandidate
    return { l with keyAllowed := true }.mark 1 .blockEntry

def keyMark (l : Layout) : Except Flaw Layout := do
  if !l.inFlow && !l.keyAllowed then .error .keyOutOfPlace
  else
    let l ← (l.openBlock l.place.column l.tokens.size .blockMapping).dropCandidate
    return { l with keyAllowed := !l.inFlow }.mark 1 .key

/-- A colon: it makes the candidate a key, or else gives a marked key its value. -/
def valueMark (l : Layout) : Except Flaw Layout :=
  match l.candidate with
  | some k =>
    let l := { l with
      tokens := l.tokens.insertIdxIfInBounds k.before .key, candidate := none, keyAllowed := false }
    .ok ((l.openBlock k.place.column k.before .blockMapping).mark 1 .value)
  | none =>
    if !l.inFlow && !l.keyAllowed then .error .valueOutOfPlace
    else
      let l := l.openBlock l.place.column l.tokens.size .blockMapping
      .ok ({ l with keyAllowed := !l.inFlow }.mark 1 .value)

def part (l : Layout) (read : Scan Token) : Except Flaw Layout := do
  let l ← l.noteCandidate
  let (t, rest) ← read
  return { (l.push t).moveTo rest with keyAllowed := false }

def startsWord (flow : Bool) (cs : List Char) : Bool :=
  match cs with
  | [] => false
  | c :: cs =>
    if c == '-' then !cs.head?.any isSpace
    else if c == '?' || c == ':' then !flow && !isBlankOrEnd cs.head?
    else !isBlank c && !isFlowMark c
      && !(['#', '&', '*', '!', '|', '>', '\x27', '"', '%', '@', '\x60'].contains c)

def wordPart (l : Layout) : Except Flaw Layout := do
  let l ← l.noteCandidate
  let (w, rest) ← word l.inFlow (l.blocks.head?.elim 0 (· + 1)) l.rest
  return { (l.push (.scalar w.text .plain)).moveTo rest with keyAllowed := w.broken }

def blockScalar (l : Layout) (form : Form) : Except Flaw Layout := do
  let l ← l.dropCandidate
  let (t, rest) ← block (form == .folded) l.blocks.head? (l.rest.drop 1)
  return { (l.push (.scalar t form)).moveTo rest with keyAllowed := true }

def directiveLine (l : Layout) : Except Flaw Layout := do
  let l ← l.outside
  let (t, rest) ← directive (l.rest.drop 1)
  return (l.push t).moveTo (← lineEnd .badDirective rest)

def step (l : Layout) : Except Flaw Layout := do
  let l ← l.retireAll
  let l := l.closeBlocks (l.place.column < ·)
  let named (f : String → Token) : Scan Token :=
    (anchorName (l.rest.drop 1)).map fun x => (f x.1, x.2)
  let quotedPart (quote : Char) : Except Flaw Layout :=
    l.part ((quoted quote (l.rest.drop 1)).map fun x => (.scalar x.1 .quoted, x.2))
  let after := l.rest.tail.head?
  let lineStart := l.place.column == 0
  if lineStart && l.rest.head? == some '%' then l.directiveLine
  else if lineStart && isBoundary '-' l.rest then return (← l.outside).mark 3 .documentStart
  else if lineStart && isBoundary '.' l.rest then return (← l.outside).mark 3 .documentEnd
  else
    match l.rest with
    | [] => return { l with rest := [] }
    | '[' :: _ => l.openFlow .flowSequence
    | '\x7b' :: _ => l.openFlow .flowMapping
    | ']' :: _ => l.closeFlow .flowSequenceEnd
    | '\x7d' :: _ => l.closeFlow .flowMappingEnd
    | ',' :: _ => l.flowEntry
    | '*' :: _ => l.part (named .alias)
    | '&' :: _ => l.part (named .anchor)
    | '!' :: cs => l.part (tag l.inFlow cs)
    | '\x27' :: _ => quotedPart '\x27'
    | '"' :: _ => quotedPart '"'
    | c :: _ =>
      if c == '-' && isBlankOrEnd after then l.blockEntry
      else if c == '?' && (l.inFlow || isBlankOrEnd after) then l.keyMark
      else if c == ':' && (l.inFlow || isBlankOrEnd after) then l.valueMark
      else if c == '|' && !l.inFlow then l.blockScalar .literal
      else if c == '>' && !l.inFlow then l.blockScalar .folded
      else if startsWord l.inFlow l.rest then l.wordPart
      else .error .noToken

def finish (l : Layout) : Except Flaw (List Token) := do
  let l ← (← l.retireAll).outside
  return l.tokens.toList

def run : Nat → Layout → Except Flaw (List Token)
  | 0, l => l.finish
  | fuel + 1, l =>
    let l := skipBlanks (l.rest.length + 1) l
    if l.rest.isEmpty then l.finish
    else do run fuel (← l.step)

end Layout

def tokens (text : String) : Except Flaw (List Token) :=
  let cs := text.toList
  let cs := if cs.head? == some '\ufeff' then cs.drop 1 else cs
  if !cs.all isAllowed then .error .forbiddenCharacter
  else Layout.run (cs.length + 1) (.start (unifyBreaks cs))

end DesiredState.Yaml
