import DesiredState.Text.Digits
import DesiredState.Yaml.Token.Basic
/-!
Block scalars: the indented lines after a bar (kept as they are) or an angle bracket (folded). The
header may say how far the lines are indented, and what becomes of the last line ends.
-/

set_option autoImplicit false
set_option relaxedAutoImplicit false

namespace DesiredState.Yaml

inductive Chomping where
  | clip
  | strip
  | keep
deriving DecidableEq

structure BlockHeader where
  chomping : Chomping
  /-- How far the lines are indented beyond the block around them, if the header says so. -/
  increment : Option Nat

def chompingOf? : Char → Option Chomping
  | '+' => some .keep
  | '-' => some .strip
  | _ => none

def increment : List Char → Except Flaw (Option Nat × List Char)
  | [] => .ok (none, [])
  | c :: cs =>
    if c == '0' then .error .badBlockHeader
    else if c.isDigit then .ok (some (Text.digitValue c), cs)
    else .ok (none, c :: cs)

def lineEnd (flaw : Flaw) (cs : List Char) : Except Flaw (List Char) :=
  let r := cs.dropWhile isSpace
  let r := if r.head? == some '#' then r.dropWhile (!isBreak ·) else r
  match r with
  | [] => .ok []
  | c :: r => if isBreak c then .ok r else .error flaw

def blockHeader (cs : List Char) : Except Flaw (BlockHeader × List Char) := do
  let (header, r) ← match cs.head?.bind chompingOf? with
    | some chomping => do
      let (n, r) ← increment (cs.drop 1)
      pure (BlockHeader.mk chomping n, r)
    | none => do
      let (n, r) ← increment cs
      match n, r.head?.bind chompingOf? with
      | some _, some chomping => pure (BlockHeader.mk chomping n, r.drop 1)
      | _, _ => pure (BlockHeader.mk .clip n, r)
  return (header, ← lineEnd .badBlockHeader r)

structure Margin where
  column : Nat
  widest : Nat
  breaks : List Char

/-- Reads empty lines and indentation, up to `indent` columns if it is known. -/
def margin (indent : Option Nat) (m : Margin) : List Char → Scan Margin
  | [] => .ok ({ m with widest := max m.widest m.column }, [])
  | c :: cs =>
    let inside := indent.all (m.column < ·)
    if inside && c == ' ' then margin indent { m with column := m.column + 1 } cs
    else if inside && c == '\t' then .error .tabIndentation
    else
      let m := { m with widest := max m.widest m.column }
      if isBreak c then margin indent { m with column := 0, breaks := c :: m.breaks } cs
      else .ok (m, c :: cs)

private theorem length_le_of_margin {indent : Option Nat} {m m' : Margin} {cs r : List Char}
    (h : margin indent m cs = .ok (m', r)) : r.length ≤ cs.length := by
  induction cs generalizing m with
  | nil =>
    simp only [margin, Except.ok.injEq, Prod.mk.injEq] at h
    simp [← h.2]
  | cons c cs ih =>
    simp only [margin] at h
    split at h
    · exact Nat.le_succ_of_le (ih h)
    · split at h
      · cases h
      · split at h
        · exact Nat.le_succ_of_le (ih h)
        · simp only [Except.ok.injEq, Prod.mk.injEq] at h
          simp [← h.2]

structure Block where
  written : List Char := []
  lead : Option Char := none
  spaced : Bool := false

/-- Adds a line after empty lines. Folding joins it to the line before by a space, unless one of
them starts with a space. -/
def Block.addLine (b : Block) (fold : Bool) (breaks line : List Char) (lead : Option Char) :
    Block :=
  let spaced := line.head?.any isSpace
  let joint : List Char :=
    if fold && b.lead == some '\n' && !b.spaced && !spaced then
      if breaks.isEmpty then [' '] else []
    else b.lead.toList
  ⟨line.reverse ++ (breaks ++ (joint ++ b.written)), lead, spaced⟩

def Block.text (b : Block) (chomping : Chomping) (breaks : List Char) : String :=
  let tail : List Char := match chomping with
    | .strip => []
    | .clip => b.lead.toList
    | .keep => breaks ++ b.lead.toList
  String.ofList (tail ++ b.written).reverse

/-- Reads the lines that are indented by `indent` columns, after the margin `m`. -/
def blockLines (fold : Bool) (chomping : Chomping) (indent : Nat) (b : Block) (m : Margin)
    (cs : List Char) : Scan String :=
  match cs with
  | [] => .ok (b.text chomping m.breaks, [])
  | c :: cs =>
    if m.column ≠ indent then .ok (b.text chomping m.breaks, c :: cs)
    else
      let line := c :: cs.takeWhile (!isBreak ·)
      match _hs : cs.dropWhile (!isBreak ·) with
      | [] => .ok ((b.addLine fold m.breaks line none).text chomping [], [])
      | d :: r =>
        match _hm : margin (some indent) ⟨0, 0, []⟩ r with
        | .error f => .error f
        | .ok (m', r') =>
          blockLines fold chomping indent (b.addLine fold m.breaks line (some d)) m' r'
termination_by cs.length
decreasing_by
  have h1 := length_le_of_margin _hm
  have h2 := (List.dropWhile_sublist (fun c => !isBreak c) (l := cs)).length_le
  rw [_hs] at h2
  simp only [List.length_cons] at h2 ⊢
  omega

/-- Reads a block scalar after its indicator; `around` is the column of the block around it, if
there is one. -/
def block (fold : Bool) (around : Option Nat) (cs : List Char) :
    Except Flaw (String × List Char) := do
  let (header, r) ← blockHeader cs
  let known := header.increment.map (· + around.getD 0)
  let (m, r) ← margin known ⟨0, 0, []⟩ r
  let least := max 1 (around.elim 0 (· + 1))
  blockLines fold header.chomping (known.getD (max m.widest least)) {} m r

end DesiredState.Yaml
