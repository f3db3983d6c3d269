import DesiredState.Proofs.Except
import DesiredState.Proofs.Json.NumberText
import DesiredState.Proofs.Json.Shape
import DesiredState.Proofs.Json.StringText
/-!
Reading back printed values. Main statement: `shape_of_parse`, a value that was printed and reads
back at all reads back in its own shape; numbers may come out changed.
-/

set_option autoImplicit false
set_option relaxedAutoImplicit false

namespace DesiredState.Json

namespace Text

def itemTail (js : List Json) : List Char := js.flatMap fun j => ',' :: j.chars

def memberText (m : String × Json) : List Char := quote m.1 ++ ':' :: m.2.chars

def memberTail (ms : Members Json) : List Char := ms.flatMap fun m => ',' :: memberText m

theorem itemChars_cons (j : Json) (js : List Json) :
    itemChars (j :: js) = j.chars ++ itemTail js := by
  induction js generalizing j with
  | nil => simp [itemChars, itemTail]
  | cons i js ih => simp [itemChars, itemTail, ih]

theorem memberChars_cons (m : String × Json) (ms : Members Json) :
    memberChars (m :: ms) = memberText m ++ memberTail ms := by
  induction ms generalizing m with
  | nil => simp [memberChars, memberTail, memberText]
  | cons n ms ih =>
    have hn := ih n
    simp only [memberTail] at hn
    simp [memberChars, memberTail, memberText, hn]

theorem chars_head (j : Json) :
    ∃ c t, j.chars = c :: t ∧ isBlank c = false ∧ c ≠ ']' := by
  have hnumber : ∀ j : Json, (j.chars ≠ [] ∧ ∀ c ∈ j.chars, isNumberChar c = true) →
      ∃ c t, j.chars = c :: t ∧ isBlank c = false ∧ c ≠ ']' := by
    rintro j ⟨hne, hall⟩
    obtain ⟨c, t, he⟩ := List.exists_cons_of_ne_nil hne
    have hc : isNumberChar c = true := hall c (he ▸ List.mem_cons_self)
    refine ⟨c, t, he, ?_, ?_⟩
    · by_contra hb
      simp only [isBlank, Bool.not_eq_false, Bool.or_eq_true, decide_eq_true_eq] at hb
      rcases hb with ((rfl | rfl) | rfl) | rfl <;> cases hc
    · rintro rfl
      cases hc
  cases j with
  | null => exact ⟨_, _, rfl, rfl, by decide⟩
  | bool b => cases b <;> exact ⟨_, _, rfl, rfl, by decide⟩
  | int n => exact hnumber _ (chars_of_number (.inl ⟨n, rfl⟩))
  | float x => exact hnumber _ (chars_of_number (.inr ⟨x, rfl⟩))
  | str s => exact ⟨_, _, rfl, rfl, by decide⟩
  | arr items => exact ⟨_, _, rfl, rfl, by decide⟩
  | obj ms => exact ⟨_, _, rfl, rfl, by decide⟩

theorem skipBlanks_cons {c : Char} (h : isBlank c = false) (cs : List Char) :
    skipBlanks (c :: cs) = c :: cs := by
  simp [skipBlanks, h]

theorem isBlank_of_isNumberChar {c : Char} (h : isNumberChar c = true) : isBlank c = false := by
  by_contra hb
  simp only [isBlank, Bool.not_eq_false, Bool.or_eq_true, decide_eq_true_eq] at hb
  rcases hb with ((rfl | rfl) | rfl) | rfl <;> cases h

theorem nextItem_first (j : Json) (r : List Char) :
    nextItem true (j.chars ++ r) = .ok (some (), j.chars ++ r) := by
  obtain ⟨c, t, he, hb, hc⟩ := chars_head j
  rw [he, List.cons_append, nextItem, skipBlanks_cons hb]
  split
  · rename_i h; cases h
  · rename_i h; cases h; exact absurd rfl hc
  · rfl

theorem nextItem_comma (j : Json) (r : List Char) :
    nextItem false (',' :: (j.chars ++ r)) = .ok (some (), j.chars ++ r) := by
  obtain ⟨c, t, he, hb, hc⟩ := chars_head j
  have hcomma : skipBlanks (',' :: (c :: t ++ r)) = ',' :: (c :: t ++ r) := rfl
  rw [he, nextItem, hcomma]
  change (if false = true then _ else _) = _
  rw [if_neg Bool.false_ne_true]
  split
  · rename_i h
    cases h
    rw [List.cons_append, skipBlanks_cons hb]
    split
    · rename_i h; cases h
    · rename_i h; cases h; exact absurd rfl hc
    · rfl
  · rename_i h
    exact absurd rfl (h _)

private theorem nextItem_numeric {r : List Char} (h : Numeric r) {x : Option Unit × List Char} :
    nextItem false r ≠ .ok x := by
  obtain ⟨c, t, rfl, hc⟩ := h
  rw [nextItem, skipBlanks_cons (isBlank_of_isNumberChar hc)]
  split
  · simp
  · rename_i h; cases h; cases hc
  · simp only [Bool.false_eq_true, if_false]
    split
    · rename_i h; cases h; cases hc
    · simp

theorem nextKey_memberChars (m : String × Json) (ms : Members Json) (rest : List Char) :
    nextKey true (memberChars (m :: ms) ++ '\x7d' :: rest) =
      .ok (some (), m.1.toList.flatMap escape ++
        '"' :: ':' :: (m.2.chars ++ (memberTail ms ++ '\x7d' :: rest))) := by
  have hquote : ∀ r : List Char, nextKey true ('"' :: r) = .ok (some (), r) := fun _ => rfl
  rw [← hquote, memberChars_cons]
  simp [memberText, quote]

theorem nextKey_memberTail (m : String × Json) (ms : Members Json) (rest : List Char) :
    nextKey false (memberTail (m :: ms) ++ '\x7d' :: rest) =
      .ok (some (), m.1.toList.flatMap escape ++
        '"' :: ':' :: (m.2.chars ++ (memberTail ms ++ '\x7d' :: rest))) := by
  have hcomma : ∀ r : List Char, nextKey false (',' :: '"' :: r) = .ok (some (), r) := fun _ => rfl
  rw [← hcomma]
  simp [memberTail, memberText, quote]

private theorem nextKey_numeric {r : List Char} (h : Numeric r) {x : Option Unit × List Char} :
    nextKey false r ≠ .ok x := by
  obtain ⟨c, t, rfl, hc⟩ := h
  rw [nextKey, skipBlanks_cons (isBlank_of_isNumberChar hc)]
  split
  · simp
  · rename_i h; cases h; cases hc
  · simp only [Bool.false_eq_true, if_false]
    split
    · rename_i h; cases h; cases hc
    · simp

theorem not_numeric_itemTail (js : List Json) (rest : List Char) :
    ¬ Numeric (itemTail js ++ ']' :: rest) := by
  rintro ⟨c, t, he, hc⟩
  cases js <;> cases he <;> cases hc

theorem not_numeric_memberTail (ms : Members Json) (rest : List Char) :
    ¬ Numeric (memberTail ms ++ '\x7d' :: rest) := by
  rintro ⟨c, t, he, hc⟩
  cases ms <;> cases he <;> cases hc

/-- Where the document has a value, it has the shape of `j`. -/
def Resembles (n : Node) (j : Json) : Prop :=
  ∀ depth v, n.toJson depth = .ok v → v.shape = j.shape

private theorem resembles_scalar (s : Scalar) {j : Json} (hj : j.isAtom = true) :
    Resembles (.scalar s) j := by
  intro depth v hv
  have ha := s.atomic
  cases hs : s.value? with
  | none => simp [Node.toJson, hs] at hv
  | some u =>
    rw [hs] at ha
    simp only [Node.toJson, hs, Option.elim_some, Except.ok.injEq] at hv
    rw [← hv, shape_of_isAtom hj]
    exact shape_of_isAtom ha

private theorem shapes_of_toJsonItems {ns : List Node} {js : List Json}
    (h : List.Forall₂ Resembles ns js) {depth : Nat} {vs : List Json}
    (hv : Node.toJsonItems depth ns = .ok vs) : vs.map shape = js.map shape := by
  induction h generalizing vs with
  | nil => cases hv; rfl
  | cons hn _ ih =>
    obtain ⟨v, hv', hvs⟩ := ok_of_bind hv
    obtain ⟨vs', hvs', he⟩ := ok_of_bind hvs
    cases he
    rw [List.map_cons, List.map_cons, hn _ _ hv', ih hvs']

private theorem shapes_of_toJsonEntries {es : List (Option String × Node)} {ms : Members Json}
    (h : List.Forall₂ (fun e m => e.1 = some m.1 ∧ Resembles e.2 m.2) es ms) {depth : Nat}
    {vs : Members Json} (hv : Node.toJsonEntries depth es = .ok vs) :
    vs.mapValues shape = ms.mapValues shape := by
  induction h generalizing vs with
  | nil => cases hv; rfl
  | @cons e m _ _ he _ ih =>
    obtain ⟨_, n⟩ := e
    obtain ⟨rfl, hn⟩ := he
    obtain ⟨v, hv', hvs⟩ := ok_of_bind hv
    obtain ⟨vs', hvs', he⟩ := ok_of_bind hvs
    cases he
    have hm := ih hvs'
    simp only [Members.mapValues] at hm
    simp only [Members.mapValues, List.map_cons, hn _ _ hv', hm]

private theorem resembles_seq {ns : List Node} {js : List Json} (h : List.Forall₂ Resembles ns js) :
    Resembles (.seq ns) (.arr js) := by
  intro depth v hv
  cases depth with
  | zero => cases hv
  | succ d =>
    cases hi : Node.toJsonItems d ns with
    | error e => simp [Node.toJson, hi, Except.map] at hv
    | ok vs =>
      simp only [Node.toJson, hi, Except.map, Except.ok.injEq] at hv
      rw [← hv, shape_arr, shape_arr, shapes_of_toJsonItems h hi]

private theorem resembles_map {es : List (Option String × Node)} {ms : Members Json}
    (h : List.Forall₂ (fun e m => e.1 = some m.1 ∧ Resembles e.2 m.2) es ms)
    (hms : Members.Increasing ms) : Resembles (.map es) (.obj ms) := by
  intro depth v hv
  cases depth with
  | zero => cases hv
  | succ d =>
    cases hi : Node.toJsonEntries d es with
    | error e => simp [Node.toJson, hi, Except.map] at hv
    | ok vs =>
      have hs := shapes_of_toJsonEntries h hi
      -- the keys read are those written, so sorting them changes nothing
      have hvs : Members.Increasing vs := by
        have hshapes : Members.Increasing (Members.mapValues shape vs) := hs ▸ hms.mapValues shape
        exact (List.pairwise_map (f := fun m : String × Json => (m.1, m.2.shape))).1 hshapes
      simp only [Node.toJson, hi, Except.map, Except.ok.injEq] at hv
      rw [← hv, shape_obj, shape_obj, hvs.ofList_eq, hs]

/-- Reading what was written of `j` makes a document that resembles it, and stops where the text
of `j` ends or inside a number. -/
def ReadsBack (j : Json) : Prop :=
  ∀ {fuel depth : Nat} {rest : List Char} {n : Node} {r : List Char}, ¬ Numeric rest →
    value false fuel depth (j.chars ++ rest) = .ok (n, r) →
      Resembles n j ∧ (r = rest ∨ Numeric r)

private theorem literal_self (s : Scalar) (w rest : List Char) :
    literal s w (w ++ rest) = .ok (s, rest) := by
  induction w with
  | nil => rfl
  | cons c w ih => rw [List.cons_append, literal, if_pos rfl, ih]

private theorem readsBack_number {j : Json} (hj : (∃ n, j = .int n) ∨ ∃ x, j = .float x) :
    ReadsBack j := by
  intro fuel depth rest n r hrest h
  have ha : j.isAtom = true := by rcases hj with ⟨n, rfl⟩ | ⟨x, rfl⟩ <;> rfl
  obtain ⟨hne, hall⟩ := chars_of_number hj
  cases fuel with
  | zero => cases h
  | succ fuel =>
    obtain ⟨c, t, he⟩ := List.exists_cons_of_ne_nil hne
    have hc : isNumberChar c = true := hall c (he ▸ List.mem_cons_self)
    have hnumber : ∀ {negative : Bool} {cs : List Char} {s : Scalar},
        Consumed (j.chars ++ rest) cs → number false negative cs = .ok (s, r) →
          r = rest ∨ Numeric r := by
      intro negative cs s hcs hs
      exact (hcs.trans (consumed_number hs)).eq_or_numeric hall hrest
    rw [he, List.cons_append, value, skipBlanks_cons (isBlank_of_isNumberChar hc)] at h
    rw [he, List.cons_append] at hnumber
    split at h
    all_goals rename_i hcs
    all_goals cases hcs
    · cases hc
    · cases hc
    · cases hc
    · obtain ⟨⟨s, r'⟩, hs, hr⟩ := ok_of_bind h
      cases hr
      exact ⟨resembles_scalar s ha, hnumber (.cons hc (.refl _)) hs⟩
    · cases hc
    · cases hc
    · cases hc
    · split at h
      · obtain ⟨⟨s, r'⟩, hs, hr⟩ := ok_of_bind h
        cases hr
        exact ⟨resembles_scalar s ha, hnumber (.refl _) hs⟩
      · cases h

private theorem not_items_of_numeric {fuel depth : Nat} {cs : List Char} (hcs : Numeric cs)
    {x : List Node × List Char} : items false fuel depth false cs ≠ .ok x := by
  intro h
  cases fuel with
  | zero => cases h
  | succ fuel =>
    rw [items] at h
    obtain ⟨_, hnext, _⟩ := ok_of_bind h
    exact nextItem_numeric hcs hnext

private theorem not_entries_of_numeric {fuel depth : Nat} {cs : List Char} (hcs : Numeric cs)
    {x : List (Option String × Node) × List Char} :
    entries false fuel depth false cs ≠ .ok x := by
  intro h
  cases fuel with
  | zero => cases h
  | succ fuel =>
    rw [entries] at h
    obtain ⟨_, hnext, _⟩ := ok_of_bind h
    exact nextKey_numeric hcs hnext

private theorem items_cons {first : Bool} {fuel depth : Nat} {cs rest r : List Char} {j : Json}
    {js : List Json} {ns : List Node} (hj : ReadsBack j)
    (hnext : nextItem first cs = .ok (some (), j.chars ++ (itemTail js ++ ']' :: rest)))
    (h : items false fuel depth first cs = .ok (ns, r)) :
    ∃ fuel' n ns', ns = n :: ns' ∧ Resembles n j ∧
      items false fuel' depth false (itemTail js ++ ']' :: rest) = .ok (ns', r) := by
  cases fuel with
  | zero => cases h
  | succ fuel =>
    rw [items, hnext] at h
    obtain ⟨_, hstep, h⟩ := ok_of_bind h
    cases hstep
    obtain ⟨⟨n, r₁⟩, hn, h⟩ := ok_of_bind h
    obtain ⟨⟨ns', r₂⟩, hns, h⟩ := ok_of_bind h
    cases h
    obtain ⟨hres, rfl | hr⟩ := hj (not_numeric_itemTail js rest) hn
    · exact ⟨fuel, n, ns', rfl, hres, hns⟩
    · -- a number that was read too short leaves characters that start no item
      exact absurd hns (not_items_of_numeric hr)

private theorem items_itemTail {js : List Json} (hjs : ∀ j ∈ js, ReadsBack j) {fuel depth : Nat}
    {rest r : List Char} {ns : List Node}
    (h : items false fuel depth false (itemTail js ++ ']' :: rest) = .ok (ns, r)) :
    List.Forall₂ Resembles ns js ∧ r = rest := by
  induction js generalizing fuel ns with
  | nil =>
    cases fuel with
    | zero => cases h
    | succ fuel =>
      rw [items] at h
      cases h
      exact ⟨.nil, rfl⟩
  | cons j js ih =>
    have hnext : nextItem false (itemTail (j :: js) ++ ']' :: rest) =
        .ok (some (), j.chars ++ (itemTail js ++ ']' :: rest)) := by
      rw [← nextItem_comma j (itemTail js ++ ']' :: rest)]
      simp [itemTail]
    obtain ⟨fuel', n, ns', rfl, hn, hns⟩ :=
      items_cons (hjs j List.mem_cons_self) hnext h
    obtain ⟨hall, hr⟩ := ih (fun i hi => hjs i (List.mem_cons_of_mem _ hi)) hns
    exact ⟨.cons hn hall, hr⟩

private theorem items_itemChars {js : List Json} (hjs : ∀ j ∈ js, ReadsBack j) {fuel depth : Nat}
    {rest r : List Char} {ns : List Node}
    (h : items false fuel depth true (itemChars js ++ ']' :: rest) = .ok (ns, r)) :
    List.Forall₂ Resembles ns js ∧ r = rest := by
  cases js with
  | nil =>
    cases fuel with
    | zero => cases h
    | succ fuel =>
      rw [items] at h
      cases h
      exact ⟨.nil, rfl⟩
  | cons j js =>
    rw [itemChars_cons, List.append_assoc] at h
    obtain ⟨fuel', n, ns', rfl, hn, hns⟩ :=
      items_cons (hjs j List.mem_cons_self) (nextItem_first j _) h
    obtain ⟨hall, hr⟩ := items_itemTail (fun i hi => hjs i (List.mem_cons_of_mem _ hi)) hns
    exact ⟨.cons hn hall, hr⟩

private theorem entries_cons {first : Bool} {fuel depth : Nat} {cs rest r : List Char}
    {m : String × Json} {ms : Members Json} {es : List (Option String × Node)}
    (hm : ReadsBack m.2)
    (hnext : nextKey first cs = .ok (some (), m.1.toList.flatMap escape ++
      '"' :: ':' :: (m.2.chars ++ (memberTail ms ++ '\x7d' :: rest))))
    (h : entries false fuel depth first cs = .ok (es, r)) :
    ∃ fuel' e es', es = e :: es' ∧ (e.1 = some m.1 ∧ Resembles e.2 m.2) ∧
      entries false fuel' depth false (memberTail ms ++ '\x7d' :: rest) = .ok (es', r) := by
  cases fuel with
  | zero => cases h
  | succ fuel =>
    rw [entries, hnext] at h
    obtain ⟨_, hstep, h⟩ := ok_of_bind h
    cases hstep
    obtain ⟨⟨k, r₁⟩, hk, h⟩ := ok_of_bind h
    rw [string_quoted] at hk
    cases hk
    obtain ⟨_, hcolon, h⟩ := ok_of_bind h
    cases hcolon
    obtain ⟨⟨n, r₂⟩, hn, h⟩ := ok_of_bind h
    obtain ⟨⟨es', r₃⟩, hes, h⟩ := ok_of_bind h
    cases h
    obtain ⟨hres, rfl | hr⟩ := hm (not_numeric_memberTail ms rest) hn
    · exact ⟨fuel, _, es', rfl, ⟨rfl, hres⟩, hes⟩
    · -- nor do such characters start a member
      exact absurd hes (not_entries_of_numeric hr)

private theorem entries_memberTail {ms : Members Json} (hms : ∀ m ∈ ms, ReadsBack m.2)
    {fuel depth : Nat} {rest r : List Char} {es : List (Option String × Node)}
    (h : entries false fuel depth false (memberTail ms ++ '\x7d' :: rest) = .ok (es, r)) :
    List.Forall₂ (fun e m => e.1 = some m.1 ∧ Resembles e.2 m.2) es ms ∧ r = rest := by
  induction ms generalizing fuel es with
  | nil =>
    cases fuel with
    | zero => cases h
    | succ fuel =>
      rw [entries] at h
      cases h
      exact ⟨.nil, rfl⟩
  | cons m ms ih =>
    obtain ⟨fuel', e, es', rfl, he, hes⟩ :=
      entries_cons (hms m List.mem_cons_self) (nextKey_memberTail m ms rest) h
    obtain ⟨hall, hr⟩ := ih (fun i hi => hms i (List.mem_cons_of_mem _ hi)) hes
    exact ⟨.cons he hall, hr⟩

private theorem entries_memberChars {ms : Members Json} (hms : ∀ m ∈ ms, ReadsBack m.2)
    {fuel depth : Nat} {rest r : List Char} {es : List (Option String × Node)}
    (h : entries false fuel depth true (memberChars ms ++ '\x7d' :: rest) = .ok (es, r)) :
    List.Forall₂ (fun e m => e.1 = some m.1 ∧ Resembles e.2 m.2) es ms ∧ r = rest := by
  cases ms with
  | nil =>
    cases fuel with
    | zero => cases h
    | succ fuel =>
      rw [entries] at h
      cases h
      exact ⟨.nil, rfl⟩
  | cons m ms =>
    obtain ⟨fuel', e, es', rfl, he, hes⟩ :=
      entries_cons (hms m List.mem_cons_self) (nextKey_memberChars m ms rest) h
    obtain ⟨hall, hr⟩ := entries_memberTail (fun i hi => hms i (List.mem_cons_of_mem _ hi)) hes
    exact ⟨.cons he hall, hr⟩

private theorem readsBack_literal {j : Json} (hj : j.isAtom = true) {s : Scalar} {c : Char}
    {w : List Char} (he : j.chars = c :: w)
    (hvalue : ∀ fuel depth rest, value false (fuel + 1) depth (c :: (w ++ rest)) = (do
      let (s, r) ← literal s w (w ++ rest)
      .ok (.scalar s, r))) : ReadsBack j := by
  intro fuel depth rest n r hrest h
  cases fuel with
  | zero => cases h
  | succ fuel =>
    rw [he, List.cons_append, hvalue, literal_self] at h
    cases h
    exact ⟨resembles_scalar s hj, .inl rfl⟩

private theorem readsBack_str (s : String) : ReadsBack (.str s) := by
  intro fuel depth rest n r _ h
  cases fuel with
  | zero => cases h
  | succ fuel =>
    have he : (Json.str s).chars ++ rest = '"' :: (s.toList.flatMap escape ++ '"' :: rest) := by
      simp [chars, quote]
    rw [he, value, skipBlanks_cons rfl] at h
    obtain ⟨⟨o, r'⟩, hs, h⟩ := ok_of_bind h
    cases h
    rw [string_quoted] at hs
    cases hs
    exact ⟨resembles_scalar _ rfl, .inl rfl⟩

private theorem readsBack_arr {items : List Json} (hitems : ∀ j ∈ items, ReadsBack j) :
    ReadsBack (.arr items) := by
  intro fuel depth rest n r _ h
  cases fuel with
  | zero => cases h
  | succ fuel =>
    have he : (Json.arr items).chars ++ rest = '[' :: (itemChars items ++ ']' :: rest) := by
      simp [chars]
    rw [he, value, skipBlanks_cons rfl] at h
    simp only at h
    split at h
    · cases h
    · obtain ⟨⟨ns, r'⟩, hns, h⟩ := ok_of_bind h
      cases h
      obtain ⟨hall, rfl⟩ := items_itemChars hitems hns
      exact ⟨resembles_seq hall, .inl rfl⟩

private theorem readsBack_obj {ms : Members Json} (hi : Members.Increasing ms)
    (hmembers : ∀ m ∈ ms, ReadsBack m.2) : ReadsBack (.obj ms) := by
  intro fuel depth rest n r _ h
  cases fuel with
  | zero => cases h
  | succ fuel =>
    have he : (Json.obj ms).chars ++ rest = '\x7b' :: (memberChars ms ++ '\x7d' :: rest) := by
      simp [chars]
    rw [he, value, skipBlanks_cons rfl] at h
    simp only at h
    split at h
    · cases h
    · obtain ⟨⟨es, r'⟩, hes, h⟩ := ok_of_bind h
      cases h
      obtain ⟨hall, rfl⟩ := entries_memberChars hmembers hes
      exact ⟨resembles_map hall hi, .inl rfl⟩

private theorem readsBack {j : Json} (hj : j.ordered = true) : ReadsBack j := by
  induction j using inductionOn with
  | atom j ha =>
    cases j with
    | null => exact readsBack_literal rfl rfl fun _ _ _ => rfl
    | bool b => cases b <;> exact readsBack_literal rfl rfl fun _ _ _ => rfl
    | int n => exact readsBack_number (.inl ⟨n, rfl⟩)
    | float x => exact readsBack_number (.inr ⟨x, rfl⟩)
    | str s => exact readsBack_str s
    | arr | obj => cases ha
  | arr items ih =>
    exact readsBack_arr fun j hm => ih j hm (ordered_of_mem_arr hj hm)
  | obj ms ih =>
    exact readsBack_obj (increasing_of_ordered hj) fun m hm => ih m hm (ordered_of_mem_obj hj hm)

def legible (cs : List Char) : Bool :=
  match value false (2 * cs.length + 2) maxDepth cs with
  | .ok (n, []) => ((n.toJson maxDepth).toOption.bind members?).isSome
  | _ => false

def read? (cs : List Char) : Option Json :=
  match value false (2 * cs.length + 2) maxDepth cs with
  | .ok (n, []) => (n.toJson maxDepth).toOption
  | _ => none

private theorem document_compact (j : Json) : document false j.compact = (do
    let (n, r) ← value false (2 * j.chars.length + 2) maxDepth j.chars
    match skipBlanks r with
    | [] => .ok n
    | r => .error (.within r .trailingText)) := by
  have hc : j.compact.toList = j.chars := String.toList_ofList
  unfold document
  generalize j.compact.toList = cs at hc
  subst hc
  rfl

private theorem resembles_of_document {j : Json} (hj : j.ordered = true) {n : Node}
    (h : document false j.compact = .ok n) : Resembles n j := by
  rw [document_compact] at h
  obtain ⟨⟨n', r⟩, hv, h⟩ := ok_of_bind h
  rw [← List.append_nil j.chars] at hv
  have hend : ¬ Numeric [] := by
    rintro ⟨c, t, he, _⟩
    cases he
  obtain ⟨hres, hr⟩ := readsBack hj hend hv
  rcases hr with rfl | ⟨c, t, rfl, hc⟩
  · cases h
    exact hres
  · -- a number may not be followed by what could belong to it
    simp only [skipBlanks_cons (isBlank_of_isNumberChar hc)] at h
    cases h

end Text

theorem parse_eq_ok_iff {text : String} {v : Json} :
    parse text = .ok v ↔
      ∃ n, Text.document false text = .ok n ∧ n.toJson Text.maxDepth = .ok v := by
  unfold parse
  cases hn : Text.document false text with
  | error f => simp
  | ok n => cases hv : n.toJson Text.maxDepth <;> simp [hv, Except.mapError]

theorem shape_of_parse {j v : Json} (hj : j.ordered = true) (h : parse j.compact = .ok v) :
    v.shape = j.shape := by
  obtain ⟨n, hn, hv⟩ := parse_eq_ok_iff.1 h
  exact Text.resembles_of_document hj hn _ _ hv

/-- A printed value reads back as its characters do, which need not be packed into a text. -/
theorem parse_compact_of_read? {j v : Json} (h : Text.read? j.chars = some v) :
    parse j.compact = .ok v := by
  rw [Text.read?] at h
  split at h
  · rename_i n hn
    cases hv : n.toJson Text.maxDepth with
    | error e =>
      rw [hv] at h
      cases h
    | ok w =>
      rw [hv] at h
      cases h
      refine parse_eq_ok_iff.2 ⟨n, ?_, hv⟩
      rw [Text.document_compact, hn]
      rfl
  · cases h

theorem parse_compact_of_legible {j : Json} (h : Text.legible j.chars = true) :
    ∃ ms, parse j.compact = .ok (.obj ms) := by
  have hread : ((Text.read? j.chars).bind members?).isSome = true := by
    rw [Text.legible] at h
    rw [Text.read?]
    split at h
    · exact h
    · cases h
  cases hv : Text.read? j.chars with
  | none =>
    rw [hv] at hread
    cases hread
  | some v =>
    rw [hv] at hread
    cases v with
    | obj ms => exact ⟨ms, parse_compact_of_read? hv⟩
    | _ => cases hread

end DesiredState.Json
