import DesiredState.Proofs.Text.Digits
import DesiredState.Quantity.Parse
/-!
Quantities as they are written: an optional plus, digits with at most one point among them, and an
ending, which is a suffix or an exponent. Main statements: `ofChars_chars`, what is written is read
part by part, and `exists_written`, nothing else is read.
-/

set_option autoImplicit false
set_option relaxedAutoImplicit false

namespace DesiredState.Quantity

open Text (Literal)

/-- What stands behind the digits of a quantity. -/
inductive Ending where
  | binary (suffix : String) (power : Nat) (listed : (suffix, power) ∈ binarySuffixes)
  | decimal (suffix : String) (power : Int) (listed : (suffix, power) ∈ decimalSuffixes)
  | exponent (mark : Char) (power : Literal) (isMark : mark = 'e' ∨ mark = 'E')
      (fits : fitsWord power.value = true)

namespace Ending

def chars : Ending → List Char
  | binary suffix _ _ => suffix.toList
  | decimal suffix _ _ => suffix.toList
  | exponent mark power _ _ => mark :: power.chars

def format : Ending → Format
  | binary .. => .binary
  | decimal .. => .decimal
  | exponent .. => .exponent

/-- The power of 1024 for which an ending stands. -/
def binaryPower : Ending → Nat
  | binary _ power _ => power
  | decimal .. | exponent .. => 0

def decimalPower : Ending → Int
  | binary .. => 0
  | decimal _ power _ => power
  | exponent _ power _ _ => power.value

end Ending

def suffixes : List String := binarySuffixes.map (·.1) ++ decimalSuffixes.map (·.1)

private theorem mem_suffixes_of_binary {s : String} {k : Nat} (h : (s, k) ∈ binarySuffixes) :
    s ∈ suffixes :=
  List.mem_append_left _ (List.mem_map_of_mem (f := (·.1)) h)

private theorem mem_suffixes_of_decimal {s : String} {k : Int} (h : (s, k) ∈ decimalSuffixes) :
    s ∈ suffixes :=
  List.mem_append_right _ (List.mem_map_of_mem (f := (·.1)) h)

private theorem readSuffix?_binary : ∀ s ∈ binarySuffixes,
    readSuffix? s.1.toList = some (.binary, s.2, 0) := by decide +kernel

private theorem readSuffix?_decimal : ∀ s ∈ decimalSuffixes,
    readSuffix? s.1.toList = some (.decimal, 0, s.2) := by decide +kernel

private theorem suffix_not_exponent : ∀ s ∈ suffixes,
    (s.toList.drop 1).all (fun c => ¬ (c.isDigit = true ∨ c = '+' ∨ c = '-')) = true := by
  decide +kernel

private theorem readSuffix?_exponent {mark : Char} {power : Literal}
    (hmark : mark = 'e' ∨ mark = 'E') (hfits : fitsWord power.value = true) :
    readSuffix? (mark :: power.chars) = some (.exponent, 0, power.value) := by
  have hread := Text.integer?_chars power
  obtain ⟨c, r, hc, hhead⟩ := power.head_chars
  have hother : ∀ s ∈ suffixes, s ≠ String.ofList (mark :: power.chars) := by
    intro s hs h
    have hmem : c ∈ s.toList.drop 1 := by
      rw [h, String.toList_ofList, hc]
      exact List.mem_cons_self
    exact of_decide_eq_true (List.all_eq_true.1 (suffix_not_exponent s hs) c hmem) hhead
  have hbinary : binarySuffixes.find? (·.1 = String.ofList (mark :: power.chars)) = none := by
    refine List.find?_eq_none.2 fun s hs => ?_
    rw [decide_eq_true_eq]
    exact hother _ (mem_suffixes_of_binary hs)
  have hdecimal : decimalSuffixes.find? (·.1 = String.ofList (mark :: power.chars)) = none := by
    refine List.find?_eq_none.2 fun s hs => ?_
    rw [decide_eq_true_eq]
    exact hother _ (mem_suffixes_of_decimal hs)
  rcases hmark with rfl | rfl
  · simp only [readSuffix?, hbinary, hdecimal, hread, hfits, if_true]
  · simp only [readSuffix?, hbinary, hdecimal, hread, hfits, if_true]

theorem readSuffix?_chars (e : Ending) :
    readSuffix? e.chars = some (e.format, e.binaryPower, e.decimalPower) := by
  cases e with
  | binary suffix power listed => exact readSuffix?_binary (suffix, power) listed
  | decimal suffix power listed => exact readSuffix?_decimal (suffix, power) listed
  | exponent mark power isMark fits => exact readSuffix?_exponent isMark fits

private theorem exists_ending {cs : List Char} {r : Format × Nat × Int}
    (h : readSuffix? cs = some r) : ∃ e : Ending, e.chars = cs := by
  have hlisted : ∀ {s : String}, s = String.ofList cs → s.toList = cs := by
    rintro s rfl
    exact String.toList_ofList
  unfold readSuffix? at h
  dsimp only at h
  split at h
  · rename_i suffix power hfind
    have hsuffix := List.find?_some hfind
    rw [decide_eq_true_eq] at hsuffix
    exact ⟨.binary suffix power (List.mem_of_find?_eq_some hfind), hlisted hsuffix⟩
  · rename_i suffix power _ hfind
    have hsuffix := List.find?_some hfind
    rw [decide_eq_true_eq] at hsuffix
    exact ⟨.decimal suffix power (List.mem_of_find?_eq_some hfind), hlisted hsuffix⟩
  · have hexponent : ∀ {mark : Char} {ds : List Char} {n : Int}, mark = 'e' ∨ mark = 'E' →
        Text.integer? ds = some n → fitsWord n = true → ∃ e : Ending, e.chars = mark :: ds := by
      intro mark ds n hmark hn hfits
      obtain ⟨l, rfl, rfl⟩ := Text.integer?_eq_some_iff.1 hn
      exact ⟨.exponent mark l hmark hfits, rfl⟩
    split at h
    case h_3 => cases h
    all_goals
      split at h
      · rename_i hn
        split at h
        · exact hexponent (by simp) hn ‹_›
        · cases h
      · cases h

private theorem suffix_head :
    ∀ s ∈ suffixes, s.toList.head?.any isNumeric = false := by decide +kernel

private theorem Ending.head_chars (e : Ending) : ∀ c ∈ e.chars.head?, isNumeric c = false := by
  cases e with
  | binary suffix power listed =>
    exact (Option.any_eq_false _ _).1 (suffix_head _ (mem_suffixes_of_binary listed))
  | decimal suffix power listed =>
    exact (Option.any_eq_false _ _).1 (suffix_head _ (mem_suffixes_of_decimal listed))
  | exponent mark power isMark fits =>
    intro c hc
    cases hc
    rcases isMark with rfl | rfl <;> rfl

/-- A quantity as it is written, without blanks around it. -/
structure Written where
  plus : Bool
  /-- The digits before the point. -/
  whole : List Char
  /-- The digits behind the point, where there is one. -/
  places : Option (List Char)
  ending : Ending
  isDigit_of_mem : ∀ c ∈ whole ++ places.getD [], c.isDigit = true
  digits_ne_nil : whole ++ places.getD [] ≠ []

namespace Written

def fraction (w : Written) : List Char := w.places.getD []

def number (w : Written) : List Char := w.whole ++ w.places.elim [] ('.' :: ·)

def chars (w : Written) : List Char :=
  (if w.plus then ['+'] else []) ++ (w.number ++ w.ending.chars)

end Written

private theorem isNumeric_of_isDigit {c : Char} (h : c.isDigit = true) : isNumeric c = true := by
  rw [isNumeric, h, Bool.true_or]

private theorem ne_point_of_isDigit {c : Char} (h : c.isDigit = true) : c ≠ '.' := by
  rintro rfl
  cases h

private theorem isDigit_of_isNumeric {c : Char} (h : isNumeric c = true) (hpoint : c ≠ '.') :
    c.isDigit = true := by
  rwa [isNumeric, beq_eq_false_iff_ne.2 hpoint, Bool.or_false] at h

namespace Written

variable (w : Written)

private theorem isDigit_of_mem_whole {c : Char} (h : c ∈ w.whole) : c.isDigit = true :=
  w.isDigit_of_mem c (List.mem_append_left _ h)

private theorem isDigit_of_mem_fraction {c : Char} (h : c ∈ w.fraction) : c.isDigit = true :=
  w.isDigit_of_mem c (List.mem_append_right _ h)

private theorem isNumeric_of_mem_number {c : Char} (h : c ∈ w.number) : isNumeric c = true := by
  rcases List.mem_append.1 h with h | h
  · exact isNumeric_of_isDigit (w.isDigit_of_mem_whole h)
  · cases hplaces : w.places with
    | none =>
      rw [hplaces] at h
      cases h
    | some places =>
      rw [hplaces, Option.elim_some, List.mem_cons] at h
      rcases h with rfl | h
      · rfl
      · exact isNumeric_of_isDigit (w.isDigit_of_mem_fraction (by rwa [fraction, hplaces]))

private theorem number_ne_nil : w.number ≠ [] := by
  intro h
  obtain ⟨hwhole, hplaces⟩ := List.append_eq_nil_iff.1 h
  apply w.digits_ne_nil
  cases hp : w.places with
  | none => rw [hwhole, Option.getD_none, List.append_nil]
  | some places =>
    rw [hp] at hplaces
    cases hplaces

private theorem takeWhile_number : (w.number ++ w.ending.chars).takeWhile isNumeric = w.number := by
  rw [List.takeWhile_append_of_pos fun c hc => w.isNumeric_of_mem_number hc]
  cases hchars : w.ending.chars with
  | nil => simp
  | cons c r =>
    have hc := w.ending.head_chars c (by rw [hchars]; rfl)
    simp [hc]

private theorem dropWhile_number :
    (w.number ++ w.ending.chars).dropWhile isNumeric = w.ending.chars := by
  rw [List.dropWhile_append_of_pos fun c hc => w.isNumeric_of_mem_number hc]
  cases hchars : w.ending.chars with
  | nil => rfl
  | cons c r =>
    have hc := w.ending.head_chars c (by rw [hchars]; rfl)
    simp [hc]

private theorem no_point_in_whole : ∀ c ∈ w.whole, decide (c ≠ '.') = true := fun _ hc =>
  decide_eq_true (ne_point_of_isDigit (w.isDigit_of_mem_whole hc))

private theorem takeWhile_whole : w.number.takeWhile (· ≠ '.') = w.whole := by
  rw [number, List.takeWhile_append_of_pos w.no_point_in_whole]
  cases w.places <;> simp

private theorem drop_whole : (w.number.dropWhile (· ≠ '.')).drop 1 = w.fraction := by
  rw [number, List.dropWhile_append_of_pos w.no_point_in_whole, fraction]
  cases w.places <;> simp

end Written

theorem ofChars_chars (w : Written) :
    ofChars w.chars = ofParts w.whole w.fraction w.ending.chars := by
  have hunsigned : ofUnsigned (w.number ++ w.ending.chars) =
      ofParts w.whole w.fraction w.ending.chars := by
    have hdigits : ¬ (w.whole = [] ∧ w.fraction = []) := fun h =>
      w.digits_ne_nil (List.append_eq_nil_iff.2 h)
    have hpoint : '.' ∉ w.fraction := fun h =>
      ne_point_of_isDigit (w.isDigit_of_mem_fraction h) rfl
    simp only [ofUnsigned, w.takeWhile_number, w.dropWhile_number, w.takeWhile_whole, w.drop_whole]
    rw [if_neg hdigits, if_neg hpoint]
  rw [← hunsigned, Written.chars]
  cases w.plus with
  | true => rfl
  | false =>
    obtain ⟨c, r, hnumber⟩ := List.exists_cons_of_ne_nil w.number_ne_nil
    have hc := w.isNumeric_of_mem_number (hnumber ▸ List.mem_cons_self)
    have hplus : c ≠ '+' := by rintro rfl; cases hc
    have hminus : c ≠ '-' := by rintro rfl; cases hc
    rw [hnumber, if_neg Bool.false_ne_true, List.nil_append, List.cons_append, ofChars]
    · exact fun h => List.cons_ne_nil _ _ h
    · exact fun cs h => hminus (List.cons.inj h).1
    · exact fun cs h => hplus (List.cons.inj h).1

private theorem exists_ending_of_ofParts {whole places suffix : List Char} {q : Quantity}
    (h : ofParts whole places suffix = .ok q) : ∃ e : Ending, e.chars = suffix := by
  unfold ofParts at h
  dsimp only at h
  split at h
  · cases h
  · split at h
    · cases h
    · rename_i hsuffix
      exact exists_ending hsuffix

private theorem exists_written_of_ofUnsigned {cs : List Char} {q : Quantity}
    (h : ofUnsigned cs = .ok q)
    (plus : Bool) : ∃ w : Written, w.plus = plus ∧ w.number ++ w.ending.chars = cs := by
  unfold ofUnsigned at h
  dsimp only at h
  have hsplit := List.takeWhile_append_dropWhile (p := isNumeric) (l := cs)
  have hnumeric : ∀ c ∈ cs.takeWhile isNumeric, isNumeric c = true := fun c hc =>
    List.mem_takeWhile_imp hc
  generalize cs.takeWhile isNumeric = number at h hsplit hnumeric
  generalize cs.dropWhile isNumeric = suffix at h hsplit
  have hparts := List.takeWhile_append_dropWhile (p := (· ≠ '.')) (l := number)
  have hwhole : ∀ c ∈ number.takeWhile (· ≠ '.'), c.isDigit = true := by
    intro c hc
    have hpoint := List.mem_takeWhile_imp hc
    rw [decide_eq_true_eq] at hpoint
    exact isDigit_of_isNumeric (hnumeric c ((List.takeWhile_prefix _).subset hc)) hpoint
  have hrest := List.head?_dropWhile_not (· ≠ '.') number
  generalize number.takeWhile (· ≠ '.') = whole at h hparts hwhole
  generalize number.dropWhile (· ≠ '.') = rest at h hparts hrest
  split at h
  · cases h
  rename_i hdigits
  split at h
  · cases h
  rename_i hpoint
  obtain ⟨e, rfl⟩ := exists_ending_of_ofParts h
  cases rest with
  | nil =>
    refine ⟨⟨plus, whole, none, e, ?_, ?_⟩, rfl, ?_⟩
    · simpa using hwhole
    · simpa using hdigits
    · rw [← hsplit, ← hparts]
      rfl
  | cons c places =>
    obtain rfl : c = '.' := by simpa using hrest
    have hplaces : ∀ d ∈ places, d.isDigit = true := fun d hd =>
      isDigit_of_isNumeric (hnumeric d (hparts ▸ by simp [hd])) (fun hd' => hpoint (hd' ▸ hd))
    refine ⟨⟨plus, whole, some places, e, ?_, ?_⟩, rfl, ?_⟩
    · intro d hd
      exact (List.mem_append.1 hd).elim (hwhole d) (hplaces d)
    · exact fun hnil => hdigits (List.append_eq_nil_iff.1 hnil)
    · rw [← hsplit, ← hparts]
      rfl

/-- Nothing is read but what is written as a quantity. -/
theorem exists_written {cs : List Char} {q : Quantity} (h : ofChars cs = .ok q) :
    ∃ w : Written, w.chars = cs := by
  unfold ofChars at h
  split at h
  · cases h
  · cases h
  · obtain ⟨w, hplus, rfl⟩ := exists_written_of_ofUnsigned h true
    exact ⟨w, by rw [Written.chars, if_pos hplus]; rfl⟩
  · obtain ⟨w, hplus, rfl⟩ := exists_written_of_ofUnsigned h false
    exact ⟨w, by rw [Written.chars, hplus]; rfl⟩

private theorem suffix_not_blank :
    ∀ s ∈ suffixes, s.toList.any Text.isBlank = false := by decide +kernel

private theorem Ending.isBlank_of_mem_chars (e : Ending) {c : Char} (h : c ∈ e.chars) :
    Text.isBlank c = false := by
  cases e with
  | binary suffix power listed =>
    have hnone := suffix_not_blank _ (mem_suffixes_of_binary listed)
    exact Bool.eq_false_iff.2 (List.any_eq_false.1 hnone c h)
  | decimal suffix power listed =>
    have hnone := suffix_not_blank _ (mem_suffixes_of_decimal listed)
    exact Bool.eq_false_iff.2 (List.any_eq_false.1 hnone c h)
  | exponent mark power isMark fits =>
    rcases List.mem_cons.1 h with rfl | h
    · rcases isMark with rfl | rfl <;> rfl
    · exact power.isBlank_of_mem_chars h

private theorem Written.isBlank_of_mem_chars (w : Written) {c : Char} (h : c ∈ w.chars) :
    Text.isBlank c = false := by
  rw [Written.chars, List.mem_append, List.mem_append] at h
  rcases h with h | h | h
  · split_ifs at h
    · rw [List.mem_singleton.1 h]
      rfl
    · cases h
  · have hc := w.isNumeric_of_mem_number h
    by_cases hpoint : c = '.'
    · subst hpoint
      rfl
    · exact Text.isBlank_of_isDigit (isDigit_of_isNumeric hc hpoint)
  · exact w.ending.isBlank_of_mem_chars h

theorem Written.trimChars_chars (w : Written) : Text.trimChars w.chars = w.chars :=
  Text.trimChars_eq_self fun _ h => w.isBlank_of_mem_chars h

end DesiredState.Quantity
