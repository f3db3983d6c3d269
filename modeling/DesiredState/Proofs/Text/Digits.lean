import DesiredState.Text.Blank
import DesiredState.Text.Digits
import Mathlib.Data.List.TakeWhile
import Mathlib.Tactic.SplitIfs
/-!
Whole numbers as they are written. Main statement: `integer?_eq_some_iff`, a text is read as an
integer exactly where it is a written one, and then as its value.
-/

set_option autoImplicit false
set_option relaxedAutoImplicit false

namespace DesiredState.Text

private theorem digitChar_ne_zero : ∀ n < 10, n ≠ 0 → Nat.digitChar n ≠ '0' := by decide

theorem toDigits_head {n : Nat} (h : n ≠ 0) : ∃ c t, Nat.toDigits 10 n = c :: t ∧ c ≠ '0' := by
  induction n using Nat.strongRecOn with
  | ind n ih =>
    by_cases hn : n < 10
    · exact ⟨_, [], Nat.toDigits_of_lt_base hn, digitChar_ne_zero n hn h⟩
    · obtain ⟨c, t, he, hc⟩ := ih (n / 10) (by omega) (by omega)
      refine ⟨c, t ++ [Nat.digitChar (n % 10)], ?_, hc⟩
      rw [Nat.toDigits_of_base_le (by decide) (by omega), he, List.cons_append]

theorem isDigit_toDigits {n : Nat} : ∀ c ∈ Nat.toDigits 10 n, c.isDigit = true :=
  fun _ h => Nat.isDigit_of_mem_toDigits (by decide) (by decide) h

theorem toList_toString (n : Nat) : (toString n).toList = Nat.toDigits 10 n := Nat.toList_repr

theorem toList_toString_nat (n : Nat) : (toString (n : Int)).toList = Nat.toDigits 10 n :=
  Nat.toList_repr

theorem toList_toString_neg (n : Nat) :
    (toString (-(n + 1 : Nat) : Int)).toList = '-' :: Nat.toDigits 10 (n + 1) := by
  rw [← Nat.toList_repr]
  exact String.toList_append

private theorem decimalValue_eq (cs : List Char) : decimalValue cs = Nat.ofDigitChars 10 cs 0 := by
  rw [decimalValue, Nat.ofDigitChars_eq_foldl]
  congr 1
  funext n c
  rw [Nat.mul_comm]
  rfl

theorem decimalValue_append (cs ds : List Char) :
    decimalValue (cs ++ ds) = decimalValue cs * 10 ^ ds.length + decimalValue ds := by
  rw [decimalValue_eq, decimalValue_eq, decimalValue_eq, Nat.ofDigitChars_append,
    Nat.ofDigitChars_eq_ofDigitChars_zero, Nat.mul_comm]

theorem decimalValue_toDigits (n : Nat) : decimalValue (Nat.toDigits 10 n) = n := by
  rw [decimalValue_eq, Nat.ofDigitChars_ten_toDigits]

private theorem natural?_eq_some_iff {cs : List Char} {n : Nat} :
    natural? cs = some n ↔
      cs ≠ [] ∧ (∀ c ∈ cs, c.isDigit = true) ∧ decimalValue cs = n := by
  rw [natural?, Option.ite_none_right_eq_some, List.all_eq_true, Option.some_inj, and_assoc]

/-- A number in so many digits, with zeros in front where it has fewer. -/
structure DigitsOf (width n : Nat) (ds : List Char) : Prop where
  length_eq : ds.length = width
  isDigit : ∀ c ∈ ds, c.isDigit = true
  value : decimalValue ds = n

theorem decimalValue_replicate_zero (k : Nat) : decimalValue (List.replicate k '0') = 0 := by
  induction k with
  | zero => rfl
  | succ k ih => rw [List.replicate_succ', decimalValue_append, ih]; rfl

theorem digitsOf_padded {width n : Nat} (hwidth : 0 < width) (h : n < 10 ^ width) :
    DigitsOf width n
      (List.replicate (width - (Nat.toDigits 10 n).length) '0' ++ Nat.toDigits 10 n) where
  length_eq := by
    have hle := (Nat.length_toDigits_le_iff (by decide) hwidth).2 h
    rw [List.length_append, List.length_replicate, Nat.sub_add_cancel hle]
  isDigit := by
    intro c hc
    rcases List.mem_append.1 hc with hc | hc
    · rw [List.eq_of_mem_replicate hc]
      rfl
    · exact isDigit_toDigits c hc
  value := by
    rw [decimalValue_append, decimalValue_replicate_zero, decimalValue_toDigits]
    omega

theorem digitsOf_twoDigits {n : Nat} (h : n < 100) : DigitsOf 2 n (twoDigits n) := by
  have hpadded := digitsOf_padded (show 0 < 2 by decide) h
  rw [twoDigits]
  split
  · rename_i hone
    rw [Nat.toDigits_of_lt_base hone] at hpadded ⊢
    exact hpadded
  · rename_i htwo
    have hlength : ¬ (Nat.toDigits 10 n).length ≤ 1 := by
      rw [Nat.length_toDigits_le_iff (by decide) (by decide)]
      exact htwo
    rw [Nat.sub_eq_zero_of_le (by omega)] at hpadded
    exact hpadded

/-- The sign before a whole number, where there is one. -/
inductive Sign where
  | unsigned
  | plus
  | minus

/-- A whole number as it is written. -/
structure Literal where
  sign : Sign
  digits : List Char
  digits_ne_nil : digits ≠ []
  isDigit_of_mem : ∀ c ∈ digits, c.isDigit = true

namespace Literal

def chars (l : Literal) : List Char :=
  match l.sign with
  | .unsigned => l.digits
  | .plus => '+' :: l.digits
  | .minus => '-' :: l.digits

def value (l : Literal) : Int :=
  match l.sign with
  | .unsigned | .plus => decimalValue l.digits
  | .minus => -decimalValue l.digits

def ofInt (n : Int) : Literal where
  sign := if n < 0 then .minus else .unsigned
  digits := Nat.toDigits 10 n.natAbs
  digits_ne_nil := Nat.toDigits_ne_nil
  isDigit_of_mem := isDigit_toDigits

theorem value_ofInt (n : Int) : (ofInt n).value = n := by
  rw [ofInt, value]
  dsimp only
  rw [decimalValue_toDigits]
  split_ifs <;> dsimp only <;> omega

theorem chars_ofInt (n : Int) : (ofInt n).chars = (toString n).toList := by
  rw [ofInt, chars]
  dsimp only
  rcases Int.lt_or_le n 0 with hneg | hnonneg
  · obtain ⟨m, rfl⟩ : ∃ m : Nat, n = -(m + 1 : Nat) := ⟨(-n).toNat - 1, by omega⟩
    rw [if_pos hneg, toList_toString_neg, Int.natAbs_neg, Int.natAbs_natCast]
  · obtain ⟨m, rfl⟩ := Int.eq_ofNat_of_zero_le hnonneg
    rw [if_neg (Int.not_lt.2 hnonneg), toList_toString_nat, Int.natAbs_natCast]

theorem head_chars (l : Literal) :
    ∃ c r, l.chars = c :: r ∧ (c.isDigit = true ∨ c = '+' ∨ c = '-') := by
  obtain ⟨sign, digits, hne, hdigits⟩ := l
  cases sign with
  | unsigned =>
    obtain ⟨c, r, rfl⟩ := List.exists_cons_of_ne_nil hne
    exact ⟨c, r, rfl, .inl (hdigits c List.mem_cons_self)⟩
  | plus => exact ⟨'+', digits, rfl, .inr (.inl rfl)⟩
  | minus => exact ⟨'-', digits, rfl, .inr (.inr rfl)⟩

end Literal

theorem integer?_chars (l : Literal) : integer? l.chars = some l.value := by
  obtain ⟨sign, digits, hne, hdigits⟩ := l
  have hread : natural? digits = some (decimalValue digits) :=
    natural?_eq_some_iff.2 ⟨hne, hdigits, rfl⟩
  cases sign with
  | unsigned =>
    obtain ⟨c, r, rfl⟩ := List.exists_cons_of_ne_nil hne
    have hc := hdigits c List.mem_cons_self
    have hplus : c ≠ '+' := by rintro rfl; cases hc
    have hminus : c ≠ '-' := by rintro rfl; cases hc
    simp only [Literal.chars, Literal.value]
    rw [integer?, hread]
    · rfl
    · exact fun cs h => hminus (List.cons.inj h).1
    · exact fun cs h => hplus (List.cons.inj h).1
  | plus =>
    simp only [Literal.chars, Literal.value, integer?, hread]
    rfl
  | minus =>
    simp only [Literal.chars, Literal.value, integer?, hread]
    rfl

/-- A text is an integer exactly where it is one that is written out. -/
theorem integer?_eq_some_iff {cs : List Char} {n : Int} :
    integer? cs = some n ↔ ∃ l : Literal, l.chars = cs ∧ l.value = n := by
  constructor
  · intro h
    unfold integer? at h
    split at h
    · rename_i ds
      cases hm : natural? ds with
      | none =>
        rw [hm] at h
        cases h
      | some m =>
        rw [hm] at h
        cases h
        obtain ⟨hne, hdigits, rfl⟩ := natural?_eq_some_iff.1 hm
        exact ⟨⟨.minus, ds, hne, hdigits⟩, rfl, rfl⟩
    · obtain ⟨m, hm, rfl⟩ := Option.map_eq_some_iff.1 h
      obtain ⟨hne, hdigits, rfl⟩ := natural?_eq_some_iff.1 hm
      exact ⟨⟨.plus, _, hne, hdigits⟩, rfl, rfl⟩
    · obtain ⟨m, hm, rfl⟩ := Option.map_eq_some_iff.1 h
      obtain ⟨hne, hdigits, rfl⟩ := natural?_eq_some_iff.1 hm
      exact ⟨⟨.unsigned, _, hne, hdigits⟩, rfl, rfl⟩
  · rintro ⟨l, rfl, rfl⟩
    exact integer?_chars l

private theorem isBlank_eq_false {c : Char} (h : 0x21 ≤ c.toNat) (h' : c.toNat ≤ 0x7E) :
    isBlank c = false := by
  simp only [isBlank, Bool.or_eq_false_iff, Bool.and_eq_false_iff, decide_eq_false_iff_not,
    beq_eq_false_iff_ne]
  omega

theorem isBlank_of_isDigit {c : Char} (h : c.isDigit = true) : isBlank c = false := by
  rw [Char.isDigit, Bool.and_eq_true, decide_eq_true_eq, decide_eq_true_eq] at h
  have hlow : 48 ≤ c.toNat := UInt32.le_iff_toNat_le.1 h.1
  have hhigh : c.toNat ≤ 57 := UInt32.le_iff_toNat_le.1 h.2
  exact isBlank_eq_false (by omega) (by omega)

theorem Literal.isBlank_of_mem_chars (l : Literal) {c : Char} (h : c ∈ l.chars) :
    isBlank c = false := by
  obtain ⟨sign, digits, hne, hdigits⟩ := l
  cases sign with
  | unsigned => exact isBlank_of_isDigit (hdigits c h)
  | plus | minus =>
    rcases List.mem_cons.1 h with rfl | h
    · rfl
    · exact isBlank_of_isDigit (hdigits c h)

private theorem dropWhile_isBlank {cs : List Char} (h : ∀ c ∈ cs, isBlank c = false) :
    cs.dropWhile isBlank = cs := by
  cases cs with
  | nil => rfl
  | cons c cs => rw [List.dropWhile_cons_of_neg (by simp [h c List.mem_cons_self])]

theorem trimChars_eq_self {cs : List Char} (h : ∀ c ∈ cs, isBlank c = false) :
    trimChars cs = cs := by
  rw [trimChars, dropWhile_isBlank h,
    dropWhile_isBlank fun c hc => h c (List.mem_reverse.1 hc), List.reverse_reverse]

end DesiredState.Text
