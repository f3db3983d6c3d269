import DesiredState.Proofs.Quantity.Written
import Mathlib.Data.Rat.Floor
/-!
How exactly quantities are read. Main statements: `parse_exact`, a quantity is read as the number
that is written, rounded up to nano-units, or as an overflow; and `accepted_iff`, which of the
numbers that are in range are read.
-/

set_option autoImplicit false
set_option relaxedAutoImplicit false

namespace DesiredState.Quantity

theorem fitsWord_eq_false_iff {e : Int} : fitsWord e = false ↔ e < -(2 ^ 31) ∨ 2 ^ 31 ≤ e := by
  simp only [fitsWord, Bool.and_eq_false_iff, decide_eq_false_iff_not, not_le, not_lt]

namespace Written

/-- The number that is written, exactly. -/
def value (w : Written) : ℚ :=
  (Text.decimalValue w.whole + Text.decimalValue w.fraction / 10 ^ w.fraction.length) *
    1024 ^ w.ending.binaryPower * 10 ^ w.ending.decimalPower

/-- All digits read as one integer, times the power of 1024. -/
def mantissa (w : Written) : Nat :=
  Text.decimalValue (w.whole ++ w.fraction) * 1024 ^ w.ending.binaryPower

/-- The power of ten that takes the mantissa to nano-units. -/
def scale (w : Written) : Int := w.ending.decimalPower + 9 - w.fraction.length

/-- The mantissa, the power of ten by which it grows, or their product reaches the limit. -/
def ReachesLimit (w : Written) : Prop :=
  limit ≤ w.mantissa ∨
    0 ≤ w.scale ∧ (limit ≤ 10 ^ w.scale.toNat ∨ limit ≤ w.mantissa * 10 ^ w.scale.toNat)

/-- The scale leaves the signed words of 32 bits in which it is formed. -/
def ScaleLeavesWord (w : Written) : Prop :=
  fitsWord w.fraction.length = false ∨ fitsWord (w.ending.decimalPower + 9) = false ∨
    fitsWord w.scale = false

instance (w : Written) : Decidable w.ScaleLeavesWord :=
  inferInstanceAs (Decidable (_ = _ ∨ _ = _ ∨ _ = _))

theorem value_mul (w : Written) : w.value * 10 ^ 9 = w.mantissa * (10 : ℚ) ^ w.scale := by
  have hten : (10 : ℚ) ≠ 0 := by norm_num
  have hscale : (10 : ℚ) ^ w.scale =
      10 ^ w.ending.decimalPower * 10 ^ 9 / 10 ^ w.fraction.length := by
    rw [scale, zpow_sub₀ hten, zpow_add₀ hten, zpow_natCast]
    norm_num
  have hdigits : (Text.decimalValue (w.whole ++ w.fraction) : ℚ) =
      (Text.decimalValue w.whole + Text.decimalValue w.fraction / 10 ^ w.fraction.length) *
        10 ^ w.fraction.length := by
    rw [Text.decimalValue_append]
    push_cast
    field_simp
  rw [value, mantissa, hscale]
  push_cast
  rw [hdigits]
  field_simp

end Written

private theorem divUp_eq_ceil (n : Nat) {d : Nat} (hd : 0 < d) :
    (divUp n d : ℤ) = ⌈(n : ℚ) / d⌉ := by
  have hpos : (0 : ℚ) < d := by exact_mod_cast hd
  have hlow : divUp n d * d ≤ n + d - 1 := Nat.div_mul_le_self _ _
  have hhigh : n + d - 1 < (divUp n d + 1) * d := Nat.lt_mul_of_div_lt (Nat.lt_succ_self _) hd
  have hsucc : (divUp n d + 1) * d = divUp n d * d + d := by ring
  have hlow' : (divUp n d : ℚ) * d < n + d := by
    have : divUp n d * d < n + d := by omega
    exact_mod_cast this
  have hhigh' : (n : ℚ) ≤ divUp n d * d := by
    have : n ≤ divUp n d * d := by omega
    exact_mod_cast this
  symm
  rw [Int.ceil_eq_iff, lt_div_iff₀ hpos, div_le_iff₀ hpos]
  push_cast
  constructor
  · linarith
  · exact hhigh'

/-- To round up twice, first to a multiple of a part and then to the whole, is to round up once. -/
private theorem ceil_ceil_div (x : ℚ) {n : Nat} (hn : 0 < n) : ⌈(⌈x⌉ : ℚ) / n⌉ = ⌈x / n⌉ := by
  have hpos : (0 : ℚ) < n := by exact_mod_cast hn
  refine eq_of_forall_ge_iff fun z => ?_
  rw [Int.ceil_le, Int.ceil_le, div_le_iff₀ hpos, div_le_iff₀ hpos]
  have hceil : ⌈x⌉ ≤ z * n ↔ x ≤ ((z * n : ℤ) : ℚ) := Int.ceil_le
  push_cast at hceil
  rw [← hceil]
  exact_mod_cast Iff.rfl

theorem units_eq_ceil {q : Quantity} {v : ℚ} (h : (q.nanos : ℤ) = ⌈v * 10 ^ 9⌉) :
    (q.units : ℤ) = ⌈v⌉ := by
  have hnanos : (q.nanos : ℚ) = ⌈v * 10 ^ 9⌉ := by exact_mod_cast h
  have hunit : (nanosPerUnit : ℚ) = 10 ^ 9 := by norm_num [nanosPerUnit]
  rw [units, divUp_eq_ceil _ (by decide), hnanos, ceil_ceil_div _ (by decide), hunit]
  congr 1
  field_simp

private theorem divUp_le (n : Nat) {d : Nat} (hd : 0 < d) : divUp n d ≤ n := by
  rcases Nat.eq_zero_or_pos n with rfl | hn
  · rw [divUp, Nat.zero_add, Nat.div_eq_of_lt (Nat.sub_lt hd Nat.one_pos)]
  · refine Nat.div_le_of_le_mul ?_
    have hle := Nat.mul_le_mul_left (d - 1) hn
    have hsplit : d * n = (d - 1) * n + n := by
      rw [← Nat.succ_mul, Nat.succ_eq_add_one, Nat.sub_add_cancel hd]
    omega

theorem ten_pow_lt_limit_iff {n : Nat} : 10 ^ n < limit ↔ n ≤ 38 := by
  constructor
  · intro h
    by_contra hn
    have hle : 10 ^ 39 ≤ 10 ^ n := Nat.pow_le_pow_right (by decide) (by omega)
    have hlimit : limit ≤ 10 ^ 39 := by decide
    omega
  · intro h
    have hle : 10 ^ n ≤ 10 ^ 38 := Nat.pow_le_pow_right (by decide) h
    have hlimit : 10 ^ 38 < limit := by decide
    omega

private theorem scaled?_of_nonneg {m : Nat} {s : Int} (h : 0 ≤ s) :
    scaled? m s =
      if 10 ^ s.toNat < limit ∧ m * 10 ^ s.toNat < limit then some (m * 10 ^ s.toNat)
      else none := by
  rw [scaled?, if_pos h, powerOfTen?]
  by_cases hpower : s.toNat ≤ 38
  · have hlimit := ten_pow_lt_limit_iff.2 hpower
    simp [hpower, hlimit]
  · have hlimit : ¬ 10 ^ s.toNat < limit := fun hlt => hpower (ten_pow_lt_limit_iff.1 hlt)
    simp [hpower, hlimit]

private theorem scaled?_of_neg {m : Nat} {s : Int} (hm : m < limit) (h : s < 0) :
    scaled? m s = some (divUp m (10 ^ (-s).toNat)) := by
  rw [scaled?, if_neg (not_le.2 h), powerOfTen?]
  by_cases hpower : (-s).toNat ≤ 38
  · rw [if_pos hpower]
  · rw [if_neg hpower]
    -- the divisor exceeds the mantissa, so the quotient is a fraction of one nano-unit
    have hlimit : ¬ 10 ^ (-s).toNat < limit := fun hlt => hpower (ten_pow_lt_limit_iff.1 hlt)
    have hpos : 0 < 10 ^ (-s).toNat := Nat.pow_pos (by decide)
    refine congrArg some ?_
    rw [divUp]
    split
    · exact (Nat.div_eq_of_lt_le (by omega) (by omega)).symm
    · exact (Nat.div_eq_of_lt (by omega)).symm

theorem ceil_mul_ten_pow {m : Nat} {s : Int} (h : 0 ≤ s) :
    ⌈(m : ℚ) * 10 ^ s⌉ = (m * 10 ^ s.toNat : ℕ) := by
  have hvalue : (m : ℚ) * 10 ^ s = ((m * 10 ^ s.toNat : ℕ) : ℚ) := by
    have hs : s = (s.toNat : Int) := by omega
    rw [hs, zpow_natCast, Int.toNat_natCast]
    push_cast
    rfl
  rw [hvalue, Int.ceil_natCast]

private theorem scaled?_eq_ceil {m n : Nat} {s : Int} (hm : m < limit) (h : scaled? m s = some n) :
    n < limit ∧ (n : ℤ) = ⌈(m : ℚ) * 10 ^ s⌉ := by
  rcases lt_or_ge s 0 with hneg | hnonneg
  · rw [scaled?_of_neg hm hneg] at h
    cases h
    have hpos : 0 < 10 ^ (-s).toNat := Nat.pow_pos (by decide)
    refine ⟨(divUp_le m hpos).trans_lt hm, ?_⟩
    rw [divUp_eq_ceil _ hpos]
    congr 1
    have hs : s = -((-s).toNat : Int) := by omega
    push_cast
    rw [div_eq_mul_inv, ← zpow_natCast, ← zpow_neg, ← hs]
  · rw [scaled?_of_nonneg hnonneg] at h
    split at h
    · rename_i hlimit
      cases h
      exact ⟨hlimit.2, (ceil_mul_ten_pow hnonneg).symm⟩
    · cases h

private theorem scaled?_eq_none_iff {m : Nat} {s : Int} (hm : m < limit) :
    scaled? m s = none ↔ 0 ≤ s ∧ (limit ≤ 10 ^ s.toNat ∨ limit ≤ m * 10 ^ s.toNat) := by
  rcases lt_or_ge s 0 with hneg | hnonneg
  · rw [scaled?_of_neg hm hneg]
    simp [hneg]
  · rw [scaled?_of_nonneg hnonneg, ite_eq_right_iff]
    simp only [reduceCtorEq, imp_false, hnonneg, true_and]
    omega

private theorem ofParts_written (w : Written) :
    ofParts w.whole w.fraction w.ending.chars =
      if limit ≤ w.mantissa ∨ w.ScaleLeavesWord then .error .overflow
      else (scaled? w.mantissa w.scale).elim (.error .overflow) (ofNanos w.ending.format) := by
  rw [ofParts]
  dsimp only
  by_cases hdigits : limit ≤ Text.decimalValue (w.whole ++ w.fraction)
  · have hmantissa : limit ≤ w.mantissa :=
      hdigits.trans (Nat.le_mul_of_pos_right _ (Nat.pow_pos (by decide)))
    rw [if_pos hdigits, if_pos (.inl hmantissa)]
  · rw [if_neg hdigits, readSuffix?_chars]
    rfl

/-- A step on the way to nano-units leaves its range. -/
def Written.Overflows (w : Written) : Prop := w.ReachesLimit ∨ w.ScaleLeavesWord

private theorem ofParts_of_overflows {w : Written} (h : w.Overflows) :
    ofParts w.whole w.fraction w.ending.chars = .error .overflow := by
  rw [ofParts_written]
  split
  · rfl
  · rename_i hrange
    obtain ⟨hmantissa, hword⟩ := not_or.1 hrange
    have hscaled := (h.resolve_right hword).resolve_left hmantissa
    rw [(scaled?_eq_none_iff (not_le.1 hmantissa)).2 hscaled]
    rfl

private theorem exists_ofParts {w : Written} (h : ¬ w.Overflows) :
    ∃ q, ofParts w.whole w.fraction w.ending.chars = .ok q ∧
      (q.nanos : ℤ) = ⌈w.value * 10 ^ 9⌉ ∧ q.format = w.ending.format := by
  obtain ⟨hlimit, hword⟩ := not_or.1 h
  obtain ⟨hmantissa, hscaled⟩ := not_or.1 hlimit
  have hm := not_le.1 hmantissa
  obtain ⟨n, hn⟩ : ∃ n, scaled? w.mantissa w.scale = some n :=
    Option.ne_none_iff_exists'.1 fun hnone => hscaled ((scaled?_eq_none_iff hm).1 hnone)
  obtain ⟨hnanos, hceil⟩ := scaled?_eq_ceil hm hn
  refine ⟨⟨n, w.ending.format, hnanos⟩, ?_, ?_, rfl⟩
  · rw [ofParts_written, if_neg (not_or.2 ⟨hmantissa, hword⟩), hn, Option.elim_some, ofNanos,
      dif_pos hnanos]
  · rw [w.value_mul]
    exact hceil

section

variable {text : String} {w : Written} (h : w.chars = Text.trimChars text.toList)
include h

private theorem parse_of_overflows (hw : w.Overflows) :
    parse text = .error ⟨Text.trim text, .overflow⟩ := by
  rw [parse, ← h, ofChars_chars, ofParts_of_overflows hw, Text.trim, h]
  rfl

/-- A written quantity that does not overflow is read exactly. -/
theorem exists_parse (hw : ¬ w.Overflows) :
    ∃ q, parse text = .ok q ∧ (q.nanos : ℤ) = ⌈w.value * 10 ^ 9⌉ ∧
      q.format = w.ending.format := by
  obtain ⟨q, hq, hnanos, hformat⟩ := exists_ofParts hw
  refine ⟨q, ?_, hnanos, hformat⟩
  rw [parse, ← h, ofChars_chars, hq]
  rfl

theorem exists_parse_iff : (∃ q, parse text = .ok q) ↔ ¬ w.Overflows := by
  constructor
  · rintro ⟨q, hq⟩ hover
    rw [parse_of_overflows h hover] at hq
    cases hq
  · intro hover
    obtain ⟨q, hq, -⟩ := exists_parse h hover
    exact ⟨q, hq⟩

end

/-- What is read as a quantity is one that is written. -/
theorem exists_written_of_parse {text : String} {q : Quantity} (h : parse text = .ok q) :
    ∃ w : Written, w.chars = Text.trimChars text.toList := by
  rw [parse] at h
  cases hchars : ofChars (Text.trimChars text.toList) with
  | error e =>
    rw [hchars] at h
    cases h
  | ok q' => exact exists_written hchars

/-- A text is read as a quantity only if one is written there, blanks at its ends apart. What is
written is read as its value in nano-units, rounded up, in the notation of its ending; or it is
refused as an overflow, and that only where the integer of its digits times the power of 1024, the
power of ten, or their product reaches the limit, or where the number of places, the exponent for
nano-units or the scale leaves the words in which the scale is formed. -/
theorem parse_exact (text : String) :
    ((∀ w : Written, w.chars ≠ Text.trimChars text.toList) → ∃ r, parse text = .error r) ∧
      ∀ w : Written, w.chars = Text.trimChars text.toList →
        (∃ q, parse text = .ok q ∧ (q.nanos : ℤ) = ⌈w.value * 10 ^ 9⌉ ∧
          (q.units : ℤ) = ⌈w.value⌉ ∧ q.format = w.ending.format) ∨
        (parse text = .error ⟨Text.trim text, .overflow⟩ ∧
          (w.ReachesLimit ∨ w.ScaleLeavesWord)) := by
  constructor
  · intro hnone
    cases hparse : parse text with
    | error r => exact ⟨r, rfl⟩
    | ok q =>
      obtain ⟨w, hw⟩ := exists_written_of_parse hparse
      exact absurd hw (hnone w)
  · intro w hw
    by_cases hover : w.Overflows
    · exact .inr ⟨parse_of_overflows hw hover, hover⟩
    · obtain ⟨q, hq, hnanos, hformat⟩ := exists_parse hw hover
      exact .inl ⟨q, hq, hnanos, units_eq_ceil hnanos, hformat⟩

/-- Reading rounds up twice: the places to nano-units, and these to whole units. -/
theorem parse_exact_beyond_nanos :
    ∃ q, parse " +1.0000000005 " = .ok q ∧ q.nanos = 1000000001 ∧ q.units = 2 ∧
      q.format = .decimal := by
  let w : Written :=
    { plus := true, whole := ['1'], places := some "0000000005".toList
      ending := .decimal "" 0 (by decide)
      isDigit_of_mem := List.all_eq_true.1 (by decide +kernel)
      digits_ne_nil := by decide +kernel }
  have hw : w.chars = Text.trimChars " +1.0000000005 ".toList := by decide +kernel
  have hvalue : w.value = 1 + 5 / 10 ^ 10 := by
    have hwhole : Text.decimalValue w.whole = 1 := by decide +kernel
    have hfraction : Text.decimalValue w.fraction = 5 := by decide +kernel
    have hplaces : w.fraction.length = 10 := by decide +kernel
    rw [Written.value, hwhole, hfraction, hplaces]
    norm_num [w, Ending.binaryPower, Ending.decimalPower]
  have hread : (parse " +1.0000000005 ").toOption.isSome = true := by decide +kernel
  rcases (parse_exact " +1.0000000005 ").2 w hw with ⟨q, hq, hnanos, hunits, hformat⟩ | ⟨herror, -⟩
  · rw [hvalue] at hnanos hunits
    norm_num at hnanos hunits
    exact ⟨q, hq, by exact_mod_cast hnanos, by exact_mod_cast hunits, hformat⟩
  · rw [herror] at hread
    cases hread

/-- Zero, written with `n` places and the exponent `e`. -/
def Written.zero (n : Nat) (e : Int) (fits : fitsWord e = true) : Written where
  plus := false
  whole := ['0']
  places := some (List.replicate n '0')
  ending := .exponent 'e' (.ofInt e) (.inl rfl) (by rw [Text.Literal.value_ofInt, fits])
  isDigit_of_mem c hc := by
    have hzero : c = '0' := List.eq_of_mem_replicate (n := n + 1) hc
    rw [hzero]
    rfl
  digits_ne_nil := List.cons_ne_nil _ _

def zeroText (n : Nat) (e : Int) : String :=
  "0." ++ String.ofList (List.replicate n '0') ++ "e" ++ toString e

section

variable {n : Nat} {e : Int} (fits : fitsWord e = true)

private theorem Written.chars_zero :
    (Written.zero n e fits).chars = Text.trimChars (zeroText n e).toList := by
  have hchars : (zeroText n e).toList = (Written.zero n e fits).chars := by
    rw [zeroText, String.toList_append, String.toList_append, String.toList_append,
      String.toList_ofList, ← Text.Literal.chars_ofInt]
    simp [Written.chars, Written.number, Written.zero, Ending.chars]
  rw [hchars, Written.trimChars_chars]

private theorem Written.mantissa_zero : (Written.zero n e fits).mantissa = 0 := by
  have hdigits : Text.decimalValue (['0'] ++ List.replicate n '0') = 0 :=
    Text.decimalValue_replicate_zero (n + 1)
  rw [mantissa, fraction]
  exact (congrArg (· * _) hdigits).trans (Nat.zero_mul _)

private theorem Written.decimalPower_zero : (Written.zero n e fits).ending.decimalPower = e :=
  Text.Literal.value_ofInt e

private theorem Written.scale_zero : (Written.zero n e fits).scale = e + 9 - n := by
  have hplaces : (Written.zero n e fits).fraction.length = n := List.length_replicate
  rw [scale, decimalPower_zero, hplaces]

end

/-- Zero is an overflow even where its scale is small, if the exponent for nano-units is not one of
32 bits: with an exponent near the end of its range it takes two thousand million places to make up
for that. -/
theorem zero_overflows_at_small_scale :
    ∃ w : Written, w.chars = Text.trimChars (zeroText 2147483610 2147483639).toList ∧
      parse (zeroText 2147483610 2147483639) =
        .error ⟨Text.trim (zeroText 2147483610 2147483639), .overflow⟩ ∧
      w.mantissa = 0 ∧ w.scale = 38 ∧ ¬ w.ReachesLimit ∧ fitsWord w.scale = true := by
  have fits : fitsWord 2147483639 = true := by decide
  have hmantissa := Written.mantissa_zero (n := 2147483610) fits
  have hscale : (Written.zero 2147483610 2147483639 fits).scale = 38 := by
    rw [Written.scale_zero]
    rfl
  have hleaves : (Written.zero 2147483610 2147483639 fits).ScaleLeavesWord := by
    refine .inr (.inl ?_)
    rw [Written.decimalPower_zero]
    decide
  refine ⟨.zero 2147483610 2147483639 fits, Written.chars_zero fits,
    parse_of_overflows (Written.chars_zero fits) (.inr hleaves), hmantissa, hscale, ?_, ?_⟩
  · rw [Written.ReachesLimit, hmantissa, hscale]
    decide
  · rw [hscale]
    decide

private theorem Written.not_overflows_iff (w : Written) (hvalue : ⌈w.value * 10 ^ 9⌉ < limit) :
    ¬ w.Overflows ↔ w.mantissa < limit ∧ w.scale ≤ 38 ∧ ¬ w.ScaleLeavesWord := by
  constructor
  · intro hover
    obtain ⟨hlimit, hword⟩ := not_or.1 hover
    obtain ⟨hmantissa, hscaled⟩ := not_or.1 hlimit
    refine ⟨not_le.1 hmantissa, ?_, hword⟩
    by_contra hscale
    have hpower : ¬ 10 ^ w.scale.toNat < limit := fun hlt => by
      have hle := ten_pow_lt_limit_iff.1 hlt
      omega
    exact hscaled ⟨by omega, .inl (not_lt.1 hpower)⟩
  · rintro ⟨hmantissa, hscale, hword⟩ ((hlimit | ⟨hnonneg, hlimit | hlimit⟩) | hleaves)
    · omega
    · have hpower : 10 ^ w.scale.toNat < limit := ten_pow_lt_limit_iff.2 (by omega)
      omega
    · -- where the scale is not negative, the product is the value in nano-units
      rw [w.value_mul, ceil_mul_ten_pow hnonneg] at hvalue
      omega
    · exact hword hleaves

/-- Of the written numbers that stay within the limit once they are rounded up, those are read
whose digits do so too when they are read as one integer, and whose power of ten does so by itself.
Hence zero is refused where its exponent is high, and any number where its digits are many. -/
theorem accepted_iff {text : String} {w : Written} (h : w.chars = Text.trimChars text.toList)
    (hvalue : ⌈w.value * 10 ^ 9⌉ < limit) :
    (∃ q, parse text = .ok q) ↔ w.mantissa < limit ∧ w.scale ≤ 38 ∧ ¬ w.ScaleLeavesWord :=
  (exists_parse_iff h).trans (w.not_overflows_iff hvalue)

/-- The largest quantity of all is read. -/
theorem accepted_iff_of_largest :
    ∃ w : Written,
      w.chars = Text.trimChars "340282366920938463463374607431768211455n".toList ∧
      ⌈w.value * 10 ^ 9⌉ < limit ∧
      ∃ q, parse "340282366920938463463374607431768211455n" = .ok q := by
  let w : Written :=
    { plus := false, whole := "340282366920938463463374607431768211455".toList, places := none
      ending := .decimal "n" (-9) (by decide)
      isDigit_of_mem := List.all_eq_true.1 (by decide +kernel)
      digits_ne_nil := by decide +kernel }
  have hmantissa : w.mantissa = 2 ^ 128 - 1 := by decide +kernel
  have hscale : w.scale = 0 := by decide +kernel
  have hvalue : ⌈w.value * 10 ^ 9⌉ < limit := by
    rw [w.value_mul, ceil_mul_ten_pow hscale.ge, hmantissa, hscale]
    decide
  have hw : w.chars = Text.trimChars "340282366920938463463374607431768211455n".toList := by
    decide +kernel
  refine ⟨w, hw, hvalue, (accepted_iff hw hvalue).2 ⟨?_, ?_, by decide +kernel⟩⟩
  · rw [hmantissa]
    decide
  · rw [hscale]
    decide

/-- Two numbers far below the limit that are refused as overflows: one with a place beyond those
that count, and zero. -/
theorem small_values_refused :
    (∃ w : Written,
      w.chars = Text.trimChars "1.0000000000000000000000000000000000000001".toList ∧
      ⌈w.value * 10 ^ 9⌉ = 1000000001 ∧
      parse "1.0000000000000000000000000000000000000001" =
        .error ⟨"1.0000000000000000000000000000000000000001", .overflow⟩) ∧
    ∃ w : Written, w.chars = Text.trimChars "0e30".toList ∧ ⌈w.value * 10 ^ 9⌉ = 0 ∧
      parse "0e30" = .error ⟨"0e30", .overflow⟩ := by
  constructor
  · let w : Written :=
      { plus := false, whole := ['1']
        places := some "0000000000000000000000000000000000000001".toList
        ending := .decimal "" 0 (by decide)
        isDigit_of_mem := List.all_eq_true.1 (by decide +kernel)
        digits_ne_nil := by decide +kernel }
    have hmantissa : w.mantissa = 10 ^ 40 + 1 := by decide +kernel
    have hscale : w.scale = -31 := by decide +kernel
    refine ⟨w, by decide +kernel, ?_, by decide +kernel⟩
    rw [w.value_mul, hmantissa, hscale]
    norm_num
  · let w : Written :=
      { plus := false, whole := ['0'], places := none
        ending := .exponent 'e' (.ofInt 30) (.inl rfl) (by decide +kernel)
        isDigit_of_mem := List.all_eq_true.1 (by decide +kernel)
        digits_ne_nil := by decide +kernel }
    have hmantissa : w.mantissa = 0 := by decide +kernel
    refine ⟨w, by decide +kernel, ?_, by decide +kernel⟩
    rw [w.value_mul, hmantissa]
    norm_num

end DesiredState.Quantity
