import DesiredState.Number.Binary64
import Mathlib.Tactic
/-!
Rounding to binary floating-point numbers. Main statements: `nearestCode_spec`, what the nearest
code is made of, and `exists_ofScaledDigits`, that a decimal that stays clear of the overflow
threshold is read as a number.
-/

set_option autoImplicit false
set_option relaxedAutoImplicit false

namespace DesiredState.Binary64

private theorem roundHalfEven_half (num : Nat) {den : Nat} (hden : 0 < den) :
    2 * (roundHalfEven num den * den) ≤ 2 * num + den ∧
      2 * num ≤ 2 * (roundHalfEven num den * den) + den := by
  have hsplit := Nat.div_add_mod' num den
  have hrest := Nat.mod_lt num hden
  rw [roundHalfEven]
  generalize num / den = q at hsplit ⊢
  generalize num % den = r at hsplit hrest ⊢
  have hsucc : (q + 1) * den = q * den + den := by ring
  split
  · omega
  · split
    · rw [hsucc]
      omega
    · rcases Nat.mod_two_eq_zero_or_one q with heven | hodd
      · rw [heven, Nat.add_zero]
        omega
      · rw [hodd, hsucc]
        omega

private theorem abs_roundHalfEven_sub (num : Nat) {den : Nat} (hden : 0 < den) :
    |(roundHalfEven num den : ℚ) - num / den| ≤ 1 / 2 := by
  obtain ⟨hhigh, hlow⟩ := roundHalfEven_half num hden
  have hpos : (0 : ℚ) < den := by exact_mod_cast hden
  have hhigh' : 2 * ((roundHalfEven num den : ℚ) * den) ≤ 2 * num + den := by exact_mod_cast hhigh
  have hlow' : 2 * (num : ℚ) ≤ 2 * (roundHalfEven num den * den) + den := by exact_mod_cast hlow
  have hscaled : ((roundHalfEven num den : ℚ) - num / den) * den =
      roundHalfEven num den * den - num := by
    rw [sub_mul, div_mul_cancel₀ _ hpos.ne']
  rw [abs_le]
  constructor
  · by_contra hlt
    have := mul_lt_mul_of_pos_right (not_le.1 hlt) hpos
    linarith
  · by_contra hlt
    have := mul_lt_mul_of_pos_right (not_le.1 hlt) hpos
    linarith

def scale (num den : Nat) : Int :=
  let e : Int := (num.log2 : Int) - den.log2 - 53
  max (if num * 2 ^ (-e).toNat / (den * 2 ^ e.toNat) < 2 ^ 53 then e else e + 1) (-1074)

private theorem nearestCode_eq {num : Nat} (hnum : num ≠ 0) (den : Nat) :
    nearestCode num den = (scale num den + 1074).toNat * 2 ^ 52 +
      roundHalfEven (num * 2 ^ (-scale num den).toNat) (den * 2 ^ (scale num den).toNat) := by
  rw [nearestCode, if_neg hnum]
  rfl

theorem scaled_quotient_pow {b : Nat} (hb : b ≠ 0) (num den : Nat) (e : Int) :
    ((num * b ^ (-e).toNat : ℕ) : ℚ) / (den * b ^ e.toNat : ℕ) = num / den / (b : ℚ) ^ e := by
  have hbase : (b : ℚ) ≠ 0 := by exact_mod_cast hb
  have hsplit : (b : ℚ) ^ e = (b : ℚ) ^ e.toNat / (b : ℚ) ^ (-e).toNat := by
    rw [← zpow_natCast, ← zpow_natCast, ← zpow_sub₀ hbase]
    congr 1
    omega
  have hup : (b : ℚ) ^ e.toNat ≠ 0 := pow_ne_zero _ hbase
  have hdown : (b : ℚ) ^ (-e).toNat ≠ 0 := pow_ne_zero _ hbase
  rw [hsplit]
  push_cast
  rw [div_div_eq_mul_div, div_mul_eq_mul_div, div_div]

theorem scaled_quotient (num den : Nat) (e : Int) :
    ((num * 2 ^ (-e).toNat : ℕ) : ℚ) / (den * 2 ^ e.toNat : ℕ) = num / den / 2 ^ e :=
  scaled_quotient_pow two_ne_zero num den e

private theorem quotient_bounds {num den : Nat} (hnum : num ≠ 0) (hden : den ≠ 0) :
    (2 : ℚ) ^ ((num.log2 : Int) - den.log2 - 1) < num / den ∧
      (num : ℚ) / den < 2 ^ ((num.log2 : Int) - den.log2 + 1) := by
  have hpos : (0 : ℚ) < den := by exact_mod_cast Nat.pos_of_ne_zero hden
  have hnumLow : (2 : ℚ) ^ (num.log2 : Int) ≤ num := by
    rw [zpow_natCast]
    exact_mod_cast Nat.log2_self_le hnum
  have hnumHigh : (num : ℚ) < 2 ^ ((num.log2 : Int) + 1) := by
    have hlt := Nat.lt_log2_self (n := num)
    have hcast : (num : ℚ) < 2 ^ (num.log2 + 1) := by exact_mod_cast hlt
    exact_mod_cast hcast
  have hdenLow : (2 : ℚ) ^ (den.log2 : Int) ≤ den := by
    rw [zpow_natCast]
    exact_mod_cast Nat.log2_self_le hden
  have hdenHigh : (den : ℚ) < 2 ^ ((den.log2 : Int) + 1) := by
    have hlt := Nat.lt_log2_self (n := den)
    have hcast : (den : ℚ) < 2 ^ (den.log2 + 1) := by exact_mod_cast hlt
    exact_mod_cast hcast
  constructor
  · rw [lt_div_iff₀ hpos]
    calc (2 : ℚ) ^ ((num.log2 : Int) - den.log2 - 1) * den
        < 2 ^ ((num.log2 : Int) - den.log2 - 1) * 2 ^ ((den.log2 : Int) + 1) :=
          mul_lt_mul_of_pos_left hdenHigh (by positivity)
      _ = 2 ^ (num.log2 : Int) := by
          rw [← zpow_add₀ two_ne_zero]
          congr 1
          ring
      _ ≤ num := hnumLow
  · rw [div_lt_iff₀ hpos]
    calc (num : ℚ) < 2 ^ ((num.log2 : Int) + 1) := hnumHigh
      _ = 2 ^ ((num.log2 : Int) - den.log2 + 1) * 2 ^ (den.log2 : Int) := by
          rw [← zpow_add₀ two_ne_zero]
          congr 1
          ring
      _ ≤ 2 ^ ((num.log2 : Int) - den.log2 + 1) * den :=
          mul_le_mul_of_nonneg_left hdenLow (by positivity)

private theorem scale_spec {num den : Nat} (hnum : num ≠ 0) (hden : den ≠ 0) :
    -1074 ≤ scale num den ∧ (num : ℚ) / den / 2 ^ scale num den < 2 ^ 53 ∧
      (-1074 < scale num den → (2 : ℚ) ^ 52 ≤ num / den / 2 ^ scale num den) := by
  obtain ⟨hlow, hhigh⟩ := quotient_bounds hnum hden
  set e : Int := (num.log2 : Int) - den.log2 - 53 with he
  -- the quotient is compared with the power of two that separates the two choices
  have htest : (num * 2 ^ (-e).toNat / (den * 2 ^ e.toNat) < 2 ^ 53) ↔
      (num : ℚ) / den / 2 ^ e < 2 ^ 53 := by
    have hpos : 0 < den * 2 ^ e.toNat := by positivity
    have hcast : (0 : ℚ) < (den * 2 ^ e.toNat : ℕ) := by exact_mod_cast hpos
    rw [Nat.div_lt_iff_lt_mul hpos, ← scaled_quotient, div_lt_iff₀ hcast]
    exact_mod_cast Iff.rfl
  have hscale : scale num den = max (if num * 2 ^ (-e).toNat / (den * 2 ^ e.toNat) < 2 ^ 53
      then e else e + 1) (-1074) := rfl
  have hchoice : ∃ f : Int, scale num den = max f (-1074) ∧
      (2 : ℚ) ^ (f + 52) ≤ num / den ∧ (num : ℚ) / den < 2 ^ (f + 53) := by
    by_cases hsmall : (num : ℚ) / den / 2 ^ e < 2 ^ 53
    · refine ⟨e, by rw [hscale, if_pos (htest.2 hsmall)], ?_, ?_⟩
      · have heq : e + 52 = (num.log2 : Int) - den.log2 - 1 := by omega
        rw [heq]
        exact hlow.le
      · rw [div_lt_iff₀ (by positivity), ← zpow_natCast, ← zpow_add₀ two_ne_zero] at hsmall
        rwa [add_comm]
    · refine ⟨e + 1, by rw [hscale, if_neg (htest.not.2 hsmall)], ?_, ?_⟩
      · rw [not_lt, le_div_iff₀ (by positivity), ← zpow_natCast, ← zpow_add₀ two_ne_zero] at hsmall
        have heq : e + 1 + 52 = ((53 : ℕ) : Int) + e := by omega
        rwa [heq]
      · have heq : e + 1 + 53 = (num.log2 : Int) - den.log2 + 1 := by omega
        rw [heq]
        exact hhigh
  obtain ⟨f, hf, hflow, hfhigh⟩ := hchoice
  refine ⟨hf ▸ le_max_right _ _, ?_, fun hnormal => ?_⟩
  · rw [div_lt_iff₀ (by positivity), ← zpow_natCast, ← zpow_add₀ two_ne_zero]
    refine hfhigh.trans_le (zpow_le_zpow_right₀ one_le_two ?_)
    have hle : f ≤ scale num den := hf ▸ le_max_left _ _
    omega
  · have heq : scale num den = f := by
      rw [hf] at hnormal ⊢
      rcases max_cases f (-1074) with ⟨h, -⟩ | ⟨h, -⟩
      · exact h
      · omega
    rw [heq, le_div_iff₀ (by positivity), ← zpow_natCast, ← zpow_add₀ two_ne_zero]
    have hadd : ((52 : ℕ) : Int) + f = f + 52 := add_comm _ _
    rwa [hadd]

theorem nearestCode_spec {num den : Nat} (hnum : num ≠ 0) (hden : den ≠ 0) :
    ∃ (e : Int) (r : Nat), nearestCode num den = (e + 1074).toNat * 2 ^ 52 + r ∧ -1074 ≤ e ∧
      r ≤ 2 ^ 53 ∧ |(r : ℚ) - num / den / 2 ^ e| ≤ 1 / 2 ∧ (num : ℚ) / den / 2 ^ e < 2 ^ 53 ∧
      (-1074 < e → (2 : ℚ) ^ 52 ≤ num / den / 2 ^ e ∧ 2 ^ 52 ≤ r) := by
  obtain ⟨hlow, hhigh, hnormal⟩ := scale_spec hnum hden
  have hpos : 0 < den * 2 ^ (scale num den).toNat := Nat.mul_pos (Nat.pos_of_ne_zero hden)
    (by positivity)
  have habs := abs_roundHalfEven_sub (num * 2 ^ (-scale num den).toNat) hpos
  rw [scaled_quotient] at habs
  have hcode := nearestCode_eq hnum den
  generalize roundHalfEven (num * 2 ^ (-scale num den).toNat) (den * 2 ^ (scale num den).toNat) = r
    at habs hcode
  obtain ⟨hbelow, habove⟩ := abs_le.1 habs
  refine ⟨scale num den, r, hcode, hlow, ?_, habs, hhigh, fun he => ⟨hnormal he, ?_⟩⟩
  · have hlt : (r : ℚ) < 2 ^ 53 + 1 := by linarith
    exact Nat.le_of_lt_succ (by exact_mod_cast hlt)
  · have hlt : (2 : ℚ) ^ 52 < r + 1 := by linarith [hnormal he]
    exact Nat.le_of_lt_succ (by exact_mod_cast hlt)

theorem limit_eq : limit = 2047 * 2 ^ 52 := rfl

/-- Half a unit above the largest number. -/
def threshold : ℚ := (2 ^ 53 - 1 / 2) * 2 ^ (971 : Int)

private theorem nearestCode_lt_limit {num den : Nat} (hden : den ≠ 0)
    (h : (num : ℚ) / den < threshold) : nearestCode num den < limit := by
  by_cases hnum : num = 0
  · rw [nearestCode, if_pos hnum]
    decide
  · obtain ⟨e, r, hcode, hlow, hr, habs, -, hnormal⟩ := nearestCode_spec hnum hden
    rw [hcode, limit_eq]
    rcases lt_trichotomy e 971 with hlt | rfl | hgt
    · omega
    · -- in the last binade rounding must not carry
      have hq : (num : ℚ) / den / 2 ^ (971 : Int) < 2 ^ 53 - 1 / 2 := by
        rw [div_lt_iff₀ (by positivity)]
        exact h
      have hlt : (r : ℚ) < 2 ^ 53 := by linarith [(abs_le.1 habs).2]
      have hlt' : r < 2 ^ 53 := by exact_mod_cast hlt
      omega
    · have hlarge := (hnormal (by omega)).1
      rw [le_div_iff₀ (by positivity)] at hlarge
      have hpower : (2 : ℚ) ^ (971 + 1 : Int) ≤ 2 ^ e := zpow_le_zpow_right₀ one_le_two (by omega)
      rw [zpow_add₀ two_ne_zero, zpow_one] at hpower
      have hunit : (0 : ℚ) < 2 ^ (971 : Int) := by positivity
      have habove : threshold < num / den := calc
        threshold < 2 ^ 53 * 2 ^ (971 : Int) :=
          mul_lt_mul_of_pos_right (by norm_num) hunit
        _ = 2 ^ 52 * (2 ^ (971 : Int) * 2) := by ring
        _ ≤ 2 ^ 52 * 2 ^ e := mul_le_mul_of_nonneg_left hpower (by positivity)
        _ ≤ num / den := hlarge
      exact absurd h (not_lt.2 habove.le)

/-- The magnitude of a number. -/
def magnitude (x : Binary64) : ℚ := x.significand * 2 ^ x.exponent

private theorem magnitude_of_code {x : Binary64} {e : Int} {r : Nat}
    (hcode : x.code = (e + 1074).toNat * 2 ^ 52 + r) (hlow : -1074 ≤ e) (hr : r ≤ 2 ^ 53)
    (hnormal : -1074 < e → 2 ^ 52 ≤ r) : x.magnitude = r * 2 ^ e := by
  rw [magnitude, significand, exponent]
  by_cases hsmall : r < 2 ^ 52
  · have he : e = -1074 := by
      by_contra hne
      have hle := hnormal (by omega)
      omega
    subst he
    have hx : x.code = r := by omega
    rw [hx, if_pos hsmall, if_pos hsmall]
  · have hlarge : ¬ x.code < 2 ^ 52 := by omega
    rw [if_neg hlarge, if_neg hlarge]
    by_cases hcarry : r = 2 ^ 53
    · have hdiv : x.code / 2 ^ 52 = (e + 1074).toNat + 2 := by omega
      have hmod : x.code % 2 ^ 52 = 0 := by omega
      have he : (((e + 1074).toNat + 2 : ℕ) : Int) - 1075 = e + 1 := by omega
      rw [hdiv, hmod, he, zpow_add₀ two_ne_zero, hcarry]
      norm_num
      ring
    · have hdiv : x.code / 2 ^ 52 = (e + 1074).toNat + 1 := by omega
      have hmod : 2 ^ 52 + x.code % 2 ^ 52 = r := by omega
      have he : (((e + 1074).toNat + 1 : ℕ) : Int) - 1075 = e := by omega
      rw [hdiv, hmod, he]

section Nearest

variable {x : Binary64} {num den : Nat} (hx : x.code = nearestCode num den) (hden : den ≠ 0)

include hx hden

private theorem magnitude_le_double : x.magnitude ≤ 2 * (num / den) + 1 := by
  by_cases hnum : num = 0
  · have hzero : x.code = 0 := by rw [hx, nearestCode, if_pos hnum]
    rw [magnitude, significand, hzero, hnum]
    norm_num
  · obtain ⟨e, r, hcode, hlow, hr, habs, -, hnormal⟩ := nearestCode_spec hnum hden
    rw [magnitude_of_code (hx.trans hcode) hlow hr fun he => (hnormal he).2]
    have hpower : (0 : ℚ) < 2 ^ e := by positivity
    have hquotient : (num : ℚ) / den / 2 ^ e * 2 ^ e = num / den :=
      div_mul_cancel₀ _ hpower.ne'
    have hround : (r : ℚ) * 2 ^ e ≤ (num / den / 2 ^ e + 1 / 2) * 2 ^ e :=
      mul_le_mul_of_nonneg_right (by linarith [(abs_le.1 habs).2]) hpower.le
    rw [add_mul, hquotient] at hround
    have hnonneg : (0 : ℚ) ≤ num / den := by positivity
    rcases hlow.lt_or_eq with hlt | rfl
    · have hlarge := mul_le_mul_of_nonneg_right (hnormal hlt).1 hpower.le
      rw [hquotient] at hlarge
      linarith
    · have htiny : (2 : ℚ) ^ (-1074 : Int) ≤ 1 := zpow_le_one_of_nonpos₀ one_le_two (by norm_num)
      linarith

private theorem magnitude_bounds_of_one_le (hone : 1 ≤ (num : ℚ) / den) :
    1 ≤ x.magnitude ∧ x.magnitude ≤ num / den * (1 + 1 / 2 ^ 53) := by
  have hnum : num ≠ 0 := by
    rintro rfl
    norm_num at hone
  obtain ⟨e, r, hcode, hlow, hr, habs, hhigh, hnormal⟩ := nearestCode_spec hnum hden
  rw [magnitude_of_code (hx.trans hcode) hlow hr fun he => (hnormal he).2]
  have hpower : (0 : ℚ) < 2 ^ e := by positivity
  have hquotient : (num : ℚ) / den / 2 ^ e * 2 ^ e = num / den := div_mul_cancel₀ _ hpower.ne'
  have hexponent : -53 < e := by
    rw [div_lt_iff₀ hpower, ← zpow_natCast, ← zpow_add₀ two_ne_zero] at hhigh
    by_contra hle
    have hsmall : (2 : ℚ) ^ (((53 : ℕ) : Int) + e) ≤ 1 :=
      zpow_le_one_of_nonpos₀ one_le_two (by omega)
    exact absurd (hone.trans_lt hhigh) (not_lt.2 hsmall)
  obtain ⟨hlarge, hr'⟩ := hnormal (by omega)
  constructor
  · have hunit : (2 : ℚ) ^ (-52 : Int) ≤ 2 ^ e := zpow_le_zpow_right₀ one_le_two (by omega)
    have hsignificand : (2 : ℚ) ^ 52 ≤ r := by exact_mod_cast hr'
    calc (1 : ℚ) = 2 ^ 52 * 2 ^ (-52 : Int) := by norm_num
      _ ≤ r * 2 ^ e := mul_le_mul hsignificand hunit (by positivity) (by positivity)
  · have hround : (r : ℚ) ≤ num / den / 2 ^ e * (1 + 1 / 2 ^ 53) := by
      linarith [(abs_le.1 habs).2]
    calc (r : ℚ) * 2 ^ e ≤ num / den / 2 ^ e * (1 + 1 / 2 ^ 53) * 2 ^ e :=
          mul_le_mul_of_nonneg_right hround hpower.le
      _ = num / den * (1 + 1 / 2 ^ 53) := by rw [mul_right_comm, hquotient]

end Nearest

private theorem exists_ofQuotient (negative : Bool) {num den : Nat} (hden : den ≠ 0)
    (h : (num : ℚ) / den < threshold) :
    ∃ x, ofQuotient negative num den = some x ∧ x.code = nearestCode num den := by
  have hcode := nearestCode_lt_limit hden h
  rw [ofQuotient, dif_pos hcode]
  exact ⟨_, rfl, rfl⟩

private theorem exists_mul {x y : Binary64} (h : x.magnitude * y.magnitude < threshold) :
    ∃ z, x.mul y = some z := by
  set e := x.exponent + y.exponent with he
  have hmul : x.mul y = ofQuotient (x.negative != y.negative)
      (x.significand * y.significand * 2 ^ e.toNat) (2 ^ (-e).toNat) := rfl
  have hquotient : ((x.significand * y.significand * 2 ^ e.toNat : ℕ) : ℚ) / (2 ^ (-e).toNat : ℕ) =
      x.magnitude * y.magnitude := by
    have hscaled := scaled_quotient (x.significand * y.significand) 1 (-e)
    rw [neg_neg, one_mul] at hscaled
    rw [hscaled, magnitude, magnitude, zpow_neg, he, zpow_add₀ two_ne_zero]
    push_cast
    field_simp
  obtain ⟨z, hz, -⟩ := exists_ofQuotient (x.negative != y.negative) (by positivity)
    (hquotient.trans_lt h)
  exact ⟨z, hmul.trans hz⟩

private theorem exists_div {x y : Binary64} (hy : 1 ≤ y.magnitude) (h : x.magnitude < threshold) :
    ∃ z, x.div y = some z ∧ z.magnitude ≤ 2 * x.magnitude + 1 := by
  set e := x.exponent - y.exponent with he
  have hdiv : x.div y = ofQuotient (x.negative != y.negative)
      (x.significand * 2 ^ e.toNat) (y.significand * 2 ^ (-e).toNat) := rfl
  have hsignificand : y.significand ≠ 0 := by
    intro hzero
    rw [magnitude, hzero] at hy
    norm_num at hy
  have hquotient : ((x.significand * 2 ^ e.toNat : ℕ) : ℚ) / (y.significand * 2 ^ (-e).toNat : ℕ) =
      x.magnitude / y.magnitude := by
    have hscaled := scaled_quotient x.significand y.significand (-e)
    rw [neg_neg] at hscaled
    rw [hscaled, magnitude, magnitude, zpow_neg, he, zpow_sub₀ two_ne_zero]
    field_simp
  have hnonneg : 0 ≤ x.magnitude := by
    rw [magnitude]
    positivity
  have hle : x.magnitude / y.magnitude ≤ x.magnitude := div_le_self hnonneg hy
  have hden : y.significand * 2 ^ (-e).toNat ≠ 0 := by positivity
  obtain ⟨z, hz, hcode⟩ := exists_ofQuotient (x.negative != y.negative) hden
    (hquotient.trans_lt (hle.trans_lt h))
  refine ⟨z, hdiv.trans hz, ?_⟩
  have hbound := magnitude_le_double hcode hden
  rw [hquotient] at hbound
  linarith

def clearance : ℚ := (2 ^ 53 - 5 / 2) * 2 ^ (971 : Int)

private theorem rounded_twice_lt_threshold {v : ℚ} (h : v ≤ clearance) :
    v * (1 + 1 / 2 ^ 53) * (1 + 1 / 2 ^ 53) < threshold := by
  have hunit : (0 : ℚ) < 2 ^ (971 : Int) := by positivity
  have hgrown : v * (1 + 1 / 2 ^ 53) * (1 + 1 / 2 ^ 53) ≤
      clearance * (1 + 1 / 2 ^ 53) * (1 + 1 / 2 ^ 53) :=
    mul_le_mul_of_nonneg_right (mul_le_mul_of_nonneg_right h (by norm_num)) (by norm_num)
  refine hgrown.trans_lt ?_
  have hlt : ((2 : ℚ) ^ 53 - 5 / 2) * (1 + 1 / 2 ^ 53) * (1 + 1 / 2 ^ 53) < 2 ^ 53 - 1 / 2 := by
    norm_num
  calc clearance * (1 + 1 / 2 ^ 53) * (1 + 1 / 2 ^ 53)
      = (2 ^ 53 - 5 / 2) * (1 + 1 / 2 ^ 53) * (1 + 1 / 2 ^ 53) * 2 ^ (971 : Int) := by
        rw [clearance]
        ring
    _ < threshold := mul_lt_mul_of_pos_right hlt hunit

private theorem clearance_lt_threshold : clearance < threshold :=
  mul_lt_mul_of_pos_right (by norm_num) (by positivity)

private theorem ten_pow_bounds : (10 : ℚ) ^ 308 < threshold ∧ threshold < 10 ^ 309 := by
  have hnat : 2 * 10 ^ 308 < 18014398509481983 * 2 ^ 971 ∧
      18014398509481983 * 2 ^ 971 < 2 * 10 ^ 309 := by
    decide +kernel
  -- the exponents are generalized so that no cast computes the powers
  have hcast : ∀ {a b c : ℕ}, (2 * 10 ^ a < c * 2 ^ b → (2 : ℚ) * 10 ^ a < c * 2 ^ b) ∧
      (c * 2 ^ b < 2 * 10 ^ a → (c : ℚ) * 2 ^ b < 2 * 10 ^ a) := by
    intro a b c
    constructor <;> (intro h; exact_mod_cast h)
  have hthreshold : 2 * threshold = ((18014398509481983 : ℕ) : ℚ) * 2 ^ 971 := by
    have hpower : (2 : ℚ) ^ (971 : Int) = 2 ^ 971 := by rw [← zpow_natCast]; rfl
    rw [threshold, hpower, ← mul_assoc]
    norm_num
  exact ⟨lt_of_mul_lt_mul_left ((hcast.1 hnat.1).trans_eq hthreshold.symm) zero_le_two,
    lt_of_mul_lt_mul_left (hthreshold.trans_lt (hcast.2 hnat.2)) zero_le_two⟩

private theorem ten_pow_lt_threshold {n : Nat} (h : n ≤ 308) : (10 : ℚ) ^ n < threshold :=
  (pow_le_pow_right₀ (by norm_num) h).trans_lt ten_pow_bounds.1

private theorem magnitude_powerOfTen {n : Nat} (h : n ≤ 308) :
    1 ≤ (powerOfTen n).magnitude ∧ (powerOfTen n).magnitude ≤ 10 ^ n * (1 + 1 / 2 ^ 53) := by
  have hquotient : ((10 ^ n : ℕ) : ℚ) / (1 : ℕ) = 10 ^ n := by
    push_cast
    exact div_one _
  obtain ⟨x, hx, hcode⟩ := exists_ofQuotient false one_ne_zero
    (hquotient.trans_lt (ten_pow_lt_threshold h))
  have hbounds := magnitude_bounds_of_one_le hcode one_ne_zero
    (hquotient ▸ one_le_pow₀ (by norm_num))
  rw [hquotient] at hbounds
  rwa [powerOfTen, hx, Option.getD_some]

/-- A decimal of few digits that stays clear of the threshold is read as a number. -/
theorem exists_ofScaledDigits (negative : Bool) {digits : Nat} {exponent : Int}
    (hdigits : digits ≤ 10 ^ 17) (hvalue : (digits : ℚ) * 10 ^ exponent ≤ clearance) :
    ∃ x, ofScaledDigits negative digits exponent = some x := by
  have hcast : (digits : ℚ) ≤ 10 ^ 17 := by exact_mod_cast hdigits
  have hquotient : (digits : ℚ) / (1 : ℕ) = digits := by
    push_cast
    exact div_one _
  have hsmall : (digits : ℚ) < threshold := hcast.trans_lt (ten_pow_lt_threshold (by norm_num))
  obtain ⟨x, hx, hcode⟩ := exists_ofQuotient negative one_ne_zero (hquotient.trans_lt hsmall)
  have hround := magnitude_le_double hcode one_ne_zero
  rw [hquotient] at hround
  have hround' : 2 * x.magnitude + 1 < threshold := by
    have hpower := ten_pow_lt_threshold (n := 20) (by norm_num)
    linarith
  simp only [ofScaledDigits, hx, Option.bind_eq_bind, Option.bind_some]
  by_cases hzero : digits = 0
  · rw [if_pos hzero]
    exact ⟨x, rfl⟩
  · have hone : (1 : ℚ) ≤ digits := by exact_mod_cast Nat.pos_of_ne_zero hzero
    have hlarge : ¬ 308 < exponent := by
      intro hlt
      have hpower : (10 : ℚ) ^ 309 ≤ 10 ^ exponent := by
        rw [← zpow_natCast]
        exact zpow_le_zpow_right₀ (by norm_num) (by exact_mod_cast hlt)
      have hle : (10 : ℚ) ^ exponent ≤ digits * 10 ^ exponent :=
        le_mul_of_one_le_left (by positivity) hone
      exact absurd ten_pow_bounds.2
        (not_lt.2 ((hpower.trans (hle.trans hvalue)).trans clearance_lt_threshold.le))
    rw [if_neg hzero, if_neg hlarge]
    split
    · rename_i hexponent
      have hn : exponent.toNat ≤ 308 := by omega
      have hpower : (10 : ℚ) ^ exponent = 10 ^ exponent.toNat := by
        rw [← zpow_natCast, Int.toNat_of_nonneg hexponent]
      obtain ⟨-, hx'⟩ := magnitude_bounds_of_one_le hcode one_ne_zero
        (hone.trans_eq hquotient.symm)
      rw [hquotient] at hx'
      obtain ⟨hlow, hten⟩ := magnitude_powerOfTen hn
      rw [hpower] at hvalue
      apply exists_mul
      calc x.magnitude * (powerOfTen exponent.toNat).magnitude
          ≤ digits * (1 + 1 / 2 ^ 53) * (10 ^ exponent.toNat * (1 + 1 / 2 ^ 53)) :=
            mul_le_mul hx' hten (by linarith) (by positivity)
        _ = digits * 10 ^ exponent.toNat * (1 + 1 / 2 ^ 53) * (1 + 1 / 2 ^ 53) := by ring
        _ < threshold := rounded_twice_lt_threshold hvalue
    · split
      · have hn : (-exponent).toNat ≤ 308 := by omega
        obtain ⟨z, hz, -⟩ := exists_div (x := x) (magnitude_powerOfTen hn).1 (by linarith)
        exact ⟨z, hz⟩
      · split
        · have hn : (-exponent - 308).toNat ≤ 308 := by omega
          obtain ⟨y, hy, hbound⟩ := exists_div (x := x) (magnitude_powerOfTen le_rfl).1
            (by linarith)
          obtain ⟨z, hz, -⟩ := exists_div (x := y) (magnitude_powerOfTen hn).1
            (hbound.trans_lt hround')
          rw [hy, Option.bind_some]
          exact ⟨z, hz⟩
        · exact ⟨_, rfl⟩

end DesiredState.Binary64
