import DesiredState.Proofs.Number.Rounding
/-!
The shortest decimal of a number. Main statement: `shortest_spec`, how many digits it has at most,
how large its exponent is, and that it is at most half a unit above the number.
-/

set_option autoImplicit false
set_option relaxedAutoImplicit false

namespace DesiredState.Binary64

def numerator (x : Binary64) : Nat := 4 * x.significand * 2 ^ (x.exponent - 2).toNat
def denominator (x : Binary64) : Nat := 2 ^ (-(x.exponent - 2)).toNat

/-- What lies between these two, over the same denominator, rounds to the number. -/
def lowerEnd (x : Binary64) : Nat :=
  (4 * x.significand - if x.significand = 2 ^ 52 ∧ x.code / 2 ^ 52 > 1 then 1 else 2) *
    2 ^ (x.exponent - 2).toNat
def upperEnd (x : Binary64) : Nat := (4 * x.significand + 2) * 2 ^ (x.exponent - 2).toNat

/-- The exponent of the leading digit. -/
def leading (x : Binary64) : Int :=
  (Nat.toDigits 10 (x.numerator * 10 ^ 330 / x.denominator)).length - 331

def isWithin (x : Binary64) (g : Int) (c : Nat) : Bool :=
  let unit := x.denominator * 10 ^ g.toNat
  let up := 10 ^ (-g).toNat
  if x.significand % 2 = 0 then x.lowerEnd * up ≤ c * unit && c * unit ≤ x.upperEnd * up
  else x.lowerEnd * up < c * unit && c * unit < x.upperEnd * up

def floorAt (x : Binary64) (g : Int) : Nat :=
  x.numerator * 10 ^ (-g).toNat / (x.denominator * 10 ^ g.toNat)

/-- The nearest decimal of `n + 1` digits, if one rounds to the number. -/
def candidate (x : Binary64) (n : Nat) : Option Decimal :=
  let g : Int := x.leading - n
  let unit := x.denominator * 10 ^ g.toNat
  let up := 10 ^ (-g).toNat
  let d := x.floorAt g
  match x.isWithin g d, x.isWithin g (d + 1) with
  | true, true =>
    some ⟨if (d + 1) * unit - x.numerator * up < x.numerator * up - d * unit then d + 1 else d, g⟩
  | true, false => some ⟨d, g⟩
  | false, true => some ⟨d + 1, g⟩
  | false, false => none

private theorem shortest_eq {x : Binary64} (h : x.code ≠ 0) :
    x.shortest = ((List.range 17).findSome? x.candidate).elim ⟨0, 0⟩ (Decimal.normal 20) := by
  rw [shortest, if_neg h]
  rfl

private theorem candidate_spec {x : Binary64} {n : Nat} {d : Decimal} (h : x.candidate n = some d) :
    d.exponent = x.leading - n ∧ d.digits ≤ x.floorAt d.exponent + 1 ∧
      x.isWithin d.exponent d.digits = true := by
  rw [candidate] at h
  split at h
  · rename_i hlow hhigh
    cases h
    refine ⟨rfl, ?_, ?_⟩
    · simp only
      split <;> omega
    · simp only
      split <;> assumption
  · rename_i hlow _
    cases h
    exact ⟨rfl, Nat.le_succ _, hlow⟩
  · rename_i _ hhigh
    cases h
    exact ⟨rfl, le_rfl, hhigh⟩
  · cases h

def halfAbove (x : Binary64) : ℚ := (x.significand + 1 / 2) * 2 ^ x.exponent

private theorem significand_pos {x : Binary64} (h : x.code ≠ 0) : 0 < x.significand := by
  rw [significand]
  split
  · omega
  · positivity

private theorem significand_lt (x : Binary64) : x.significand < 2 ^ 53 := by
  rw [significand]
  split
  · omega
  · have := Nat.mod_lt x.code (show 0 < 2 ^ 52 by positivity)
    omega

private theorem exponent_bounds (x : Binary64) : -1074 ≤ x.exponent ∧ x.exponent ≤ 971 := by
  have hfinite := x.finite
  rw [limit_eq] at hfinite
  rw [exponent]
  split
  · omega
  · omega

private theorem denominator_pos (x : Binary64) : 0 < x.denominator := Nat.pow_pos two_pos

private theorem numerator_div_denominator (x : Binary64) :
    (x.numerator : ℚ) / x.denominator = x.magnitude := by
  have hscaled := scaled_quotient (4 * x.significand) 1 (-(x.exponent - 2))
  rw [neg_neg, one_mul] at hscaled
  rw [numerator, denominator, hscaled, magnitude, zpow_neg, zpow_sub₀ two_ne_zero]
  push_cast
  field_simp

private theorem upperEnd_div_denominator (x : Binary64) :
    (x.upperEnd : ℚ) / x.denominator = x.halfAbove := by
  have hscaled := scaled_quotient (4 * x.significand + 2) 1 (-(x.exponent - 2))
  rw [neg_neg, one_mul] at hscaled
  rw [upperEnd, denominator, hscaled, halfAbove, zpow_neg, zpow_sub₀ two_ne_zero]
  push_cast
  field_simp
  ring

private theorem magnitude_lt_leading (x : Binary64) : x.magnitude < 10 ^ (x.leading + 1) := by
  obtain ⟨n, hn⟩ : ∃ n, n = x.numerator * 10 ^ 330 / x.denominator := ⟨_, rfl⟩
  have hleading : x.leading + 1 + 330 = ((Nat.toDigits 10 n).length : Int) := by
    rw [leading, ← hn]
    ring
  have hdigits : n < 10 ^ (Nat.toDigits 10 n).length :=
    (Nat.length_toDigits_le_iff (by norm_num) Nat.length_toDigits_pos).1 le_rfl
  have hquotient : x.numerator * 10 ^ 330 < 10 ^ (Nat.toDigits 10 n).length * x.denominator := by
    rw [← Nat.div_lt_iff_lt_mul x.denominator_pos, ← hn]
    exact hdigits
  -- the exponents are generalized so that no cast computes the powers
  have hten : ∀ a b : ℕ, x.numerator * 10 ^ a < 10 ^ b * x.denominator →
      (x.numerator : ℚ) * 10 ^ (a : Int) < 10 ^ (b : Int) * x.denominator := by
    intro a b h
    rw [zpow_natCast, zpow_natCast]
    exact_mod_cast h
  have hcast := hten _ _ hquotient
  rw [← hleading, zpow_add₀ (by norm_num), mul_right_comm] at hcast
  have hlt := lt_of_mul_lt_mul_right hcast (by positivity)
  rwa [← numerator_div_denominator, div_lt_iff₀ (by exact_mod_cast x.denominator_pos)]

private theorem leading_bounds (x : Binary64) : -330 ≤ x.leading ∧ x.leading ≤ 369 := by
  have hsmall : x.numerator * 10 ^ 330 / x.denominator < 10 ^ 700 := by
    have hsignificand := x.significand_lt
    have hexponent := x.exponent_bounds.2
    have hbits : 4 * x.significand ≤ 2 ^ 55 := by omega
    have hscale : ∀ n, (x.exponent - 2).toNat ≤ n → 2 ^ (x.exponent - 2).toNat ≤ 2 ^ n :=
      fun n h => Nat.pow_le_pow_right two_pos h
    have hnumerator := Nat.mul_le_mul hbits (hscale 969 (by omega))
    have hpower : 2 ^ 55 * 2 ^ 969 * 10 ^ 330 < 10 ^ 700 := by decide +kernel
    exact (Nat.div_le_self _ _).trans_lt ((Nat.mul_le_mul_right _ hnumerator).trans_lt hpower)
  have hlength := (Nat.length_toDigits_le_iff (by norm_num) (by norm_num)).2 hsmall
  have hpos := Nat.length_toDigits_pos (b := 10) (n := x.numerator * 10 ^ 330 / x.denominator)
  rw [leading]
  generalize (Nat.toDigits 10 (x.numerator * 10 ^ 330 / x.denominator)).length = l
    at hlength hpos
  omega

private theorem floorAt_lt (x : Binary64) {g : Int} (hg : x.leading - 16 ≤ g) :
    x.floorAt g < 10 ^ 17 := by
  have hunit : 0 < x.denominator * 10 ^ g.toNat :=
    Nat.mul_pos x.denominator_pos (Nat.pow_pos (by norm_num))
  have hquotient : (x.numerator * 10 ^ (-g).toNat : ℕ) / (x.denominator * 10 ^ g.toNat : ℕ) =
      x.magnitude / 10 ^ g := by
    rw [← numerator_div_denominator]
    exact scaled_quotient_pow (by norm_num) x.numerator x.denominator g
  have hlt : x.magnitude / 10 ^ g < 10 ^ 17 := by
    rw [div_lt_iff₀ (by positivity), ← zpow_natCast, ← zpow_add₀ (by norm_num)]
    refine x.magnitude_lt_leading.trans_le (zpow_le_zpow_right₀ (by norm_num) ?_)
    push_cast
    omega
  rw [← hquotient, div_lt_iff₀ (by exact_mod_cast hunit)] at hlt
  rw [floorAt, Nat.div_lt_iff_lt_mul hunit]
  exact_mod_cast hlt

private theorem le_halfAbove_of_isWithin {x : Binary64} (hx : x.code ≠ 0) {g : Int} {c : Nat}
    (h : x.isWithin g c = true) : c ≠ 0 ∧ (c : ℚ) * 10 ^ g ≤ x.halfAbove := by
  have hunit : 0 < x.denominator * 10 ^ g.toNat :=
    Nat.mul_pos x.denominator_pos (Nat.pow_pos (by norm_num))
  have hup : 0 < 10 ^ (-g).toNat := Nat.pow_pos (by norm_num)
  have hbetween : x.lowerEnd * 10 ^ (-g).toNat ≤ c * (x.denominator * 10 ^ g.toNat) ∧
      c * (x.denominator * 10 ^ g.toNat) ≤ x.upperEnd * 10 ^ (-g).toNat := by
    simp only [isWithin] at h
    split at h
    · simpa using h
    · rw [Bool.and_eq_true, decide_eq_true_eq, decide_eq_true_eq] at h
      exact ⟨h.1.le, h.2.le⟩
  obtain ⟨hlow, hhigh⟩ := hbetween
  constructor
  · rintro rfl
    have hlower : 0 < x.lowerEnd := by
      have hsignificand := significand_pos hx
      refine Nat.mul_pos ?_ (Nat.pow_pos two_pos)
      split
      · omega
      · omega
    have hpositive := Nat.mul_pos hlower hup
    omega
  · have hcast : (c : ℚ) * (x.denominator * 10 ^ g.toNat : ℕ) ≤
        (x.upperEnd * 10 ^ (-g).toNat : ℕ) := by exact_mod_cast hhigh
    rw [← le_div_iff₀ (by exact_mod_cast hunit),
      scaled_quotient_pow (by norm_num) x.upperEnd x.denominator g, upperEnd_div_denominator,
      Nat.cast_ofNat, le_div_iff₀ (by positivity)] at hcast
    exact hcast

structure Written (x : Binary64) (d : Decimal) : Prop where
  few : d.digits ≤ 10 ^ 17
  exponent_of_zero : d.digits = 0 → d.exponent = 0
  exponent_low : -346 ≤ d.exponent
  exponent_high : d.exponent ≤ 400
  value_le : (d.digits : ℚ) * 10 ^ d.exponent ≤ x.halfAbove

private theorem halfAbove_nonneg (x : Binary64) : 0 ≤ x.halfAbove := by
  rw [halfAbove]
  positivity

private theorem written_zero (x : Binary64) : Written x ⟨0, 0⟩ where
  few := Nat.zero_le _
  exponent_of_zero _ := rfl
  exponent_low := by decide
  exponent_high := by decide
  value_le := by
    simp only [Nat.cast_zero, zero_mul]
    exact x.halfAbove_nonneg

private theorem normal_spec (fuel : Nat) (d : Decimal) : ∃ k, k ≤ fuel ∧
    d.digits = (d.normal fuel).digits * 10 ^ k ∧ (d.normal fuel).exponent = d.exponent + k := by
  induction fuel generalizing d with
  | zero => exact ⟨0, le_rfl, by simp [Decimal.normal], by simp [Decimal.normal]⟩
  | succ fuel ih =>
    rw [Decimal.normal]
    split
    · rename_i hzero
      obtain ⟨k, hk, hdigits, hexponent⟩ := ih ⟨d.digits / 10, d.exponent + 1⟩
      refine ⟨k + 1, by omega, ?_, ?_⟩
      · have hten : d.digits = d.digits / 10 * 10 := by omega
        rw [pow_succ, ← mul_assoc, ← hdigits]
        exact hten
      · rw [hexponent]
        push_cast
        ring
    · exact ⟨0, Nat.zero_le _, by simp, by simp⟩

private theorem written_normal {x : Binary64} {d : Decimal} (hpos : d.digits ≠ 0)
    (hfew : d.digits ≤ 10 ^ 17) (hlow : -346 ≤ d.exponent) (hhigh : d.exponent ≤ 369)
    (hvalue : (d.digits : ℚ) * 10 ^ d.exponent ≤ x.halfAbove) : Written x (d.normal 20) := by
  obtain ⟨k, hk, hdigits, hexponent⟩ := normal_spec 20 d
  have hzero : (d.normal 20).digits ≠ 0 := by
    intro h
    rw [h, Nat.zero_mul] at hdigits
    exact hpos hdigits
  refine ⟨?_, fun h => absurd h hzero, by omega, by omega, ?_⟩
  · have hle : (d.normal 20).digits ≤ (d.normal 20).digits * 10 ^ k :=
      Nat.le_mul_of_pos_right _ (Nat.pow_pos (by norm_num))
    omega
  · have hsame : ((d.normal 20).digits : ℚ) * 10 ^ (d.normal 20).exponent =
        d.digits * 10 ^ d.exponent := by
      rw [hexponent, hdigits, zpow_add₀ (by norm_num), zpow_natCast]
      push_cast
      ring
    exact hsame.trans_le hvalue

/-- A number is written with few digits and a small exponent, and not far above itself. -/
theorem shortest_spec (x : Binary64) : Written x x.shortest := by
  by_cases hx : x.code = 0
  · rw [shortest, if_pos hx]
    exact written_zero x
  · rw [shortest_eq hx]
    cases hsearch : (List.range 17).findSome? x.candidate with
    | none => exact written_zero x
    | some d =>
      obtain ⟨n, hn, hd⟩ := List.exists_of_findSome?_eq_some hsearch
      have hn' : n < 17 := List.mem_range.1 hn
      obtain ⟨hexponent, hfloor, hwithin⟩ := candidate_spec hd
      obtain ⟨hlow, hhigh⟩ := x.leading_bounds
      obtain ⟨hpos, hvalue⟩ := le_halfAbove_of_isWithin hx hwithin
      have hfew := x.floorAt_lt (g := d.exponent) (by omega)
      exact written_normal hpos (by omega) (by omega) (by omega) hvalue

private theorem halfAbove_le_clearance {x : Binary64} (h : x.code + 3 ≤ limit) :
    x.halfAbove ≤ clearance := by
  rw [limit_eq] at h
  have hunit : (0 : ℚ) < 2 ^ (971 : Int) := by positivity
  by_cases hlast : x.code / 2 ^ 52 = 2046
  · have hexponent : x.exponent = 971 := by
      rw [exponent, if_neg (by omega), hlast]
      rfl
    have hsignificand : x.significand ≤ 2 ^ 53 - 3 := by
      rw [significand, if_neg (by omega)]
      omega
    have hcast : (x.significand : ℚ) ≤ 2 ^ 53 - 3 := by
      have hle : (x.significand : ℚ) ≤ ((2 ^ 53 - 3 : ℕ) : ℚ) := by exact_mod_cast hsignificand
      norm_num at hle ⊢
      exact hle
    rw [halfAbove, hexponent, clearance]
    exact mul_le_mul_of_nonneg_right (by linarith) hunit.le
  · have hexponent : x.exponent ≤ 970 := by
      rw [exponent]
      split
      · omega
      · omega
    have hsignificand : (x.significand : ℚ) + 1 / 2 ≤ 2 ^ 53 := by
      have hlt := x.significand_lt
      have hle : (x.significand : ℚ) + 1 ≤ 2 ^ 53 := by exact_mod_cast hlt
      linarith
    have hpower : (2 : ℚ) ^ x.exponent * 2 ≤ 2 ^ (971 : Int) := by
      rw [← zpow_add_one₀ two_ne_zero]
      exact zpow_le_zpow_right₀ one_le_two (by omega)
    calc x.halfAbove ≤ 2 ^ 53 * 2 ^ x.exponent :=
          mul_le_mul_of_nonneg_right hsignificand (by positivity)
      _ = 2 ^ 52 * (2 ^ x.exponent * 2) := by ring
      _ ≤ 2 ^ 52 * 2 ^ (971 : Int) := mul_le_mul_of_nonneg_left hpower (by positivity)
      _ ≤ clearance := mul_le_mul_of_nonneg_right (by norm_num) hunit.le

private theorem ten_pow_le_clearance : (10 : ℚ) ^ 17 ≤ clearance := by
  have hpower : (2 : ℚ) ^ (4 : Int) ≤ 2 ^ (971 : Int) :=
    zpow_le_zpow_right₀ one_le_two (by norm_num)
  calc (10 : ℚ) ^ 17 ≤ (2 ^ 53 - 5 / 2) * 2 ^ (4 : Int) := by norm_num
    _ ≤ clearance := mul_le_mul_of_nonneg_left hpower (by norm_num)

private theorem exists_ofScaledDigits_shortest (x : Binary64) :
    ∃ y, ofScaledDigits x.negative x.shortest.digits x.shortest.exponent = some y := by
  have hspec := x.shortest_spec
  by_cases h : x.code + 3 ≤ limit
  · exact exists_ofScaledDigits _ hspec.few (hspec.value_le.trans (halfAbove_le_clearance h))
  · obtain ⟨negative, code, hfinite⟩ := x
    have hlimit : limit = 0x7FF0000000000000 := rfl
    have hcode : code = 0x7FEFFFFFFFFFFFFF ∨ code = 0x7FEFFFFFFFFFFFFE := by
      simp only at h
      omega
    have hlargest : ∀ b : Bool,
        (ofScaledDigits b (shortest ⟨b, 0x7FEFFFFFFFFFFFFF, by decide⟩).digits
          (shortest ⟨b, 0x7FEFFFFFFFFFFFFF, by decide⟩).exponent).isSome = true := by
      decide +kernel
    have hnext : ∀ b : Bool,
        (ofScaledDigits b (shortest ⟨b, 0x7FEFFFFFFFFFFFFE, by decide⟩).digits
          (shortest ⟨b, 0x7FEFFFFFFFFFFFFE, by decide⟩).exponent).isSome = true := by
      decide +kernel
    apply Option.isSome_iff_exists.1
    rcases hcode with rfl | rfl
    · exact hlargest negative
    · exact hnext negative

/-- How a reader takes a written decimal: with its point and a place in its digits where it is
written out. -/
def Decimal.scanned (d : Decimal) : Decimal :=
  if 0 ≤ d.exponent ∧ (Nat.toDigits 10 d.digits).length + d.exponent ≤ plain.highest then
    ⟨d.digits * 10 ^ (d.exponent.toNat + 1), -1⟩
  else d

def reread (x : Binary64) : Binary64 :=
  (ofScaledDigits x.negative x.shortest.scanned.digits x.shortest.scanned.exponent).getD x

theorem Decimal.scanned_digits_le {d : Decimal} (hfew : d.digits ≤ 10 ^ 17) :
    d.scanned.digits ≤ 10 ^ 17 := by
  rw [Decimal.scanned]
  split
  · rename_i h
    obtain ⟨hexponent, hlength⟩ := h
    have hdigits : d.digits < 10 ^ (Nat.toDigits 10 d.digits).length :=
      (Nat.length_toDigits_le_iff (by norm_num) Nat.length_toDigits_pos).1 le_rfl
    have hhighest : plain.highest = 16 := rfl
    have hplaces : (Nat.toDigits 10 d.digits).length + (d.exponent.toNat + 1) ≤ 17 := by omega
    calc d.digits * 10 ^ (d.exponent.toNat + 1)
        ≤ 10 ^ (Nat.toDigits 10 d.digits).length * 10 ^ (d.exponent.toNat + 1) :=
          Nat.mul_le_mul_right _ hdigits.le
      _ = 10 ^ ((Nat.toDigits 10 d.digits).length + (d.exponent.toNat + 1)) :=
          (pow_add _ _ _).symm
      _ ≤ 10 ^ 17 := Nat.pow_le_pow_right (by norm_num) hplaces
  · exact hfew

/-- Whatever was written is read as a number: none is too large. -/
theorem ofScaledDigits_scanned (x : Binary64) :
    ofScaledDigits x.negative x.shortest.scanned.digits x.shortest.scanned.exponent =
      some x.reread := by
  have hexists : ∃ y, ofScaledDigits x.negative x.shortest.scanned.digits
      x.shortest.scanned.exponent = some y := by
    have hfew := Decimal.scanned_digits_le x.shortest_spec.few
    by_cases h : 0 ≤ x.shortest.exponent ∧
        (Nat.toDigits 10 x.shortest.digits).length + x.shortest.exponent ≤ plain.highest
    · refine exists_ofScaledDigits _ hfew ?_
      have hexponent : x.shortest.scanned.exponent = -1 := by rw [Decimal.scanned, if_pos h]
      have hdigits : (x.shortest.scanned.digits : ℚ) ≤ 10 ^ 17 := by exact_mod_cast hfew
      rw [hexponent, zpow_neg_one]
      linarith [ten_pow_le_clearance]
    · rw [Decimal.scanned, if_neg h]
      exact x.exists_ofScaledDigits_shortest
  obtain ⟨y, hy⟩ := hexists
  rw [reread, hy, Option.getD_some]

end DesiredState.Binary64
