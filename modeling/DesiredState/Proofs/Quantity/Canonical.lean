import DesiredState.Proofs.Quantity.Exact
/-!
The canonical spelling of quantities: an integer with the largest suffix that leaves one. Main
statement: `canonical_spelled`, the canonical spelling is the one that `Spelling` describes, and it
is read back as the same number of nano-units.
-/

set_option autoImplicit false
set_option relaxedAutoImplicit false

namespace DesiredState.Quantity

/-- A whole number of units, 1024 at least, in the notation by powers of 1024. -/
def IsBinaryWhole (q : Quantity) : Prop :=
  q.format = .binary ∧ nanosPerUnit ∣ q.nanos ∧ 1024 * nanosPerUnit ≤ q.nanos

/-- The powers of 1024 that have a suffix, or none, and leave a whole number of units. -/
def binaryPowers (q : Quantity) : Set Nat := {k | k ≤ 6 ∧ 1024 ^ k * nanosPerUnit ∣ q.nanos}

/-- The powers of ten, by thousands, that leave an integer. Those above the largest suffix can only
be written as exponents. -/
def decimalPowers (q : Quantity) : Set Int :=
  {e | 3 ∣ e ∧ -9 ≤ e ∧ (q.format ≠ .exponent → e ≤ 18) ∧ 10 ^ (e + 9).toNat ∣ q.nanos}

def Format.Denotes : Format → String → Int → Prop
  | .exponent, suffix, e => suffix = if e = 0 then "" else "e" ++ toString e
  | .binary, suffix, e | .decimal, suffix, e => (suffix, e) ∈ decimalSuffixes

/-- How a quantity is to be spelled. -/
inductive Spelling (q : Quantity) : String → Prop
  | zero (hq : q.nanos = 0) : Spelling q "0"
  /-- A whole number, with the suffix of the largest power of 1024. -/
  | binary {n k : Nat} {suffix : String} (hq : q.IsBinaryWhole)
      (largest : IsGreatest q.binaryPowers k) (listed : (suffix, k) ∈ binarySuffixes)
      (hn : 0 < n) (value : n * 1024 ^ k * nanosPerUnit = q.nanos) :
      Spelling q (toString n ++ suffix)
  /-- A whole number that no power of 1024 divides. -/
  | whole {n : Nat} (hq : q.IsBinaryWhole) (largest : IsGreatest q.binaryPowers 0) (hn : 0 < n)
      (value : n * nanosPerUnit = q.nanos) : Spelling q (toString n)
  /-- Any other number, by the largest power of ten. -/
  | decimal {n : Nat} {e : Int} {suffix : String} (hq : ¬ q.IsBinaryWhole)
      (largest : IsGreatest q.decimalPowers e) (denotes : q.format.Denotes suffix e) (hn : 0 < n)
      (value : n * 10 ^ (e + 9).toNat = q.nanos) : Spelling q (toString n ++ suffix)

private theorem le_of_find?_eq_some {l : List (String × Nat)} {p : Nat → Bool} {s : String × Nat}
    (hl : l.Pairwise fun a b => b.2 < a.2) (h : l.find? (fun a => p a.2) = some s) :
    ∀ a ∈ l, p a.2 = true → a.2 ≤ s.2 := by
  induction l with
  | nil => cases h
  | cons b l ih =>
    obtain ⟨hb, htail⟩ := List.pairwise_cons.1 hl
    intro a ha hfits
    rw [List.find?_cons] at h
    split at h
    · cases h
      rcases List.mem_cons.1 ha with rfl | ha
      · exact le_rfl
      · exact (hb a ha).le
    · rename_i hnot
      rcases List.mem_cons.1 ha with rfl | ha
      · rw [hfits] at hnot
        cases hnot
      · exact ih htail h a ha hfits

private theorem exists_binarySuffix :
    ∀ k < 7, k ≠ 0 → ∃ s ∈ binarySuffixes.reverse, s.2 = k := by decide

private theorem binaryPower_le : ∀ s ∈ binarySuffixes.reverse, s.2 ≤ 6 := by decide

section Binary

variable {q : Quantity} {n : Nat} (hn : q.nanos = n * nanosPerUnit)
include hn

private theorem mem_binaryPowers {k : Nat} : k ∈ q.binaryPowers ↔ k ≤ 6 ∧ 1024 ^ k ∣ n := by
  rw [binaryPowers, Set.mem_ofPred_eq, hn, Nat.mul_dvd_mul_iff_right (by decide)]

private theorem spelling_binarySpelling (hq : q.IsBinaryWhole) : Spelling q (binarySpelling n) := by
  have hpos : 0 < n := by
    have hlarge := hq.2.2
    rw [hn] at hlarge
    exact Nat.pos_of_ne_zero fun hzero => by
      rw [hzero] at hlarge
      exact absurd hlarge (by decide)
  rw [binarySpelling]
  split
  · rename_i suffix k hfind
    have hfits := List.find?_some hfind
    have hlisted := List.mem_of_find?_eq_some hfind
    rw [decide_eq_true_eq] at hfits
    have hdvd : 1024 ^ k ∣ n := Nat.dvd_of_mod_eq_zero hfits
    refine .binary hq ⟨?_, fun j hj => ?_⟩ (List.mem_reverse.1 hlisted)
      (Nat.div_pos (Nat.le_of_dvd hpos hdvd) (Nat.pow_pos (by decide))) ?_
    · exact (mem_binaryPowers hn).2 ⟨binaryPower_le _ hlisted, hdvd⟩
    · obtain ⟨hj, hjdvd⟩ := (mem_binaryPowers hn).1 hj
      rcases Nat.eq_zero_or_pos j with rfl | hjpos
      · exact Nat.zero_le _
      · obtain ⟨s, hs, rfl⟩ := exists_binarySuffix j (by omega) (by omega)
        exact le_of_find?_eq_some (p := fun j => n % 1024 ^ j = 0) (by decide) hfind s hs
          (by simpa using Nat.mod_eq_zero_of_dvd hjdvd)
    · rw [Nat.div_mul_cancel hdvd, hn]
  · rename_i hnone
    refine .whole hq ⟨(mem_binaryPowers hn).2 ⟨by decide, one_dvd n⟩, fun j hj => ?_⟩ hpos hn.symm
    obtain ⟨hj, hjdvd⟩ := (mem_binaryPowers hn).1 hj
    by_contra hjpos
    obtain ⟨s, hs, rfl⟩ := exists_binarySuffix j (by omega) (by omega)
    have hnot := List.find?_eq_none.1 hnone s hs
    rw [decide_eq_true_eq] at hnot
    exact hnot (Nat.mod_eq_zero_of_dvd hjdvd)

end Binary

private theorem Format.all_highest_iff {f : Format} {e : Int} :
    f.highest.all (e ≤ ·) = true ↔ (f ≠ .exponent → e ≤ 18) := by
  cases f <;> simp [highest]

section Shift

variable (highest : Option Int) (m : Nat) (e : Int)

private theorem exists_shift : ∃ k : Nat, (shiftThousands highest m e).2 = e + 3 * k ∧
    (shiftThousands highest m e).1 * 1000 ^ k = m := by
  fun_induction shiftThousands highest m e with
  | case1 m e h ih =>
    obtain ⟨k, he, hm⟩ := ih
    refine ⟨k + 1, by push_cast; omega, ?_⟩
    rw [pow_succ, ← Nat.mul_assoc, hm]
    omega
  | case2 m e h => exact ⟨0, by simp, by simp⟩

private theorem shift_within (he : highest.all (e ≤ ·) = true) :
    highest.all ((shiftThousands highest m e).2 ≤ ·) = true := by
  fun_induction shiftThousands highest m e with
  | case1 m e h ih => exact ih h.2.2
  | case2 m e h => exact he

private theorem shift_stops (hm : 0 < m) : ¬ ((shiftThousands highest m e).1 % 1000 = 0 ∧
    highest.all ((shiftThousands highest m e).2 + 3 ≤ ·) = true) := by
  fun_induction shiftThousands highest m e with
  | case1 m e h ih => exact ih (by omega)
  | case2 m e h => exact fun hmore => h ⟨hm, hmore⟩

end Shift

private theorem ten_pow_thousands (k : Nat) : 10 ^ ((-9 + 3 * k + 9 : Int)).toNat = 1000 ^ k := by
  have hk : ((-9 + 3 * k + 9 : Int)).toNat = 3 * k := by omega
  rw [hk, Nat.pow_mul]

private theorem shift_largest {q : Quantity} (hq : q.nanos ≠ 0) :
    IsGreatest q.decimalPowers (shiftThousands q.format.highest q.nanos (-9)).2 ∧
      (shiftThousands q.format.highest q.nanos (-9)).1 *
        10 ^ ((shiftThousands q.format.highest q.nanos (-9)).2 + 9).toNat = q.nanos := by
  obtain ⟨k, he, hm⟩ := exists_shift q.format.highest q.nanos (-9)
  have hwithin := shift_within q.format.highest q.nanos (-9) (by cases q.format <;> rfl)
  have hstops := shift_stops q.format.highest q.nanos (-9) (Nat.pos_of_ne_zero hq)
  generalize shiftThousands q.format.highest q.nanos (-9) = r at he hm hwithin hstops ⊢
  have hvalue : r.1 * 10 ^ (r.2 + 9).toNat = q.nanos := by rw [he, ten_pow_thousands, hm]
  refine ⟨⟨⟨?_, ?_, Format.all_highest_iff.1 hwithin, Dvd.intro_left _ hvalue⟩, ?_⟩, hvalue⟩
  · omega
  · omega
  · rintro x ⟨hthree, hlow, hcap, hdvd⟩
    by_contra hlt
    obtain ⟨j, rfl⟩ : ∃ j : Nat, x = -9 + 3 * j := ⟨((x + 9) / 3).toNat, by omega⟩
    -- a larger power leaves a factor of 1000 in the mantissa, and room for the exponent
    rw [ten_pow_thousands, ← hm] at hdvd
    have hsucc : 1000 ^ k * 1000 ∣ 1000 ^ k * r.1 := by
      rw [← pow_succ, Nat.mul_comm _ r.1]
      exact (Nat.pow_dvd_pow 1000 (by omega)).trans hdvd
    have hthousand : 1000 ∣ r.1 := Nat.dvd_of_mul_dvd_mul_left (Nat.pow_pos (by decide)) hsucc
    refine hstops ⟨Nat.mod_eq_zero_of_dvd hthousand, Format.all_highest_iff.2 fun hf => ?_⟩
    have hle := hcap hf
    omega

private theorem find?_decimalSuffix : ∀ k : Nat, k < 10 → ∃ s ∈ decimalSuffixes,
    s.2 = -9 + 3 * (k : Int) ∧ decimalSuffixes.find? (·.2 = -9 + 3 * (k : Int)) = some s := by
  decide

private theorem Format.denotes_suffix {f : Format} {e : Int} (hthree : 3 ∣ e) (hlow : -9 ≤ e)
    (hhigh : f ≠ .exponent → e ≤ 18) : f.Denotes (f.suffix e) e := by
  have hletter : f ≠ .exponent → ((decimalSuffixes.find? (·.2 = e)).elim "" (·.1), e) ∈
      decimalSuffixes := by
    intro hf
    have hle := hhigh hf
    obtain ⟨k, rfl⟩ : ∃ k : Nat, e = -9 + 3 * (k : Int) := ⟨((e + 9) / 3).toNat, by omega⟩
    obtain ⟨s, hs, hpower, hfind⟩ := find?_decimalSuffix k (by omega)
    rw [hfind, ← hpower]
    exact hs
  cases f with
  | exponent => rfl
  | binary | decimal => exact hletter (by decide)

private theorem spelling_decimalSpelling {q : Quantity} (hzero : q.nanos ≠ 0)
    (hq : ¬ q.IsBinaryWhole) : Spelling q q.decimalSpelling := by
  obtain ⟨hlargest, hvalue⟩ := shift_largest hzero
  have hn : 0 < (shiftThousands q.format.highest q.nanos (-9)).1 := by
    refine Nat.pos_of_ne_zero fun hn => hzero ?_
    rw [← hvalue, hn, Nat.zero_mul]
  obtain ⟨hthree, hlow, hhigh, -⟩ := hlargest.1
  exact .decimal hq hlargest (Format.denotes_suffix hthree hlow hhigh) hn hvalue

theorem spelling_canonical (q : Quantity) : Spelling q q.canonical := by
  rw [canonical]
  split_ifs with hzero hwhole
  · exact .zero hzero
  · obtain ⟨hformat, hunits, hlarge⟩ := hwhole
    have hn : q.nanos = q.nanos / nanosPerUnit * nanosPerUnit :=
      (Nat.div_mul_cancel (Nat.dvd_of_mod_eq_zero hunits)).symm
    refine spelling_binarySpelling hn ⟨hformat, Nat.dvd_of_mod_eq_zero hunits, ?_⟩
    exact (Nat.le_div_iff_mul_le (by decide)).1 hlarge
  · refine spelling_decimalSpelling hzero fun hq => hwhole ?_
    exact ⟨hq.1, Nat.mod_eq_zero_of_dvd hq.2.1, (Nat.le_div_iff_mul_le (by decide)).2 hq.2.2⟩

private theorem binarySuffixes_injective :
    ∀ s ∈ binarySuffixes, ∀ t ∈ binarySuffixes, s.2 = t.2 → s.1 = t.1 := by decide

private theorem decimalSuffixes_injective :
    ∀ s ∈ decimalSuffixes, ∀ t ∈ decimalSuffixes, s.2 = t.2 → s.1 = t.1 := by decide

theorem binarySuffix_pos : ∀ s ∈ binarySuffixes, 0 < s.2 := by decide

private theorem Format.Denotes.unique {f : Format} {s t : String} {e : Int} (hs : f.Denotes s e)
    (ht : f.Denotes t e) : s = t := by
  cases f with
  | exponent => exact hs.trans ht.symm
  | binary | decimal => exact decimalSuffixes_injective (s, e) hs (t, e) ht rfl

theorem not_isBinaryWhole_of_zero {q : Quantity} (h : q.nanos = 0) : ¬ q.IsBinaryWhole := by
  rintro ⟨-, -, hlarge⟩
  rw [h] at hlarge
  exact absurd hlarge (by decide)

theorem nanos_ne_zero {q : Quantity} {n p : Nat} (hn : 0 < n) (hp : 0 < p)
    (value : n * p = q.nanos) : q.nanos ≠ 0 := by
  rw [← value]
  exact (Nat.mul_pos hn hp).ne'

private theorem Spelling.unique {q : Quantity} {s t : String} (hs : Spelling q s)
    (ht : Spelling q t) : s = t := by
  have hcancel : ∀ {a b c : Nat}, 0 < c → a * c = q.nanos → b * c = q.nanos → a = b :=
    fun hc ha hb => Nat.eq_of_mul_eq_mul_right hc (ha.trans hb.symm)
  cases hs with
  | zero hq =>
    cases ht with
    | zero => rfl
    | binary hw | whole hw => exact absurd hw (not_isBinaryWhole_of_zero hq)
    | decimal _ _ _ hn value =>
      exact absurd hq (nanos_ne_zero hn (Nat.pow_pos (by decide)) value)
  | binary hq largest listed hn value =>
    cases ht with
    | zero hzero => exact absurd hq (not_isBinaryWhole_of_zero hzero)
    | binary _ largest' listed' _ value' =>
      obtain rfl := largest.unique largest'
      rw [Nat.mul_assoc] at value value'
      obtain rfl := hcancel (Nat.mul_pos (Nat.pow_pos (by decide)) (by decide)) value value'
      exact congrArg _ (binarySuffixes_injective _ listed _ listed' rfl)
    | whole _ largest' =>
      obtain rfl := largest.unique largest'
      exact absurd (binarySuffix_pos _ listed) (Nat.lt_irrefl 0)
    | decimal hq' => exact absurd hq hq'
  | whole hq largest hn value =>
    cases ht with
    | zero hzero => exact absurd hq (not_isBinaryWhole_of_zero hzero)
    | binary _ largest' listed' =>
      obtain rfl := largest'.unique largest
      exact absurd (binarySuffix_pos _ listed') (Nat.lt_irrefl 0)
    | whole _ _ _ value' => rw [hcancel (by decide) value value']
    | decimal hq' => exact absurd hq hq'
  | decimal hq largest denotes hn value =>
    cases ht with
    | zero hzero => exact absurd hzero (nanos_ne_zero hn (Nat.pow_pos (by decide)) value)
    | binary hq' | whole hq' => exact absurd hq' hq
    | decimal _ largest' denotes' _ value' =>
      obtain rfl := largest.unique largest'
      obtain rfl := hcancel (Nat.pow_pos (by decide)) value value'
      rw [denotes.unique denotes']

theorem spelling_iff {q : Quantity} {s : String} : Spelling q s ↔ s = q.canonical := by
  constructor
  · exact fun h => h.unique (spelling_canonical q)
  · rintro rfl
    exact spelling_canonical q

def inFormat (q : Quantity) (f : Format) : Quantity := { q with format := f }

@[simp] theorem nanos_inFormat (q : Quantity) (f : Format) : (q.inFormat f).nanos = q.nanos := rfl

@[simp] theorem format_inFormat (q : Quantity) (f : Format) : (q.inFormat f).format = f := rfl

theorem inFormat_self (q : Quantity) : q.inFormat q.format = q := rfl

def Written.ofNat (n : Nat) (e : Ending) : Written where
  plus := false
  whole := Nat.toDigits 10 n
  places := none
  ending := e
  isDigit_of_mem := by
    rw [Option.getD_none, List.append_nil]
    exact Text.isDigit_toDigits
  digits_ne_nil := by
    rw [Option.getD_none, List.append_nil]
    exact Nat.toDigits_ne_nil

private theorem Written.chars_ofNat (n : Nat) (e : Ending) :
    (ofNat n e).chars = (toString n ++ String.ofList e.chars).toList := by
  rw [String.toList_append, String.toList_ofList, Text.toList_toString]
  simp [chars, number, ofNat]

private theorem Written.mantissa_ofNat (n : Nat) (e : Ending) :
    (ofNat n e).mantissa = n * 1024 ^ e.binaryPower := by
  rw [mantissa, fraction, ofNat]
  dsimp only
  rw [Option.getD_none, List.append_nil, Text.decimalValue_toDigits]

private theorem Written.scale_ofNat (n : Nat) (e : Ending) :
    (ofNat n e).scale = e.decimalPower + 9 := by
  simp [scale, fraction, ofNat]

private theorem Written.not_scaleLeavesWord_ofNat (n : Nat) {e : Ending}
    (hlow : -9 ≤ e.decimalPower) (hhigh : e.decimalPower ≤ 29) : ¬ (ofNat n e).ScaleLeavesWord := by
  have hfraction : ((ofNat n e).fraction.length : Int) = 0 := rfl
  have hending : (ofNat n e).ending = e := rfl
  rw [ScaleLeavesWord, scale_ofNat, hfraction, hending]
  simp only [fitsWord_eq_false_iff]
  omega

private theorem parse_ofNat {q : Quantity} {n : Nat} {e : Ending} (hn : 0 < n)
    (hlow : -9 ≤ e.decimalPower)
    (hvalue : n * 1024 ^ e.binaryPower * 10 ^ (e.decimalPower + 9).toNat = q.nanos) :
    parse (toString n ++ String.ofList e.chars) = .ok (q.inFormat e.format) := by
  have hmantissa := Written.mantissa_ofNat n e
  have hscale := Written.scale_ofNat n e
  have hpos : 0 < (Written.ofNat n e).mantissa := by
    rw [hmantissa]
    exact Nat.mul_pos hn (Nat.pow_pos (by decide))
  rw [← hmantissa, ← hscale] at hvalue
  have hproduct : (Written.ofNat n e).mantissa * 10 ^ (Written.ofNat n e).scale.toNat < limit :=
    hvalue.trans_lt q.bounded
  have hpower := (Nat.le_mul_of_pos_left _ hpos).trans_lt hproduct
  have hsmall := ten_pow_lt_limit_iff.1 hpower
  have hover : ¬ (Written.ofNat n e).Overflows := by
    rintro ((h | ⟨-, h | h⟩) | h)
    · exact absurd ((Nat.le_mul_of_pos_right _ (Nat.pow_pos (by decide))).trans_lt hproduct)
        (not_lt.2 h)
    · exact absurd hpower (not_lt.2 h)
    · exact absurd hproduct (not_lt.2 h)
    · exact Written.not_scaleLeavesWord_ofNat n hlow (by omega) h
  have hw : (Written.ofNat n e).chars =
      Text.trimChars (toString n ++ String.ofList e.chars).toList := by
    rw [← Written.chars_ofNat, Written.trimChars_chars]
  obtain ⟨⟨nanos, format, bounded⟩, hq, hnanos, hformat⟩ := exists_parse hw hover
  rw [Written.value_mul, ceil_mul_ten_pow (by omega), hvalue, Int.ofNat_inj] at hnanos
  subst hnanos hformat
  exact hq

section Reread

variable {q : Quantity} {n : Nat} (hn : 0 < n)
include hn

theorem parse_binary {k : Nat} {suffix : String} (listed : (suffix, k) ∈ binarySuffixes)
    (value : n * 1024 ^ k * nanosPerUnit = q.nanos) :
    parse (toString n ++ suffix) = .ok (q.inFormat .binary) := by
  have hlow : -9 ≤ (Ending.binary suffix k listed).decimalPower := by
    rw [Ending.decimalPower]
    decide
  have hread := parse_ofNat hn hlow value
  rwa [Ending.chars, String.ofList_toList] at hread

private theorem parse_decimal {e : Int} {suffix : String} (listed : (suffix, e) ∈ decimalSuffixes)
    (hlow : -9 ≤ e) (value : n * 10 ^ (e + 9).toNat = q.nanos) :
    parse (toString n ++ suffix) = .ok (q.inFormat .decimal) := by
  have hread := parse_ofNat (q := q) (e := .decimal suffix e listed) hn hlow
    (by rw [← value, Ending.binaryPower, Nat.pow_zero, Nat.mul_one, Ending.decimalPower])
  rwa [Ending.chars, String.ofList_toList] at hread

theorem parse_whole (value : n * nanosPerUnit = q.nanos) :
    parse (toString n) = .ok (q.inFormat .decimal) := by
  have hnone : ("", 0) ∈ decimalSuffixes := by decide
  have hread := parse_decimal hn hnone (by decide) value
  rwa [String.append_empty] at hread

private theorem parse_exponent {e : Int} (hlow : -9 ≤ e)
    (value : n * 10 ^ (e + 9).toNat = q.nanos) :
    parse (toString n ++ ("e" ++ toString e)) = .ok (q.inFormat .exponent) := by
  have hsmall : e ≤ 29 := by
    have hpower := (Nat.le_mul_of_pos_left _ hn).trans_lt (value.trans_lt q.bounded)
    have hle := ten_pow_lt_limit_iff.1 hpower
    omega
  have hvalue := Text.Literal.value_ofInt e
  have hfits : fitsWord (Text.Literal.ofInt e).value = true := by
    rw [hvalue, ← Bool.not_eq_false, fitsWord_eq_false_iff]
    omega
  have hread := parse_ofNat (q := q) (e := .exponent 'e' (.ofInt e) (.inl rfl) hfits) hn
    (by rwa [Ending.decimalPower, hvalue])
    (by rw [Ending.binaryPower, Nat.pow_zero, Nat.mul_one, Ending.decimalPower, hvalue, value])
  rw [Ending.chars, Text.Literal.chars_ofInt] at hread
  have htext : String.ofList ('e' :: (toString e).toList) = "e" ++ toString e := by
    rw [← String.toList_inj, String.toList_ofList, String.toList_append]
    rfl
  rwa [htext] at hread

end Reread

/-- The notation in which a spelling by powers of ten is read back. -/
def Format.reread : Format → Int → Format
  | .exponent, e => if e = 0 then .decimal else .exponent
  | .binary, _ | .decimal, _ => .decimal

theorem parse_of_denotes {q : Quantity} {n : Nat} {e : Int} {suffix : String}
    (denotes : q.format.Denotes suffix e) (hn : 0 < n) (hlow : -9 ≤ e)
    (value : n * 10 ^ (e + 9).toNat = q.nanos) :
    parse (toString n ++ suffix) = .ok (q.inFormat (q.format.reread e)) := by
  cases hf : q.format with
  | binary | decimal =>
    rw [hf] at denotes
    exact parse_decimal hn denotes hlow value
  | exponent =>
    rw [hf, Format.Denotes] at denotes
    rw [denotes, Format.reread]
    split_ifs with he
    · subst he
      exact parse_decimal hn (by decide) hlow value
    · exact parse_exponent hn hlow value

theorem parse_zero {q : Quantity} (h : q.nanos = 0) :
    parse "0" = .ok (q.inFormat .decimal) := by
  obtain ⟨nanos, format, bounded⟩ := q
  subst h
  rfl

private theorem exists_parse_of_spelling {q : Quantity} {s : String} (h : Spelling q s) :
    ∃ f, parse s = .ok (q.inFormat f) := by
  cases h with
  | zero hq => exact ⟨_, parse_zero hq⟩
  | binary _ _ listed hn value => exact ⟨_, parse_binary hn listed value⟩
  | whole _ _ hn value => exact ⟨_, parse_whole hn value⟩
  | decimal _ largest denotes hn value =>
    exact ⟨_, parse_of_denotes denotes hn largest.1.2.1 value⟩

private theorem head_toString {n : Nat} (hn : 0 < n) (suffix : String) :
    (toString n ++ suffix).toList.head? ≠ some '0' := by
  obtain ⟨c, t, hct, hc⟩ := Text.toDigits_head hn.ne'
  rw [String.toList_append, Text.toList_toString, hct, List.cons_append, List.head?_cons]
  exact fun h => hc (Option.some_inj.1 h)

private theorem head_of_spelling {q : Quantity} {s : String} (h : Spelling q s) (hq : q.nanos ≠ 0) :
    s.toList.head? ≠ some '0' := by
  cases h with
  | zero hzero => exact absurd hzero hq
  | binary _ _ _ hn => exact head_toString hn _
  | @whole n _ _ hn =>
    have hhead := head_toString hn ""
    rwa [String.append_empty] at hhead
  | decimal _ _ _ hn => exact head_toString hn _

/-- The canonical spelling of a quantity is the one that `Spelling` describes, with the largest
suffix that leaves an integer; it has no zeros in front, and is read back as the same number of
nano-units. -/
theorem canonical_spelled (q : Quantity) :
    (∃ q', parse q.canonical = .ok q' ∧ q'.nanos = q.nanos) ∧
      (∀ s, Spelling q s ↔ s = q.canonical) ∧
      (q.nanos ≠ 0 → q.canonical.toList.head? ≠ some '0') := by
  have hspelled := spelling_canonical q
  refine ⟨?_, fun s => spelling_iff, head_of_spelling hspelled⟩
  obtain ⟨f, hread⟩ := exists_parse_of_spelling hspelled
  exact ⟨_, hread, rfl⟩

end DesiredState.Quantity
