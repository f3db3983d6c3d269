import DesiredState.Proofs.Quantity.Canonical
/-!
What becomes of a canonical spelling that is spelled canonically once more. Main statement:
`canonicalize_canonical_iff`, it stays as it is, but for quantities by powers of 1024 whose spelling
has lost its suffix and with it the notation.
-/

set_option autoImplicit false
set_option relaxedAutoImplicit false

namespace DesiredState.Quantity

/-- A whole number of units in the notation by powers of 1024, of which 1024 does not divide it and
1000 does. -/
def IsRespelled (q : Quantity) : Prop :=
  q.IsBinaryWhole ∧ ¬ 1024 * nanosPerUnit ∣ q.nanos ∧ 1000 * nanosPerUnit ∣ q.nanos

private theorem canonical_of_spelling {q : Quantity} {s : String} (h : Spelling q s) :
    q.canonical = s :=
  (spelling_iff.1 h).symm

theorem canonicalize_of_parse {s : String} {q : Quantity} (h : parse s = .ok q) :
    canonicalize s = .ok q.canonical := by
  rw [canonicalize, h]
  rfl

private theorem not_isBinaryWhole {q : Quantity} (h : q.format ≠ .binary) : ¬ q.IsBinaryWhole :=
  fun hq => h hq.1

section Whole

variable {q : Quantity} {n : Nat}

private theorem three_mem_decimalPowers_iff (value : n * nanosPerUnit = q.nanos) :
    3 ∈ q.decimalPowers ↔ 1000 ∣ n := by
  have hdvd : 10 ^ ((3 + 9 : Int)).toNat ∣ q.nanos ↔ 1000 ∣ n := by
    have hpower : 10 ^ ((3 + 9 : Int)).toNat = 1000 * nanosPerUnit := by decide
    rw [← value, hpower, Nat.mul_dvd_mul_iff_right (by decide)]
  constructor
  · rintro ⟨-, -, -, h⟩
    exact hdvd.1 h
  · intro h
    exact ⟨by decide, by decide, fun _ => by decide, hdvd.2 h⟩

private theorem zero_largest_iff (value : n * nanosPerUnit = q.nanos) :
    IsGreatest q.decimalPowers 0 ↔ ¬ 1000 ∣ n := by
  have hthree := three_mem_decimalPowers_iff value
  constructor
  · rintro ⟨-, hle⟩ hdvd
    exact absurd (hle (hthree.2 hdvd)) (by decide)
  · intro hndvd
    refine ⟨⟨by decide, by decide, fun _ => by decide, Dvd.intro_left n value⟩, ?_⟩
    rintro e ⟨hdiv, hlow, hhigh, hdvd⟩
    by_contra hpos
    -- a larger power is divisible by the next one
    refine hndvd (hthree.1 ⟨by decide, by decide, fun _ => by decide, ?_⟩)
    exact (Nat.pow_dvd_pow 10 (by omega)).trans hdvd

private theorem decimalSuffix_has_letter : ∀ s ∈ decimalSuffixes, s.2 ≠ 0 →
    s.1.toList.all Char.isDigit = false := by decide

private theorem canonical_eq_toString_iff (hf : q.format = .decimal) (hn : 0 < n)
    (value : n * nanosPerUnit = q.nanos) : q.canonical = toString n ↔ ¬ 1000 ∣ n := by
  have hbinary : ¬ q.IsBinaryWhole := not_isBinaryWhole (by rw [hf]; decide)
  constructor
  · intro hcanonical
    rw [← zero_largest_iff value]
    have hspelled := spelling_canonical q
    rw [hcanonical] at hspelled
    generalize hs : toString n = s at hspelled
    cases hspelled with
    | zero hq => exact absurd hq (nanos_ne_zero hn (by decide) value)
    | binary hq | whole hq => exact absurd hq hbinary
    | @decimal m e suffix hq largest denotes =>
      by_cases he : e = 0
      · exact he ▸ largest
      · rw [hf] at denotes
        obtain ⟨c, hc, hletter⟩ := List.all_eq_false.1 (decimalSuffix_has_letter _ denotes he)
        have hmem : c ∈ Nat.toDigits 10 n := by
          rw [← Text.toList_toString, hs, String.toList_append]
          exact List.mem_append_right _ hc
        exact absurd (Text.isDigit_toDigits c hmem) hletter
  · intro hndvd
    have hdenotes : q.format.Denotes "" 0 := by
      rw [hf]
      exact (by decide : ("", (0 : Int)) ∈ decimalSuffixes)
    have hspelled := Spelling.decimal hbinary ((zero_largest_iff value).2 hndvd) hdenotes hn value
    rw [String.append_empty] at hspelled
    exact canonical_of_spelling hspelled

end Whole

private theorem decimalPowers_congr {q : Quantity} (hf : q.format ≠ .exponent) :
    (q.inFormat .decimal).decimalPowers = q.decimalPowers := by
  ext e
  simp [decimalPowers, hf]

private theorem isRespelled_iff {q : Quantity} {n : Nat} (hq : q.IsBinaryWhole)
    (largest : IsGreatest q.binaryPowers 0) (value : n * nanosPerUnit = q.nanos) :
    q.IsRespelled ↔ 1000 ∣ n := by
  have hone : ¬ 1024 * nanosPerUnit ∣ q.nanos := fun hdvd =>
    absurd (largest.2 (show 1 ∈ q.binaryPowers from ⟨by decide, by simpa using hdvd⟩)) (by decide)
  rw [IsRespelled, and_iff_right hq, and_iff_right hone, ← value,
    Nat.mul_dvd_mul_iff_right (by decide)]

private theorem canonical_reread {q : Quantity} {n : Nat} {e : Int} {suffix : String}
    (hq : ¬ q.IsBinaryWhole) (largest : IsGreatest q.decimalPowers e)
    (denotes : q.format.Denotes suffix e) (hn : 0 < n)
    (value : n * 10 ^ (e + 9).toNat = q.nanos) :
    (q.inFormat (q.format.reread e)).canonical = toString n ++ suffix := by
  cases hf : q.format with
  | binary | decimal =>
    have hexponent : q.format ≠ .exponent := by
      rw [hf]
      decide
    rw [← decimalPowers_congr hexponent] at largest
    rw [hf] at denotes
    refine canonical_of_spelling (.decimal (not_isBinaryWhole ?_) largest denotes hn value)
    rw [format_inFormat, Format.reread]
    decide
  | exponent =>
    rw [Format.reread]
    split_ifs with he
    · -- without an exponent the number is read by powers of 1000, of which none divides it
      subst he
      rw [hf, Format.Denotes, if_pos rfl] at denotes
      rw [denotes, String.append_empty]
      have hndvd := (zero_largest_iff value).1 largest
      exact (canonical_eq_toString_iff (q := q.inFormat .decimal) rfl hn value).2 hndvd
    · rw [← hf, inFormat_self]
      exact canonical_of_spelling (.decimal hq largest denotes hn value)

private theorem not_isRespelled {q : Quantity} (h : q.format ≠ .binary) : ¬ q.IsRespelled :=
  fun hq => not_isBinaryWhole h hq.1

private theorem not_isRespelled_decimal (q : Quantity) : ¬ (q.inFormat .decimal).IsRespelled :=
  not_isRespelled fun h => Format.noConfusion h

private theorem exists_reread (q : Quantity) :
    ∃ q', parse q.canonical = .ok q' ∧ q'.nanos = q.nanos ∧
      (q'.canonical = q.canonical ↔ ¬ q.IsRespelled) ∧ ¬ q'.IsRespelled := by
  have hspelled := spelling_canonical q
  generalize hs : q.canonical = s at hspelled ⊢
  cases hspelled with
  | zero hq =>
    refine ⟨_, parse_zero hq, rfl, iff_of_true ?_ ?_, not_isRespelled_decimal q⟩
    · exact canonical_of_spelling (.zero hq)
    · exact fun h => not_isBinaryWhole_of_zero hq h.1
  | @binary n k suffix hq largest listed hn value =>
    have hread := parse_binary hn listed value
    have hfixed : ¬ q.IsRespelled := by
      rintro ⟨-, hnot, -⟩
      have hpower : 1024 ∣ 1024 ^ k := dvd_pow_self 1024 (binarySuffix_pos _ listed).ne'
      exact hnot ((Nat.mul_dvd_mul_right hpower _).trans largest.1.2)
    rw [← hq.1, inFormat_self] at hread
    exact ⟨q, hread, rfl, iff_of_true hs hfixed, hfixed⟩
  | whole hq largest hn value =>
    refine ⟨_, parse_whole hn value, rfl, ?_, not_isRespelled_decimal q⟩
    rw [canonical_eq_toString_iff (q := q.inFormat .decimal) rfl hn value,
      isRespelled_iff hq largest value]
  | decimal hq largest denotes hn value =>
    refine ⟨_, parse_of_denotes denotes hn largest.1.2.1 value, rfl, iff_of_true ?_ ?_, ?_⟩
    · exact canonical_reread hq largest denotes hn value
    · exact fun h => hq h.1
    · refine not_isRespelled ?_
      rw [format_inFormat]
      cases q.format with
      | binary | decimal => exact fun h => Format.noConfusion h
      | exponent =>
        rw [Format.reread]
        split_ifs <;> exact fun h => Format.noConfusion h

theorem storageSize_eq_of_parse {s : String} {q : Quantity} (h : parse s = .ok q) :
    storageSize s = if q.units < 2 ^ 64 then .ok q.canonical else .error ⟨s, .tooManyBytes⟩ := by
  have hok : (Except.ok q : Except Refusal Quantity) = pure q := rfl
  rw [storageSize, h, hok, pure_bind]

private theorem storageSize_of_parse {s : String} {q : Quantity} (h : parse s = .ok q)
    (hunits : q.units < 2 ^ 64) : storageSize s = .ok q.canonical := by
  rw [storageSize_eq_of_parse h, if_pos hunits]

/-- Spelled canonically once more, a canonical spelling stays as it is, but for a whole number of
units by powers of 1024 that 1000 divides and 1024 does not: its spelling has no suffix, and is read
by powers of 1000. The spelling after that stays. Storage sizes are spelled alike. -/
theorem canonicalize_canonical_iff (q : Quantity) :
    (canonicalize q.canonical = .ok q.canonical ↔ ¬ q.IsRespelled) ∧
      (∃ s, canonicalize q.canonical = .ok s ∧ canonicalize s = .ok s) ∧
      (q.units < 2 ^ 64 → storageSize q.canonical = canonicalize q.canonical) := by
  obtain ⟨q', hread, hnanos, hfixed, hstays⟩ := exists_reread q
  have hcanonical := canonicalize_of_parse hread
  refine ⟨?_, ⟨q'.canonical, hcanonical, ?_⟩, fun hunits => ?_⟩
  · rw [hcanonical, Except.ok.injEq]
    exact hfixed
  · obtain ⟨q'', hread', -, hfixed', -⟩ := exists_reread q'
    rw [canonicalize_of_parse hread', hfixed'.2 hstays]
  · rw [hcanonical]
    refine storageSize_of_parse hread ?_
    rwa [units, hnanos]

private theorem canonical_two_thousand (h : 2000 * nanosPerUnit < limit) :
    canonical ⟨2000 * nanosPerUnit, .decimal, h⟩ = "2k" := by
  have hdigit : Nat.repr 2 ++ "k" = "2k" := by decide +kernel
  simp [canonical, decimalSpelling, shiftThousands, nanosPerUnit, Format.highest, Format.suffix,
    decimalSuffixes, hdigit]

/-- A storage size that its canonical spelling does not keep. -/
theorem canonical_spelling_respelled :
    canonicalize "1.953125Ki" = .ok "2000" ∧ canonicalize "2000" = .ok "2k" ∧
      storageSize "1.953125Ki" = .ok "2000" ∧ storageSize "2000" = .ok "2k" := by
  have hread : parse "2000" = .ok ⟨2000 * nanosPerUnit, .decimal, by decide⟩ := by decide +kernel
  have hunits : units ⟨2000 * nanosPerUnit, .decimal, by decide⟩ < 2 ^ 64 := by decide +kernel
  refine ⟨by decide +kernel, ?_, by decide +kernel, ?_⟩
  · rw [canonicalize_of_parse hread, canonical_two_thousand]
  · rw [storageSize_of_parse hread hunits, canonical_two_thousand]

end DesiredState.Quantity
