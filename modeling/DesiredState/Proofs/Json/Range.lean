import DesiredState.Proofs.Json.Readable
/-!
What is read from a text is in range. Main statement: `inRange_of_document`, by one lemma for each
part of a number and one step for the three readers of values.
-/

set_option autoImplicit false
set_option relaxedAutoImplicit false

namespace DesiredState.Json.Text

open DesiredState.Text (digitValue)

section Numbers

variable {lenient negative : Bool} {digits : Nat} {exponent : Int} {s : Scalar} {cs r : List Char}

private theorem takeDigits_le {limit n count : Nat} (hn : n ≤ limit) :
    (takeDigits limit n count cs).1 ≤ limit := by
  induction cs generalizing n count with
  | nil => exact hn
  | cons c cs ih =>
    rw [takeDigits]
    split
    · rename_i h
      exact ih h.2
    · exact hn

private theorem digitValue_le {c : Char} (h : c.isDigit = true) : digitValue c ≤ 9 := by
  rw [Char.isDigit, Bool.and_eq_true, decide_eq_true_eq, decide_eq_true_eq] at h
  have hle : c.toNat ≤ 57 := h.2
  rw [digitValue]
  have hzero : '0'.toNat = 48 := rfl
  omega

private theorem inRange_of_floatOrFault
    (h : floatOrFault lenient negative digits exponent cs = .ok (s, r)) : s.inRange = true := by
  unfold floatOrFault at h
  split at h
  · cases h
    rfl
  · split at h
    · cases h
      rfl
    · cases h

private theorem inRange_of_exponentPart
    (h : exponentPart lenient negative digits exponent cs = .ok (s, r)) : s.inRange = true := by
  unfold exponentPart at h
  split at h
  split at h
  · cases h
  · split at h
    · cases h
    · generalize takeDigits maxExponent _ 0 _ = t at h
      obtain ⟨e, _, r'⟩ := t
      simp only at h
      split at h
      · exact inRange_of_floatOrFault h
      · split at h
        · exact inRange_of_floatOrFault h
        · split at h
          · cases h
            rfl
          · split at h
            · cases h
              rfl
            · cases h

private theorem inRange_of_afterPlaces
    (h : afterPlaces lenient negative digits exponent cs = .ok (s, r)) : s.inRange = true := by
  unfold afterPlaces at h
  split at h
  · exact inRange_of_exponentPart h
  · exact inRange_of_exponentPart h
  · exact inRange_of_floatOrFault h

private theorem inRange_of_fractionPart
    (h : fractionPart lenient negative digits exponent cs = .ok (s, r)) : s.inRange = true := by
  unfold fractionPart at h
  split at h
  · cases h
  · split at h
    · cases h
    · exact inRange_of_afterPlaces h

private theorem inRange_of_afterInteger {dropped : Nat} (hdigits : digits ≤ maxSignificand)
    (h : afterInteger lenient negative digits dropped cs = .ok (s, r)) : s.inRange = true := by
  have hmax : maxSignificand = 2 ^ 64 - 1 := rfl
  unfold afterInteger at h
  split at h
  · exact inRange_of_fractionPart h
  · exact inRange_of_exponentPart h
  · exact inRange_of_exponentPart h
  · split at h
    · exact inRange_of_floatOrFault h
    · split at h
      · cases h
        exact Scalar.inRange_ofInt (by omega) (by omega)
      · split at h
        · exact inRange_of_floatOrFault h
        · cases h
          exact Scalar.inRange_ofInt (by omega) (by omega)

private theorem inRange_of_number (h : number lenient negative cs = .ok (s, r)) :
    s.inRange = true := by
  unfold number at h
  split at h
  · cases h
  · split at h
    · split at h
      · cases h
      · exact inRange_of_afterInteger (Nat.zero_le _) h
    · exact inRange_of_afterInteger (Nat.zero_le _) h
  · split at h
    · cases h
    · rename_i c r' _ hc
      have hdigit : c.isDigit = true := by simpa using hc
      have hstart : digitValue c ≤ maxSignificand := (digitValue_le hdigit).trans (by decide)
      exact inRange_of_afterInteger (takeDigits_le hstart) h

end Numbers

private theorem inRange_of_literal {s s' : Scalar} {w cs r : List Char} (hs : s.inRange = true)
    (h : literal s w cs = .ok (s', r)) : s'.inRange = true := by
  induction w generalizing cs with
  | nil =>
    cases h
    exact hs
  | cons c w ih =>
    cases cs with
    | nil => cases h
    | cons d cs =>
      rw [literal] at h
      split at h
      · exact ih h
      · cases h

section Values

variable {lenient : Bool} {fuel : Nat}

structure ReadsInRange (lenient : Bool) (fuel : Nat) : Prop where
  value : ∀ {depth cs n r}, value lenient fuel depth cs = .ok (n, r) → n.inRange = true
  items : ∀ {depth first cs ns r}, items lenient fuel depth first cs = .ok (ns, r) →
    Node.inRangeItems ns = true
  entries : ∀ {depth first cs es r}, entries lenient fuel depth first cs = .ok (es, r) →
    Node.inRangeEntries es = true

private theorem inRange_of_value (hfuel : ReadsInRange lenient fuel) {depth : Nat}
    {cs r : List Char} {n : Node} (h : value lenient (fuel + 1) depth cs = .ok (n, r)) :
    n.inRange = true := by
  rw [value] at h
  split at h
  · cases h
  · obtain ⟨⟨s, r'⟩, hs, h⟩ := ok_of_bind h
    cases h
    exact inRange_of_literal rfl hs
  · obtain ⟨⟨s, r'⟩, hs, h⟩ := ok_of_bind h
    cases h
    exact inRange_of_literal rfl hs
  · obtain ⟨⟨s, r'⟩, hs, h⟩ := ok_of_bind h
    cases h
    exact inRange_of_literal rfl hs
  · obtain ⟨⟨s, r'⟩, hs, h⟩ := ok_of_bind h
    cases h
    exact inRange_of_number hs
  · obtain ⟨⟨o, r'⟩, ho, h⟩ := ok_of_bind h
    cases h
    cases o <;> rfl
  · split at h
    · cases h
    · obtain ⟨⟨ns, r'⟩, hns, h⟩ := ok_of_bind h
      cases h
      exact hfuel.items hns
  · split at h
    · cases h
    · obtain ⟨⟨es, r'⟩, hes, h⟩ := ok_of_bind h
      cases h
      exact hfuel.entries hes
  · split at h
    · obtain ⟨⟨s, r'⟩, hs, h⟩ := ok_of_bind h
      cases h
      exact inRange_of_number hs
    · cases h

private theorem readsInRange (lenient : Bool) (fuel : Nat) : ReadsInRange lenient fuel := by
  induction fuel with
  | zero =>
    refine ⟨fun h => ?_, fun h => ?_, fun h => ?_⟩
    · cases h
    · cases h
    · cases h
  | succ fuel ih =>
    refine ⟨inRange_of_value ih, ?_, ?_⟩
    · intro depth first cs ns r h
      rw [items] at h
      obtain ⟨⟨o, r₁⟩, -, h⟩ := ok_of_bind h
      cases o with
      | none =>
        cases h
        rfl
      | some _ =>
        obtain ⟨⟨n, r₂⟩, hn, h⟩ := ok_of_bind h
        obtain ⟨⟨ns', r₃⟩, hns, h⟩ := ok_of_bind h
        cases h
        rw [Node.inRangeItems, ih.value hn, ih.items hns, Bool.and_self]
    · intro depth first cs es r h
      rw [entries] at h
      obtain ⟨⟨o, r₁⟩, -, h⟩ := ok_of_bind h
      cases o with
      | none =>
        cases h
        rfl
      | some _ =>
        obtain ⟨⟨k, r₂⟩, -, h⟩ := ok_of_bind h
        obtain ⟨r₃, -, h⟩ := ok_of_bind h
        obtain ⟨⟨n, r₄⟩, hn, h⟩ := ok_of_bind h
        obtain ⟨⟨es', r₅⟩, hes, h⟩ := ok_of_bind h
        cases h
        rw [Node.inRangeEntries, ih.value hn, ih.entries hes, Bool.and_self]

/-- A document that is read from a text is in range. -/
theorem inRange_of_document {text : String} {n : Node} (h : document lenient text = .ok n) :
    n.inRange = true := by
  rw [document] at h
  obtain ⟨⟨n', r⟩, hn, h⟩ := ok_of_bind h
  simp only at h
  split at h
  · cases h
    exact (readsInRange lenient _).value hn
  · cases h

end Values

end DesiredState.Json.Text
