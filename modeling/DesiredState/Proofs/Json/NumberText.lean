import DesiredState.Json.Parse
import DesiredState.Json.Print
import DesiredState.Proofs.Text.Digits
/-!
The text of numbers, and how far reading one goes. Main statements: numbers are written with
number characters only (`chars_of_number`), and reading a number steps over number
characters only (`consumed_number`), so that it never goes past what was written.
-/

set_option autoImplicit false
set_option relaxedAutoImplicit false

namespace DesiredState.Json.Text

open DesiredState.Text (toList_toString_nat toList_toString_neg)

def isNumberChar (c : Char) : Bool :=
  c.isDigit || c = '.' || c = '-' || c = '+' || c = 'e' || c = 'E'

theorem isNumberChar_of_isDigit {c : Char} (h : c.isDigit = true) : isNumberChar c = true := by
  simp [isNumberChar, h]

def Numeric (cs : List Char) : Prop := ∃ c r, cs = c :: r ∧ isNumberChar c = true

def Consumed (cs r : List Char) : Prop :=
  ∃ p : List Char, cs = p ++ r ∧ ∀ c ∈ p, isNumberChar c = true

namespace Consumed

theorem refl (cs : List Char) : Consumed cs cs := ⟨[], rfl, by simp⟩

theorem cons {c : Char} {cs r : List Char} (hc : isNumberChar c = true) (h : Consumed cs r) :
    Consumed (c :: cs) r := by
  obtain ⟨p, rfl, hp⟩ := h
  exact ⟨c :: p, rfl, List.forall_mem_cons.2 ⟨hc, hp⟩⟩

theorem trans {cs r r' : List Char} (h : Consumed cs r) (h' : Consumed r r') :
    Consumed cs r' := by
  obtain ⟨p, rfl, hp⟩ := h
  obtain ⟨q, rfl, hq⟩ := h'
  refine ⟨p ++ q, (List.append_assoc p q r').symm, fun c hc => ?_⟩
  rcases List.mem_append.1 hc with hc | hc
  · exact hp c hc
  · exact hq c hc

private theorem dropWhile_isDigit (cs : List Char) : Consumed cs (cs.dropWhile Char.isDigit) := by
  refine ⟨cs.takeWhile Char.isDigit, List.takeWhile_append_dropWhile.symm, fun c hc => ?_⟩
  exact isNumberChar_of_isDigit (List.mem_takeWhile_imp hc)

theorem eq_or_numeric {text rest r : List Char} (h : Consumed (text ++ rest) r)
    (ht : ∀ c ∈ text, isNumberChar c = true) (hr : ¬ Numeric rest) : r = rest ∨ Numeric r := by
  obtain ⟨p, he, hp⟩ := h
  rcases List.append_eq_append_iff.1 he.symm with ⟨a, rfl, rfl⟩ | ⟨a, rfl, rfl⟩
  · cases a with
    | nil => exact .inl rfl
    | cons c a => exact .inr ⟨c, a ++ rest, rfl, ht c (by simp)⟩
  · cases a with
    | nil => exact .inl rfl
    | cons c a => exact absurd ⟨c, a ++ r, rfl, hp c (by simp)⟩ hr

end Consumed

private theorem consumed_takeDigits (limit n count : Nat) (cs : List Char) :
    Consumed cs (takeDigits limit n count cs).2.2 := by
  induction cs generalizing n count with
  | nil => exact .refl _
  | cons c cs ih =>
    rw [takeDigits]
    split
    · rename_i h
      exact .cons (isNumberChar_of_isDigit h.1) (ih _ _)
    · exact .refl _

section Scanning

variable {lenient negative : Bool} {digits : Nat} {exponent : Int} {s : Scalar}
  {cs r : List Char}

private theorem eq_of_floatOrFault
    (h : floatOrFault lenient negative digits exponent cs = .ok (s, r)) : r = cs := by
  unfold floatOrFault at h
  split at h
  · cases h; rfl
  · split at h <;> cases h
    rfl

private theorem consumed_exponentPart
    (h : exponentPart lenient negative digits exponent cs = .ok (s, r)) : Consumed cs r := by
  unfold exponentPart at h
  split at h
  rename_i down cs' hsign
  have hcs : Consumed cs cs' := by
    split at hsign
    · cases hsign; exact .cons rfl (.refl _)
    · cases hsign; exact .cons rfl (.refl _)
    · cases hsign; exact .refl _
  split at h
  · cases h
  · rename_i c r'
    split at h
    · cases h
    · rename_i hc
      have hc' : isNumberChar c = true := isNumberChar_of_isDigit (by simpa using hc)
      have hdigits := hcs.trans (.cons hc'
        (consumed_takeDigits maxExponent (DesiredState.Text.digitValue c) 0 r'))
      generalize takeDigits maxExponent (DesiredState.Text.digitValue c) 0 r' = t at h hdigits
      obtain ⟨e, _, r''⟩ := t
      simp only at h hdigits
      split at h
      · rw [eq_of_floatOrFault h]
        exact hdigits
      · rename_i d t
        split at h
        · rw [eq_of_floatOrFault h]
          exact hdigits
        · -- the exponent is too long to be kept: the rest of its digits is stepped over
          rename_i hnd
          have hd' : isNumberChar d = true := isNumberChar_of_isDigit (by simpa using hnd)
          have hall := hdigits.trans (.cons hd' (.dropWhile_isDigit t))
          split at h
          · cases h; exact hall
          · split at h <;> cases h
            exact hall

private theorem consumed_afterPlaces
    (h : afterPlaces lenient negative digits exponent cs = .ok (s, r)) : Consumed cs r := by
  unfold afterPlaces at h
  split at h
  · exact .cons rfl (consumed_exponentPart h)
  · exact .cons rfl (consumed_exponentPart h)
  · rw [eq_of_floatOrFault h]
    exact .refl _

private theorem consumed_fractionPart
    (h : fractionPart lenient negative digits exponent cs = .ok (s, r)) : Consumed cs r := by
  unfold fractionPart at h
  split at h
  · cases h
  · split at h
    · cases h
    · rename_i c cs' _
      exact ((consumed_takeDigits maxSignificand digits 0 (c :: cs')).trans
        (.dropWhile_isDigit _)).trans (consumed_afterPlaces h)

private theorem consumed_afterInteger {dropped : Nat}
    (h : afterInteger lenient negative digits dropped cs = .ok (s, r)) : Consumed cs r := by
  unfold afterInteger at h
  split at h
  · exact .cons rfl (consumed_fractionPart h)
  · exact .cons rfl (consumed_exponentPart h)
  · exact .cons rfl (consumed_exponentPart h)
  · split at h
    · rw [eq_of_floatOrFault h]
      exact .refl _
    · split at h
      · cases h; exact .refl _
      · split at h
        · rw [eq_of_floatOrFault h]
          exact .refl _
        · cases h; exact .refl _

theorem consumed_number (h : number lenient negative cs = .ok (s, r)) : Consumed cs r := by
  unfold number at h
  split at h
  · cases h
  · split at h
    · split at h
      · cases h
      · exact .cons rfl (consumed_afterInteger h)
    · exact .cons rfl (consumed_afterInteger h)
  · split at h
    · cases h
    · rename_i c r' _ hc
      have hc' : isNumberChar c = true := isNumberChar_of_isDigit (by simpa using hc)
      exact .cons hc' (((consumed_takeDigits maxSignificand _ 0 r').trans
        (.dropWhile_isDigit _)).trans (consumed_afterInteger h))

end Scanning

private theorem isNumberChar_of_mem_toDigits {n : Nat} {c : Char} (h : c ∈ Nat.toDigits 10 n) :
    isNumberChar c = true :=
  isNumberChar_of_isDigit (Nat.isDigit_of_mem_toDigits (by decide) (by decide) h)

private theorem isNumberChar_of_mem_toString {n : Int} {c : Char} (h : c ∈ (toString n).toList) :
    isNumberChar c = true := by
  cases n with
  | ofNat m =>
    rw [Int.ofNat_eq_natCast, toList_toString_nat] at h
    exact isNumberChar_of_mem_toDigits h
  | negSucc m =>
    rw [← Int.neg_ofNat_succ, toList_toString_neg] at h
    rcases List.mem_cons.1 h with rfl | h
    · rfl
    · exact isNumberChar_of_mem_toDigits h

private theorem toString_ne_nil (n : Int) : (toString n).toList ≠ [] := by
  cases n with
  | ofNat m =>
    rw [Int.ofNat_eq_natCast, toList_toString_nat]
    exact Nat.toDigits_ne_nil
  | negSucc m =>
    rw [← Int.neg_ofNat_succ, toList_toString_neg]
    exact List.cons_ne_nil _ _

private theorem isNumberChar_of_mem_decimal {layout : Binary64.Layout} {d : Binary64.Decimal}
    {c : Char} (h : c ∈ (d.render layout).toList) : isNumberChar c = true := by
  have hdigits : ∀ ds : List Char, (∀ c ∈ ds, c ∈ Nat.toDigits 10 d.digits) → c ∈ ds →
      isNumberChar c = true := fun ds hds hc => isNumberChar_of_mem_toDigits (hds c hc)
  have hzeros : ∀ n, c ∈ List.replicate n '0' → isNumberChar c = true := by
    intro n hc
    rw [(List.mem_replicate.1 hc).2]
    rfl
  unfold Binary64.Decimal.render at h
  rw [String.toList_ofList] at h
  split at h
  · simp only [List.mem_append, List.mem_cons, List.not_mem_nil, or_false] at h
    rcases h with (h | h) | rfl | rfl
    · exact isNumberChar_of_mem_toDigits h
    · exact hzeros _ h
    · rfl
    · rfl
  · split at h
    · simp only [List.mem_append, List.mem_cons] at h
      rcases h with h | rfl | h
      · exact hdigits _ (fun c hc => List.mem_of_mem_take hc) h
      · rfl
      · exact hdigits _ (fun c hc => List.mem_of_mem_drop hc) h
    · split at h
      · simp only [List.mem_append, List.mem_cons] at h
        rcases h with (rfl | rfl | h) | h
        · rfl
        · rfl
        · exact hzeros _ h
        · exact isNumberChar_of_mem_toDigits h
      · simp only [List.mem_append, List.mem_cons] at h
        rcases h with (h | h) | rfl | h
        · exact hdigits _ (fun c hc => List.mem_of_mem_take hc) h
        · split at h
          · cases h
          · rcases List.mem_cons.1 h with rfl | h
            · rfl
            · exact hdigits _ (fun c hc => List.mem_of_mem_drop hc) h
        · rfl
        · exact isNumberChar_of_mem_toString h

private theorem decimal_ne_nil (layout : Binary64.Layout) (d : Binary64.Decimal) :
    (d.render layout).toList ≠ [] := by
  unfold Binary64.Decimal.render
  rw [String.toList_ofList]
  split
  · simp
  · split
    · simp
    · split <;> simp

theorem chars_of_number {j : Json} (h : (∃ n, j = .int n) ∨ ∃ x, j = .float x) :
    j.chars ≠ [] ∧ ∀ c ∈ j.chars, isNumberChar c = true := by
  rcases h with ⟨n, rfl⟩ | ⟨x, rfl⟩
  · exact ⟨toString_ne_nil n, fun c hc => isNumberChar_of_mem_toString hc⟩
  · have he : (Json.float x).chars =
        (if x.negative then "-" else "").toList ++ (x.shortest.render Binary64.plain).toList := by
      rw [chars, Binary64.render, String.toList_append]
    rw [he]
    refine ⟨fun hn => decimal_ne_nil _ _ (List.append_eq_nil_iff.1 hn).2, fun c hc => ?_⟩
    rcases List.mem_append.1 hc with hc | hc
    · split at hc
      · have hm : c ∈ ['-'] := hc
        rw [List.mem_singleton.1 hm]
        rfl
      · cases hc
    · exact isNumberChar_of_mem_decimal hc

end DesiredState.Json.Text
