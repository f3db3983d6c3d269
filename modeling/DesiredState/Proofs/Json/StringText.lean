import DesiredState.Json.Parse
import DesiredState.Json.Print
/-!
Reading back quoted strings. Main statement: `string_quoted`, what reading makes of a quoted string
is the string, whatever stands behind it.
-/

set_option autoImplicit false
set_option relaxedAutoImplicit false

namespace DesiredState.Json.Text

private theorem hexValue?_digitChar : ∀ n < 16, hexValue? (Nat.digitChar n) = some n := by decide

private theorem hexUnit_hexDigits {n : Nat} (h : n < 0x20) (r : List Char) :
    hexUnit ('0' :: '0' :: hexDigit (n / 16) :: hexDigit n :: r) = .ok (n, r) := by
  have h₀ : hexValue? '0' = some 0 := rfl
  have h₁ : hexValue? (hexDigit (n / 16)) = some (n / 16 % 16) :=
    hexValue?_digitChar _ (Nat.mod_lt _ (by decide))
  have h₂ : hexValue? (hexDigit n) = some (n % 16) :=
    hexValue?_digitChar _ (Nat.mod_lt _ (by decide))
  have hv : ((0 * 16 + 0) * 16 + n / 16 % 16) * 16 + n % 16 = n := by omega
  simp only [hexUnit, h₀, h₁, h₂, hv]

private theorem escape_cases (c : Char) :
    (escape c = [c] ∧ c ≠ '"' ∧ c ≠ '\\' ∧ ¬ c.toNat < 0x20) ∨
      ∃ e, escape c = '\\' :: e ∧ ∀ lenient r, escaped lenient (e ++ r) = .ok (some c, r) := by
  unfold escape
  split
  · rename_i h; subst h; exact .inr ⟨_, rfl, fun _ _ => rfl⟩
  split
  · rename_i h; subst h; exact .inr ⟨_, rfl, fun _ _ => rfl⟩
  split
  · rename_i h; subst h; exact .inr ⟨_, rfl, fun _ _ => rfl⟩
  split
  · rename_i h; subst h; exact .inr ⟨_, rfl, fun _ _ => rfl⟩
  split
  · rename_i h; subst h; exact .inr ⟨_, rfl, fun _ _ => rfl⟩
  split
  · rename_i h; subst h; exact .inr ⟨_, rfl, fun _ _ => rfl⟩
  split
  · rename_i h; subst h; exact .inr ⟨_, rfl, fun _ _ => rfl⟩
  split
  · rename_i h
    refine .inr ⟨_, rfl, fun lenient r => ?_⟩
    have h₁ : ¬ (0xDC00 ≤ c.toNat ∧ c.toNat ≤ 0xDFFF) := by omega
    have h₂ : ¬ (0xD800 ≤ c.toNat ∧ c.toNat ≤ 0xDBFF) := by omega
    simp only [List.cons_append, List.nil_append, escaped, hexUnit_hexDigits h, bind, Except.bind,
      if_neg h₁, if_neg h₂, Char.ofNat_toNat]
  · rename_i hq hb _ _ _ _ _ hc
    exact .inl ⟨rfl, hq, hb, hc⟩

private theorem stringBody_escaped {lenient : Bool} {fuel : Nat} (cs acc rest : List Char)
    (hfuel : cs.length < fuel) :
    stringBody lenient fuel (some acc) (cs.flatMap escape ++ '"' :: rest) =
      .ok (some (String.ofList (acc.reverse ++ cs)), rest) := by
  induction cs generalizing fuel acc with
  | nil =>
    obtain ⟨fuel, rfl⟩ : ∃ n, fuel = n + 1 := ⟨fuel - 1, by simp at hfuel; omega⟩
    simp [stringBody]
  | cons c cs ih =>
    rw [List.length_cons] at hfuel
    obtain ⟨fuel, rfl⟩ : ∃ n, fuel = n + 1 := ⟨fuel - 1, by omega⟩
    have hread := ih (c :: acc) (show cs.length < fuel by omega)
    rw [List.flatMap_cons, List.append_assoc]
    have hstep : stringBody lenient (fuel + 1) (some acc)
        (escape c ++ (cs.flatMap escape ++ '"' :: rest)) =
          stringBody lenient fuel (some (c :: acc)) (cs.flatMap escape ++ '"' :: rest) := by
      rcases escape_cases c with ⟨he, hq, hb, hc⟩ | ⟨e, he, hescaped⟩
      · rw [he, List.singleton_append, stringBody]
        · rw [if_neg hc]
          rfl
        · simpa using hq
        · simpa using hb
      · rw [he, List.cons_append, stringBody]
        simp [hescaped, bind, Except.bind, pure]
    rw [hstep, hread]
    simp

private theorem length_le_escaped (cs : List Char) : cs.length ≤ (cs.flatMap escape).length := by
  induction cs with
  | nil => exact Nat.le_refl _
  | cons c cs ih =>
    have hpos : 0 < (escape c).length := by
      rcases escape_cases c with ⟨he, -⟩ | ⟨e, he, -⟩
      · rw [he]
        exact Nat.one_pos
      · rw [he]
        exact Nat.succ_pos _
    rw [List.flatMap_cons, List.length_append, List.length_cons]
    omega

theorem string_quoted {lenient : Bool} (s : String) (rest : List Char) :
    string lenient (s.toList.flatMap escape ++ '"' :: rest) = .ok (some s, rest) := by
  have hlength := length_le_escaped s.toList
  rw [string, stringBody_escaped s.toList [] rest (by rw [List.length_append]; omega)]
  simp

end DesiredState.Json.Text
