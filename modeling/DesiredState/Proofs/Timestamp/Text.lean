import DesiredState.Proofs.Text.Digits
import DesiredState.Proofs.Timestamp.Calendar
import DesiredState.Timestamp.Basic
/-!
Instants and their texts. Main statement: `parse?_render`, that a whole second of a year of four
digits is read from what is written of it.
-/

set_option autoImplicit false
set_option relaxedAutoImplicit false

namespace DesiredState.Timestamp

open Text (twoDigits DigitsOf digitsOf_twoDigits)

private theorem digitsOf_fourDigits {n : Nat} (h : n < 10000) : DigitsOf 4 n (fourDigits n) :=
  Text.digitsOf_padded (by decide) h

section Parts

variable {most n : Nat} {ds rest : List Char}

private theorem digits?_append (h : DigitsOf most n ds) (hmost : 0 < most) :
    digits? most (ds ++ rest) = some (n, rest) := by
  have htake : (ds ++ rest).take most = ds := List.take_left' h.length_eq
  have hall : ds.takeWhile Char.isDigit = ds := List.takeWhile_eq_self_iff.2 h.isDigit
  have hne : ds.isEmpty = false := by
    rw [List.isEmpty_eq_false_iff, ← List.length_pos_iff, h.length_eq]
    exact hmost
  rw [digits?, htake, hall]
  simp only [hne, List.drop_left, h.value]
  rfl

private theorem skipBlanks_append (h : DigitsOf most n ds) (hmost : 0 < most) :
    skipBlanks (ds ++ rest) = ds ++ rest := by
  have hlength := h.length_eq
  cases ds with
  | nil =>
    rw [← hlength] at hmost
    cases hmost
  | cons c ds =>
    have hc := Text.isBlank_of_isDigit (h.isDigit c List.mem_cons_self)
    exact List.dropWhile_cons_of_neg (Bool.eq_false_iff.1 hc)

private theorem year?_append (h : DigitsOf 4 n ds) :
    year? (ds ++ rest) = some ((n : Int), rest) := by
  have hread : digits? 4 (ds ++ rest) = some (n, rest) := digits?_append h (by decide)
  have hlength := h.length_eq
  cases ds with
  | nil => cases hlength
  | cons c ds =>
    have hc := h.isDigit c List.mem_cons_self
    rw [year?, skipBlanks_append h (by decide)]
    split
    · rename_i heq
      cases heq
      cases hc
    · rename_i heq
      cases heq
      cases hc
    · rw [hread]
      rfl

private theorem part?_append (h : DigitsOf 2 n ds) (hn : n ≤ most) :
    part? most (ds ++ rest) = some (n, rest) := by
  rw [part?, skipBlanks_append h (by decide), digits?_append h (by decide)]
  exact if_pos hn

private theorem separator?_cons {c : Char} (h : Text.isBlank c = false) :
    separator? c (c :: rest) = some rest := by
  have hskip : skipBlanks (c :: rest) = c :: rest :=
    List.dropWhile_cons_of_neg (Bool.eq_false_iff.1 h)
  rw [separator?, hskip]
  exact if_pos rfl

end Parts

def textOf (year month day hour minute second : Nat) : List Char :=
  fourDigits year ++ ('-' :: (twoDigits month ++ ('-' :: (twoDigits day ++ ('T' ::
    (twoDigits hour ++ (':' :: (twoDigits minute ++ (':' :: (twoDigits second ++ ['Z']))))))))))

private theorem parse?_textOf {year month day hour minute second : Nat} (hyear : year ≤ 9999)
    (hdate : Date.isValid ⟨year, month, day⟩ = true) (hmonth : month ≤ 12) (hday : day ≤ 31)
    (hhour : hour ≤ 23) (hminute : minute ≤ 59) (hsecond : second ≤ 60)
    {seconds : Int} (hseconds : seconds = Date.toDays ⟨year, month, day⟩ * 86400 +
      (hour * 3600 + minute * 60 + min second 59 : Nat))
    (hrange : Date.inRange (Date.ofDays (seconds.fdiv 86400)).year = true) :
    parse? (String.ofList (textOf year month day hour minute second)) =
      some ⟨seconds, if second = 60 then 1000000000 else 0⟩ := by
  have hdash : Text.isBlank '-' = false := rfl
  have hcolon : Text.isBlank ':' = false := rfl
  have hfraction : fraction? ['Z'] = some (0, ['Z']) := rfl
  have hoffset : offset? (skipBlanks ['Z']) = some (0, []) := rfl
  simp only [parse?, String.toList_ofList, textOf,
    year?_append (digitsOf_fourDigits (Nat.lt_succ_of_le hyear)), separator?_cons hdash,
    part?_append (digitsOf_twoDigits (show month < 100 by omega)) hmonth,
    part?_append (digitsOf_twoDigits (show day < 100 by omega)) hday,
    part?_append (digitsOf_twoDigits (show hour < 100 by omega)) hhour,
    part?_append (digitsOf_twoDigits (show minute < 100 by omega)) hminute,
    part?_append (digitsOf_twoDigits (show second < 100 by omega)) hsecond,
    separator?_cons hcolon, hfraction, hoffset, bind, Option.bind]
  have hplain : ¬ (skipBlanks [] ≠ [] ∨ Date.isValid ⟨year, month, day⟩ = false ∨
      86400 ≤ (0 : Int).natAbs) := by
    rintro (h | h | h)
    · exact h rfl
    · rw [hdate] at h
      cases h
    · omega
  rw [if_neg hplain, Int.sub_zero, ← hseconds, if_pos hrange]

/-- A whole second: without a fraction, or the one that a leap second adds to a minute. -/
def IsWhole (t : Timestamp) : Prop :=
  t.nanos = 0 ∨ t.nanos = 1000000000 ∧ t.seconds % 60 = 59

instance (t : Timestamp) : Decidable t.IsWhole :=
  inferInstanceAs (Decidable (t.nanos = 0 ∨ t.nanos = 1000000000 ∧ t.seconds % 60 = 59))

def date (t : Timestamp) : Date := Date.ofDays (t.seconds.fdiv 86400)

/-- An instant that is written without loss: a whole second of a year of four digits. -/
structure IsPlain (t : Timestamp) : Prop where
  whole : t.IsWhole
  year_nonneg : 0 ≤ t.date.year
  year_le : t.date.year ≤ 9999

instance (t : Timestamp) : Decidable t.IsPlain :=
  decidable_of_iff (t.IsWhole ∧ 0 ≤ t.date.year ∧ t.date.year ≤ 9999)
    ⟨fun h => ⟨h.1, h.2.1, h.2.2⟩, fun h => ⟨h.whole, h.year_nonneg, h.year_le⟩⟩

variable {t : Timestamp}

private theorem render_eq (h₀ : 0 ≤ t.date.year) (h₁ : t.date.year ≤ 9999) {inDay : Nat}
    (hday : t.seconds = t.seconds.fdiv 86400 * 86400 + inDay) :
    t.render = String.ofList (textOf t.date.year.toNat t.date.month t.date.day
      (inDay / 3600) (inDay / 60 % 60)
      (inDay % 60 + if 1000000000 ≤ t.nanos then 1 else 0)) := by
  have htoNat : (t.seconds - t.seconds.fdiv 86400 * 86400).toNat = inDay := by omega
  have hyear : yearChars t.date.year = fourDigits t.date.year.toNat := if_pos ⟨h₀, h₁⟩
  rw [date] at hyear
  simp only [render, textOf, date, htoNat, hyear, List.append_assoc, List.cons_append]

private theorem date_spec (h₀ : 0 ≤ t.date.year) (h₁ : t.date.year ≤ 9999) :
    Date.inRange t.date.year = true ∧ t.date.isValid = true ∧ t.date.month ≤ 12 ∧
      t.date.day ≤ 31 := by
  have hrange : Date.inRange t.date.year = true := by
    rw [Date.inRange, Bool.and_eq_true, decide_eq_true_eq, decide_eq_true_eq]
    omega
  have hvalid : t.date.isValid = true := Date.isValid_ofDays hrange
  have hparts := hvalid
  simp only [Date.isValid, Bool.and_eq_true, decide_eq_true_eq] at hparts
  have hdays := Date.daysInMonth_le t.date.year t.date.month
  exact ⟨hrange, hvalid, by omega, by omega⟩

private theorem second_spec (h : t.IsWhole) {inDay : Nat}
    (hday : t.seconds = t.seconds.fdiv 86400 * 86400 + inDay) {second : Nat}
    (hsecond : second = inDay % 60 + if 1000000000 ≤ t.nanos then 1 else 0) :
    second ≤ 60 ∧ min second 59 = inDay % 60 ∧
      (if second = 60 then 1000000000 else 0) = t.nanos := by
  rcases h with hnanos | ⟨hnanos, hleap⟩
  · have hplain : second = inDay % 60 := by rw [hsecond, hnanos]; rfl
    rw [hnanos, if_neg (by omega)]
    omega
  · have hsixtieth : second = inDay % 60 + 1 := by rw [hsecond, hnanos]; rfl
    rw [hnanos, if_pos (by omega)]
    omega

/-- An instant that is written without loss is read from what is written. -/
theorem parse?_render (h : t.IsPlain) : parse? t.render = some t := by
  obtain ⟨hwhole, h₀, h₁⟩ := h
  obtain ⟨inDay, hday, hlt⟩ : ∃ n : Nat, t.seconds = t.seconds.fdiv 86400 * 86400 + n ∧
      n < 86400 := by
    rw [Int.fdiv_eq_ediv_of_nonneg _ (by decide)]
    exact ⟨(t.seconds - t.seconds / 86400 * 86400).toNat, by omega, by omega⟩
  obtain ⟨second, hsecond⟩ : ∃ n, n = inDay % 60 + if 1000000000 ≤ t.nanos then 1 else 0 :=
    ⟨_, rfl⟩
  obtain ⟨hle, hmin, hnanos⟩ := second_spec hwhole hday hsecond
  obtain ⟨hrange, hvalid, hmonth, hdayOfMonth⟩ := date_spec h₀ h₁
  have hdate : (⟨t.date.year.toNat, t.date.month, t.date.day⟩ : Date) = t.date := by
    rw [Int.toNat_of_nonneg h₀]
  have hseconds : t.seconds =
      Date.toDays ⟨t.date.year.toNat, t.date.month, t.date.day⟩ * 86400 +
        (inDay / 3600 * 3600 + inDay / 60 % 60 * 60 + min second 59 : Nat) := by
    have hdays : t.date.toDays = t.seconds.fdiv 86400 := Date.toDays_ofDays _
    rw [hdate, hdays, hmin]
    omega
  rw [render_eq h₀ h₁ hday, ← hsecond, parse?_textOf (by omega) (hdate ▸ hvalid) hmonth
    hdayOfMonth (by omega) (by omega) hle hseconds hrange, hnanos]

end DesiredState.Timestamp
