import DesiredState.Timestamp.Calendar
/-!
Days and dates. A day lies in an era of four centuries, in a year of it that starts in March, and
in that year; its date is read off these. Main statements: `toDays_ofDays`, that a day comes back
from its date, and `isValid_ofDays`, that the date is one of the calendar.
-/

set_option autoImplicit false
set_option relaxedAutoImplicit false

namespace DesiredState.Date

/-- The year of an era in which a day of the era lies; both are counted from zero. -/
def yearOfEra (d : Int) : Int := (d - d / 1460 + d / 36524 - d / 146096) / 365

def daysBefore (y : Int) : Int := 365 * y + y / 4 - y / 100

/-- The year begins in March and ends with a leap day: the next one, in which that day lies, is
divisible by four, and by a hundred only at the end of the era. -/
def EndsLeap (y : Int) : Prop := y % 4 = 3 ∧ (y % 100 = 99 → y = 399)

private theorem yearOfEra_spec {d : Int} (h₀ : 0 ≤ d) (h₁ : d ≤ 146096) :
    (0 ≤ yearOfEra d ∧ yearOfEra d ≤ 399) ∧
      (0 ≤ d - daysBefore (yearOfEra d) ∧ d - daysBefore (yearOfEra d) ≤ 365) ∧
      (d - daysBefore (yearOfEra d) = 365 → EndsLeap (yearOfEra d)) := by
  by_cases hlast : d = 146096
  · subst hlast
    exact ⟨by decide, by decide, fun _ => ⟨by decide, by decide⟩⟩
  · -- the century, the group of four years in it, and the day of that group
    obtain ⟨c, hc⟩ : ∃ c, c = d / 36524 := ⟨_, rfl⟩
    obtain ⟨q, hq⟩ : ∃ q, q = (d - 36524 * c) / 1461 := ⟨_, rfl⟩
    obtain ⟨s, hs⟩ : ∃ s, s = d - 36524 * c - 1461 * q := ⟨_, rfl⟩
    -- the leap days before it, beyond those of whole groups, and the year of the group
    obtain ⟨e, he⟩ : ∃ e, e = (24 * c + q + s) / 1460 := ⟨_, rfl⟩
    obtain ⟨k, hk⟩ : ∃ k, k = (s - e) / 365 := ⟨_, rfl⟩
    have hcentury : 0 ≤ c ∧ c ≤ 3 := by omega
    have hgroup : 0 ≤ q ∧ q ≤ 24 := by omega
    have hday : 0 ≤ s ∧ s ≤ 1460 := by omega
    have hleap : d / 1460 = 25 * c + q + e := by omega
    have hyear : yearOfEra d = 100 * c + 4 * q + k := by
      rw [yearOfEra]
      omega
    have hk' : 0 ≤ k ∧ k ≤ 3 ∧ 365 * k ≤ s ∧ s ≤ 365 * k + 365 ∧ (s = 365 * k + 365 → k = 3) := by
      omega
    have hfourths : (100 * c + 4 * q + k) / 4 = 25 * c + q := by omega
    have hhundredths : (100 * c + 4 * q + k) / 100 = c := by omega
    have hrest : d - daysBefore (100 * c + 4 * q + k) = s - 365 * k := by
      rw [daysBefore, hfourths, hhundredths]
      omega
    rw [hyear, hrest, EndsLeap]
    refine ⟨?_, ?_, ?_⟩
    · omega
    · omega
    · omega

def ofMarch (era y n : Int) : Date :=
  let m := (5 * n + 2) / 153
  ⟨if m < 10 then y + era * 400 else y + era * 400 + 1,
    (if m < 10 then m + 3 else m - 9).toNat, (n - (153 * m + 2) / 5 + 1).toNat⟩

private theorem exists_ofMarch (days : Int) :
    ∃ era y n : Int, (0 ≤ y ∧ y ≤ 399) ∧ (0 ≤ n ∧ n ≤ 365) ∧ (n = 365 → EndsLeap y) ∧
      days = era * 146097 + daysBefore y + n - 719468 ∧ ofDays days = ofMarch era y n := by
  obtain ⟨era, hera⟩ : ∃ era, era = (days + 719468) / 146097 := ⟨_, rfl⟩
  obtain ⟨d, hd⟩ : ∃ d, d = days + 719468 - era * 146097 := ⟨_, rfl⟩
  obtain ⟨hy, hn, hleap⟩ := yearOfEra_spec (show 0 ≤ d by omega) (show d ≤ 146096 by omega)
  refine ⟨era, yearOfEra d, d - daysBefore (yearOfEra d), hy, hn, hleap, by omega, ?_⟩
  -- the last two months of a year that starts in March belong to the next one
  obtain ⟨m, hm⟩ : ∃ m, m = (5 * (d - daysBefore (yearOfEra d)) + 2) / 153 := ⟨_, rfl⟩
  have hdate : ofDays days =
      ⟨if (if m < 10 then m + 3 else m - 9) ≤ 2 then yearOfEra d + era * 400 + 1
        else yearOfEra d + era * 400,
        (if m < 10 then m + 3 else m - 9).toNat,
        (d - daysBefore (yearOfEra d) - (153 * m + 2) / 5 + 1).toNat⟩ := by
    simp (disch := decide) only [ofDays, Int.fdiv_eq_ediv_of_nonneg]
    rw [hm, hd, hera]
    rfl
  rw [hdate]
  by_cases h : m < 10
  · have hlate : ¬ m + 3 ≤ 2 := by omega
    simp only [ofMarch, ← hm, if_pos h, if_neg hlate]
  · have hearly : m - 9 ≤ 2 := by omega
    simp only [ofMarch, ← hm, if_neg h, if_pos hearly]

private theorem month_spec {n : Int} (h₀ : 0 ≤ n) (h₁ : n ≤ 365) :
    0 ≤ (5 * n + 2) / 153 ∧ (5 * n + 2) / 153 ≤ 11 ∧
      0 ≤ n - (153 * ((5 * n + 2) / 153) + 2) / 5 := by
  omega

private theorem toDays_ofMarch {era y n : Int} (hy₀ : 0 ≤ y) (hy₁ : y ≤ 399) (hn₀ : 0 ≤ n)
    (hn₁ : n ≤ 365) :
    (ofMarch era y n).toDays = era * 146097 + daysBefore y + n - 719468 := by
  obtain ⟨m, hm⟩ : ∃ m, m = (5 * n + 2) / 153 := ⟨_, rfl⟩
  obtain ⟨hm₀, hm₁, hday⟩ := month_spec hn₀ hn₁
  rw [← hm] at hm₀ hm₁ hday
  simp (disch := decide) only [toDays, ofMarch, ← hm, Int.fdiv_eq_ediv_of_nonneg]
  by_cases h : m < 10
  · have hmonth : ¬ (m + 3).toNat ≤ 2 := by omega
    have hera : (y + era * 400) / 400 = era := by omega
    have hmarch : (((m + 3).toNat + 9 : Nat) : Int) % 12 = m := by omega
    simp only [if_pos h, if_neg hmonth, hera, hmarch, daysBefore]
    omega
  · have hmonth : (m - 9).toNat ≤ 2 := by omega
    have hera : (y + era * 400 + 1 - 1) / 400 = era := by omega
    have hmarch : (((m - 9).toNat + 9 : Nat) : Int) % 12 = m := by omega
    simp only [if_neg h, if_pos hmonth, hera, hmarch, daysBefore]
    omega

/-- A day comes back from its date. -/
theorem toDays_ofDays (days : Int) : (ofDays days).toDays = days := by
  obtain ⟨era, y, n, hy, hn, -, hdays, hdate⟩ := exists_ofMarch days
  rw [hdate, toDays_ofMarch hy.1 hy.2 hn.1 hn.2, ← hdays]

private theorem isLeap_of_endsLeap {y : Int} (h : EndsLeap y) (era : Int) :
    isLeap (y + era * 400 + 1) = true := by
  obtain ⟨hfourth, hcentury⟩ := h
  rw [isLeap, Bool.and_eq_true, Bool.or_eq_true, decide_eq_true_eq, decide_eq_true_eq,
    decide_eq_true_eq]
  omega

private theorem day_le_ofMarch {era y n : Int} (hn₀ : 0 ≤ n) (hn₁ : n ≤ 365)
    (hleap : n = 365 → EndsLeap y) :
    (ofMarch era y n).day ≤ daysInMonth (ofMarch era y n).year (ofMarch era y n).month := by
  obtain ⟨m, hm⟩ : ∃ m, m = (5 * n + 2) / 153 := ⟨_, rfl⟩
  have hm₁ : m ≤ 11 := by omega
  by_cases h : m < 10
  · have hmonth : ¬ (m + 3).toNat = 2 := by omega
    simp only [ofMarch, ← hm, daysInMonth, if_pos h, if_neg hmonth]
    split
    · omega
    · omega
  · by_cases hfebruary : (m - 9).toNat = 2
    · -- the last month: its last day is the 366th of the year, or the one before
      simp only [ofMarch, ← hm, daysInMonth, if_neg h, if_pos hfebruary]
      by_cases hlast : n = 365
      · rw [isLeap_of_endsLeap (hleap hlast), if_pos rfl]
        omega
      · split
        · omega
        · omega
    · have hjanuary : (m - 9).toNat = 1 := by omega
      simp only [ofMarch, ← hm, daysInMonth, if_neg h, hjanuary]
      rw [if_neg (by decide), if_neg (by decide)]
      omega

theorem daysInMonth_le (year : Int) (month : Nat) : daysInMonth year month ≤ 31 := by
  rw [daysInMonth]
  split
  · split <;> decide
  · split <;> decide

theorem isValid_ofDays {days : Int} (h : inRange (ofDays days).year = true) :
    (ofDays days).isValid = true := by
  obtain ⟨era, y, n, hy, hn, hleap, -, hdate⟩ := exists_ofMarch days
  obtain ⟨hm₀, hm₁, hday⟩ := month_spec hn.1 hn.2
  have hmonth : 1 ≤ (ofMarch era y n).month ∧ (ofMarch era y n).month ≤ 12 := by
    simp only [ofMarch]
    omega
  have hfirst : 1 ≤ (ofMarch era y n).day := by
    simp only [ofMarch]
    omega
  rw [isValid, h, hdate, decide_eq_true hmonth.1, decide_eq_true hmonth.2, decide_eq_true hfirst,
    decide_eq_true (day_le_ofMarch hn.1 hn.2 hleap)]
  rfl

end DesiredState.Date
