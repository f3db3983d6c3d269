import DesiredState.Text.Blank
import Mathlib.Data.List.DropRight
/-!
Blanks around a text. Main statements: trimming leaves the text but for blanks at its ends
(`padded_trim`), at which no blank stands any more (`trimmed_trim`), and a text without blanks there
as it is (`trim_eq_self`).
-/

set_option autoImplicit false
set_option relaxedAutoImplicit false

namespace DesiredState.Text

/-- Nothing but blanks. -/
def Blank (s : String) : Prop := ∀ c ∈ s.toList, isBlank c = true

/-- Neither the first nor the last character is blank. -/
def Trimmed (s : String) : Prop :=
  (∀ c ∈ s.toList.head?, isBlank c = false) ∧ ∀ c ∈ s.toList.getLast?, isBlank c = false

-- Deciding the quantifiers as they stand may run through all characters there are.
instance (s : String) : Decidable (Trimmed s) :=
  decidable_of_iff (s.toList.head?.all (fun c => !isBlank c) = true ∧
      s.toList.getLast?.all (fun c => !isBlank c) = true) <| by
    simp only [Trimmed, Option.all_eq_true, Bool.not_eq_true', Option.mem_def]

/-- The second text is the first one with blanks around it. -/
def Padded (s padded : String) : Prop :=
  ∃ before after : List Char, (∀ c ∈ before ++ after, isBlank c = true) ∧
    padded.toList = before ++ s.toList ++ after

private theorem trimChars_eq_rdropWhile (cs : List Char) :
    trimChars cs = (cs.dropWhile isBlank).rdropWhile isBlank := rfl

private theorem toList_trim (s : String) :
    (trim s).toList = trimChars s.toList := String.toList_ofList

theorem trim_eq_empty_iff {s : String} : trim s = "" ↔ Blank s := by
  rw [← String.toList_eq_nil_iff, toList_trim, trimChars_eq_rdropWhile,
    List.rdropWhile_eq_nil_iff]
  constructor
  · intro h c hc
    rw [← List.takeWhile_append_dropWhile (p := isBlank) (l := s.toList)] at hc
    rcases List.mem_append.1 hc with hc | hc
    · exact List.mem_takeWhile_imp hc
    · exact h c hc
  · intro h c hc
    exact h c ((List.dropWhile_suffix _).mem hc)

theorem padded_trim (s : String) : Padded (trim s) s := by
  refine ⟨s.toList.takeWhile isBlank, (s.toList.dropWhile isBlank).rtakeWhile isBlank, ?_, ?_⟩
  · intro c hc
    rcases List.mem_append.1 hc with hc | hc
    · exact List.mem_takeWhile_imp hc
    · exact List.mem_rtakeWhile_imp hc
  · rw [toList_trim, trimChars_eq_rdropWhile, List.append_assoc,
      List.rdropWhile_append_rtakeWhile, List.takeWhile_append_dropWhile]

theorem trimmed_trim (s : String) : Trimmed (trim s) := by
  rw [Trimmed, toList_trim, trimChars_eq_rdropWhile]
  constructor
  · intro c hc
    -- what is left after trimming at the end starts as it did before
    obtain ⟨rest, hrest⟩ := List.rdropWhile_prefix isBlank (s.toList.dropWhile isBlank)
    have hhead : (s.toList.dropWhile isBlank).head? = some c := by
      rw [← hrest, List.head?_append_of_ne_nil]
      · exact hc
      · intro hnil
        rw [hnil] at hc
        cases hc
    have hnot := List.head?_dropWhile_not isBlank s.toList
    rw [hhead] at hnot
    exact hnot
  · intro c hc
    obtain ⟨hne, rfl⟩ := List.mem_getLast?_eq_getLast hc
    exact Bool.eq_false_iff.2 (List.rdropWhile_last_not isBlank _ hne)

theorem trim_eq_self {s : String} (h : Trimmed s) : trim s = s := by
  have hdrop : s.toList.dropWhile isBlank = s.toList := by
    cases hs : s.toList with
    | nil => rfl
    | cons c cs =>
      have hc : isBlank c = false := h.1 c (by rw [hs]; rfl)
      exact List.dropWhile_cons_of_neg (Bool.eq_false_iff.1 hc)
  have hlast : s.toList.rdropWhile isBlank = s.toList := by
    rw [List.rdropWhile_eq_self_iff]
    intro hne
    exact Bool.eq_false_iff.1 (h.2 _ (List.getLast?_eq_some_getLast hne))
  rw [← String.toList_inj, toList_trim, trimChars_eq_rdropWhile, hdrop, hlast]

end DesiredState.Text
