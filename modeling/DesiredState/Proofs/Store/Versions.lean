import DesiredState.Proofs.Store.Memory
import DesiredState.Proofs.Text.Digits
/-!
Versions of the objects in a store. Main statements: a call keeps the store versioned
(`Versioned.of_kept`, `Versioned.of_written`), and an object that has a version from before a write
is one from before it (`Written.get?_of_issued`).
-/

set_option autoImplicit false
set_option relaxedAutoImplicit false

namespace DesiredState

private theorem version_injective {a b : Nat} (h : some (toString a) = some (toString b)) :
    a = b := by
  have hdigits : Nat.toDigits 10 a = Nat.toDigits 10 b := by
    have hlist := congrArg String.toList (Option.some.inj h)
    rwa [Text.toList_toString, Text.toList_toString] at hlist
  rw [← Nat.ofDigitChars_ten_toDigits (n := a), hdigits, Nat.ofDigitChars_ten_toDigits]

/-- The version was given before the next one. -/
def Memory.Issued (m : Memory) (v : Option String) : Prop :=
  ∃ n < m.nextVersion, v = some (toString n)

/-- Every stored object has a version that was given, and no other object has it. -/
structure Memory.Versioned (m : Memory) : Prop where
  issued : ∀ {k o}, m.objects.get? k = some o → m.Issued o.version?
  distinct : ∀ {k k' o o'}, m.objects.get? k = some o → m.objects.get? k' = some o' →
    o.version? = o'.version? → k = k'

namespace Memory

variable {m m' : Memory} {k : String} {new : StatefulSet} {v : Option String}

theorem Issued.of_kept (h : m.Issued v) (hk : m.Kept m') : m'.Issued v := by
  obtain ⟨n, hn, hv⟩ := h
  exact ⟨n, hk.nextVersion ▸ hn, hv⟩

theorem Issued.of_written (h : m.Issued v) (hw : m.Written k new m') : m'.Issued v := by
  obtain ⟨n, hn, hv⟩ := h
  exact ⟨n, hw.nextVersion ▸ Nat.lt_succ_of_lt hn, hv⟩

private theorem Issued.ne_next (h : m.Issued v) : v ≠ some (toString m.nextVersion) := by
  obtain ⟨n, hn, rfl⟩ := h
  exact fun he => Nat.ne_of_lt hn (version_injective he)

theorem Written.get?_cases (hw : m.Written k new m') {k' : String} {o : StatefulSet}
    (h : m'.objects.get? k' = some o) :
    (k' = k ∧ o = new) ∨ (k' ≠ k ∧ m.objects.get? k' = some o) := by
  rw [hw.objects] at h
  by_cases hk : k' = k
  · subst hk
    rw [Members.get?_insert_self] at h
    exact .inl ⟨rfl, (Option.some.inj h).symm⟩
  · rw [Members.get?_insert_of_ne hk] at h
    exact .inr ⟨hk, h⟩

/-- Of the objects after a write only those from before have a version that was given before. -/
theorem Written.get?_of_issued (hw : m.Written k new m')
    (hnew : new.version? = some (toString m.nextVersion)) {k' : String} {o : StatefulSet}
    (h : m'.objects.get? k' = some o) (hv : m.Issued o.version?) :
    k' ≠ k ∧ m.objects.get? k' = some o := by
  rcases hw.get?_cases h with ⟨-, rfl⟩ | hold
  · exact absurd hnew hv.ne_next
  · exact hold

theorem Versioned.congr (h : m.Versioned) (hobjects : m'.objects = m.objects)
    (hnext : m'.nextVersion = m.nextVersion) : m'.Versioned := by
  constructor
  · intro k o ho
    rw [hobjects] at ho
    obtain ⟨n, hn, hv⟩ := h.issued ho
    exact ⟨n, hnext ▸ hn, hv⟩
  · intro k k' o o' ho ho'
    rw [hobjects] at ho ho'
    exact h.distinct ho ho'

theorem Versioned.of_kept (h : m.Versioned) (hk : m.Kept m') : m'.Versioned :=
  h.congr hk.objects hk.nextVersion

theorem Versioned.of_written (h : m.Versioned) (hw : m.Written k new m')
    (hnew : new.version? = some (toString m.nextVersion)) : m'.Versioned := by
  constructor
  · intro k' o ho
    rcases hw.get?_cases ho with ⟨-, rfl⟩ | ⟨-, hold⟩
    · exact ⟨m.nextVersion, hw.nextVersion ▸ Nat.lt_succ_self _, hnew⟩
    · exact (h.issued hold).of_written hw
  · intro k₁ k₂ o₁ o₂ h₁ h₂ hv
    rcases hw.get?_cases h₁ with ⟨rfl, rfl⟩ | ⟨-, hold₁⟩
    · rcases hw.get?_cases h₂ with ⟨rfl, rfl⟩ | ⟨-, hold₂⟩
      · rfl
      · exact absurd (hv.symm.trans hnew) (h.issued hold₂).ne_next
    · have hissued := h.issued hold₁
      exact h.distinct hold₁ (hw.get?_of_issued hnew h₂ (hv ▸ hissued)).2 hv

end Memory

end DesiredState
