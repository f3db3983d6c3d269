import DesiredState.Proofs.Json.Reading
import DesiredState.Proofs.Number.Shortest
import DesiredState.Proofs.Text.Digits
/-!
Reading back printed numbers. Main statements: `number_int` and `number_float`, what reading makes
of a printed integer and of a printed float, whatever stands behind it.
-/

set_option autoImplicit false
set_option relaxedAutoImplicit false

namespace DesiredState.Json.Text

open DesiredState.Text (digitValue isDigit_toDigits toDigits_head toList_toString_nat
  toList_toString_neg)
open Binary64 (Decimal plain)

/-- No digit follows. -/
def Stops (rest : List Char) : Prop := ∀ c ∈ rest.head?, c.isDigit = false

private theorem stops_of_not_numeric {rest : List Char} (h : ¬ Numeric rest) : Stops rest := by
  intro c hc
  obtain ⟨t, rfl⟩ := List.head?_eq_some_iff.1 hc
  by_contra hdigit
  rw [Bool.not_eq_false] at hdigit
  exact h ⟨c, t, rfl, isNumberChar_of_isDigit hdigit⟩

private theorem stops_cons {c : Char} (h : c.isDigit = false) (rest : List Char) :
    Stops (c :: rest) := by
  intro d hd
  rw [List.head?_cons, Option.mem_some_iff] at hd
  exact hd ▸ h

private theorem dropWhile_isDigit {rest : List Char} (h : Stops rest) :
    rest.dropWhile Char.isDigit = rest := by
  cases rest with
  | nil => rfl
  | cons c t =>
    have hc := h c rfl
    simp [hc]

private theorem ofDigitChars_cons (c : Char) (cs : List Char) (n : Nat) :
    Nat.ofDigitChars 10 (c :: cs) n = Nat.ofDigitChars 10 cs (n * 10 + digitValue c) := by
  rw [Nat.ofDigitChars_cons, mul_comm]
  rfl

private theorem le_ofDigitChars (cs : List Char) (n : Nat) : n ≤ Nat.ofDigitChars 10 cs n := by
  rw [Nat.ofDigitChars_eq_ofDigitChars_zero]
  have hpos : 0 < 10 ^ cs.length := Nat.pow_pos (by norm_num)
  have hle := Nat.le_mul_of_pos_left n hpos
  omega

private theorem takeDigits_append {limit n count : Nat} {cs rest : List Char}
    (hcs : ∀ c ∈ cs, c.isDigit = true) (hlimit : Nat.ofDigitChars 10 cs n ≤ limit)
    (hrest : Stops rest) :
    takeDigits limit n count (cs ++ rest) =
      (Nat.ofDigitChars 10 cs n, count + cs.length, rest) := by
  induction cs generalizing n count with
  | nil =>
    cases rest with
    | nil => rfl
    | cons c t =>
      have hc := hrest c rfl
      rw [List.nil_append, takeDigits, if_neg (by simp [hc])]
      rfl
  | cons c cs ih =>
    have hdigit := hcs c List.mem_cons_self
    rw [ofDigitChars_cons] at hlimit ⊢
    have hle := (le_ofDigitChars cs _).trans hlimit
    rw [List.cons_append, takeDigits, if_pos ⟨hdigit, hle⟩,
      ih (fun d hd => hcs d (List.mem_cons_of_mem _ hd)) hlimit, List.length_cons]
    have hcount : count + 1 + cs.length = count + (cs.length + 1) := by omega
    rw [hcount]

structure Whole (cs : List Char) : Prop where
  digits : ∀ c ∈ cs, c.isDigit = true
  leading : cs = ['0'] ∨ ∃ c t, cs = c :: t ∧ c ≠ '0'

private theorem whole_toDigits (n : Nat) : Whole (Nat.toDigits 10 n) where
  digits := isDigit_toDigits
  leading := by
    by_cases h : n = 0
    · subst h
      exact .inl (Nat.toDigits_zero 10)
    · exact .inr (toDigits_head h)

private theorem isDigit_replicate_zero (n : Nat) :
    ∀ c ∈ List.replicate n '0', c.isDigit = true := by
  intro c hc
  rw [(List.mem_replicate.1 hc).2]
  rfl

section Parts

variable {lenient negative : Bool} {rest : List Char}

private theorem number_whole {cs : List Char} (hcs : Whole cs)
    (hlimit : Nat.ofDigitChars 10 cs 0 ≤ maxSignificand) (hrest : Stops rest) :
    number lenient negative (cs ++ rest) =
      afterInteger lenient negative (Nat.ofDigitChars 10 cs 0) 0 rest := by
  rcases hcs.leading with rfl | ⟨c, t, rfl, hc⟩
  · have hzero : Nat.ofDigitChars 10 ['0'] 0 = 0 := rfl
    rw [hzero]
    cases rest with
    | nil => rfl
    | cons d t =>
      have hd := hrest d rfl
      simp [number, hd]
  · have hdigit := hcs.digits c List.mem_cons_self
    have htail : ∀ d ∈ t, d.isDigit = true := fun d hd => hcs.digits d (List.mem_cons_of_mem _ hd)
    rw [ofDigitChars_cons, Nat.zero_mul, Nat.zero_add] at hlimit ⊢
    have htake : takeDigits maxSignificand (digitValue c) 0 (t ++ rest) =
        (Nat.ofDigitChars 10 t (digitValue c), 0 + t.length, rest) :=
      takeDigits_append htail hlimit hrest
    rw [List.cons_append, number]
    · simp only [hdigit, not_true_eq_false, if_false, htake, dropWhile_isDigit hrest, Nat.sub_self]
    · exact hc

private theorem afterInteger_point {digits dropped : Nat} {cs : List Char} :
    afterInteger lenient negative digits dropped ('.' :: cs) =
      fractionPart lenient negative digits dropped cs := rfl

private theorem fractionPart_places {digits : Nat} {exponent : Int} {places : List Char}
    (hplaces : ∀ c ∈ places, c.isDigit = true) (hne : places ≠ [])
    (hlimit : Nat.ofDigitChars 10 places digits ≤ maxSignificand) (hrest : Stops rest) :
    fractionPart lenient negative digits exponent (places ++ rest) =
      afterPlaces lenient negative (Nat.ofDigitChars 10 places digits)
        (exponent - places.length) rest := by
  obtain ⟨c, t, rfl⟩ := List.exists_cons_of_ne_nil hne
  have hc := hplaces c List.mem_cons_self
  have htake : takeDigits maxSignificand digits 0 (c :: t ++ rest) =
      (Nat.ofDigitChars 10 (c :: t) digits, 0 + (c :: t).length, rest) :=
    takeDigits_append hplaces hlimit hrest
  rw [List.cons_append] at htake ⊢
  simp only [fractionPart, hc, not_true_eq_false, if_false, htake, dropWhile_isDigit hrest,
    Nat.zero_add]

private theorem afterPlaces_end {digits : Nat} {exponent : Int} (hrest : ¬ Numeric rest) :
    afterPlaces lenient negative digits exponent rest =
      floatOrFault lenient negative digits exponent rest := by
  unfold afterPlaces
  split
  · exact absurd ⟨_, _, rfl, rfl⟩ hrest
  · exact absurd ⟨_, _, rfl, rfl⟩ hrest
  · rfl

private theorem exponentPart_digits {digits n : Nat} {exponent : Int} (hn : n ≤ maxExponent)
    (hrest : Stops rest) :
    exponentPart lenient negative digits exponent (Nat.toDigits 10 n ++ rest) =
        floatOrFault lenient negative digits (exponent + n) rest ∧
      exponentPart lenient negative digits exponent ('-' :: Nat.toDigits 10 n ++ rest) =
        floatOrFault lenient negative digits (exponent - n) rest := by
  obtain ⟨c, t, he⟩ := List.exists_cons_of_ne_nil (Nat.toDigits_ne_nil (n := n) (b := 10))
  have hdigits : ∀ d ∈ c :: t, d.isDigit = true := he ▸ isDigit_toDigits
  have hvalue : Nat.ofDigitChars 10 t (digitValue c) = n := by
    have hall := Nat.ofDigitChars_ten_toDigits (n := n)
    rw [he, ofDigitChars_cons, Nat.zero_mul, Nat.zero_add] at hall
    exact hall
  have htake : takeDigits maxExponent (digitValue c) 0 (t ++ rest) = (n, 0 + t.length, rest) := by
    have hlimit : Nat.ofDigitChars 10 t (digitValue c) ≤ maxExponent := hvalue.trans_le hn
    rw [takeDigits_append (fun d hd => hdigits d (List.mem_cons_of_mem _ hd)) hlimit hrest, hvalue]
  have hc := hdigits c List.mem_cons_self
  have hstop : ∀ d t', rest = d :: t' → d.isDigit = false := by
    intro d t' h
    exact hrest d (by rw [h]; rfl)
  rw [he]
  constructor
  · have hplus : c ≠ '+' := by rintro rfl; cases hc
    have hminus : c ≠ '-' := by rintro rfl; cases hc
    cases rest with
    | nil =>
      rw [List.append_nil] at htake ⊢
      simp [exponentPart, hc, hplus, hminus, htake]
    | cons d t' => simp [exponentPart, hc, hplus, hminus, htake, hstop d t' rfl]
  · cases rest with
    | nil =>
      rw [List.append_nil] at htake ⊢
      simp [exponentPart, hc, htake]
    | cons d t' => simp [exponentPart, hc, htake, hstop d t' rfl]

private theorem exponentPart_int {digits : Nat} {exponent k : Int} (hlow : -maxExponent ≤ k)
    (hhigh : k ≤ maxExponent) (hrest : Stops rest) :
    exponentPart lenient negative digits exponent ((toString k).toList ++ rest) =
      floatOrFault lenient negative digits (exponent + k) rest := by
  rcases lt_or_ge k 0 with hneg | hnonneg
  · obtain ⟨n, rfl⟩ : ∃ n : Nat, k = -(n + 1 : Nat) := ⟨(-k).toNat - 1, by omega⟩
    rw [toList_toString_neg, (exponentPart_digits (by omega) hrest).2, Int.sub_eq_add_neg]
  · obtain ⟨n, rfl⟩ := Int.eq_ofNat_of_zero_le hnonneg
    rw [toList_toString_nat, (exponentPart_digits (by omega) hrest).1]

private theorem afterInteger_end {digits : Nat} (hrest : ¬ Numeric rest) :
    afterInteger lenient negative digits 0 rest =
      if negative = false then .ok (.ofInt digits, rest)
      else if digits = 0 ∨ 2 ^ 63 < digits then floatOrFault lenient true digits 0 rest
      else .ok (.ofInt (-digits), rest) := by
  unfold afterInteger
  split
  · exact absurd ⟨_, _, rfl, rfl⟩ hrest
  · exact absurd ⟨_, _, rfl, rfl⟩ hrest
  · exact absurd ⟨_, _, rfl, rfl⟩ hrest
  · rfl

private theorem number_point {whole places : List Char} (hwhole : Whole whole)
    (hplaces : ∀ c ∈ places, c.isDigit = true) (hne : places ≠ [])
    (hlimit : Nat.ofDigitChars 10 (whole ++ places) 0 ≤ maxSignificand) (hrest : Stops rest) :
    number lenient negative (whole ++ '.' :: (places ++ rest)) =
      afterPlaces lenient negative (Nat.ofDigitChars 10 (whole ++ places) 0)
        (-places.length) rest := by
  rw [Nat.ofDigitChars_append] at hlimit ⊢
  have hstart := (le_ofDigitChars places _).trans hlimit
  rw [number_whole hwhole hstart (stops_cons rfl _), afterInteger_point,
    fractionPart_places hplaces hne hlimit hrest, Nat.cast_zero, zero_sub]

private theorem number_toDigits {n : Nat} (hn : n < 2 ^ 64) (hrest : ¬ Numeric rest) :
    number lenient negative (Nat.toDigits 10 n ++ rest) =
      afterInteger lenient negative n 0 rest := by
  have hlimit : Nat.ofDigitChars 10 (Nat.toDigits 10 n) 0 ≤ maxSignificand := by
    rw [Nat.ofDigitChars_ten_toDigits, maxSignificand]
    omega
  rw [number_whole (whole_toDigits n) hlimit (stops_of_not_numeric hrest),
    Nat.ofDigitChars_ten_toDigits]

end Parts

section Decimals

variable {lenient negative : Bool} {rest : List Char} {d : Decimal}

private theorem le_maxSignificand {n : Nat} (h : n ≤ 10 ^ 17) : n ≤ maxSignificand :=
  h.trans (by decide)

private theorem whole_of_ne_zero {cs : List Char} {n : Nat} (hn : n ≠ 0)
    (hdigits : ∀ c ∈ cs, c.isDigit = true) (hcs : cs ≠ [])
    (hhead : cs.head? = (Nat.toDigits 10 n).head?) : Whole cs := by
  refine ⟨hdigits, .inr ?_⟩
  obtain ⟨c, t, he, hc⟩ := toDigits_head hn
  obtain ⟨c', t', rfl⟩ := List.exists_cons_of_ne_nil hcs
  rw [he, List.head?_cons, List.head?_cons, Option.some_inj] at hhead
  exact ⟨c', t', rfl, hhead ▸ hc⟩

private theorem number_writtenOut (hfew : d.digits ≤ 10 ^ 17)
    (hzero : d.digits = 0 → d.exponent = 0)
    (h : 0 ≤ d.exponent ∧ (Nat.toDigits 10 d.digits).length + d.exponent ≤ plain.highest)
    (hrest : ¬ Numeric rest) :
    number lenient negative
        (Nat.toDigits 10 d.digits ++ List.replicate d.exponent.toNat '0' ++ ['.', '0'] ++ rest) =
      floatOrFault lenient negative d.scanned.digits d.scanned.exponent rest := by
  have hscanned : d.scanned = ⟨d.digits * 10 ^ (d.exponent.toNat + 1), -1⟩ := by
    rw [Decimal.scanned, if_pos h]
  set zeros := List.replicate d.exponent.toNat '0' with hzeros
  have hdigits : ∀ c ∈ Nat.toDigits 10 d.digits ++ zeros, c.isDigit = true := by
    intro c hc
    rcases List.mem_append.1 hc with hc | hc
    · exact isDigit_toDigits c hc
    · exact isDigit_replicate_zero _ c hc
  have hwhole : Whole (Nat.toDigits 10 d.digits ++ zeros) := by
    by_cases hd : d.digits = 0
    · refine ⟨hdigits, .inl ?_⟩
      rw [hzeros, hzero hd, hd]
      rfl
    · refine whole_of_ne_zero hd hdigits (by simp) ?_
      obtain ⟨c, t, he, -⟩ := toDigits_head hd
      rw [he]
      rfl
  have hvalue : Nat.ofDigitChars 10 (Nat.toDigits 10 d.digits ++ zeros ++ ['0']) 0 =
      d.scanned.digits := by
    have hone : ['0'] = List.replicate 1 '0' := rfl
    rw [Nat.ofDigitChars_append, Nat.ofDigitChars_append, Nat.ofDigitChars_ten_toDigits, hzeros,
      hone, Nat.ofDigitChars_replicate_zero, Nat.ofDigitChars_replicate_zero, hscanned]
    ring
  have hlimit := le_maxSignificand (d.scanned_digits_le hfew)
  have htext : Nat.toDigits 10 d.digits ++ zeros ++ ['.', '0'] ++ rest =
      (Nat.toDigits 10 d.digits ++ zeros) ++ '.' :: (['0'] ++ rest) := by simp
  rw [htext, number_point hwhole (List.forall_mem_singleton.2 rfl) (List.cons_ne_nil _ _)
    (hvalue.trans_le hlimit) (stops_of_not_numeric hrest), afterPlaces_end hrest, hvalue, hscanned]
  rfl

private theorem number_pointWithin (hfew : d.digits ≤ 10 ^ 17) (hd : d.digits ≠ 0)
    (hpoint : 0 < (Nat.toDigits 10 d.digits).length + d.exponent) (hexponent : d.exponent < 0)
    (hrest : ¬ Numeric rest) :
    number lenient negative
        ((Nat.toDigits 10 d.digits).take
            ((Nat.toDigits 10 d.digits).length + d.exponent).toNat ++
          '.' :: (Nat.toDigits 10 d.digits).drop
            ((Nat.toDigits 10 d.digits).length + d.exponent).toNat ++ rest) =
      floatOrFault lenient negative d.digits d.exponent rest := by
  obtain ⟨ds, hds⟩ : ∃ ds, ds = Nat.toDigits 10 d.digits := ⟨_, rfl⟩
  rw [← hds] at hpoint ⊢
  obtain ⟨n, hn⟩ : ∃ n : Nat, (ds.length + d.exponent).toNat = n := ⟨_, rfl⟩
  rw [hn]
  have hdigits : ∀ c ∈ ds, c.isDigit = true := hds ▸ isDigit_toDigits
  have hvalue : Nat.ofDigitChars 10 (ds.take n ++ ds.drop n) 0 = d.digits := by
    rw [List.take_append_drop, hds, Nat.ofDigitChars_ten_toDigits]
  have hwhole : Whole (ds.take n) := by
    refine whole_of_ne_zero hd (fun c hc => hdigits c (List.mem_of_mem_take hc)) ?_ ?_
    · intro hnil
      have hlength := congrArg List.length hnil
      rw [List.length_take, List.length_nil] at hlength
      omega
    · rw [← hds, List.head?_take, if_neg (by omega)]
  have hne : ds.drop n ≠ [] := by
    intro hnil
    have hlength := congrArg List.length hnil
    rw [List.length_drop, List.length_nil] at hlength
    omega
  have hplaces : -((ds.drop n).length : Int) = d.exponent := by
    rw [List.length_drop]
    omega
  rw [List.append_assoc, List.cons_append, number_point hwhole
    (fun c hc => hdigits c (List.mem_of_mem_drop hc)) hne
    (hvalue.trans_le (le_maxSignificand hfew)) (stops_of_not_numeric hrest),
    afterPlaces_end hrest, hvalue, hplaces]

private theorem number_pointBefore (hfew : d.digits ≤ 10 ^ 17)
    (hpoint : (Nat.toDigits 10 d.digits).length + d.exponent ≤ 0) (hrest : ¬ Numeric rest) :
    number lenient negative
        ('0' :: '.' :: List.replicate
            (-((Nat.toDigits 10 d.digits).length + d.exponent)).toNat '0' ++
          Nat.toDigits 10 d.digits ++ rest) =
      floatOrFault lenient negative d.digits d.exponent rest := by
  obtain ⟨n, hn⟩ : ∃ n : Nat, (-((Nat.toDigits 10 d.digits).length + d.exponent)).toNat = n :=
    ⟨_, rfl⟩
  rw [hn]
  have hvalue : Nat.ofDigitChars 10 (['0'] ++ (List.replicate n '0' ++ Nat.toDigits 10 d.digits)) 0
      = d.digits := by
    have hzero : Nat.ofDigitChars 10 ['0'] 0 = 0 := rfl
    rw [Nat.ofDigitChars_append, hzero, Nat.ofDigitChars_append, Nat.ofDigitChars_replicate_zero,
      Nat.mul_zero, Nat.ofDigitChars_ten_toDigits]
  have hdigits : ∀ c ∈ List.replicate n '0' ++ Nat.toDigits 10 d.digits, c.isDigit = true := by
    intro c hc
    rcases List.mem_append.1 hc with hc | hc
    · exact isDigit_replicate_zero n c hc
    · exact isDigit_toDigits c hc
  have hne : List.replicate n '0' ++ Nat.toDigits 10 d.digits ≠ [] :=
    List.append_ne_nil_of_right_ne_nil _ Nat.toDigits_ne_nil
  have hplaces : -((List.replicate n '0' ++ Nat.toDigits 10 d.digits).length : Int) =
      d.exponent := by
    rw [List.length_append, List.length_replicate]
    push_cast
    omega
  have htext : '0' :: '.' :: List.replicate n '0' ++ Nat.toDigits 10 d.digits ++ rest =
      ['0'] ++ '.' :: (List.replicate n '0' ++ Nat.toDigits 10 d.digits ++ rest) := by simp
  rw [htext, number_point ⟨List.forall_mem_singleton.2 rfl, .inl rfl⟩ hdigits hne
    (hvalue.trans_le (le_maxSignificand hfew)) (stops_of_not_numeric hrest),
    afterPlaces_end hrest, hvalue, hplaces]

private theorem number_scientific (hfew : d.digits ≤ 10 ^ 17)
    (hexponent : -346 ≤ d.exponent ∧ d.exponent ≤ 400) (hrest : ¬ Numeric rest) :
    number lenient negative
        ((Nat.toDigits 10 d.digits).take 1 ++
            (if (Nat.toDigits 10 d.digits).length = 1 then []
              else '.' :: (Nat.toDigits 10 d.digits).drop 1) ++
          'e' :: (toString ((Nat.toDigits 10 d.digits).length + d.exponent - 1)).toList ++ rest) =
      floatOrFault lenient negative d.digits d.exponent rest := by
  obtain ⟨hlow, hhigh⟩ := hexponent
  have hvalue := Nat.ofDigitChars_ten_toDigits (n := d.digits)
  have hwhole := whole_toDigits d.digits
  have hsmall : (Nat.toDigits 10 d.digits).length ≤ 18 :=
    (Nat.length_toDigits_le_iff (by norm_num) (by norm_num)).2 (by omega)
  have hmax : maxExponent = 2147483647 := rfl
  have hstops := stops_of_not_numeric hrest
  obtain ⟨k, hk⟩ : ∃ k : Int, k = (Nat.toDigits 10 d.digits).length + d.exponent - 1 := ⟨_, rfl⟩
  have hread : ∀ exponent : Int,
      exponentPart lenient negative d.digits exponent ((toString k).toList ++ rest) =
        floatOrFault lenient negative d.digits (exponent + k) rest := by
    intro exponent
    exact exponentPart_int (by omega) (by omega) hstops
  rw [← hk]
  obtain ⟨c, t, he⟩ := List.exists_cons_of_ne_nil (Nat.toDigits_ne_nil (n := d.digits) (b := 10))
  rw [he, List.length_cons] at hk
  rw [he] at hvalue hwhole ⊢
  cases t with
  | nil =>
    -- one digit: the exponent follows it at once
    have hexponent : ((0 : Nat) : Int) + k = d.exponent := by
      rw [List.length_nil] at hk
      omega
    have htext : [c].take 1 ++ (if [c].length = 1 then [] else '.' :: [c].drop 1) ++
        'e' :: (toString k).toList ++ rest = [c] ++ 'e' :: ((toString k).toList ++ rest) := rfl
    rw [htext, number_whole hwhole (hvalue.trans_le (le_maxSignificand hfew)) (stops_cons rfl _),
      hvalue, ← hexponent, ← hread]
    rfl
  | cons c' t =>
    have hone : Whole [c] := by
      refine ⟨fun e h => hwhole.digits e (List.mem_cons.2 (.inl (List.mem_singleton.1 h))), ?_⟩
      rcases hwhole.leading with h | ⟨e, u, h, hne⟩
      · cases h
      · cases h
        exact .inr ⟨c, [], rfl, hne⟩
    have hplaces : ∀ e ∈ c' :: t, e.isDigit = true :=
      fun e h => hwhole.digits e (List.mem_cons_of_mem _ h)
    have hexponent : -((c' :: t).length : Int) + k = d.exponent := by
      rw [List.length_cons] at hk ⊢
      omega
    have htext : (c :: c' :: t).take 1 ++
        (if (c :: c' :: t).length = 1 then [] else '.' :: (c :: c' :: t).drop 1) ++
        'e' :: (toString k).toList ++ rest =
        [c] ++ '.' :: ((c' :: t) ++ 'e' :: ((toString k).toList ++ rest)) := by
      simp
    have hlimit : Nat.ofDigitChars 10 ([c] ++ (c' :: t)) 0 ≤ maxSignificand :=
      hvalue.trans_le (le_maxSignificand hfew)
    have hdigits : Nat.ofDigitChars 10 ([c] ++ (c' :: t)) 0 = d.digits := hvalue
    rw [htext, number_point hone hplaces (List.cons_ne_nil _ _) hlimit (stops_cons rfl _), hdigits,
      ← hexponent, ← hread]
    rfl

private theorem number_render (hfew : d.digits ≤ 10 ^ 17) (hzero : d.digits = 0 → d.exponent = 0)
    (hexponent : -346 ≤ d.exponent ∧ d.exponent ≤ 400) (hrest : ¬ Numeric rest) :
    number lenient negative ((d.render plain).toList ++ rest) =
      floatOrFault lenient negative d.scanned.digits d.scanned.exponent rest := by
  rw [Decimal.render, String.toList_ofList]
  by_cases hout : 0 ≤ d.exponent ∧
      (Nat.toDigits 10 d.digits).length + d.exponent ≤ plain.highest
  · rw [if_pos hout]
    exact number_writtenOut hfew hzero hout hrest
  · have hscanned : d.scanned = d := by rw [Decimal.scanned, if_neg hout]
    rw [if_neg hout, hscanned]
    split
    · rename_i hpoint
      have hneg : d.exponent < 0 := by omega
      have hd : d.digits ≠ 0 := by
        intro h
        have := hzero h
        omega
      exact number_pointWithin hfew hd hpoint.1 hneg hrest
    · split
      · rename_i hpoint
        exact number_pointBefore hfew hpoint.2 hrest
      · exact number_scientific hfew hexponent hrest

/-- A printed float is read as a float, and to its end. -/
theorem number_float (x : Binary64) (hrest : ¬ Numeric rest) :
    number lenient x.negative ((x.shortest.render plain).toList ++ rest) =
      .ok (.ofFloat x.reread, rest) := by
  have hspec := x.shortest_spec
  rw [number_render hspec.few hspec.exponent_of_zero ⟨hspec.exponent_low, hspec.exponent_high⟩
    hrest, floatOrFault, x.ofScaledDigits_scanned]

end Decimals

section Values

variable {lenient negative : Bool} {rest : List Char} {s : Scalar}

private theorem isDigit_of_number {cs : List Char} {x : Scalar × List Char}
    (h : number lenient negative cs = .ok x) : ∃ c t, cs = c :: t ∧ c.isDigit = true := by
  unfold number at h
  split at h
  · cases h
  · exact ⟨'0', _, rfl, rfl⟩
  · split at h
    · cases h
    · rename_i c t _ hc
      rw [Bool.not_eq_true, Bool.not_eq_false] at hc
      exact ⟨c, t, rfl, hc⟩

private theorem value_number {cs : List Char} (fuel depth : Nat)
    (h : number lenient negative cs = .ok (s, rest)) :
    value lenient (fuel + 1) depth ((if negative then ['-'] else []) ++ cs) =
      .ok (.scalar s, rest) := by
  cases negative with
  | true =>
    have hsign : skipBlanks ('-' :: cs) = '-' :: cs := skipBlanks_cons rfl _
    rw [if_pos rfl, List.singleton_append, value, hsign]
    simp only [h]
    rfl
  | false =>
    obtain ⟨c, t, rfl, hc⟩ := isDigit_of_number h
    rw [if_neg Bool.false_ne_true, List.nil_append, value,
      skipBlanks_cons (isBlank_of_isNumberChar (isNumberChar_of_isDigit hc))]
    split
    all_goals rename_i hcs
    all_goals cases hcs
    -- a digit is none of the characters that start another value
    case h_9 =>
      rw [if_pos hc, h]
      rfl
    all_goals cases hc

theorem value_int {n : Int} (hlow : -2 ^ 63 ≤ n) (hhigh : n < 2 ^ 64) (fuel depth : Nat)
    (hrest : ¬ Numeric rest) :
    value lenient (fuel + 1) depth ((toString n).toList ++ rest) =
      .ok (.scalar (.ofInt n), rest) := by
  rcases lt_or_ge n 0 with hneg | hnonneg
  · obtain ⟨k, rfl⟩ : ∃ k : Nat, n = -(k + 1 : Nat) := ⟨(-n).toNat - 1, by omega⟩
    have hnumber : number lenient true (Nat.toDigits 10 (k + 1) ++ rest) =
        .ok (.ofInt (-(k + 1 : Nat)), rest) := by
      rw [number_toDigits (by omega) hrest, afterInteger_end hrest, if_neg (by decide),
        if_neg (by omega)]
    rw [toList_toString_neg]
    exact value_number fuel depth hnumber
  · obtain ⟨k, rfl⟩ := Int.eq_ofNat_of_zero_le hnonneg
    have hnumber : number lenient false (Nat.toDigits 10 k ++ rest) =
        .ok (.ofInt k, rest) := by
      rw [number_toDigits (by omega) hrest, afterInteger_end hrest, if_pos rfl]
    rw [toList_toString_nat]
    exact value_number fuel depth hnumber

theorem value_float (x : Binary64) (fuel depth : Nat) (hrest : ¬ Numeric rest) :
    value lenient (fuel + 1) depth (x.render.toList ++ rest) =
      .ok (.scalar (.ofFloat x.reread), rest) := by
  have htext : x.render.toList ++ rest = (if x.negative then ['-'] else []) ++
      ((x.shortest.render plain).toList ++ rest) := by
    rw [Binary64.render, String.toList_append, List.append_assoc]
    cases x.negative <;> rfl
  rw [htext]
  exact value_number fuel depth (number_float x hrest)

end Values

end DesiredState.Json.Text
