import RelGraph.Json.Printer
import RelGraph.Json.Reader

/-! Whole numbers. A number of 64 bits is written with its decimal digits and read back from them,
as long as nothing after it could belong to the number. A sign stands only before a number below
zero, so the numbers that come back without a sign are those that went without one. -/

namespace RelGraph.Json

/-! ### Decimal digits -/

/-- The decimal digits of a number. -/
theorem toList_toString (n : Nat) : (toString n).toList = Nat.toDigits 10 n := by
  rw [Nat.toString_eq_repr, Nat.toList_repr]

theorem isDigit_of_mem_toDigits {n : Nat} : ∀ c ∈ Nat.toDigits 10 n, c.isDigit = true :=
  fun _ hc => Nat.isDigit_of_mem_toDigits (by decide) (by decide) hc

/-- Every number has a first digit. -/
theorem exists_toDigits_eq (n : Nat) :
    ∃ c cs, Nat.toDigits 10 n = c :: cs ∧ c.isDigit = true := by
  obtain ⟨c, cs, hcs⟩ := List.exists_cons_of_ne_nil (Nat.toDigits_ne_nil (n := n) (b := 10))
  have hc : c ∈ Nat.toDigits 10 n := by rw [hcs]; exact List.mem_cons_self
  exact ⟨c, cs, hcs, isDigit_of_mem_toDigits c hc⟩

/-- Only zero is written with a leading zero. -/
theorem eq_zero_of_head?_toDigits {n : Nat} (h : (Nat.toDigits 10 n).head? = some '0') : n = 0 := by
  induction n using Nat.strongRecOn with
  | _ n ih =>
    by_cases hn : n < 10
    · rw [Nat.toDigits_of_lt_base hn, List.head?_cons, Option.some.injEq] at h
      exact Nat.digitChar_eq_zero.1 h
    · have hle : 10 ≤ n := by omega
      obtain ⟨c, cs, hcs, -⟩ := exists_toDigits_eq (n / 10)
      rw [Nat.toDigits_of_base_le (by decide) hle, hcs, List.cons_append, List.head?_cons] at h
      have hzero := ih (n / 10) (by omega) (by rw [hcs, List.head?_cons, h])
      omega

theorem length_toDigits_of_head? {n : Nat} (h : (Nat.toDigits 10 n).head? = some '0') :
    (Nat.toDigits 10 n).length = 1 := by
  rw [eq_zero_of_head?_toDigits h]
  rfl

/-- A number starts with a digit or with a minus sign. -/
theorem exists_intText_eq (n : Int) :
    ∃ c cs, intText n = c :: cs ∧ (c = '-' ∨ c.isDigit = true) := by
  obtain ⟨c, cs, hcs, hc⟩ := exists_toDigits_eq n.natAbs
  rw [intText, toList_toString, hcs]
  split
  · exact ⟨'-', c :: cs, rfl, .inl rfl⟩
  · exact ⟨c, cs, rfl, .inr hc⟩

namespace Reader

theorem le_ofDigitChars (ds : List Char) (value : Nat) : value ≤ Nat.ofDigitChars 10 ds value := by
  rw [Nat.ofDigitChars_eq_ofDigitChars_zero]
  have hpos : 1 ≤ 10 ^ ds.length := Nat.one_le_pow _ _ (by decide)
  have hle : value ≤ 10 ^ ds.length * value := Nat.le_mul_of_pos_left value hpos
  omega

/-- Digits of a number of 64 bits are all taken into its value. -/
theorem wholeValue_eq {ds : List Char} {value : Nat}
    (h : Nat.ofDigitChars 10 ds value < Nat.pow 2 64) :
    wholeValue value 0 ds = (Nat.ofDigitChars 10 ds value, 0) := by
  induction ds generalizing value with
  | nil => rw [wholeValue, Nat.ofDigitChars_nil]
  | cons c rest ih =>
    rw [Nat.ofDigitChars_cons] at h ⊢
    have hnext : 10 * value + digitValue c < Nat.pow 2 64 := by
      have hle := le_ofDigitChars rest (10 * value + digitValue c)
      exact Nat.lt_of_le_of_lt hle h
    rw [wholeValue]
    have hfits : ¬(0 > 0 ∨ 10 * value + digitValue c ≥ Nat.pow 2 64) := by
      rintro (h | h)
      · exact Nat.lt_irrefl 0 h
      · exact Nat.not_le_of_lt hnext h
    simp only [Bool.or_eq_true, decide_eq_true_eq, hfits, if_false]
    exact ih h

theorem wholeValue_toDigits {n : Nat} (h : n < Nat.pow 2 64) :
    wholeValue 0 0 (Nat.toDigits 10 n) = (n, 0) := by
  have hvalue : Nat.ofDigitChars 10 (Nat.toDigits 10 n) 0 = n := Nat.ofDigitChars_ten_toDigits
  rw [wholeValue_eq (by rw [hvalue]; exact h), hvalue]

/-! ### What ends a number -/

/-- Nothing at the front of the text could belong to a number before it. -/
def EndsNumber : List Char → Prop
  | [] => True
  | c :: _ => c.isDigit = false ∧ c ≠ '.' ∧ c ≠ 'e' ∧ c ≠ 'E'

variable {rest : List Char}

theorem digits_append {ds : List Char} (hds : ∀ c ∈ ds, c.isDigit = true) (h : EndsNumber rest) :
    digits (ds ++ rest) = (ds, rest) := by
  have hstop : rest.takeWhile Char.isDigit = [] ∧ rest.dropWhile Char.isDigit = rest := by
    cases rest with
    | nil => exact ⟨rfl, rfl⟩
    | cons c cs => simp [h.1]
  rw [digits, List.takeWhile_append_of_pos hds, List.dropWhile_append_of_pos hds, hstop.1, hstop.2,
    List.append_nil]

theorem fraction?_of_endsNumber (h : EndsNumber rest) : fraction? rest = some (none, rest) := by
  unfold fraction?
  split
  · exact absurd rfl h.2.1
  · rfl

theorem exponent?_of_endsNumber (h : EndsNumber rest) : exponent? rest = some (none, rest) := by
  cases rest with
  | nil => rfl
  | cons c cs =>
    obtain ⟨-, -, he, hE⟩ := h
    simp [exponent?, he, hE]

/-! ### Written numbers -/

theorem toDigits_append_ne {n : Nat} {cs : List Char} : Nat.toDigits 10 n ++ rest ≠ '-' :: cs := by
  intro heq
  obtain ⟨c, ds, hcs, hc⟩ := exists_toDigits_eq n
  rw [hcs, List.cons_append, List.cons.injEq] at heq
  rw [heq.1] at hc
  exact absurd hc (by decide)

/-- The digits of a number pass the check for a leading zero. -/
theorem isWhole_toDigits (n : Nat) : ((Nat.toDigits 10 n).isEmpty ||
    ((Nat.toDigits 10 n).head? == some '0' && (Nat.toDigits 10 n).length > 1)) = false := by
  rw [Bool.or_eq_false_iff, Bool.and_eq_false_imp, List.isEmpty_eq_false_iff]
  refine ⟨Nat.toDigits_ne_nil, fun hzero => ?_⟩
  rw [length_toDigits_of_head? (eq_of_beq hzero)]
  rfl

/-- A whole number is read up to its end. -/
theorem lexeme?_intText (n : Int) (h : EndsNumber rest) :
    lexeme? (intText n ++ rest) =
      some (⟨n < 0, Nat.toDigits 10 n.natAbs, none, none⟩, rest) := by
  have hdigits := digits_append (isDigit_of_mem_toDigits (n := n.natAbs)) h
  have hwhole := isWhole_toDigits n.natAbs
  rw [intText, toList_toString]
  by_cases hn : n < 0
  · rw [if_pos hn, List.cons_append, lexeme?, hdigits]
    simp [hn, hwhole, fraction?_of_endsNumber h, exponent?_of_endsNumber h]
  · rw [if_neg hn, lexeme?, hdigits]
    · simp [hn, hwhole, fraction?_of_endsNumber h, exponent?_of_endsNumber h]
    · exact fun _ => toDigits_append_ne

/-- A number of 64 bits keeps its value. It comes back without a sign if it is not below zero. -/
theorem datum_intText {n : Int} (h : isWritable n = true) :
    (Lexeme.mk (n < 0) (Nat.toDigits 10 n.natAbs) none none).datum = Datum.ofJson (.int n) := by
  rw [isWritable, Bool.and_eq_true, decide_eq_true_eq, decide_eq_true_eq] at h
  obtain ⟨hleast, hgreatest⟩ := h
  have hpow : Nat.pow 2 64 = 2 * Nat.pow 2 63 := rfl
  rw [Lexeme.datum, wholeValue_toDigits (by omega)]
  cases n with
  | ofNat k => simp [Datum.ofJson]
  | negSucc k =>
    have hsmall : k + 1 ≤ Nat.pow 2 63 := by omega
    have hsign : Int.negSucc k < 0 := Int.negSucc_lt_zero k
    have hvalue : -((k : Int) + 1) = Int.negSucc k := (Int.negSucc_eq k).symm
    simp [hsign, hsmall, hvalue, Datum.ofJson]

end Reader

end RelGraph.Json
