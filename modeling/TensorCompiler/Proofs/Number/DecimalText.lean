import Mathlib.Algebra.Order.Field.Rat
import Mathlib.Data.List.TakeWhile
import Mathlib.Tactic.FieldSimp
import Mathlib.Tactic.Linarith
import Mathlib.Tactic.NormNum
import Mathlib.Tactic.Positivity
import Mathlib.Tactic.Ring
import TensorCompiler.Number.Float

/-!
# Texts of decimals

The text of a decimal, positional or with a power of ten, is read back to the value of the decimal.
So decimals with one text have one value.
-/

namespace TensorCompiler.Number

/-- The value of a decimal: its digits with the point behind the first one, times a power of
ten. -/
def Decimal.value (d : Decimal) : ℚ :=
  d.digits * (10 : ℚ) ^ (d.exponent - numDigits d.digits + 1)

/-- The value of digits with at most one point among them. -/
def pointValue (cs : List Char) : ℚ :=
  Nat.ofDigitChars 10 (cs.filter Char.isDigit) 0 /
    (10 : ℚ) ^ ((cs.dropWhile (· != '.')).length - 1)

/-- The power of ten behind the digits. -/
def readExponent : List Char → ℤ
  | 'e' :: '-' :: ds => -(Nat.ofDigitChars 10 ds 0 : ℤ)
  | 'e' :: _ :: ds => Nat.ofDigitChars 10 ds 0
  | _ => 0

/-- The value that the text of a decimal stands for. -/
def readDecimal (cs : List Char) : ℚ :=
  pointValue (cs.takeWhile (· != 'e')) * (10 : ℚ) ^ readExponent (cs.dropWhile (· != 'e'))

/-! ### Digits -/

theorem isDigit_toDigits {n : Nat} : ∀ c ∈ Nat.toDigits 10 n, c.isDigit = true :=
  fun _ => Nat.isDigit_of_mem_toDigits (by decide) (by decide)

theorem isDigit_zeros {n : Nat} : ∀ c ∈ List.replicate n '0', c.isDigit = true := by
  intro c hc
  rw [List.eq_of_mem_replicate hc]
  decide

theorem ne_of_isDigit {c d : Char} (hc : c.isDigit = true) (hd : d.isDigit = false) :
    (c != d) = true := by
  rw [bne_iff_ne]
  rintro rfl
  rw [hc] at hd
  cases hd

/-- Digits before and behind the point are read as one number, divided by the power of ten that the
number of digits behind the point gives. -/
theorem pointValue_parts {whole frac : List Char} (hw : ∀ c ∈ whole, c.isDigit = true)
    (hf : ∀ c ∈ frac, c.isDigit = true) : pointValue (whole ++ fractionText frac) =
      Nat.ofDigitChars 10 (whole ++ frac) 0 / (10 : ℚ) ^ frac.length := by
  have skip : ∀ c ∈ whole, (c != '.') = true := fun c hc => ne_of_isDigit (hw c hc) (by decide)
  have all : ∀ c ∈ whole ++ frac, c.isDigit = true := by
    intro c hc
    rcases List.mem_append.mp hc with hc | hc
    · exact hw c hc
    · exact hf c hc
  have digits : (whole ++ fractionText frac).filter Char.isDigit = whole ++ frac := by
    rw [← List.filter_eq_self.mpr all, List.filter_append, List.filter_append]
    cases frac <;> simp [fractionText]
  have length : ((whole ++ fractionText frac).dropWhile (· != '.')).length - 1 = frac.length := by
    rw [List.dropWhile_append_of_pos skip]
    cases frac <;> simp [fractionText]
  rw [pointValue, digits, length]

/-- A text without a power of ten. -/
theorem readDecimal_positional {cs : List Char} (h : ∀ c ∈ cs, (c != 'e') = true) :
    readDecimal cs = pointValue cs := by
  have front : cs.takeWhile (· != 'e') = cs := List.takeWhile_eq_self_iff.mpr h
  have back : cs.dropWhile (· != 'e') = [] := List.dropWhile_eq_nil_iff.mpr h
  rw [readDecimal, front, back]
  simp [readExponent]

/-- A text with a power of ten. -/
theorem readDecimal_scientific {cs ds : List Char} (h : ∀ c ∈ cs, (c != 'e') = true) :
    readDecimal (cs ++ 'e' :: ds) = pointValue cs * (10 : ℚ) ^ readExponent ('e' :: ds) := by
  have front : (cs ++ 'e' :: ds).takeWhile (· != 'e') = cs := by
    rw [List.takeWhile_append_of_pos h]
    simp
  have back : (cs ++ 'e' :: ds).dropWhile (· != 'e') = 'e' :: ds := by
    rw [List.dropWhile_append_of_pos h]
    simp
  rw [readDecimal, front, back]

theorem ne_e_fractionText {whole frac : List Char} (hw : ∀ c ∈ whole, c.isDigit = true)
    (hf : ∀ c ∈ frac, c.isDigit = true) :
    ∀ c ∈ whole ++ fractionText frac, (c != 'e') = true := by
  intro c hc
  rcases List.mem_append.mp hc with hc | hc
  · exact ne_of_isDigit (hw c hc) (by decide)
  · cases frac with
    | nil => cases hc
    | cons d ds =>
        rcases List.mem_cons.mp hc with rfl | hc
        · decide
        · exact ne_of_isDigit (hf c hc) (by decide)

/-! ### Decimals -/

/-- The exponent is read back from its digits, padded or not. -/
theorem readExponent_padded (e : ℤ) :
    readExponent ('e' :: (if e < 0 then '-' else '+') :: paddedExponent e.natAbs) = e := by
  have padded : Nat.ofDigitChars 10 (paddedExponent e.natAbs) 0 = e.natAbs := by
    unfold paddedExponent
    split
    · rw [Nat.ofDigitChars_cons]
      exact Nat.ofDigitChars_ten_toDigits
    · exact Nat.ofDigitChars_ten_toDigits
  by_cases he : e < 0
  · simp only [he, if_true, readExponent, padded]
    omega
  · have plus : readExponent ('e' :: '+' :: paddedExponent e.natAbs) =
        Nat.ofDigitChars 10 (paddedExponent e.natAbs) 0 := by
      simp [readExponent]
    simp only [he, if_false, plus, padded]
    omega

/-- The text with a power of ten is read back. -/
theorem readDecimal_scientific_text (d : Decimal) : readDecimal d.scientific = d.value := by
  unfold Decimal.scientific
  cases hd : Nat.toDigits 10 d.digits with
  | nil => exact absurd hd Nat.toDigits_ne_nil
  | cons c rest =>
      have digits := isDigit_toDigits (n := d.digits)
      rw [hd] at digits
      have first : ∀ x ∈ [c], x.isDigit = true := fun x hx => digits x (by simp_all)
      have others : ∀ x ∈ rest, x.isDigit = true := fun x hx => digits x (by simp [hx])
      have shape : c :: fractionText rest ++ 'e' :: (if d.exponent < 0 then '-' else '+') ::
          paddedExponent d.exponent.natAbs = ([c] ++ fractionText rest) ++ 'e' ::
            (if d.exponent < 0 then '-' else '+') :: paddedExponent d.exponent.natAbs := rfl
      have number : Nat.ofDigitChars 10 ([c] ++ rest) 0 = d.digits := by
        rw [List.singleton_append, ← hd]
        exact Nat.ofDigitChars_ten_toDigits
      have count : (numDigits d.digits : ℤ) = rest.length + 1 := by
        rw [numDigits, hd]
        simp
      dsimp only
      rw [shape, readDecimal_scientific (ne_e_fractionText first others),
        pointValue_parts first others, number, readExponent_padded, Decimal.value, count]
      have power : d.exponent - ((rest.length : ℤ) + 1) + 1 = d.exponent - rest.length := by ring
      rw [power, zpow_sub₀ (by norm_num), zpow_natCast]
      ring

/-- The text with the digits at their places is read back. -/
theorem readDecimal_positional_text (d : Decimal) : readDecimal d.positional = d.value := by
  have digits := isDigit_toDigits (n := d.digits)
  have number : Nat.ofDigitChars 10 (Nat.toDigits 10 d.digits) 0 = d.digits :=
    Nat.ofDigitChars_ten_toDigits
  unfold Decimal.positional
  by_cases he : d.exponent < 0
  · cases hd : List.replicate (d.exponent.natAbs - 1) '0' ++ Nat.toDigits 10 d.digits with
    | nil => exact absurd (List.append_eq_nil_iff.mp hd).2 Nat.toDigits_ne_nil
    | cons c rest =>
        have frac : ∀ x ∈ c :: rest, x.isDigit = true := by
          rw [← hd]
          intro x hx
          rcases List.mem_append.mp hx with hx | hx
          · exact isDigit_zeros x hx
          · exact digits x hx
        have zero : ∀ x ∈ ['0'], x.isDigit = true := by
          intro x hx
          rw [List.mem_singleton.mp hx]
          rfl
        have shape : '0' :: '.' :: List.replicate (d.exponent.natAbs - 1) '0' ++
            Nat.toDigits 10 d.digits = ['0'] ++ fractionText (c :: rest) := by
          rw [List.cons_append, List.cons_append, hd]
          rfl
        have value : Nat.ofDigitChars 10 (['0'] ++ (c :: rest)) 0 = d.digits := by
          have lead : Nat.ofDigitChars 10 ['0'] 0 = 0 := by decide
          rw [← hd, Nat.ofDigitChars_append, Nat.ofDigitChars_append, lead,
            Nat.ofDigitChars_replicate_zero, Nat.mul_zero, number]
        have length : (c :: rest).length = d.exponent.natAbs - 1 + numDigits d.digits := by
          rw [← hd, List.length_append, List.length_replicate, numDigits]
        simp only [he, if_true, shape]
        rw [readDecimal_positional (ne_e_fractionText zero frac), pointValue_parts zero frac,
          value, length, Decimal.value, ← zpow_natCast, div_eq_mul_inv, ← zpow_neg]
        congr 2
        omega
  · have whole : ∀ x ∈ (Nat.toDigits 10 d.digits).take (d.exponent.toNat + 1) ++
        List.replicate (d.exponent.toNat + 1 - (Nat.toDigits 10 d.digits).length) '0',
        x.isDigit = true := by
      intro x hx
      rcases List.mem_append.mp hx with hx | hx
      · exact digits x (List.mem_of_mem_take hx)
      · exact isDigit_zeros x hx
    have frac : ∀ x ∈ (Nat.toDigits 10 d.digits).drop (d.exponent.toNat + 1), x.isDigit = true :=
      fun x hx => digits x (List.mem_of_mem_drop hx)
    simp only [he, if_false]
    rw [readDecimal_positional (ne_e_fractionText whole frac), pointValue_parts whole frac,
      Decimal.value, List.length_drop]
    by_cases short : (Nat.toDigits 10 d.digits).length ≤ d.exponent.toNat + 1
    · -- All digits stand before the point, with zeros behind them.
      have value : Nat.ofDigitChars 10 ((Nat.toDigits 10 d.digits).take (d.exponent.toNat + 1) ++
          List.replicate (d.exponent.toNat + 1 - (Nat.toDigits 10 d.digits).length) '0' ++
          (Nat.toDigits 10 d.digits).drop (d.exponent.toNat + 1)) 0 =
            10 ^ (d.exponent.toNat + 1 - (Nat.toDigits 10 d.digits).length) * d.digits := by
        rw [List.take_of_length_le short, List.drop_of_length_le short, List.append_nil,
          Nat.ofDigitChars_append, number, Nat.ofDigitChars_replicate_zero]
      rw [value, Nat.sub_eq_zero_of_le short, pow_zero, div_one, Nat.cast_mul, mul_comm,
        Nat.cast_pow, ← zpow_natCast]
      congr 2
      simp only [numDigits] at *
      omega
    · -- The point stands among the digits.
      have none : d.exponent.toNat + 1 - (Nat.toDigits 10 d.digits).length = 0 := by omega
      rw [none, List.replicate_zero, List.append_nil, List.take_append_drop, number,
        ← zpow_natCast, div_eq_mul_inv, ← zpow_neg]
      congr 2
      simp only [numDigits] at *
      omega

/-- The text of a decimal is read back. -/
theorem readDecimal_text (d : Decimal) : readDecimal d.text = d.value := by
  unfold Decimal.text
  split
  · exact readDecimal_scientific_text d
  · exact readDecimal_positional_text d

/-- The text of a decimal begins with a digit. -/
theorem text_head (d : Decimal) : ∃ c cs, d.text = c :: cs ∧ c.isDigit = true := by
  have digits := isDigit_toDigits (n := d.digits)
  cases hd : Nat.toDigits 10 d.digits with
  | nil => exact absurd hd Nat.toDigits_ne_nil
  | cons c rest =>
      rw [hd] at digits
      unfold Decimal.text
      split
      · unfold Decimal.scientific
        rw [hd]
        exact ⟨c, _, rfl, digits c (by simp)⟩
      · unfold Decimal.positional
        rw [hd]
        by_cases he : d.exponent < 0
        · simp only [he, if_true]
          exact ⟨'0', _, rfl, by decide⟩
        · simp only [he, if_false]
          exact ⟨c, _, rfl, digits c (by simp)⟩

end TensorCompiler.Number
