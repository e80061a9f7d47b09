import Mathlib.Data.Nat.Digits.Defs
import Mathlib.Tactic.Ring
import TensorCompiler.Duration.Basic
import TensorCompiler.Proofs.Text.Delimited

/-!
# Reading printed durations

The printed form of a duration is read as the duration. Fractions of a unit are scaled in rounded
arithmetic, but all numbers on the way are whole and below `2 ^ 53`, so that none is rounded.
-/

/-! ## Whole numbers in rounded arithmetic -/

namespace TensorCompiler.Number.Rounded

/-- A rounded number is a whole number, exactly. -/
structure Is (x : Rounded) (n : Nat) : Prop where
  scale : 0 ≤ x.scale
  mantissa : x.mantissa = n * 2 ^ x.scale.toNat

variable {x y : Rounded} {a b : Nat}

/-- The first digit of a multiple stands where the first digits of its factors lead it, or one place
further. -/
theorem log2_mul {a b : Nat} (ha : 0 < a) (hb : 0 < b) :
    (a * b).log2 = a.log2 + b.log2 ∨ (a * b).log2 = a.log2 + b.log2 + 1 := by
  have pos : 0 < a * b := Nat.mul_pos ha hb
  have lowA := Nat.log2_self_le (Nat.ne_of_gt ha)
  have lowB := Nat.log2_self_le (Nat.ne_of_gt hb)
  have highA : a < 2 ^ (a.log2 + 1) := Nat.lt_log2_self
  have highB : b < 2 ^ (b.log2 + 1) := Nat.lt_log2_self
  have low : a.log2 + b.log2 ≤ (a * b).log2 := by
    rw [Nat.le_log2 (Nat.ne_of_gt pos), Nat.pow_add]
    exact Nat.mul_le_mul lowA lowB
  have high : (a * b).log2 < a.log2 + b.log2 + 2 := by
    rw [Nat.log2_lt (Nat.ne_of_gt pos)]
    calc a * b < 2 ^ (a.log2 + 1) * 2 ^ (b.log2 + 1) := Nat.mul_lt_mul'' highA highB
      _ = 2 ^ (a.log2 + b.log2 + 2) := by rw [← Nat.pow_add]; congr 1; omega
  omega

/-- A whole quotient scaled by a power of two. -/
theorem scaled_whole (den : 0 < b) (k : Nat) :
    scaledNum (a * b) k / scaledDen b k = a * 2 ^ k := by
  have none : (-(k : Int)).toNat = 0 := by omega
  rw [scaledNum, scaledDen, none, Int.toNat_natCast]
  change a * b * 2 ^ k / (b * 1) = a * 2 ^ k
  rw [Nat.mul_one, Nat.mul_right_comm, Nat.mul_div_cancel _ den]

/-- A whole quotient is scaled so that its mantissa has 53 bits. -/
theorem scaleFor_whole (pos : 0 < a) (room : a < 2 ^ 53) (den : 0 < b) :
    scaleFor (a * b) b = 52 - (a.log2 : Int) := by
  have short : a.log2 < 53 := (Nat.log2_lt (Nat.ne_of_gt pos)).mpr room
  have low := Nat.log2_self_le (Nat.ne_of_gt pos)
  have high : a < 2 ^ (a.log2 + 1) := Nat.lt_log2_self
  unfold scaleFor
  dsimp only
  rcases log2_mul pos den with first | first
  · have scale : (52 : Int) - (((a * b).log2 : Int) - b.log2) = (52 - a.log2 : Nat) := by omega
    have full : 2 ^ 52 ≤ a * 2 ^ (52 - a.log2) := by
      calc 2 ^ 52 = 2 ^ a.log2 * 2 ^ (52 - a.log2) := by rw [← Nat.pow_add]; congr 1; omega
        _ ≤ a * 2 ^ (52 - a.log2) := Nat.mul_le_mul_right _ low
    rw [scale, scaled_whole den]
    change (if a * 2 ^ (52 - a.log2) < 2 ^ 52 then _ else _) = _
    rw [if_neg (Nat.not_lt.mpr full)]
    omega
  · rcases Nat.lt_or_ge a.log2 52 with below | above
    · have scale : (52 : Int) - (((a * b).log2 : Int) - b.log2) = (51 - a.log2 : Nat) := by omega
      have less : a * 2 ^ (51 - a.log2) < 2 ^ 52 := by
        calc a * 2 ^ (51 - a.log2) < 2 ^ (a.log2 + 1) * 2 ^ (51 - a.log2) :=
              Nat.mul_lt_mul_of_pos_right high (Nat.two_pow_pos _)
          _ = 2 ^ 52 := by rw [← Nat.pow_add]; congr 1; omega
      rw [scale, scaled_whole den]
      change (if a * 2 ^ (51 - a.log2) < 2 ^ 52 then _ else _) = _
      rw [if_pos less]
      omega
    · -- A number of 53 bits: half of it still has 52 bits in front of the point.
      have scale : (52 : Int) - (((a * b).log2 : Int) - b.log2) = -1 := by omega
      have half : a * b / (b * 2) = a / 2 := by
        rw [← Nat.div_div_eq_div_mul, Nat.mul_div_cancel _ den]
      rw [scale]
      change (if a * b * 1 / (b * 2) < 2 ^ 52 then _ else _) = _
      rw [Nat.mul_one, half, if_pos (by omega)]
      omega

/-- What is divided without rest is not rounded. -/
theorem nearestQuotient_whole (a : Nat) (den : 0 < b) : nearestQuotient (a * b) b = a := by
  unfold nearestQuotient
  dsimp only
  rw [Nat.mul_mod_left, Nat.mul_zero, if_pos den, Nat.mul_div_cancel _ den]

theorem is_ofQuotient (pos : 0 < a) (room : a < 2 ^ 53) (den : 0 < b) :
    Is (ofQuotient (a * b) b) a := by
  have short : a.log2 < 53 := (Nat.log2_lt (Nat.ne_of_gt pos)).mpr room
  obtain ⟨k, scale⟩ : ∃ k : Nat, scaleFor (a * b) b = k :=
    ⟨52 - a.log2, by rw [scaleFor_whole pos room den]; omega⟩
  have none : (-(k : Int)).toNat = 0 := by omega
  unfold ofQuotient
  dsimp only
  rw [scale]
  refine ⟨Int.natCast_nonneg k, ?_⟩
  dsimp only
  rw [scaledNum, scaledDen, none, Int.toNat_natCast]
  change nearestQuotient (a * b * 2 ^ k) (b * 1) = a * 2 ^ k
  rw [Nat.mul_one, Nat.mul_right_comm, nearestQuotient_whole _ den]

theorem is_ofNat (pos : 0 < a) (room : a < 2 ^ 53) : Is (ofQuotient a 1) a := by
  simpa using is_ofQuotient (b := 1) pos room Nat.one_pos

theorem Is.mul (hx : Is x a) (hy : Is y b) (pos : 0 < a * b) (room : a * b < 2 ^ 53) :
    Is (x.mul y) (a * b) := by
  have scale := hx.scale
  have scale' := hy.scale
  have none : (-(x.scale + y.scale)).toNat = 0 := by omega
  have sum : (x.scale + y.scale).toNat = x.scale.toNat + y.scale.toNat := by omega
  have product : x.mantissa * y.mantissa * Nat.pow 2 (-(x.scale + y.scale)).toNat =
      a * b * Nat.pow 2 (x.scale + y.scale).toNat := by
    rw [hx.mantissa, hy.mantissa, none, sum]
    change a * 2 ^ x.scale.toNat * (b * 2 ^ y.scale.toNat) * 1 =
      a * b * 2 ^ (x.scale.toNat + y.scale.toNat)
    rw [Nat.pow_add]
    ring
  unfold Rounded.mul
  dsimp only
  rw [product]
  exact is_ofQuotient pos room (Nat.two_pow_pos _)

theorem Is.div (hx : Is x (a * b)) (hy : Is y b) (pos : 0 < a) (room : a < 2 ^ 53)
    (den : 0 < b) : Is (x.div y) a := by
  have scale := hx.scale
  have scale' := hy.scale
  have same : x.scale.toNat + (-(x.scale - y.scale)).toNat =
      y.scale.toNat + (x.scale - y.scale).toNat := by omega
  have multiple : x.mantissa * Nat.pow 2 (-(x.scale - y.scale)).toNat =
      a * (y.mantissa * Nat.pow 2 (x.scale - y.scale).toNat) := by
    rw [hx.mantissa, hy.mantissa]
    calc a * b * 2 ^ x.scale.toNat * 2 ^ (-(x.scale - y.scale)).toNat
        = a * b * 2 ^ (x.scale.toNat + (-(x.scale - y.scale)).toNat) := by
          rw [Nat.pow_add, Nat.mul_assoc]
      _ = a * (b * 2 ^ y.scale.toNat * 2 ^ (x.scale - y.scale).toNat) := by
          rw [same, Nat.pow_add]
          ring
  unfold Rounded.div
  dsimp only
  rw [multiple]
  refine is_ofQuotient pos room (Nat.mul_pos ?_ (Nat.two_pow_pos _))
  rw [hy.mantissa]
  exact Nat.mul_pos den (Nat.two_pow_pos _)

theorem Is.floor_eq (h : Is x a) : x.floor = a := by
  have scale := h.scale
  have none : (-x.scale).toNat = 0 := by omega
  rw [floor, none, h.mantissa]
  change a * 2 ^ x.scale.toNat * 1 / 2 ^ x.scale.toNat = a
  rw [Nat.mul_one, Nat.mul_div_cancel _ (Nat.two_pow_pos _)]

end TensorCompiler.Number.Rounded

/-! ## Digits -/

namespace TensorCompiler.Duration

theorem isDigitChar_eq (c : Char) : isDigitChar c = c.isDigit := rfl

/-- Digits behind the point of a number of `n` parts of a unit, with `width` places in all. -/
structure IsFraction (width n : Nat) (ds : List Char) : Prop where
  digits : ∀ c ∈ ds, c.isDigit = true
  short : ds.length ≤ width
  value : Nat.ofDigitChars 10 ds 0 * 10 ^ (width - ds.length) = n

theorem isFraction_fractionDigits {width n : Nat} (h : n < 10 ^ width) :
    IsFraction width n (fractionDigits width n) := by
  induction width generalizing n with
  | zero =>
      obtain rfl : n = 0 := by omega
      exact ⟨by simp [fractionDigits], le_rfl, rfl⟩
  | succ width ih =>
      unfold fractionDigits
      split
      · have parts : n / 10 < 10 ^ width := by omega
        obtain ⟨digits, short, value⟩ := ih parts
        refine ⟨digits, by omega, ?_⟩
        have places : width + 1 - (fractionDigits width (n / 10)).length =
            width - (fractionDigits width (n / 10)).length + 1 := by omega
        rw [places, Nat.pow_succ, ← Nat.mul_assoc, value]
        omega
      · have short : (Nat.toDigits 10 n).length ≤ width + 1 :=
          (Nat.length_toDigits_le_iff (by decide) (Nat.succ_pos width)).mpr h
        refine ⟨?_, ?_, ?_⟩
        · intro c member
          rcases List.mem_append.mp member with zero | digit
          · rw [List.eq_of_mem_replicate zero]
            decide
          · exact Nat.isDigit_of_mem_toDigits (by decide) (by decide) digit
        · rw [List.length_append, List.length_replicate]
          omega
        · have whole : width + 1 - (List.replicate (width + 1 - (Nat.toDigits 10 n).length) '0' ++
              Nat.toDigits 10 n).length = 0 := by
            rw [List.length_append, List.length_replicate]
            omega
          rw [whole, Nat.ofDigitChars_append, Nat.ofDigitChars_replicate_zero, Nat.mul_zero,
            Nat.ofDigitChars_toDigits (by decide) (by decide), Nat.pow_zero, Nat.mul_one]

/-- Digits behind a point, which is left out if there are none. -/
def pointed (ds : List Char) : List Char :=
  if ds.isEmpty then [] else '.' :: ds

theorem toList_decimal (places n : Nat) :
    (decimal places n).toList = (Text.ofNat (n / 10 ^ places)).toList ++
      pointed (fractionDigits places (n % 10 ^ places)) := by
  unfold decimal pointed
  change (Text.ofNat (n / 10 ^ places) ++
    (if (fractionDigits places (n % 10 ^ places)).isEmpty then "" else _)).toList = _
  rw [String.toList_append]
  split
  · rfl
  · simp

/-! ## Numbers -/

theorem digitValue_lt {c : Char} (h : c.isDigit = true) : digitValue c < 10 := by
  have high : c.toNat ≤ 57 := (Char.isDigit_iff_toNat.mp h).2
  change c.toNat - 48 < 10
  omega

theorem le_ofDigitChars (ds : List Char) (n : Nat) : n ≤ Nat.ofDigitChars 10 ds n := by
  rw [Nat.ofDigitChars_eq_ofDigitChars_zero]
  exact (Nat.le_mul_of_pos_left n (Nat.pow_pos (by decide))).trans (Nat.le_add_right _ _)

/-- Digits are read as their number if it does not pass the limit. -/
theorem whole?_eq {ds : List Char} (fits : Nat.ofDigitChars 10 ds 0 ≤ limit) :
    whole? ds = some (Nat.ofDigitChars 10 ds 0) := by
  unfold whole?
  generalize 0 = n at fits ⊢
  induction ds generalizing n with
  | nil => rfl
  | cons c ds ih =>
      rw [Nat.ofDigitChars_cons] at fits ⊢
      have next : 10 * n + digitValue c ≤ limit := (le_ofDigitChars ds _).trans fits
      have small : ¬n > limit / 10 := by omega
      rw [List.foldlM_cons, if_neg small]
      dsimp only
      rw [if_neg (Nat.not_lt.mpr next)]
      exact ih _ fits

/-- A few digits of a fraction are kept, and so is the power of ten they are divided by. -/
theorem fraction_exact {ds : List Char} {value places : Nat} {power : Number.Rounded}
    (digits : ∀ c ∈ ds, c.isDigit = true) (start : power.Is (10 ^ places))
    (below : value < 10 ^ places) (short : places + ds.length ≤ 9) :
    ∃ last, fraction value power ds = (Nat.ofDigitChars 10 ds value, last) ∧
      last.Is (10 ^ (places + ds.length)) := by
  induction ds generalizing value places power with
  | nil => exact ⟨power, rfl, start⟩
  | cons c ds ih =>
      obtain ⟨first, others⟩ := List.forall_mem_cons.mp digits
      rw [List.length_cons] at short
      have digit := digitValue_lt first
      -- Digits are dropped from nineteen places on, and here are nine at most.
      have room : (10 : Nat) ^ places ≤ 10 ^ 8 := Nat.pow_le_pow_right (by decide) (by omega)
      have kept : ¬(value > (limit - 1) / 10 ∨ 10 * value + digitValue c > limit) := by
        unfold limit
        omega
      have ten : Duration.ten.Is 10 := Number.Rounded.is_ofNat (by decide) (by decide)
      have power : (power.mul Duration.ten).Is (10 ^ (places + 1)) :=
        start.mul ten (by positivity) (by omega)
      have next : 10 * value + digitValue c < 10 ^ (places + 1) := by
        rw [Nat.pow_succ]
        omega
      obtain ⟨last, read, exact⟩ := ih others power next (by omega)
      refine ⟨last, ?_, ?_⟩
      · rw [fraction, if_neg (by simpa using kept), read, Nat.ofDigitChars_cons]
        rfl
      · rw [List.length_cons]
        rwa [Nat.add_right_comm, Nat.add_assoc] at exact

/-- Digits behind the point give back the parts they were written for. -/
theorem fractionOf_fraction {places n : Nat} {ds : List Char} (h : IsFraction places n ds)
    (parts : n < 10 ^ places) (short : places ≤ 9) :
    fractionOf (fraction 0 one ds).1 (fraction 0 one ds).2 (10 ^ places) = n := by
  have start : one.Is (10 ^ 0) := Number.Rounded.is_ofNat (by decide) (by decide)
  have fits := h.short
  obtain ⟨last, read, power⟩ := fraction_exact h.digits start Nat.one_pos (by omega)
  rw [Nat.zero_add] at power
  rw [read]
  dsimp only
  unfold fractionOf
  have small : (10 : Nat) ^ places ≤ 10 ^ 9 := Nat.pow_le_pow_right (by decide) short
  split
  · rename_i none
    rw [← h.value, none, Nat.zero_mul]
  · -- What is multiplied by is a power of ten again: that of the places that were left out.
    rename_i some
    have positive : 0 < Nat.ofDigitChars 10 ds 0 := Nat.pos_of_ne_zero some
    have scale : 0 < 10 ^ (places - ds.length) := Nat.pow_pos (by decide)
    have below : Nat.ofDigitChars 10 ds 0 ≤ n := h.value ▸ Nat.le_mul_of_pos_right _ scale
    have less : 10 ^ (places - ds.length) ≤ 10 ^ 9 :=
      Nat.pow_le_pow_right (by decide) (by omega)
    have unit : (Number.Rounded.ofQuotient (10 ^ places) 1).Is
        (10 ^ (places - ds.length) * 10 ^ ds.length) := by
      rw [← Nat.pow_add, Nat.sub_add_cancel h.short]
      exact Number.Rounded.is_ofNat (by positivity) (by omega)
    have step := unit.div power scale (by omega) (by positivity)
    have value : (Number.Rounded.ofQuotient (Nat.ofDigitChars 10 ds 0) 1).Is
        (Nat.ofDigitChars 10 ds 0) := Number.Rounded.is_ofNat positive (by omega)
    have product := value.mul step (Nat.mul_pos positive scale) (by rw [h.value]; omega)
    dsimp only
    rw [product.floor_eq, h.value]

/-! ## Numbers with units -/

/-- A unit with the nanoseconds it has. -/
structure IsUnit (unit : List Char) (size : Nat) : Prop where
  known : units.find? (·.1 == String.ofList unit) = some (String.ofList unit, size)
  plain : ∀ c ∈ unit, isUnitChar c = true
  nonempty : unit ≠ []
  positive : 0 < size

theorem not_digit_of_unit {c : Char} (h : isUnitChar c = true) : isDigitChar c = false := by
  simp only [isUnitChar, Bool.not_eq_true', Bool.or_eq_false_iff] at h
  exact h.2

theorem takePointed_append {ds r : List Char} (digits : ∀ c ∈ ds, c.isDigit = true)
    (behind : ∀ c ∈ r.head?, isUnitChar c = true) : takePointed (pointed ds ++ r) = (ds, r) := by
  cases ds with
  | nil =>
      change takePointed r = ([], r)
      unfold takePointed
      split
      · exact absurd (behind '.' rfl) (by decide)
      · rfl
  | cons d ds =>
      have run := Text.run_ends (p := isDigitChar) (r := r) digits
        fun c head => not_digit_of_unit (behind c head)
      change ((d :: ds ++ r).takeWhile isDigitChar, (d :: ds ++ r).dropWhile isDigitChar) = _
      rw [run.1, run.2]

/-- The numeral in front of what is no digit. -/
theorem whole?_ofNat {n : Nat} (fits : n ≤ limit) : whole? (Text.ofNat n).toList = some n := by
  have value : Nat.ofDigitChars 10 (Text.ofNat n).toList 0 = n := by
    rw [Text.ofNat, String.toList_ofList, Nat.ofDigitChars_toDigits (by decide) (by decide)]
  rw [whole?_eq (by rwa [value]), value]

theorem isUnit_of_mem {p : String × Nat} (h : p ∈ units) : IsUnit p.1.toList p.2 := by
  have known : ∀ p ∈ units, units.find? (·.1 == String.ofList p.1.toList) =
      some (String.ofList p.1.toList, p.2) := by decide
  have plain : ∀ p ∈ units, p.1.toList.all isUnitChar = true := by decide
  have nonempty : ∀ p ∈ units, p.1.toList ≠ [] := by decide
  have positive : ∀ p ∈ units, 0 < p.2 := by decide
  exact ⟨known p h, List.all_eq_true.mp (plain p h), nonempty p h, positive p h⟩

/-- A number of a unit is read in front of digits. -/
theorem readPart_eq {text : String} {q v size : Nat} {ds unit rest : List Char}
    (h : IsUnit unit size) (digits : ∀ c ∈ ds, c.isDigit = true)
    (behind : ∀ c ∈ rest.head?, c.isDigit = true)
    (scaled : fractionOf (fraction 0 one ds).1 (fraction 0 one ds).2 size = v)
    (fits : q * size + v ≤ limit) :
    readPart text ((Text.ofNat q).toList ++ (pointed ds ++ (unit ++ rest))) =
      .ok (q * size + v, rest) := by
  obtain ⟨known, plain, nonempty, positive⟩ := h
  have begins : ∀ c ∈ (unit ++ rest).head?, isUnitChar c = true := by
    obtain ⟨u, us, rfl⟩ := List.exists_cons_of_ne_nil nonempty
    intro c head
    cases head
    exact plain u List.mem_cons_self
  have numeral : ∀ c ∈ (Text.ofNat q).toList, isDigitChar c = true :=
    fun _ => Text.isDigit_of_mem_ofNat
  have number := Text.run_ends (r := pointed ds ++ (unit ++ rest)) numeral (by
      intro c head
      cases ds with
      | nil => exact not_digit_of_unit (begins c head)
      | cons d ds =>
          cases head
          rfl)
  have run := Text.run_ends (p := isUnitChar) (r := rest) plain (by
    intro c head
    rw [isUnitChar, isDigitChar_eq, behind c head, Bool.or_true, Bool.not_true])
  have low : q ≤ limit := by
    have := Nat.le_mul_of_pos_right q positive
    omega
  have few : ¬(q > limit / size ∨ q * size + v > limit) := by
    have := (Nat.le_div_iff_mul_le positive).mpr (show q * size ≤ limit by omega)
    omega
  have digit : ((Text.ofNat q).toList.isEmpty && ds.isEmpty) = false := by
    simp [Text.ofNat]
  unfold readPart
  dsimp only
  rw [number.1, number.2, takePointed_append digits begins, whole?_ofNat low]
  dsimp only
  rw [run.1, digit, if_neg Bool.false_ne_true, if_neg (by simpa using nonempty), known]
  dsimp only
  rw [scaled, if_neg (by simpa using few), List.drop_left]

/-- A text is read as a sum of parts. -/
def Sums (cs : List Char) (n : Nat) : Prop :=
  ∀ text sum parts, sum + n ≤ limit → cs.length ≤ parts →
    readParts text sum parts cs = .ok (sum + n)

theorem sums_nil : Sums [] 0 := by
  intro text sum parts fits room
  cases parts <;> rfl

/-- A number that is read counts with what follows it. -/
theorem Sums.of_readPart {cs rest : List Char} {n m : Nat}
    (read : ∀ text, readPart text cs = .ok (n, rest)) (digit : ∃ c ∈ cs.head?, c.isDigit = true)
    (shorter : rest.length < cs.length) (h : Sums rest m) : Sums cs (n + m) := by
  intro text sum parts fits room
  obtain ⟨c, head, digit⟩ := digit
  cases cs with
  | nil => cases head
  | cons d cs =>
      obtain rfl : d = c := by simpa using head
      cases parts with
      | zero => cases room
      | succ parts =>
          have positive : 0 < limit := by decide
          have total : (sum + n) % (2 * limit) = sum + n := Nat.mod_eq_of_lt (by omega)
          have first : (!(d == '.' || isDigitChar d)) = false := by
            rw [isDigitChar_eq, digit, Bool.or_true, Bool.not_true]
          have small : ¬sum + n > limit := by omega
          rw [List.length_cons] at shorter room
          rw [readParts, first, if_neg Bool.false_ne_true, read]
          dsimp only
          rw [total, if_neg small, h text (sum + n) parts (by omega) (by omega), Nat.add_assoc]

/-- A numeral begins with a digit. -/
theorem head_ofNat (n : Nat) (r : List Char) :
    ∃ c, ((Text.ofNat n).toList ++ r).head? = some c ∧ c.isDigit = true := by
  cases digits : (Text.ofNat n).toList with
  | nil => simp [Text.ofNat] at digits
  | cons c cs => exact ⟨c, rfl, Text.isDigit_of_mem_ofNat (n := n) (by simp [digits])⟩

theorem head_isDigit (n : Nat) (r : List Char) :
    ∀ c ∈ ((Text.ofNat n).toList ++ r).head?, c.isDigit = true := by
  obtain ⟨d, head, digit⟩ := head_ofNat n r
  intro c member
  rw [head] at member
  cases member
  exact digit

section

variable {q v m size : Nat} {ds unit rest : List Char}

/-- A number of a unit counts with what follows it. -/
theorem sums_number (h : IsUnit unit size) (digits : ∀ c ∈ ds, c.isDigit = true)
    (behind : ∀ c ∈ rest.head?, c.isDigit = true)
    (scaled : fractionOf (fraction 0 one ds).1 (fraction 0 one ds).2 size = v)
    (fits : q * size + v ≤ limit) (others : Sums rest m) :
    Sums ((Text.ofNat q).toList ++ (pointed ds ++ (unit ++ rest))) (q * size + v + m) := by
  refine .of_readPart (fun text => readPart_eq h digits behind scaled fits) (head_ofNat q _) ?_
    others
  have some : 0 < unit.length := List.length_pos_iff.mpr h.nonempty
  simp only [List.length_append]
  omega

/-- A whole number of a unit. -/
theorem sums_whole (h : IsUnit unit size) (behind : ∀ c ∈ rest.head?, c.isDigit = true)
    (fits : q * size ≤ limit) (others : Sums rest m) :
    Sums ((Text.ofNat q).toList ++ (unit ++ rest)) (q * size + m) := by
  have none : ∀ c ∈ ([] : List Char), c.isDigit = true := by simp
  exact sums_number h none behind rfl fits others

/-- A number of parts of a unit. -/
theorem sums_decimal {places n : Nat} (h : IsUnit unit (10 ^ places)) (short : places ≤ 9)
    (fits : n ≤ limit) : Sums ((decimal places n).toList ++ unit) n := by
  have parts : n % 10 ^ places < 10 ^ places := Nat.mod_lt n h.positive
  have digits := isFraction_fractionDigits parts
  have number : n / 10 ^ places * 10 ^ places + n % 10 ^ places = n := Nat.div_add_mod' n _
  have last : ∀ c ∈ ([] : List Char).head?, c.isDigit = true := by simp
  have sums := sums_number (q := n / 10 ^ places) h digits.digits last
    (fractionOf_fraction digits parts short) (by omega) sums_nil
  rwa [number, Nat.add_zero, List.append_nil, ← List.append_assoc, ← toList_decimal] at sums

end

/-! ## Durations -/

/-- Hours and minutes are left out where there are none, and seconds never. -/
theorem sums_clock {n : Nat} (fits : n ≤ limit) :
    Sums ((if n / 60000000000 / 60 = 0 then "" else Text.ofNat (n / 60000000000 / 60) ++ "h") ++
      (if n / 60000000000 = 0 then "" else Text.ofNat (n / 60000000000 % 60) ++ "m") ++
      decimal 9 (n % 60000000000) ++ "s").toList n := by
  have second : IsUnit "s".toList (10 ^ 9) := isUnit_of_mem (p := ("s", 1000000000)) (by decide)
  have minute : IsUnit "m".toList 60000000000 := isUnit_of_mem (p := ("m", _)) (by decide)
  have hour : IsUnit "h".toList 3600000000000 := isUnit_of_mem (p := ("h", _)) (by decide)
  generalize minutes : n / 60000000000 = q
  generalize last : n % 60000000000 = r
  have total : n = q * 60000000000 + r := by omega
  have seconds := sums_decimal (n := r) second (by decide) (by omega)
  have digit : ∀ c ∈ ((decimal 9 r).toList ++ "s".toList).head?, c.isDigit = true := by
    rw [toList_decimal, List.append_assoc]
    exact head_isDigit _ _
  rcases Nat.eq_zero_or_pos q with rfl | some
  · rw [total]
    simpa using seconds
  · -- Hours are written in front of minutes only.
    have behind := sums_whole (q := q % 60) minute digit (by omega) seconds
    rw [if_neg (Nat.ne_of_gt some)]
    rcases Nat.eq_zero_or_pos (q / 60) with none | more
    · have few : q % 60 = q := by omega
      rw [few, ← total] at behind
      rw [if_pos none, few]
      simpa using behind
    · have all := sums_whole (q := q / 60) hour (head_isDigit _ _) (by omega) behind
      have sum : q / 60 * 3600000000000 + (q % 60 * 60000000000 + r) = n := by omega
      rw [sum] at all
      rw [if_neg (Nat.ne_of_gt more)]
      simpa using all

/-- The printed form of nanoseconds sums up to them. -/
theorem sums_magnitudeText {n : Nat} (pos : 0 < n) (fits : n ≤ limit) :
    Sums (magnitudeText n).toList n := by
  have nano : IsUnit "ns".toList 1 := isUnit_of_mem (p := ("ns", _)) (by decide)
  have micro : IsUnit "µs".toList (10 ^ 3) := isUnit_of_mem (p := ("µs", 1000)) (by decide)
  have milli : IsUnit "ms".toList (10 ^ 6) := isUnit_of_mem (p := ("ms", 1000000)) (by decide)
  unfold magnitudeText
  rw [if_neg (Nat.ne_of_gt pos)]
  split
  · have last : ∀ c ∈ ([] : List Char).head?, c.isDigit = true := by simp
    have sums := sums_whole (q := n) nano last (by omega) sums_nil
    simpa using sums
  · split
    · rw [String.toList_append]
      exact sums_decimal micro (by decide) fits
    · split
      · rw [String.toList_append]
        exact sums_decimal milli (by decide) fits
      · exact sums_clock fits

/-- A text that sums up to a positive number has no sign and is not the number zero. -/
theorem Sums.begins {cs : List Char} {n : Nat} (h : Sums cs n) (pos : 0 < n) (fits : n ≤ limit) :
    cs ≠ [] ∧ cs ≠ ['0'] ∧ ∀ r, cs ≠ '-' :: r ∧ cs ≠ '+' :: r := by
  have read := h "" 0 cs.length (by omega) le_rfl
  refine ⟨?_, ?_, fun r => ⟨?_, ?_⟩⟩
  · rintro rfl
    have none : 0 = 0 + n := Except.ok.inj read
    omega
  all_goals
    rintro rfl
    cases read

/-- The printed form of a positive duration is read as the duration. -/
theorem read_text {d : Duration} (pos : 0 < d.nanoseconds) (fits : d.nanoseconds < limit) :
    read d.text = .ok d := by
  obtain ⟨n⟩ := d
  obtain ⟨n, rfl⟩ := Int.eq_ofNat_of_zero_le (le_of_lt pos)
  dsimp only at pos fits
  have text : (Duration.mk n).text = magnitudeText n := by
    have unsigned : ¬(n : Int) < 0 := by omega
    rw [Duration.text, if_neg unsigned, Int.natAbs_natCast, String.empty_append]
  have sums := sums_magnitudeText (n := n) (by omega) (by omega)
  obtain ⟨nonempty, nonzero, unsigned⟩ := sums.begins (by omega) (by omega)
  have whole := sums (magnitudeText n) 0 _ (by omega) le_rfl
  -- Without a sign the number must stay below the limit.
  have below : ¬0 + n = limit := by omega
  rw [text]
  unfold read
  split
  rename_i negative cs start
  have start : negative = false ∧ cs = (magnitudeText n).toList := by
    split at start
    · exact absurd ‹_› (unsigned _).1
    · exact absurd ‹_› (unsigned _).2
    · exact ⟨(Prod.mk.inj start).1.symm, (Prod.mk.inj start).2.symm⟩
  obtain ⟨rfl, rfl⟩ := start
  split
  · exact absurd ‹_› nonzero
  · exact absurd ‹_› nonempty
  · rw [whole]
    dsimp only
    rw [if_neg Bool.false_ne_true, if_neg below, Nat.zero_add]

end TensorCompiler.Duration
