import Mathlib.Algebra.Order.Field.Power
import TensorCompiler.Proofs.Number.DecimalText

/-!
# The shortest decimal reads back

The decimal that is found for a number lies in the rounding interval of the number: on the grid of
seventeen digits the interval is longer than the distance of two grid points. The rounding
intervals of two numbers of one format have no point in common, since of two neighbours at most one
has an even mantissa. So the shortest decimal determines the number.
-/

namespace TensorCompiler.Number

/-- A power as a quotient of natural numbers, one of which is one. -/
theorem pow_toNat_div (b : ℚ) (z : ℤ) :
    b ^ z.toNat / b ^ (-z).toNat = b ^ z := by
  rcases Int.le_total 0 z with h | h
  · have zero : (-z).toNat = 0 := by omega
    rw [zero, pow_zero, div_one, ← zpow_natCast, Int.toNat_of_nonneg h]
  · have zero : z.toNat = 0 := by omega
    rw [zero, pow_zero, one_div, ← zpow_natCast, Int.toNat_of_nonneg (by omega), zpow_neg,
      inv_inv]

theorem two_pow_le_ten_pow {m n : Nat} (h : m ≤ 3 * n) : 2 ^ m ≤ 10 ^ n :=
  calc 2 ^ m ≤ 2 ^ (3 * n) := Nat.pow_le_pow_right (by decide) h
    _ = (2 ^ 3) ^ n := Nat.pow_mul 2 3 n
    _ ≤ 10 ^ n := Nat.pow_le_pow_left (by decide) n

/-! ### Decimals of the grid -/

namespace Shortest

/-- A trailing zero less is a digit less. -/
theorem numDigits_of_mod {d : Nat} (hd : d ≠ 0) (hm : d % 10 = 0) :
    numDigits d = numDigits (d / 10) + 1 := by
  have positive : 0 < d / 10 := by omega
  have split := Nat.toDigits_append_toDigits (b := 10) (by decide) positive
    (by decide : 0 < 10)
  rw [Nat.add_zero, show 10 * (d / 10) = d by omega] at split
  rw [numDigits, ← split]
  simp [numDigits]

/-- Removing trailing zeros does not change the value. -/
theorem value_dropZeros (bound d : Nat) (k : ℤ) :
    (dropZeros bound d : ℚ) * (10 : ℚ) ^ (k + numDigits d - numDigits (dropZeros bound d)) =
      d * (10 : ℚ) ^ k := by
  induction bound generalizing d k with
  | zero => simp [dropZeros]
  | succ bound ih =>
      unfold dropZeros
      split
      · rename_i h
        have next := ih (d / 10) (k + 1)
        rw [numDigits_of_mod h.1 h.2]
        have tenfold : (d : ℚ) = 10 * (d / 10 : ℕ) := by
          exact_mod_cast (show d = 10 * (d / 10) by omega)
        have shift : k + ((numDigits (d / 10) + 1 : ℕ) : ℤ) -
            numDigits (dropZeros bound (d / 10)) = k + 1 + numDigits (d / 10) -
              numDigits (dropZeros bound (d / 10)) := by
          push_cast
          ring
        rw [shift, next, tenfold, zpow_add₀ (by norm_num), zpow_one]
        ring
      · simp

/-- The value of a decimal of the grid. -/
theorem value_decimal (d : Nat) (k : ℤ) : (decimal d k).value = d * (10 : ℚ) ^ k := by
  have drop := value_dropZeros 20 d k
  simp only [decimal, Decimal.value]
  rw [← drop]
  congr 2
  ring

/-! ### Rounding intervals -/

/-- A point of an interval. -/
def Interval.Contains (i : Interval) (v : ℚ) : Prop :=
  (i.low : ℚ) / i.den ≤ v ∧ v ≤ i.high / i.den ∧
    (i.closed = false → (i.low : ℚ) / i.den < v ∧ v < i.high / i.den)

/-- An interval with its number inside and a denominator. -/
structure Interval.Proper (i : Interval) : Prop where
  den : 0 < i.den
  low : i.low < i.value
  high : i.value < i.high

theorem Interval.Proper.scaled {i : Interval} (h : i.Proper) (k : ℤ) : (i.scaled k).Proper := by
  have up : 0 < Nat.pow 10 (-k).toNat := Nat.pow_pos (by decide)
  exact ⟨Nat.mul_pos h.den (Nat.pow_pos (by decide)), Nat.mul_lt_mul_of_pos_right h.low up,
    Nat.mul_lt_mul_of_pos_right h.high up⟩

/-- Scaling divides by a power of ten. -/
theorem scaled_quotient (n den : Nat) (k : ℤ) :
    ((n * Nat.pow 10 (-k).toNat : ℕ) : ℚ) / ((den * Nat.pow 10 k.toNat : ℕ) : ℚ) =
      n / den / (10 : ℚ) ^ k := by
  have power := pow_toNat_div 10 k
  rw [← power]
  simp only [Nat.pow_eq, Nat.cast_mul, Nat.cast_pow, Nat.cast_ofNat]
  rw [div_div_div_eq]

/-- A grid point lies in the scaled interval if the decimal lies in the interval. -/
theorem contains_of_holds {i : Interval} (h : i.Proper) {k : ℤ} {d : Nat}
    (hd : (i.scaled k).holds d = true) : i.Contains (d * (10 : ℚ) ^ k) := by
  have den : (0 : ℚ) < (i.scaled k).den := by exact_mod_cast (h.scaled k).den
  have power : (0 : ℚ) < (10 : ℚ) ^ k := zpow_pos (by norm_num) k
  have low : (i.low : ℚ) / i.den = (i.scaled k).low / (i.scaled k).den * (10 : ℚ) ^ k := by
    have := scaled_quotient i.low i.den k
    simp only [Interval.scaled]
    rw [this, div_mul_cancel₀ _ power.ne']
  have high : (i.high : ℚ) / i.den = (i.scaled k).high / (i.scaled k).den * (10 : ℚ) ^ k := by
    have := scaled_quotient i.high i.den k
    simp only [Interval.scaled]
    rw [this, div_mul_cancel₀ _ power.ne']
  rw [Interval.Contains, low, high]
  unfold Interval.holds at hd
  have closed : (i.scaled k).closed = i.closed := rfl
  split at hd
  · rename_i hc
    simp only [Bool.and_eq_true, decide_eq_true_eq] at hd
    have h₁ : ((i.scaled k).low : ℚ) ≤ d * (i.scaled k).den := by exact_mod_cast hd.1
    have h₂ : (d : ℚ) * (i.scaled k).den ≤ (i.scaled k).high := by exact_mod_cast hd.2
    refine ⟨?_, ?_, ?_⟩
    · exact mul_le_mul_of_nonneg_right ((div_le_iff₀ den).mpr h₁) power.le
    · exact mul_le_mul_of_nonneg_right ((le_div_iff₀ den).mpr h₂) power.le
    · intro hopen
      rw [closed, hopen] at hc
      cases hc
  · simp only [Bool.and_eq_true, decide_eq_true_eq] at hd
    have h₁ : ((i.scaled k).low : ℚ) < d * (i.scaled k).den := by exact_mod_cast hd.1
    have h₂ : (d : ℚ) * (i.scaled k).den < (i.scaled k).high := by exact_mod_cast hd.2
    have left := mul_lt_mul_of_pos_right ((div_lt_iff₀ den).mpr h₁) power
    have right := mul_lt_mul_of_pos_right ((lt_div_iff₀ den).mpr h₂) power
    exact ⟨left.le, right.le, fun _ => ⟨left, right⟩⟩

/-- A grid point that is picked lies in the interval. -/
theorem holds_of_pick? {i : Interval} {d : Nat} (h : i.pick? = some d) : i.holds d = true := by
  unfold Interval.pick? at h
  dsimp only at h
  split at h
  · rename_i h₁ h₂
    cases h
    unfold Interval.nearest
    split
    · exact h₁
    · split
      · exact h₂
      · split
        · exact h₁
        · exact h₂
  · cases h
    assumption
  · cases h
    assumption
  · cases h

/-- An interval longer than the distance of two grid points contains one. -/
theorem pick?_isSome {i : Interval} (h : i.Proper) (wide : i.den + i.low < i.high) :
    i.pick?.isSome = true := by
  have below : i.value / i.den * i.den ≤ i.value := Nat.div_mul_le_self _ _
  have above : i.value < (i.value / i.den + 1) * i.den := by
    rw [Nat.mul_comm]
    exact Nat.lt_mul_div_succ _ h.den
  have step : (i.value / i.den + 1) * i.den = i.value / i.den * i.den + i.den := by ring
  have low := h.low
  have high := h.high
  have found : i.holds (i.value / i.den) = true ∨ i.holds (i.value / i.den + 1) = true := by
    unfold Interval.holds
    split
    · simp only [Bool.and_eq_true, decide_eq_true_eq]
      omega
    · simp only [Bool.and_eq_true, decide_eq_true_eq]
      omega
  unfold Interval.pick?
  dsimp only
  rcases found with found | found <;> rw [found]
  · cases i.holds (i.value / i.den + 1) <;> rfl
  · cases i.holds (i.value / i.den) <;> rfl

/-- The search ends on a grid point in the interval if one of the grids it tries has one. -/
theorem search_contains {i : Interval} (h : i.Proper) (first : ℤ) {bound n : Nat} (last : Nat)
    (hlast : n ≤ last ∧ last < n + bound)
    (some : (i.scaled (first - (last : ℤ) + 1)).pick?.isSome = true) :
    i.Contains (search i first bound n).value := by
  induction bound generalizing n with
  | zero => omega
  | succ bound ih =>
      unfold search
      dsimp only
      cases hp : (i.scaled (first - (n : ℤ) + 1)).pick? with
      | some d =>
          dsimp only
          rw [value_decimal]
          exact contains_of_holds h (holds_of_pick? hp)
      | none =>
          dsimp only
          refine ih ⟨?_, by omega⟩
          rcases Nat.lt_or_ge n last with hn | hn
          · exact hn
          · obtain rfl : n = last := by omega
            rw [hp] at some
            cases some

/-! ### The first digit -/

/-- A number below one has the power of ten of its first digit, unless it is too small. -/
theorem le_leadingZeros {num den bound : Nat} (h : den ≤ num * 10 ^ bound) :
    den ≤ num * 10 ^ leadingZeros num den bound := by
  induction bound generalizing num with
  | zero => simpa [leadingZeros] using h
  | succ bound ih =>
      unfold leadingZeros
      split
      · simpa
      · have next : den ≤ 10 * num * 10 ^ bound := by
          rw [Nat.mul_comm 10 num, Nat.mul_assoc, ← Nat.pow_succ']
          exact h
        rw [Nat.pow_succ', ← Nat.mul_assoc, Nat.mul_comm num 10]
        exact ih next

/-- A number reaches the power of ten of its first digit. -/
theorem firstExponent_le {num den : Nat} (hden : 0 < den) (h : den ≤ num * 10 ^ 400) :
    (10 : ℚ) ^ firstExponent num den ≤ num / den := by
  have hden' : (0 : ℚ) < den := by exact_mod_cast hden
  rw [le_div_iff₀ hden']
  unfold firstExponent
  split
  · rename_i whole
    have positive : 0 < num / den := Nat.div_pos whole hden
    have digits : 1 ≤ numDigits (num / den) := Nat.length_toDigits_pos
    have reach : 10 ^ (numDigits (num / den) - 1) ≤ num / den := by
      by_contra small
      rcases Nat.eq_zero_or_pos (numDigits (num / den) - 1) with zero | pos
      · rw [zero] at small
        omega
      · have := (Nat.length_toDigits_le_iff (b := 10) (n := num / den) (by decide) pos).mpr
          (by omega)
        rw [numDigits] at this pos
        omega
    have total : 10 ^ (numDigits (num / den) - 1) * den ≤ num :=
      (Nat.mul_le_mul_right den reach).trans (Nat.div_mul_le_self num den)
    have power : (numDigits (num / den) : ℤ) - 1 = ((numDigits (num / den) - 1 : ℕ) : ℤ) := by
      omega
    rw [power, zpow_natCast]
    exact_mod_cast total
  · have reach := le_leadingZeros h
    rw [zpow_neg, zpow_natCast, inv_mul_le_iff₀ (by positivity), mul_comm]
    exact_mod_cast reach

end Shortest

/-! ### Numbers of a format -/

/-- A positive finite number of a format. -/
structure Dyadic.InFormat (f : BinaryFormat) (x : Dyadic) : Prop where
  pos : 0 < x.mantissa
  lt : x.mantissa < 2 ^ (f.fractionBits + 1)
  least : f.leastPower ≤ x.exponent
  normal : f.leastPower < x.exponent → 2 ^ f.fractionBits ≤ x.mantissa
  close : x.closeBelow = true ↔ x.mantissa = 2 ^ f.fractionBits ∧ f.leastPower < x.exponent

/-- A format that seventeen digits are enough for. -/
structure BinaryFormat.Small (f : BinaryFormat) : Prop where
  fraction : f.fractionBits ≤ 52
  least : -1074 ≤ f.leastPower

namespace Dyadic

variable {f : BinaryFormat} {x y : Dyadic}

/-- How far the interval reaches below the number, in quarters of the unit of its mantissa. -/
def below (x : Dyadic) : Nat :=
  if x.closeBelow then 1 else 2

theorem below_le (x : Dyadic) : x.below ≤ 2 := by
  unfold below
  split <;> decide

/-- The ends of the rounding interval. -/
theorem interval_ends (x : Dyadic) (pos : 0 < x.mantissa) :
    ((Shortest.interval x).low : ℚ) / (Shortest.interval x).den =
        (4 * x.mantissa - x.below) * (2 : ℚ) ^ (x.exponent - 2) ∧
      ((Shortest.interval x).high : ℚ) / (Shortest.interval x).den =
        (4 * x.mantissa + 2) * (2 : ℚ) ^ (x.exponent - 2) ∧
      ((Shortest.interval x).value : ℚ) / (Shortest.interval x).den =
        4 * x.mantissa * (2 : ℚ) ^ (x.exponent - 2) := by
  have power := pow_toNat_div 2 (x.exponent - 2)
  rw [neg_sub] at power
  have cut : x.below ≤ 4 * x.mantissa := x.below_le.trans (by omega)
  rw [← power]
  simp only [Shortest.interval, Nat.pow_eq, Nat.cast_mul, Nat.cast_pow, Nat.cast_ofNat,
    Nat.cast_add]
  refine ⟨?_, ?_, ?_⟩
  · rw [show (4 * x.mantissa - if x.closeBelow = true then 1 else 2) =
      4 * x.mantissa - x.below from rfl, Nat.cast_sub cut, Nat.cast_mul, Nat.cast_ofNat]
    ring
  · ring
  · ring

theorem interval_proper (pos : 0 < x.mantissa) : (Shortest.interval x).Proper := by
  have up : 0 < Nat.pow 2 (x.exponent - 2).toNat := Nat.pow_pos (by decide)
  have cut := x.below_le
  refine ⟨Nat.pow_pos (by decide), Nat.mul_lt_mul_of_pos_right ?_ up,
    Nat.mul_lt_mul_of_pos_right (by omega) up⟩
  split <;> omega

/-- On the grid of seventeen digits the interval is longer than the distance of two points. -/
theorem grid_wide (small : f.Small) (h : x.InFormat f) {first : ℤ}
    (reach : (10 : ℚ) ^ first ≤ 4 * x.mantissa * (2 : ℚ) ^ (x.exponent - 2)) :
    (10 : ℚ) ^ (first - 16) < (2 + x.below) * (2 : ℚ) ^ (x.exponent - 2) := by
  have unit : (0 : ℚ) < (2 : ℚ) ^ (x.exponent - 2) := zpow_pos (by norm_num) _
  have step : (10 : ℚ) ^ (first - 16) = (10 : ℚ) ^ first / 10 ^ 16 := by
    rw [zpow_sub₀ (by norm_num)]
    norm_num
  have size : 4 * (x.mantissa : ℚ) < (2 + x.below) * 10 ^ 16 := by
    have fraction : 2 ^ f.fractionBits ≤ 2 ^ 52 := Nat.pow_le_pow_right (by decide) small.fraction
    have natural : 4 * x.mantissa < (2 + x.below) * 10 ^ 16 := by
      unfold below
      split
      · rename_i close
        have same := (h.close.mp close).1
        omega
      · have := h.lt
        rw [Nat.pow_succ] at this
        omega
    exact_mod_cast natural
  rw [step, div_lt_iff₀ (by norm_num)]
  calc (10 : ℚ) ^ first ≤ 4 * x.mantissa * (2 : ℚ) ^ (x.exponent - 2) := reach
    _ < (2 + x.below) * 10 ^ 16 * (2 : ℚ) ^ (x.exponent - 2) :=
        mul_lt_mul_of_pos_right size unit
    _ = (2 + x.below) * (2 : ℚ) ^ (x.exponent - 2) * 10 ^ 16 := by ring

/-- The shortest decimal of a number lies in its rounding interval. -/
theorem shortest_contains (small : f.Small) (h : x.InFormat f) :
    (Shortest.interval x).Contains x.shortest.value := by
  obtain ⟨low, high, value⟩ := x.interval_ends h.pos
  have proper := interval_proper h.pos
  have den : (0 : ℚ) < (Shortest.interval x).den := by exact_mod_cast proper.den
  have enough : (Shortest.interval x).den ≤ (Shortest.interval x).value * 10 ^ 400 := by
    have range : (2 - x.exponent).toNat ≤ 3 * 400 := by
      have := small.least
      have := h.least
      omega
    have bound : 2 ^ (2 - x.exponent).toNat ≤ 10 ^ 400 := two_pow_le_ten_pow range
    have one : 1 ≤ (Shortest.interval x).value :=
      Nat.mul_pos (by have := h.pos; omega) (Nat.pow_pos (by decide))
    calc (Shortest.interval x).den ≤ 1 * 10 ^ 400 := by rw [Nat.one_mul]; exact bound
      _ ≤ (Shortest.interval x).value * 10 ^ 400 := Nat.mul_le_mul_right _ one
  have reach := Shortest.firstExponent_le proper.den enough
  rw [value] at reach
  have wide := grid_wide small h reach
  unfold shortest
  refine Shortest.search_contains proper _ 17 (by omega) (Shortest.pick?_isSome
    (proper.scaled _) ?_)
  generalize Shortest.firstExponent (Shortest.interval x).value (Shortest.interval x).den = first
    at wide
  have grid : first - ((17 : ℕ) : ℤ) + 1 = first - 16 := by
    push_cast
    ring
  rw [grid]
  have scaledDen : (0 : ℚ) < ((Shortest.interval x).scaled (first - 16)).den := by
    exact_mod_cast (proper.scaled _).den
  have power : (0 : ℚ) < (10 : ℚ) ^ (first - 16) := zpow_pos (by norm_num) _
  have lowS := Shortest.scaled_quotient (Shortest.interval x).low (Shortest.interval x).den
    (first - 16)
  have highS := Shortest.scaled_quotient (Shortest.interval x).high (Shortest.interval x).den
    (first - 16)
  rw [low] at lowS
  rw [high] at highS
  have apart : (1 : ℚ) + ((Shortest.interval x).scaled (first - 16)).low /
      ((Shortest.interval x).scaled (first - 16)).den <
        ((Shortest.interval x).scaled (first - 16)).high /
          ((Shortest.interval x).scaled (first - 16)).den := by
    simp only [Shortest.Interval.scaled]
    rw [lowS, highS, ← sub_pos, ← add_sub_add_right_eq_sub]
    rw [show (4 * (x.mantissa : ℚ) + 2) * (2 : ℚ) ^ (x.exponent - 2) / (10 : ℚ) ^ (first - 16) + 0 -
      (1 + (4 * (x.mantissa : ℚ) - x.below) * (2 : ℚ) ^ (x.exponent - 2) /
        (10 : ℚ) ^ (first - 16) + 0) =
      (2 + x.below) * (2 : ℚ) ^ (x.exponent - 2) / (10 : ℚ) ^ (first - 16) - 1 by ring]
    rw [sub_pos, lt_div_iff₀ power, one_mul]
    exact wide
  rw [← div_self scaledDen.ne', ← add_div, div_lt_div_iff_of_pos_right scaledDen] at apart
  exact_mod_cast apart

/-! ### Rounding intervals have no point in common -/

/-- The ends of the interval bound its points, and strictly so if the mantissa is odd. -/
theorem contains_bounds {v : ℚ} (pos : 0 < x.mantissa) (h : (Shortest.interval x).Contains v) :
    (4 * x.mantissa - x.below) * (2 : ℚ) ^ (x.exponent - 2) ≤ v ∧
      v ≤ (4 * x.mantissa + 2) * (2 : ℚ) ^ (x.exponent - 2) ∧
      (x.mantissa % 2 = 1 → (4 * x.mantissa - x.below) * (2 : ℚ) ^ (x.exponent - 2) < v ∧
        v < (4 * x.mantissa + 2) * (2 : ℚ) ^ (x.exponent - 2)) := by
  obtain ⟨low, high, -⟩ := x.interval_ends pos
  rw [Shortest.Interval.Contains, low, high] at h
  refine ⟨h.1, h.2.1, fun odd => h.2.2 ?_⟩
  simp [Shortest.interval, odd]

/-- Of two numbers of one exponent the smaller mantissa has its interval below the other one. -/
theorem apart_of_mantissa {v : ℚ} (hx : x.InFormat f) (hy : y.InFormat f)
    (vx : (Shortest.interval x).Contains v) (vy : (Shortest.interval y).Contains v)
    (same : x.exponent = y.exponent) (less : x.mantissa < y.mantissa) : False := by
  have unit : (0 : ℚ) < (2 : ℚ) ^ (x.exponent - 2) := zpow_pos (by norm_num) _
  obtain ⟨-, above, strictX⟩ := contains_bounds hx.pos vx
  obtain ⟨under, -, strictY⟩ := contains_bounds hy.pos vy
  rw [← same] at under strictY
  generalize (2 : ℚ) ^ (x.exponent - 2) = u at *
  have cut : (y.below : ℚ) ≤ 2 := by exact_mod_cast y.below_le
  rcases Nat.mod_two_eq_zero_or_one x.mantissa with even | odd
  · rcases Nat.mod_two_eq_zero_or_one y.mantissa with even' | odd'
    · have gap : (x.mantissa : ℚ) + 2 ≤ y.mantissa := by
        exact_mod_cast (show x.mantissa + 2 ≤ y.mantissa by omega)
      nlinarith
    · have gap : (x.mantissa : ℚ) + 1 ≤ y.mantissa := by exact_mod_cast less
      have := (strictY odd').1
      nlinarith
  · have gap : (x.mantissa : ℚ) + 1 ≤ y.mantissa := by exact_mod_cast less
    have := (strictX odd).2
    nlinarith

/-- Of two numbers of different exponents the smaller one has its interval below the other one. -/
theorem apart_of_exponent {v : ℚ} (hx : x.InFormat f) (hy : y.InFormat f)
    (vx : (Shortest.interval x).Contains v) (vy : (Shortest.interval y).Contains v)
    (less : x.exponent < y.exponent) : False := by
  have unit : (0 : ℚ) < (2 : ℚ) ^ (x.exponent - 2) := zpow_pos (by norm_num) _
  obtain ⟨-, above, strictX⟩ := contains_bounds hx.pos vx
  obtain ⟨under, -, -⟩ := contains_bounds hy.pos vy
  have normal : f.leastPower < y.exponent := lt_of_le_of_lt hx.least less
  have top := hx.lt
  rw [Nat.pow_succ] at top
  -- The lower end of the interval of `y`, in quarters of the unit of `x`.
  have reach : 8 * 2 ^ f.fractionBits ≤ 2 * (4 * y.mantissa - y.below) + 2 := by
    have := hy.normal normal
    unfold below
    split
    · omega
    · rename_i far
      have : y.mantissa ≠ 2 ^ f.fractionBits := fun e => far (hy.close.mpr ⟨e, normal⟩)
      omega
  have double : 2 * (2 : ℚ) ^ (x.exponent - 2) ≤ (2 : ℚ) ^ (y.exponent - 2) := by
    rw [← zpow_one_add₀ (by norm_num)]
    exact zpow_le_zpow_right₀ (by norm_num) (by omega)
  have cut : y.below ≤ 4 * y.mantissa := y.below_le.trans (by have := hy.pos; omega)
  have nonneg : (0 : ℚ) ≤ 4 * y.mantissa - y.below := by
    rw [sub_nonneg]
    exact_mod_cast cut
  have reach' : (8 : ℚ) * 2 ^ f.fractionBits ≤ 2 * (4 * y.mantissa - y.below) + 2 := by
    have := reach
    zify [cut] at this
    exact_mod_cast this
  have lower : (8 * 2 ^ f.fractionBits - 2) * (2 : ℚ) ^ (x.exponent - 2) ≤ v :=
    calc (8 * 2 ^ f.fractionBits - 2) * (2 : ℚ) ^ (x.exponent - 2)
        ≤ (4 * y.mantissa - y.below) * (2 * (2 : ℚ) ^ (x.exponent - 2)) := by nlinarith
      _ ≤ (4 * y.mantissa - y.below) * (2 : ℚ) ^ (y.exponent - 2) :=
          mul_le_mul_of_nonneg_left double nonneg
      _ ≤ v := under
  rcases Nat.mod_two_eq_zero_or_one x.mantissa with even | odd
  · have gap : (x.mantissa : ℚ) + 2 ≤ 2 ^ f.fractionBits * 2 := by
      exact_mod_cast (show x.mantissa + 2 ≤ 2 ^ f.fractionBits * 2 by omega)
    nlinarith
  · have gap : (x.mantissa : ℚ) + 1 ≤ 2 ^ f.fractionBits * 2 := by
      exact_mod_cast (show x.mantissa + 1 ≤ 2 ^ f.fractionBits * 2 by omega)
    have := (strictX odd).2
    nlinarith

/-- Numbers of one format with a common point in their rounding intervals are equal. -/
theorem eq_of_contains {v : ℚ} (hx : x.InFormat f) (hy : y.InFormat f)
    (vx : (Shortest.interval x).Contains v) (vy : (Shortest.interval y).Contains v) : x = y := by
  have expo : x.exponent = y.exponent := by
    rcases lt_trichotomy x.exponent y.exponent with h | h | h
    · exact (apart_of_exponent hx hy vx vy h).elim
    · exact h
    · exact (apart_of_exponent hy hx vy vx h).elim
  have mant : x.mantissa = y.mantissa := by
    rcases lt_trichotomy x.mantissa y.mantissa with h | h | h
    · exact (apart_of_mantissa hx hy vx vy expo h).elim
    · exact h
    · exact (apart_of_mantissa hy hx vy vx expo.symm h).elim
  have close : x.closeBelow = y.closeBelow := by
    rw [Bool.eq_iff_iff, hx.close, hy.close, expo, mant]
  cases x
  cases y
  cases expo
  cases mant
  cases close
  rfl

/-- Numbers of one format with one text are equal. -/
theorem eq_of_text (small : f.Small) (hx : x.InFormat f) (hy : y.InFormat f)
    (h : x.shortest.text = y.shortest.text) : x = y := by
  have value : x.shortest.value = y.shortest.value := by
    rw [← readDecimal_text, h, readDecimal_text]
  have vy := shortest_contains small hy
  rw [← value] at vy
  exact eq_of_contains hx hy (shortest_contains small hx) vy

/-- A positive number is not written as zero. -/
theorem text_ne_zero (small : f.Small) (hx : x.InFormat f) : x.shortest.text ≠ ['0'] := by
  intro h
  have zero : x.shortest.value = 0 := by
    rw [← readDecimal_text, h, readDecimal_positional (List.all_eq_true.mp rfl)]
    have digits : Nat.ofDigitChars 10 (['0'].filter Char.isDigit) 0 = 0 := by decide
    rw [pointValue, digits, Nat.cast_zero, zero_div]
  have contains := shortest_contains small hx
  rw [zero] at contains
  have unit : (0 : ℚ) < (2 : ℚ) ^ (x.exponent - 2) := zpow_pos (by norm_num) _
  have low := (contains_bounds hx.pos contains).1
  have cut : (x.below : ℚ) ≤ 2 := by exact_mod_cast x.below_le
  have one : (1 : ℚ) ≤ x.mantissa := by exact_mod_cast hx.pos
  nlinarith

end Dyadic
end TensorCompiler.Number
