import TensorCompiler.Tensor.Operator

/-!
# What operators mean for elements

The meaning of an operator on two elements of one kind. On integers it is the exact result, reduced
to the word of the kind: two's complement, with quotients that truncate towards zero and remainders
with the sign of the dividend. A comparison compares the numbers that the words stand for.

Main statements: the functions that kernels apply to elements have these meanings.
-/

namespace TensorCompiler

/-! ### Integers as words -/

namespace IntKind

/-- The number that an integer of a kind stands for. -/
def toInt : (k : IntKind) → k.Carrier → Int
  | .int32, a => Int32.toInt a
  | .int64, a => Int64.toInt a

/-- The number of integers of a kind. -/
def modulus : IntKind → Nat
  | .int32 => 4294967296
  | .int64 => 18446744073709551616

/-- The integer of a kind that is congruent to a number. -/
def wrap : (k : IntKind) → Int → k.Carrier
  | .int32, n => Int32.ofInt n
  | .int64, n => Int64.ofInt n

theorem toInt_wrap (k : IntKind) (n : Int) : k.toInt (k.wrap n) = n.bmod k.modulus := by
  cases k with
  | int32 => exact Int32.toInt_ofInt
  | int64 => exact Int64.toInt_ofInt

/-- Integers that stand for one number are the same. -/
theorem toInt_inj {k : IntKind} {a b : k.Carrier} : k.toInt a = k.toInt b ↔ a = b := by
  cases k with
  | int32 => exact Int32.toInt_inj
  | int64 => exact Int64.toInt_inj

/-- An integer that stands for a number modulo the word is that number in the word. -/
theorem eq_wrap {k : IntKind} {a : k.Carrier} {n : Int} (h : k.toInt a = n.bmod k.modulus) :
    a = k.wrap n := by
  apply toInt_inj.mp
  rw [h, toInt_wrap]

theorem wrap_toInt (k : IntKind) (a : k.Carrier) : k.wrap (k.toInt a) = a := by
  cases k with
  | int32 => exact Int32.ofInt_toInt a
  | int64 => exact Int64.ofInt_toInt a

theorem isZero_iff {k : IntKind} {a : k.Carrier} : k.isZero a = true ↔ k.toInt a = 0 := by
  cases k with
  | int32 =>
      rw [isZero, beq_iff_eq]
      exact Int32.toInt_inj.symm
  | int64 =>
      rw [isZero, beq_iff_eq]
      exact Int64.toInt_inj.symm

end IntKind

/-! ### Exact results -/

/-- The exact result of an operator on integers. A quotient is truncated towards zero. -/
def ArithOp.exact : ArithOp → Int → Int → Int
  | .add, m, n => m + n
  | .sub, m, n => m - n
  | .mul, m, n => m * n
  | .quo, m, n => m.tdiv n

/-- The exact result of a division. A remainder has the sign of the dividend. -/
def DivOp.exact : DivOp → Int → Int → Int
  | .quo, m, n => m.tdiv n
  | .rem, m, n => m.tmod n

/-- Whether a comparison holds between integers. -/
def Comparison.holds : Comparison → Int → Int → Bool
  | .eql, m, n => decide (m = n)
  | .neq, m, n => decide (m ≠ n)
  | .lss, m, n => decide (m < n)
  | .gtr, m, n => decide (m > n)
  | .leq, m, n => decide (m ≤ n)
  | .geq, m, n => decide (m ≥ n)

/-- A division has the exact result, reduced to the word, unless the divisor is zero. -/
theorem DivOp.apply_eq_wrap (op : DivOp) (k : IntKind) (a b : k.Carrier) :
    op.apply k a b =
      if k.isZero b then none else some (k.wrap (op.exact (k.toInt a) (k.toInt b))) := by
  -- A remainder is no larger than the dividend, so nothing has to be reduced.
  cases k with
  | int32 =>
      have quotient : a / b = IntKind.int32.wrap ((Int32.toInt a).tdiv (Int32.toInt b)) :=
        IntKind.eq_wrap (k := .int32) (Int32.toInt_div a b)
      have remainder : a % b = IntKind.int32.wrap ((Int32.toInt a).tmod (Int32.toInt b)) := by
        rw [← Int32.toInt_mod]
        exact (IntKind.wrap_toInt .int32 (a % b)).symm
      cases op with
      | quo => exact congrArg (fun r => if b == 0 then none else some r) quotient
      | rem => exact congrArg (fun r => if b == 0 then none else some r) remainder
  | int64 =>
      have quotient : a / b = IntKind.int64.wrap ((Int64.toInt a).tdiv (Int64.toInt b)) :=
        IntKind.eq_wrap (k := .int64) (Int64.toInt_div a b)
      have remainder : a % b = IntKind.int64.wrap ((Int64.toInt a).tmod (Int64.toInt b)) := by
        rw [← Int64.toInt_mod]
        exact (IntKind.wrap_toInt .int64 (a % b)).symm
      cases op with
      | quo => exact congrArg (fun r => if b == 0 then none else some r) quotient
      | rem => exact congrArg (fun r => if b == 0 then none else some r) remainder

/-- An operator on integers has the exact result, reduced to the word, unless it is the quotient by
zero. -/
theorem ArithOp.applyInt_eq_wrap (op : ArithOp) (k : IntKind) (a b : k.Carrier) :
    op.applyInt k a b =
      if op = .quo ∧ k.isZero b then none
      else some (k.wrap (op.exact (k.toInt a) (k.toInt b))) := by
  have whole {r : k.Carrier} (h : k.toInt r = (op.exact (k.toInt a) (k.toInt b)).bmod k.modulus) :
      some r = some (k.wrap (op.exact (k.toInt a) (k.toInt b))) :=
    congrArg some (IntKind.eq_wrap h)
  cases op with
  | quo =>
      simp only [true_and]
      cases k with
      | int32 => exact DivOp.apply_eq_wrap .quo .int32 a b
      | int64 => exact DivOp.apply_eq_wrap .quo .int64 a b
  | add =>
      rw [if_neg (by simp)]
      cases k with
      | int32 => exact whole (Int32.toInt_add a b)
      | int64 => exact whole (Int64.toInt_add a b)
  | sub =>
      rw [if_neg (by simp)]
      cases k with
      | int32 => exact whole (Int32.toInt_sub a b)
      | int64 => exact whole (Int64.toInt_sub a b)
  | mul =>
      rw [if_neg (by simp)]
      cases k with
      | int32 => exact whole (Int32.toInt_mul a b)
      | int64 => exact whole (Int64.toInt_mul a b)

theorem DivOp.isSome_apply (op : DivOp) {k : IntKind} (a : k.Carrier) {b : k.Carrier}
    (nonzero : ¬ k.isZero b) : (op.apply k a b).isSome := by
  rw [apply_eq_wrap, if_neg nonzero]
  rfl

theorem ArithOp.isSome_applyInt {op : ArithOp} (undivided : op ≠ .quo) (k : IntKind)
    (a b : k.Carrier) : (op.applyInt k a b).isSome := by
  rw [applyInt_eq_wrap, if_neg fun h => undivided h.1]
  rfl

/-- Comparing words by equality and strict order compares the numbers. -/
theorem Comparison.decideBy_eq_holds (c : Comparison) (m n : Int) :
    c.decideBy (decide (m = n)) (decide (m < n)) (decide (n < m)) = c.holds m n := by
  have below : (decide (m < n) || decide (m = n)) = decide (m ≤ n) := by
    rw [← Bool.decide_or, decide_eq_decide]
    omega
  have above : (decide (n < m) || decide (m = n)) = decide (m ≥ n) := by
    rw [← Bool.decide_or, decide_eq_decide]
    omega
  cases c with
  | eql | lss | gtr => rfl
  | neq => exact decide_not.symm
  | leq => exact below
  | geq => exact above

theorem Comparison.applyInt_eq_holds (c : Comparison) (k : IntKind) (a b : k.Carrier) :
    c.applyInt k a b = c.holds (k.toInt a) (k.toInt b) := by
  rw [← decideBy_eq_holds]
  cases k with
  | int32 =>
      have equal : decide (a = b) = decide (Int32.toInt a = Int32.toInt b) :=
        decide_eq_decide.mpr Int32.toInt_inj.symm
      have less (a b : Int32) : decide (a < b) = decide (a.toInt < b.toInt) :=
        decide_eq_decide.mpr Int32.lt_iff_toInt_lt
      rw [applyInt, equal, less, less]
      rfl
  | int64 =>
      have equal : decide (a = b) = decide (Int64.toInt a = Int64.toInt b) :=
        decide_eq_decide.mpr Int64.toInt_inj.symm
      have less (a b : Int64) : decide (a < b) = decide (a.toInt < b.toInt) :=
        decide_eq_decide.mpr Int64.lt_iff_toInt_lt
      rw [applyInt, equal, less, less]
      rfl

/-! ### Operators -/

/-- An element of any kind. -/
abbrev Element := (k : Kind) × k.Carrier

namespace Operator

/-- The meaning of an operator on two elements of a kind, if the kind has the operator. Numbers with
a fraction are computed with as their standard says. -/
def onElements (op : Operator) : (k : Kind) → k.Carrier → k.Carrier → Option Element
  | .bool, a, b =>
    match op with
    | .land => some ⟨.bool, a && b⟩
    | .lor => some ⟨.bool, a || b⟩
    | .compare .eql => some ⟨.bool, a == b⟩
    | .compare .neq => some ⟨.bool, a != b⟩
    | _ => none
  | .num .float32, a, b =>
    match op with
    | .arith o => some ⟨.float32, o.applyFloat32 a b⟩
    | .compare c => some ⟨.bool, c.apply .float32 a b⟩
    | _ => none
  | .num .float64, a, b =>
    match op with
    | .arith o => some ⟨.float64, o.applyFloat64 a b⟩
    | .compare c => some ⟨.bool, c.apply .float64 a b⟩
    | _ => none
  | .num (.int k), a, b =>
    match op with
    | .arith o => some ⟨.num (.int k), k.wrap (o.exact (k.toInt a) (k.toInt b))⟩
    | .rem => some ⟨.num (.int k), k.wrap ((k.toInt a).tmod (k.toInt b))⟩
    | .compare c => some ⟨.bool, c.holds (k.toInt a) (k.toInt b)⟩
    | _ => none

/-- What is computed for two numbers is what the operator means. -/
theorem onElements_arith {k : NumKind} {o : ArithOp} {a b r : k.Carrier}
    (computed : o.apply k a b = some r) : (arith o).onElements (.num k) a b = some ⟨.num k, r⟩ := by
  cases k with
  | float32 | float64 =>
      cases computed
      rfl
  | int k =>
      rw [ArithOp.apply, ArithOp.applyInt_eq_wrap] at computed
      split at computed
      · cases computed
      · rw [onElements, Option.some.inj computed]

theorem onElements_compare (k : NumKind) (c : Comparison) (a b : k.Carrier) :
    (compare c).onElements (.num k) a b = some ⟨.bool, c.apply k a b⟩ := by
  cases k with
  | float32 | float64 => rfl
  | int k => rw [Comparison.apply, Comparison.applyInt_eq_holds, onElements]

theorem onElements_logic {op : Operator} {o : LogicOp} (h : Family.logicOp? op = some o)
    (a b : Bool) : op.onElements .bool a b = some ⟨.bool, o.apply a b⟩ := by
  unfold Family.logicOp? at h
  split at h <;> cases h <;> rfl

/-- What is computed for a division is what the operator means. -/
theorem onElements_divide {op : Operator} {o : DivOp} (h : Family.divOp? op = some o)
    {k : IntKind} {a b r : k.Carrier} (computed : o.apply k a b = some r) :
    op.onElements (.num (.int k)) a b = some ⟨.num (.int k), r⟩ := by
  rw [DivOp.apply_eq_wrap] at computed
  split at computed
  · cases computed
  · cases computed
    unfold Family.divOp? at h
    split at h <;> cases h <;> rfl

/-- The operators that divide: the quotient and the remainder. -/
def Divides (op : Operator) : Prop :=
  op = .arith .quo ∨ op = .rem

/-- The operators that divide are those a division kernel is made for. -/
theorem divides_iff {op : Operator} : op.Divides ↔ ∃ o, Family.divOp? op = some o := by
  constructor
  · rintro (rfl | rfl)
    · exact ⟨.quo, rfl⟩
    · exact ⟨.rem, rfl⟩
  · rintro ⟨o, h⟩
    unfold Family.divOp? at h
    split at h
    · exact .inl rfl
    · exact .inr rfl
    · cases h

end Operator

/-- Integers of which one is zero. -/
def Elements.HasIntegerZero (e : Elements) : Prop :=
  ∃ (k : IntKind) (items : List k.Carrier),
    e = ⟨.num (.int k), items⟩ ∧ ∃ a ∈ items, k.toInt a = 0

end TensorCompiler
