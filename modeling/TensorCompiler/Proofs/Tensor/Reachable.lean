import TensorCompiler.Proofs.Tensor.Elementwise

/-!
# Reachable tensors

Integer tensors pass through kernels that know nothing of integers: an algebraic family computes
the sum, and its quotient would not look for a zero. A tensor carries the family that its next
kernel is taken from, so the family has to be put right wherever a tensor is made.

Main statement: a tensor that any sequence of operations makes has as many elements as the product
of its axis lengths and carries the family of its data type, and no kernel of this family stops at
a zero: its divisions refuse one.
-/

namespace TensorCompiler

/-! ### Kernels that do not stop -/

theorem Tensor.error_of_itemsAs {t : Tensor} {k : Kind} {e : TensorError}
    (h : t.itemsAs k = .error e) : e = .wrongKind t.kind k := by
  unfold itemsAs at h
  split at h <;> cases h
  rfl

namespace BinaryKernel

/-- A combination stops only at elements of its operands that have no result. -/
theorem exists_of_combine_stopped {k l : Kind} {f : k.Carrier → k.Carrier → Option l.Carrier}
    {dims : List Int} {family : Family} {x y : Tensor}
    (h : combine k l f dims family x y = .error .stopped) :
    ∃ as bs rs, y.itemsAs k = .ok bs ∧ zipItems f as bs = some rs ∧ results? rs = none := by
  unfold combine at h
  cases hx : x.itemsAs k with
  | error e =>
      rw [hx] at h
      cases (Except.error.inj h).symm.trans (Tensor.error_of_itemsAs hx)
  | ok as =>
      cases hy : y.itemsAs k with
      | error e =>
          rw [hx, hy] at h
          cases (Except.error.inj h).symm.trans (Tensor.error_of_itemsAs hy)
      | ok bs =>
          rw [hx, hy, ok_bind, ok_bind] at h
          split at h
          · cases h
          · rename_i rs zipped
            split at h
            · rename_i missing
              exact ⟨as, bs, rs, rfl, zipped, missing⟩
            · cases h

/-- A kernel that stops has accepted its second operand and stops in the combination. -/
theorem combine_stopped_of_apply {b : BinaryKernel} {x y : Tensor}
    (h : b.apply x y = .error .stopped) :
    combine b.operands b.kind b.onItems b.out.dims b.results x y = .error .stopped ∧
      ∀ bs, y.itemsAs b.operands = .ok bs → ¬ b.refuses bs := by
  cases b with
  | logic | compare | arith => exact ⟨h, fun _ _ => Bool.false_ne_true⟩
  | divide k op out =>
      cases hy : y.itemsAs (.num (.int k)) with
      | error e =>
          rw [apply, hy] at h
          cases (Except.error.inj h).symm.trans (Tensor.error_of_itemsAs hy)
      | ok bs =>
          rw [apply_divide k op out x (Tensor.elements_of_itemsAs hy)] at h
          split at h
          · cases h
          · rename_i accepted
            refine ⟨h, fun bs' same => ?_⟩
            cases hy.symm.trans same
            exact accepted

/-- A guarded kernel never stops, whatever it is applied to. -/
theorem Guarded.apply_ne_stopped {b : BinaryKernel} (guarded : b.Guarded) (x y : Tensor) :
    b.apply x y ≠ .error .stopped := by
  intro stopped
  obtain ⟨combined, accepted⟩ := combine_stopped_of_apply stopped
  obtain ⟨as, bs, rs, items, zipped, missing⟩ := exists_of_combine_stopped combined
  obtain ⟨zs, rfl⟩ := guarded.exists_results (accepted bs items) zipped
  rw [results?_map_some] at missing
  cases missing

end BinaryKernel

/-- A quotient of an algebraic family does not look for a zero, and stops at one. -/
example : (BinaryKernel.arith (.int .int32) .quo ⟨.int32, [2]⟩ (.algebraic (.int .int32))).apply
    sevens ⟨[], ⟨.int32, [0]⟩, .integer .int32⟩ = .error .stopped := rfl

/-- A kernel of one operand never stops. -/
theorem UnaryKernel.apply_ne_stopped (k : UnaryKernel) (x : Tensor) :
    k.apply x ≠ .error .stopped := by
  have mapped (k l : Kind) (f : k.Carrier → l.Carrier) {g : List l.Carrier → Tensor} :
      (mapItems k l f x >>= fun zs => .ok (g zs)) ≠ .error .stopped := by
    intro stopped
    unfold mapItems at stopped
    cases items : x.itemsAs k with
    | ok xs =>
        rw [items] at stopped
        cases stopped
    | error e =>
        rw [items] at stopped
        cases (Except.error.inj stopped).symm.trans (Tensor.error_of_itemsAs items)
  cases k with
  | copy => nofun
  | neg | not | keep | math | cast => exact mapped _ _ _

/-- The family of a kind makes guarded kernels only, also for shapes of other kinds. -/
theorem Family.guarded_binary {k : Kind} {op : Operator} {x y : Shape} {b : BinaryKernel}
    (h : (Family.ofKind k).binary op x y = .ok b) : b.Guarded := by
  rintro i out family rfl
  cases k with
  | bool =>
      obtain ⟨_, -, h⟩ := ok_of_bind_ok h
      split at h <;> cases h
  | num k =>
      cases k with
      | float32 | float64 =>
          rcases algebraicBinary_cases h with ⟨_, _, -, -, same⟩ | ⟨_, _, -, -, same⟩ <;> cases same
      | int k =>
          rcases integerBinary_cases h with ⟨_, _, -, -, same⟩ | ⟨undivided, h⟩
          · cases same
          · rcases algebraicBinary_cases h with ⟨_, _, -, -, same⟩ | ⟨_, _, rfl, -, same⟩
            · cases same
            · cases same
              exact undivided (.inl rfl)

/-- The division that the family of integers makes looks for a zero. -/
theorem Family.apply_divisor_zero {k : IntKind} {op : Operator} (divides : op.Divides)
    {xs ys : Shape} {b : BinaryKernel} (h : (Family.integer k).binary op xs ys = .ok b) (x : Tensor)
    {y : Tensor} (kind : y.kind = .num (.int k)) (zero : y.elements.HasIntegerZero) :
    b.apply x y = .error .divisionByZero := by
  rcases integerBinary_cases h with ⟨o, out, -, -, rfl⟩ | ⟨undivided, -⟩
  · obtain ⟨bs, items⟩ := Tensor.exists_items (k := .num (.int k)) (congrArg Kind.dtype kind)
    rw [items, Elements.hasIntegerZero_iff] at zero
    rw [BinaryKernel.apply_divide k o out x items, if_pos zero]
  · exact absurd divides undivided

/-! ### Well-formed tensors -/

namespace Tensor

/-- A tensor that fills its shape and carries the family of its elements. -/
structure WellFormed (t : Tensor) : Prop where
  full : t.IsFull
  family : t.family = .ofKind t.kind

variable {t : Tensor}

theorem WellFormed.forDType (h : t.WellFormed) : Family.forDType t.shape.dtype = .ok t.family := by
  rw [h.family]
  unfold Family.forDType
  rw [shape, DType.kind?_dtype]

theorem wellFormed_ofSlice {values : HostSlice} {dims : List Int}
    (made : ofSlice values dims = .ok t) : t.WellFormed := by
  refine ⟨isFull_ofSlice made, ?_⟩
  unfold ofSlice at made
  split at made
  · dsimp only at made
    split at made
    · cases made
      rfl
    · cases made
  · cases made

theorem wellFormed_zero {s : Shape} (size : 0 ≤ s.size) (made : Tensor.zero s = .ok t) :
    t.WellFormed := by
  unfold zero at made
  split at made
  · rename_i k found
    cases made
    refine ⟨?_, rfl⟩
    change s.size = ((List.replicate s.size.toNat k.zero).length : Int)
    rw [List.length_replicate]
    omega
  · cases made

/-- A kernel of two operands, taken for their shapes from the family of the first. -/
theorem WellFormed.binary {x y : Tensor} (left : x.WellFormed) (right : y.WellFormed)
    {op : Operator} {b : BinaryKernel} (made : x.family.binary op x.shape y.shape = .ok b)
    (applied : b.apply x y = .ok t) : t.WellFormed := by
  rw [left.family] at made
  have isFor := Family.isFor_binary rfl made
  rcases isFor.apply_cases left.full right.full with
    ⟨-, fails⟩ | ⟨-, ⟨-, fails⟩ | ⟨-, t', gives, elementwise, family⟩⟩
  · rw [fails] at applied
    cases applied
  · rw [fails] at applied
    cases applied
  · rw [gives] at applied
    cases applied
    exact ⟨elementwise.full, family⟩

/-- A kernel of one operand, taken from the family of the operand. -/
theorem WellFormed.unary {x : Tensor} (operand : x.WellFormed) {op : Operator} {s : Shape}
    {k : UnaryKernel} (made : x.family.unary op s = .ok k) (applied : k.apply x = .ok t) :
    t.WellFormed := by
  refine ⟨UnaryKernel.isFull_of_apply (Family.keeps_unary made) applied operand.full, ?_⟩
  rw [operand.family] at made
  unfold Family.unary at made
  split at made
  · cases made
    obtain ⟨zs, -, h⟩ := ok_of_bind_ok applied
    cases h
    rfl
  · rename_i k algebraic
    cases made
    obtain ⟨zs, items, h⟩ := ok_of_bind_ok applied
    cases h
    -- The kernel is for the kind of its operand, and only this kind has the algebraic family.
    rw [UnaryKernel.kind_of_mapItems items] at algebraic
    exact algebraic.symm
  · cases made
    cases applied
    exact operand.family
  · cases made
    obtain ⟨zs, -, h⟩ := ok_of_bind_ok applied
    cases h
    rfl
  · cases made
    obtain ⟨zs, -, h⟩ := ok_of_bind_ok applied
    cases h
    rfl
  · cases made

/-- A function of one real argument, taken from the family of the operand. -/
theorem WellFormed.math {x : Tensor} (operand : x.WellFormed) {f : MathFn} {k : UnaryKernel}
    (made : x.family.math? f = some k) (applied : k.apply x = .ok t) : t.WellFormed := by
  obtain ⟨number, -, rfl⟩ := Option.map_eq_some_iff.mp made
  have keeps : ∀ a b dims, UnaryKernel.math number f ≠ .cast a b dims := by
    intro a b dims same
    cases same
  refine ⟨UnaryKernel.isFull_of_apply keeps applied operand.full, ?_⟩
  obtain ⟨zs, items, h⟩ := ok_of_bind_ok applied
  cases h
  exact operand.family.trans (congrArg Family.ofKind (UnaryKernel.kind_of_mapItems items))

/-- A conversion to a shape with as many elements. -/
theorem WellFormed.cast {x : Tensor} (operand : x.WellFormed) {target : DType} {dims : List Int}
    {k : UnaryKernel} {s : Shape} (made : x.family.cast target dims = .ok (k, s))
    (size : s.size = x.shape.size) (applied : k.apply x = .ok t) : t.WellFormed := by
  unfold Family.cast at made
  split at made
  · cases made
  · split at made
    · cases made
      have count := UnaryKernel.length_of_apply applied
      obtain ⟨zs, items, h⟩ := ok_of_bind_ok applied
      cases h
      refine ⟨?_, rfl⟩
      rw [IsFull, count, ← operand.full, ← size]
      rfl
    · cases made

/-! ### Sequences of operations -/

/-- A tensor that a sequence of operations makes from host values and zeros. Each kernel is taken
from the family of the tensor it is applied to, or of the first of two. No storage has a negative
length, so a shape of negative size has no tensor of zeros. -/
inductive Reachable : Tensor → Prop
  | new {values dims t} (made : ofSlice values dims = .ok t) : Reachable t
  | zero {s t} (size : 0 ≤ s.size) (made : Tensor.zero s = .ok t) : Reachable t
  | copy {x t} (operand : Reachable x) (applied : UnaryKernel.copy.apply x = .ok t) : Reachable t
  | unary {x t op s k} (operand : Reachable x) (made : x.family.unary op s = .ok k)
      (applied : k.apply x = .ok t) : Reachable t
  | binary {x y t op b} (left : Reachable x) (right : Reachable y)
      (made : x.family.binary op x.shape y.shape = .ok b) (applied : b.apply x y = .ok t) :
      Reachable t
  | math {x t f k} (operand : Reachable x) (made : x.family.math? f = some k)
      (applied : k.apply x = .ok t) : Reachable t
  | cast {x t target dims k s} (operand : Reachable x)
      (made : x.family.cast target dims = .ok (k, s)) (size : s.size = x.shape.size)
      (applied : k.apply x = .ok t) : Reachable t

/-- No operation makes a tensor that is not well formed. -/
theorem Reachable.wellFormed (h : t.Reachable) : t.WellFormed := by
  induction h with
  | new made => exact wellFormed_ofSlice made
  | zero size made => exact wellFormed_zero size made
  | copy _ applied ih =>
      cases applied
      exact ih
  | unary _ made applied ih => exact ih.unary made applied
  | binary _ _ made applied ihx ihy => exact ihx.binary ihy made applied
  | math _ made applied ih => exact ih.math made applied
  | cast _ made size applied ih => exact ih.cast made size applied

/-- A tensor that a sequence of operations makes has as many elements as its shape, the product of
the axis lengths; its shape declares the kind of its elements; it carries the family of this data
type. No kernel of this family, made for any shapes, stops at any second operand: a division of
integers is refused if there is a zero among the divisors. -/
theorem Reachable.full_and_guarded (h : t.Reachable) :
    t.shape.size = t.elements.length ∧
      (t.shape.size = axesProduct t.dims → axesProduct t.dims = t.elements.length) ∧
      t.shape.dtype.kind? = some t.kind ∧
      Family.forDType t.shape.dtype = .ok t.family ∧
      (∀ op xs ys b, t.family.binary op xs ys = .ok b → ∀ y,
        b.apply t y ≠ .error .stopped ∧
          (op.Divides → y.kind = t.kind → y.elements.HasIntegerZero →
            b.apply t y = .error .divisionByZero)) ∧
      ∀ k : UnaryKernel, k.apply t ≠ .error .stopped := by
  have wellFormed := h.wellFormed
  refine ⟨wellFormed.full, ?_, DType.kind?_dtype t.kind, wellFormed.forDType, ?_,
    fun k => k.apply_ne_stopped t⟩
  · intro exact
    rw [← exact]
    exact wellFormed.full
  · intro op xs ys b made y
    rw [wellFormed.family] at made
    refine ⟨(Family.guarded_binary made).apply_ne_stopped t y, fun divides kind zero => ?_⟩
    obtain ⟨k, integers⟩ := zero.kind
    have integers : y.kind = .num (.int k) := integers
    rw [← kind, integers] at made
    exact Family.apply_divisor_zero divides made t integers zero

/-- Three and its negative, as wide integers. -/
def wideThrees : Tensor := ⟨[1, 2], ⟨.int64, [-3, 3]⟩, .integer .int64⟩

/-- Wide integers of which one is zero. -/
def wideGap : Tensor := ⟨[1, 2], ⟨.int64, [2, 0]⟩, .integer .int64⟩

/-- They are made by halving, negating and converting. Their remainders by themselves do not stop,
and those by zero are refused. -/
theorem wideThrees_guarded : wideThrees.Reachable ∧
    (axesProduct wideThrees.dims = wideThrees.elements.length ∧
      Family.forDType wideThrees.shape.dtype = .ok wideThrees.family) ∧
    ∃ b, wideThrees.family.binary .rem wideThrees.shape wideThrees.shape = .ok b ∧
      b.apply wideThrees wideThrees ≠ .error .stopped ∧
      b.apply wideThrees wideGap = .error .divisionByZero := by
  have sent : ofSlice (.elements ⟨.int32, [7, -7]⟩) [2] = .ok sevens := rfl
  have sent' : ofSlice (.elements ⟨.int32, [2]⟩) [] = .ok scalarTwo := rfl
  have quotient : sevens.family.binary (.arith .quo) sevens.shape scalarTwo.shape =
      .ok (.divide .int32 .quo ⟨.int32, [2]⟩) := rfl
  have halves : Reachable ⟨[2], ⟨.int32, [3, -3]⟩, .integer .int32⟩ :=
    .binary (.new sent) (.new sent') quotient rfl
  have negation : (Family.integer .int32).unary (.arith .sub) ⟨.int32, [2]⟩ =
      .ok (.neg (.int .int32) (.integer .int32)) := rfl
  have negated : Reachable ⟨[2], ⟨.int32, [-3, 3]⟩, .integer .int32⟩ :=
    .unary halves negation rfl
  have conversion : (Family.integer .int32).cast .int64 [1, 2] =
      .ok (.cast (.int .int32) (.int .int64) [1, 2], ⟨.int64, [1, 2]⟩) := rfl
  have made : wideThrees.Reachable := .cast negated conversion rfl rfl
  have remainder : wideThrees.family.binary .rem wideThrees.shape wideThrees.shape =
      .ok (.divide .int64 .rem wideThrees.shape) := rfl
  have zero : wideGap.elements.HasIntegerZero := ⟨.int64, [2, 0], rfl, 0, by decide, rfl⟩
  obtain ⟨-, product, -, family, guarded, -⟩ := made.full_and_guarded
  exact ⟨made, ⟨product rfl, family⟩, _, remainder, (guarded _ _ _ _ remainder _).1,
    (guarded _ _ _ _ remainder _).2 (.inr rfl) rfl zero⟩

end Tensor
end TensorCompiler
