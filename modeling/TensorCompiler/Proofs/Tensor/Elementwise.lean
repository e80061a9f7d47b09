import TensorCompiler.Proofs.Kernel.ArrayKernels
import TensorCompiler.Proofs.Tensor.ElementMeaning

/-!
# Elementwise kernels

A kernel is made for two shapes and applied to two tensors of these shapes. The shapes are compared
when it is made and the numbers of elements when it is applied, and the two agree with one
exception: a scalar beside a tensor without elements is accepted by its shape and refused by its
count.

Main statement: a kernel that a family makes for an operator gives the operator on the elements, in
the announced shape; it fails on an integer division by zero and on the exception, and never
otherwise.

## Implementation notes

`BinaryKernel.IsFor` says everything about a kernel that a family makes. It is proved once by cases
of the family and the operator; what is said of kernels is derived from it.
-/

namespace TensorCompiler

/-! ### Tensors and their elements -/

namespace Tensor

/-- A tensor that has as many elements as its shape. -/
def IsFull (t : Tensor) : Prop :=
  t.shape.size = t.elements.length

/-- The element of a tensor at a place. -/
def elementAt (t : Tensor) (i : Nat) : Option Element :=
  (t.elements.items[i]?).map (Sigma.mk t.kind)

/-- One of two operands is a scalar and the other one has no elements, so that the scalar stands
for nothing. -/
def RepeatedForNothing (x y : Tensor) : Prop :=
  (x.shape.isScalar ∧ y.elements.length = 0) ∨ (y.shape.isScalar ∧ x.elements.length = 0)

/-- The elements of a tensor are of the kind that its shape declares. -/
theorem exists_items {t : Tensor} {k : Kind} (h : t.shape.dtype = k.dtype) :
    ∃ items, t.elements = ⟨k, items⟩ := by
  have kind : t.elements.kind = k := Kind.dtype_injective h
  subst kind
  exact ⟨t.elements.items, rfl⟩

theorem itemsAs_eq {t : Tensor} {k : Kind} {items : List k.Carrier}
    (h : t.elements = ⟨k, items⟩) : t.itemsAs k = .ok items := by
  rw [itemsAs, h, Elements.as?_kind]

theorem elements_of_itemsAs {t : Tensor} {k : Kind} {items : List k.Carrier}
    (h : t.itemsAs k = .ok items) : t.elements = ⟨k, items⟩ := by
  obtain ⟨items', same⟩ := exists_items (congrArg Kind.dtype (kind_of_itemsAs h))
  rw [itemsAs_eq same] at h
  rw [same, Except.ok.inj h]

/-- Host values are accepted if there are as many as the shape has elements. -/
theorem isFull_ofSlice {values : HostSlice} {dims : List Int} {t : Tensor}
    (held : ofSlice values dims = .ok t) : t.IsFull := by
  unfold ofSlice at held
  split at held
  · dsimp only at held
    split at held
    · rename_i count
      cases held
      exact count
    · cases held
  · cases held

end Tensor

/-- The element of an operand that stands at a place of the result: a scalar is repeated. -/
def operandAt {α : Type} (s : Shape) (items : List α) (i : Nat) : Option α :=
  items[if s.isScalar then 0 else i]?

/-- A tensor is the result of an operator on two operands: it has the given shape and as many
elements, and each element is the operator on those at its place. -/
structure Operator.Elementwise (op : Operator) (out : Shape) (x y t : Tensor) : Prop where
  shape : t.shape = out
  full : t.IsFull
  elements : ∃ (k : Kind) (as bs : List k.Carrier), x.elements = ⟨k, as⟩ ∧ y.elements = ⟨k, bs⟩ ∧
    ∀ i < t.elements.length, ∃ a b, operandAt x.shape as i = some a ∧
      operandAt y.shape bs i = some b ∧ t.elementAt i = op.onElements k a b

/-! ### Operands of one length -/

/-- A shape that two others broadcast to is one of the two, and the other one is that of a scalar or
the same. -/
theorem dims_of_broadcast {dt : DType} {x y out : Shape} (h : broadcast dt x y = .ok out) :
    (x.isScalar ∧ out.dims = y.dims) ∨ (y.isScalar ∧ out.dims = x.dims) ∨
      (x.dims = y.dims ∧ out.dims = x.dims) := by
  unfold broadcast at h
  split at h
  · cases h
  · split at h
    · rename_i scalar
      cases h
      exact .inl ⟨scalar, rfl⟩
    · split at h
      · rename_i scalar
        cases h
        exact .inr (.inl ⟨scalar, rfl⟩)
      · split at h
        · rename_i same
          cases h
          exact .inr (.inr ⟨same, rfl⟩)
        · cases h

theorem dtype_eq_of_broadcast {dt : DType} {x y out : Shape} (h : broadcast dt x y = .ok out) :
    x.dtype = y.dtype := by
  unfold broadcast at h
  split at h
  · cases h
  · rename_i same
    exact Decidable.not_not.mp same

/-- A scalar has one element. -/
theorem exists_singleton {α : Type} {s : Shape} (scalar : s.isScalar) {items : List α}
    (full : s.size = items.length) : ∃ a, items = [a] := by
  have dims : s.dims = [] := List.isEmpty_iff.mp scalar
  have one : s.size = 1 := by rw [Shape.size, dims]; rfl
  apply List.length_eq_one_iff.mp
  omega

theorem operandAt_scalar {α : Type} {s : Shape} (scalar : s.isScalar) (a : α) (i : Nat) :
    operandAt s [a] i = some a := by
  rw [operandAt, if_pos scalar]
  rfl

/-- An operand that fills its shape has its own element at each place. -/
theorem operandAt_full {α : Type} {s : Shape} {items : List α} (full : s.size = items.length)
    {i : Nat} (h : i < items.length) : operandAt s items i = some items[i] := by
  by_cases scalar : s.isScalar
  · obtain ⟨a, rfl⟩ := exists_singleton scalar full
    obtain rfl : i = 0 := Nat.lt_one_iff.mp h
    exact operandAt_scalar scalar a 0
  · rw [operandAt, if_neg scalar, List.getElem?_eq_getElem h]

namespace BinaryKernel

section

variable {α β : Type} (f : α → α → β)

theorem spreadTo_length (xs : List α) : spreadTo xs.length xs = xs := by
  rcases xs with _ | ⟨a, _ | ⟨b, rest⟩⟩ <;> rfl

theorem mem_spreadTo {n : Nat} {xs : List α} {a : α} (h : a ∈ spreadTo n xs) : a ∈ xs := by
  unfold spreadTo at h
  split at h
  · rw [List.eq_of_mem_replicate h]
    exact List.mem_singleton_self _
  · exact h

/-- What is combined comes from the operands. -/
theorem mem_zipItems {xs ys : List α} {zs : List β} (h : zipItems f xs ys = some zs) {z : β}
    (member : z ∈ zs) : ∃ a ∈ xs, ∃ b ∈ ys, f a b = z := by
  unfold zipItems at h
  dsimp only at h
  split at h
  · cases h
  · cases h
    rw [← List.map_uncurry_zip_eq_zipWith] at member
    obtain ⟨⟨a, b⟩, pair, rfl⟩ := List.mem_map.mp member
    obtain ⟨left, right⟩ := List.of_mem_zip pair
    exact ⟨a, mem_spreadTo left, b, mem_spreadTo right, rfl⟩

theorem zipItems_of_length_eq {xs ys : List α} (h : xs.length = ys.length) :
    zipItems f xs ys = some (List.zipWith f xs ys) := by
  have longest : max xs.length ys.length = xs.length := by omega
  have accepted : ¬ ((xs.length ≠ xs.length ∧ xs.length ≠ 1) ∨
      (ys.length ≠ xs.length ∧ ys.length ≠ 1)) := by omega
  unfold zipItems
  simp only [longest]
  rw [if_neg accepted, spreadTo_length, h, spreadTo_length]

/-- A single value in front is repeated for each value behind. -/
theorem zipItems_singleton_left (a : α) {ys : List α} (h : ys ≠ []) :
    zipItems f [a] ys = some (ys.map (f a)) := by
  have some_values : 0 < ys.length := List.length_pos_iff.mpr h
  have longest : max [a].length ys.length = ys.length := by
    rw [List.length_singleton]
    omega
  have accepted : ¬ (([a].length ≠ ys.length ∧ [a].length ≠ 1) ∨
      (ys.length ≠ ys.length ∧ ys.length ≠ 1)) := by
    rw [List.length_singleton]
    omega
  have repeated : spreadTo ys.length [a] = List.replicate ys.length a := rfl
  unfold zipItems
  simp only [longest]
  rw [if_neg accepted, repeated, spreadTo_length]
  apply congrArg some
  apply List.ext_getElem <;> simp

theorem zipItems_swap (xs ys : List α) :
    zipItems f xs ys = zipItems (fun b a => f a b) ys xs := by
  unfold zipItems
  simp only [Nat.max_comm xs.length]
  rw [List.zipWith_comm]
  exact ite_congr (propext or_comm) (fun _ => rfl) fun _ => rfl

/-- A single value behind is repeated for each value in front. -/
theorem zipItems_singleton_right {xs : List α} (h : xs ≠ []) (b : α) :
    zipItems f xs [b] = some (xs.map (f · b)) := by
  rw [zipItems_swap, zipItems_singleton_left _ b h]

/-- Operands that fill shapes with a common broadcast are combined place by place, unless a scalar
stands beside nothing. -/
theorem zipItems_broadcast {dt : DType} {x y out : Shape} (h : broadcast dt x y = .ok out)
    {as bs : List α} (fullX : x.size = as.length) (fullY : y.size = bs.length) :
    (((x.isScalar ∧ bs.length = 0) ∨ (y.isScalar ∧ as.length = 0)) ∧ zipItems f as bs = none) ∨
      ¬ ((x.isScalar ∧ bs.length = 0) ∨ (y.isScalar ∧ as.length = 0)) ∧
        ∃ zs, zipItems f as bs = some zs ∧ out.size = zs.length ∧
          ∀ i < zs.length, ∃ a b, operandAt x as i = some a ∧ operandAt y bs i = some b ∧
            zs[i]? = some (f a b) := by
  rcases dims_of_broadcast h with ⟨scalar, dims⟩ | ⟨scalar, dims⟩ | ⟨same, dims⟩
  · obtain ⟨a, rfl⟩ := exists_singleton scalar fullX
    have size : out.size = y.size := by rw [Shape.size, dims, Shape.size]
    by_cases empty : bs = []
    · subst empty
      exact .inl ⟨.inl ⟨scalar, rfl⟩, rfl⟩
    · refine .inr ⟨?_, bs.map (f a), zipItems_singleton_left f a empty, ?_, ?_⟩
      · simp [empty]
      · rw [size, fullY, List.length_map]
      · intro i hi
        rw [List.length_map] at hi
        exact ⟨a, bs[i], operandAt_scalar scalar a i, operandAt_full fullY hi, by simp [hi]⟩
  · obtain ⟨b, rfl⟩ := exists_singleton scalar fullY
    have size : out.size = x.size := by rw [Shape.size, dims, Shape.size]
    by_cases empty : as = []
    · subst empty
      exact .inl ⟨.inr ⟨scalar, rfl⟩, rfl⟩
    · refine .inr ⟨?_, as.map (f · b), zipItems_singleton_right f empty b, ?_, ?_⟩
      · simp [empty]
      · rw [size, fullX, List.length_map]
      · intro i hi
        rw [List.length_map] at hi
        exact ⟨as[i], b, operandAt_full fullX hi, operandAt_scalar scalar b i, by simp [hi]⟩
  · have size : out.size = x.size := by rw [Shape.size, dims, Shape.size]
    have count : as.length = bs.length := by
      have sizes : x.size = y.size := by rw [Shape.size, same, Shape.size]
      omega
    refine .inr ⟨?_, List.zipWith f as bs, zipItems_of_length_eq f count, ?_, ?_⟩
    · -- Both shapes are that of a scalar or none is, and a scalar has one element.
      rintro (⟨scalar, empty⟩ | ⟨scalar, empty⟩)
      · obtain ⟨a, rfl⟩ := exists_singleton scalar fullX
        rw [← count] at empty
        cases empty
      · obtain ⟨b, rfl⟩ := exists_singleton scalar fullY
        rw [count] at empty
        cases empty
    · rw [size, fullX, List.length_zipWith, ← count, Nat.min_self]
    · intro i hi
      rw [List.length_zipWith, ← count, Nat.min_self] at hi
      have hi' : i < bs.length := count ▸ hi
      refine ⟨as[i], bs[i], operandAt_full fullX hi, operandAt_full fullY hi', ?_⟩
      rw [List.getElem?_zipWith, List.getElem?_eq_getElem hi, List.getElem?_eq_getElem hi']

end

/-! ### What a kernel does -/

/-- The kind of the elements that a kernel takes. -/
def operands : BinaryKernel → Kind
  | .logic _ _ => .bool
  | .compare k _ _ | .arith k _ _ _ => .num k
  | .divide k _ _ => .num (.int k)

/-- What a kernel does with two elements. An integer divided by zero has no result. -/
def onItems : (b : BinaryKernel) → b.operands.Carrier → b.operands.Carrier → Option b.kind.Carrier
  | .logic op _ => fun a c => some (op.apply a c)
  | .compare k c _ => fun a b => some (c.apply k a b)
  | .arith k op _ _ => op.apply k
  | .divide k op _ => op.apply k

/-- The family of the results of a kernel. -/
def results : BinaryKernel → Family
  | .logic _ _ | .compare _ _ _ => .logical
  | .arith _ _ _ family => family
  | .divide k _ _ => .integer k

/-- Whether a kernel refuses its second operand: a division looks for a zero first. -/
def refuses : (b : BinaryKernel) → List b.operands.Carrier → Bool
  | .divide k _ _, items => items.any k.isZero
  | .logic _ _, _ | .compare _ _ _, _ | .arith _ _ _ _, _ => false

/-- Results that are all there are found. -/
@[simp]
theorem results?_map_some {β : Type} (zs : List β) : results? (zs.map some) = some zs := by
  induction zs with
  | nil => rfl
  | cons z zs ih => rw [List.map_cons, results?, ih, Option.map_some]

theorem exists_map_some {β : Type} {zs : List (Option β)} (h : ∀ z ∈ zs, z.isSome) :
    ∃ ws : List β, zs = ws.map some := by
  induction zs with
  | nil => exact ⟨[], rfl⟩
  | cons z zs ih =>
      obtain ⟨ws, rfl⟩ := ih fun z member => h z (List.mem_cons_of_mem _ member)
      obtain ⟨w, rfl⟩ := Option.isSome_iff_exists.mp (h z List.mem_cons_self)
      exact ⟨w :: ws, rfl⟩

section

variable {k l : Kind} {f : k.Carrier → k.Carrier → Option l.Carrier} {dims : List Int}
  {family : Family} {x y : Tensor} {as bs : List k.Carrier}

/-- Sequences of different lengths are not combined. -/
theorem combine_refused (hx : x.elements = ⟨k, as⟩) (hy : y.elements = ⟨k, bs⟩)
    (zipped : zipItems f as bs = none) :
    combine k l f dims family x y = .error (.mixedOperands x.shape y.shape) := by
  rw [combine, Tensor.itemsAs_eq hx, Tensor.itemsAs_eq hy, ok_bind, ok_bind, zipped]
  rfl

/-- Elements that all have results are combined. -/
theorem combine_results (hx : x.elements = ⟨k, as⟩) (hy : y.elements = ⟨k, bs⟩)
    {zs : List l.Carrier} (zipped : zipItems f as bs = some (zs.map some)) :
    combine k l f dims family x y = .ok ⟨dims, ⟨l, zs⟩, family⟩ := by
  rw [combine, Tensor.itemsAs_eq hx, Tensor.itemsAs_eq hy, ok_bind, ok_bind, zipped]
  dsimp only
  rw [results?_map_some]
  rfl

end

/-- A division looks for a zero before it combines the elements. -/
theorem apply_divide (k : IntKind) (op : DivOp) (out : Shape) (x : Tensor) {y : Tensor}
    {bs : List k.Carrier} (hy : y.elements = ⟨.num (.int k), bs⟩) :
    (divide k op out).apply x y =
      if bs.any k.isZero then .error .divisionByZero
      else combine (.num (.int k)) (.num (.int k)) (op.apply k) out.dims (.integer k) x y := by
  rw [apply, Tensor.itemsAs_eq hy, ok_bind]
  by_cases zero : bs.any k.isZero
  · rw [if_pos zero, if_pos zero]
    rfl
  · rw [if_neg zero, if_neg zero]

/-- A kernel combines the elements if it does not refuse the second operand. -/
theorem apply_eq (b : BinaryKernel) (x : Tensor) {y : Tensor} {bs : List b.operands.Carrier}
    (hy : y.elements = ⟨b.operands, bs⟩) :
    b.apply x y =
      if b.refuses bs then .error .divisionByZero
      else combine b.operands b.kind b.onItems b.out.dims b.results x y := by
  cases b with
  | logic | compare | arith => exact (if_neg Bool.false_ne_true).symm
  | divide k op out => exact apply_divide k op out x hy

/-- A kernel that divides integers looks for a zero first. -/
def Guarded (b : BinaryKernel) : Prop :=
  ∀ k out family, b ≠ .arith (.int k) .quo out family

/-- A guarded kernel has a result for all elements that it does not refuse. -/
theorem Guarded.isSome_onItems {b : BinaryKernel} (guarded : b.Guarded)
    {items : List b.operands.Carrier} (accepted : ¬ b.refuses items) (a : b.operands.Carrier)
    {c : b.operands.Carrier} (member : c ∈ items) : (b.onItems a c).isSome := by
  cases b with
  | logic | compare => rfl
  | arith k op out family =>
      cases k with
      | float32 | float64 => rfl
      | int k =>
          have undivided : op ≠ .quo := by
            rintro rfl
            exact guarded k out family rfl
          exact ArithOp.isSome_applyInt undivided k a c
  | divide k op out =>
      exact op.isSome_apply a fun zero => accepted (List.any_eq_true.mpr ⟨c, member, zero⟩)

/-- The results of a guarded kernel that does not refuse its second operand are all there. -/
theorem Guarded.exists_results {b : BinaryKernel} (guarded : b.Guarded)
    {as bs : List b.operands.Carrier} (accepted : ¬ b.refuses bs)
    {rs : List (Option b.kind.Carrier)} (zipped : zipItems b.onItems as bs = some rs) :
    ∃ zs : List b.kind.Carrier, rs = zs.map some := by
  apply exists_map_some
  intro r member
  obtain ⟨a, -, c, inside, rfl⟩ := mem_zipItems _ zipped member
  exact guarded.isSome_onItems accepted a inside

/-! ### Kernels that a family makes -/

/-- A kernel for an operator between operands of two shapes. -/
structure IsFor (b : BinaryKernel) (op : Operator) (x y : Shape) : Prop where
  shape : broadcast b.out.dtype x y = .ok b.out
  announced : b.out.dtype = b.kind.dtype
  operands : x.dtype = b.operands.dtype
  meaning : ∀ {a c r}, b.onItems a c = some r → op.onElements b.operands a c = some ⟨b.kind, r⟩
  refuses : ∀ items, b.refuses items ↔ op.Divides ∧ Elements.HasIntegerZero ⟨b.operands, items⟩
  results : b.results = Family.ofKind b.kind
  guarded : b.Guarded

end BinaryKernel

theorem Elements.hasIntegerZero_iff {k : IntKind} {items : List k.Carrier} :
    HasIntegerZero ⟨.num (.int k), items⟩ ↔ items.any k.isZero := by
  rw [List.any_eq_true]
  constructor
  · rintro ⟨l, items', same, a, member, zero⟩
    cases same
    exact ⟨a, member, IntKind.isZero_iff.mpr zero⟩
  · rintro ⟨a, member, zero⟩
    exact ⟨k, items, rfl, a, member, IntKind.isZero_iff.mp zero⟩

/-- Only integers can be integers of which one is zero. -/
theorem Elements.HasIntegerZero.kind {e : Elements} (h : e.HasIntegerZero) :
    ∃ k, e.kind = .num (.int k) := by
  obtain ⟨k, items, rfl, -⟩ := h
  exact ⟨k, rfl⟩

namespace Family

/-- The family of a data type is that of the kind it declares. -/
theorem kind_of_forDType {dt : DType} {f : Family} (h : forDType dt = .ok f) :
    ∃ k : Kind, dt = k.dtype ∧ f = .ofKind k := by
  unfold forDType at h
  split at h
  · rename_i k found
    cases h
    exact ⟨k, DType.eq_of_kind? found, rfl⟩
  · cases h

section

variable {op : Operator} {x y : Shape} {b : BinaryKernel}

/-- The kernels of an algebraic family. -/
theorem algebraicBinary_cases {k : NumKind} {wrap : Shape → Family}
    (h : algebraicBinary k wrap op x y = .ok b) :
    (∃ c out, op = .compare c ∧ broadcast .bool x y = .ok out ∧ b = .compare k c out) ∨
      ∃ o out, op = .arith o ∧ broadcast x.dtype x y = .ok out ∧ b = .arith k o out (wrap out) := by
  unfold algebraicBinary at h
  split at h
  · rename_i c
    obtain ⟨out, shape, h⟩ := ok_of_bind_ok h
    cases h
    exact .inl ⟨c, out, rfl, shape, rfl⟩
  · rename_i o
    obtain ⟨out, shape, h⟩ := ok_of_bind_ok h
    cases h
    exact .inr ⟨o, out, rfl, shape, rfl⟩
  · obtain ⟨out, -, h⟩ := ok_of_bind_ok h
    cases h

/-- The kernels of an integer family: a division, or a kernel of the algebraic family for an
operator that does not divide. -/
theorem integerBinary_cases {k : IntKind} (h : (Family.integer k).binary op x y = .ok b) :
    (∃ o out, divOp? op = some o ∧ broadcast x.dtype x y = .ok out ∧ b = .divide k o out) ∨
      ¬ op.Divides ∧ algebraicBinary (.int k)
        (fun out => if out.dtype = .bool then .algebraic (.int k) else .integer k) op x y =
          .ok b := by
  simp only [binary] at h
  split at h
  · rename_i o known
    obtain ⟨out, shape, h⟩ := ok_of_bind_ok h
    cases h
    exact .inl ⟨o, out, known, shape, rfl⟩
  · rename_i unknown
    refine .inr ⟨?_, h⟩
    rw [Operator.divides_iff, unknown]
    rintro ⟨o, known⟩
    cases known

/-- A kernel of an algebraic family that does not divide integers. -/
theorem isFor_algebraicBinary {k : NumKind} {wrap : Shape → Family}
    (numbers : x.dtype = (Kind.num k).dtype) (undivided : op.Divides → ∀ i, k ≠ .int i)
    (wrapped : ∀ out : Shape, out.dtype = x.dtype → wrap out = .ofKind (.num k))
    (h : algebraicBinary k wrap op x y = .ok b) : b.IsFor op x y := by
  have announced := announced_algebraicBinary numbers h
  have nonzero (items : List k.Carrier) :
      ¬ (op.Divides ∧ Elements.HasIntegerZero ⟨.num k, items⟩) := by
    rintro ⟨divides, zero⟩
    obtain ⟨i, kind⟩ := zero.kind
    exact undivided divides i (Kind.num.inj kind)
  rcases algebraicBinary_cases h with ⟨c, out, rfl, shape, rfl⟩ | ⟨o, out, rfl, shape, rfl⟩
  · have dtype := dtype_of_broadcast shape
    refine ⟨?_, announced, numbers, ?_, ?_, rfl, nofun⟩
    · rw [BinaryKernel.out, dtype]
      exact shape
    · rintro a b _ ⟨⟩
      exact Operator.onElements_compare k c a b
    · exact fun items => iff_of_false Bool.false_ne_true (nonzero items)
  · have dtype := dtype_of_broadcast shape
    refine ⟨?_, announced, numbers, Operator.onElements_arith, ?_, wrapped out dtype, ?_⟩
    · rw [BinaryKernel.out, dtype]
      exact shape
    · exact fun items => iff_of_false Bool.false_ne_true (nonzero items)
    · rintro i _ _ ⟨⟩
      exact undivided (.inl rfl) i rfl

/-- A kernel that the family of a kind makes is one for the operator and the two shapes. -/
theorem isFor_binary {k : Kind} (kind : x.dtype = k.dtype)
    (h : (Family.ofKind k).binary op x y = .ok b) : b.IsFor op x y := by
  cases k with
  | bool =>
      have announced := announced_binary kind h
      obtain ⟨out, shape, h⟩ := ok_of_bind_ok h
      split at h
      · rename_i o known
        cases h
        have dtype := dtype_of_broadcast shape
        refine ⟨?_, announced, kind, ?_, ?_, rfl, nofun⟩
        · rw [BinaryKernel.out, dtype]
          exact shape
        · rintro a b _ ⟨⟩
          exact Operator.onElements_logic known a b
        · refine fun items => iff_of_false Bool.false_ne_true ?_
          rintro ⟨-, zero⟩
          obtain ⟨i, kind⟩ := zero.kind
          cases kind
      · cases h
  | num k =>
      cases k with
      | float32 | float64 => exact isFor_algebraicBinary kind nofun (fun _ _ => rfl) h
      | int k =>
          have announced := announced_binary kind h
          rcases integerBinary_cases h with ⟨o, out, known, shape, rfl⟩ | ⟨undivided, h⟩
          · have dtype := dtype_of_broadcast shape
            refine ⟨?_, announced, kind, Operator.onElements_divide known, ?_, rfl, nofun⟩
            · rw [BinaryKernel.out, dtype]
              exact shape
            · intro items
              have divides : op.Divides := Operator.divides_iff.mpr ⟨o, known⟩
              exact Elements.hasIntegerZero_iff.symm.trans (and_iff_right divides).symm
          · refine isFor_algebraicBinary kind (fun divides => absurd divides undivided) ?_ h
            intro out dtype
            have numbers : out.dtype ≠ .bool := by
              rw [dtype, kind]
              cases k <;> decide
            rw [if_neg numbers]
            rfl

end

end Family

/-! ### Kernels of one operand -/

namespace UnaryKernel

theorem length_of_mapItems {k l : Kind} {f : k.Carrier → l.Carrier} {x : Tensor}
    {zs : List l.Carrier} (h : mapItems k l f x = .ok zs) : zs.length = x.elements.length := by
  obtain ⟨xs, items, h⟩ := ok_of_bind_ok h
  cases h
  rw [Tensor.elements_of_itemsAs items, List.length_map]
  rfl

/-- A kernel of one operand computes an element for each element. -/
theorem length_of_apply {k : UnaryKernel} {x t : Tensor} (h : k.apply x = .ok t) :
    t.elements.length = x.elements.length := by
  cases k with
  | copy =>
      cases h
      rfl
  | neg | not | keep | math | cast =>
      obtain ⟨zs, items, h⟩ := ok_of_bind_ok h
      cases h
      exact length_of_mapItems items

/-- A kernel that is no conversion fills the shape of its operand. -/
theorem isFull_of_apply {k : UnaryKernel} (keeps : ∀ a b dims, k ≠ .cast a b dims) {x t : Tensor}
    (h : k.apply x = .ok t) (full : x.IsFull) : t.IsFull := by
  rw [Tensor.IsFull, shape_of_apply keeps h, length_of_apply h]
  exact full

end UnaryKernel

/-! ### Outcomes -/

namespace BinaryKernel

/-- What a kernel comes to on operands that fill the shapes it was made for. -/
theorem IsFor.apply_cases {op : Operator} {x y : Tensor} {b : BinaryKernel}
    (made : b.IsFor op x.shape y.shape) (fullX : x.IsFull) (fullY : y.IsFull) :
    ((op.Divides ∧ y.elements.HasIntegerZero) ∧ b.apply x y = .error .divisionByZero) ∨
      ¬ (op.Divides ∧ y.elements.HasIntegerZero) ∧
        (x.RepeatedForNothing y ∧ b.apply x y = .error (.mixedOperands x.shape y.shape) ∨
          ¬ x.RepeatedForNothing y ∧ ∃ t, b.apply x y = .ok t ∧ op.Elementwise b.out x y t ∧
            t.family = .ofKind t.kind) := by
  obtain ⟨as, hx⟩ := Tensor.exists_items made.operands
  obtain ⟨bs, hy⟩ := Tensor.exists_items
    ((dtype_eq_of_broadcast made.shape).symm.trans made.operands)
  have countX : x.elements.length = as.length := by rw [hx]; rfl
  have countY : y.elements.length = bs.length := by rw [hy]; rfl
  have fullX : x.shape.size = as.length := by rw [fullX, countX]
  have fullY : y.shape.size = bs.length := by rw [fullY, countY]
  rw [apply_eq b x hy, hy, ← made.refuses bs, Tensor.RepeatedForNothing, countX, countY]
  by_cases refused : b.refuses bs
  · exact .inl ⟨refused, if_pos refused⟩
  · refine .inr ⟨refused, ?_⟩
    rw [if_neg refused]
    rcases zipItems_broadcast b.onItems made.shape fullX fullY with
      ⟨nothing, zipped⟩ | ⟨something, rs, zipped, size, values⟩
    · exact .inl ⟨nothing, combine_refused hx hy zipped⟩
    · obtain ⟨zs, rfl⟩ := made.guarded.exists_results refused zipped
      rw [List.length_map] at size values
      refine .inr ⟨something, _, combine_results hx hy zipped,
        ⟨?_, size, b.operands, as, bs, hx, hy, ?_⟩, made.results⟩
      · exact congrArg (Shape.mk · b.out.dims) made.announced.symm
      · intro i hi
        obtain ⟨a, c, atX, atY, value⟩ := values i hi
        refine ⟨a, c, atX, atY, ?_⟩
        rw [List.getElem?_map, Option.map_eq_some_iff] at value
        obtain ⟨z, place, result⟩ := value
        rw [made.meaning result.symm]
        exact congrArg (Option.map (Sigma.mk b.kind)) place

/-- A kernel made for an operator and two shapes, applied to tensors that fill these shapes. It
fails with a division by zero exactly if the operator divides integers and a divisor is zero; else
it is refused exactly if a scalar stands beside a tensor without elements; and else it gives the
operator on the elements, in the announced shape. -/
theorem computes_elementwise {xs ys : Shape} {f : Family} {op : Operator} {b : BinaryKernel}
    (family : Family.forDType xs.dtype = .ok f) (made : f.binary op xs ys = .ok b) {x y : Tensor}
    (shapeX : x.shape = xs) (shapeY : y.shape = ys) (fullX : x.IsFull) (fullY : y.IsFull) :
    (b.apply x y = .error .divisionByZero ↔ op.Divides ∧ y.elements.HasIntegerZero) ∧
      (b.apply x y = .error (.mixedOperands xs ys) ↔
        ¬ (op.Divides ∧ y.elements.HasIntegerZero) ∧ x.RepeatedForNothing y) ∧
      (¬ (op.Divides ∧ y.elements.HasIntegerZero) → ¬ x.RepeatedForNothing y →
        ∃ t, b.apply x y = .ok t ∧ op.Elementwise b.out x y t) := by
  subst shapeX shapeY
  have isFor : b.IsFor op x.shape y.shape := by
    obtain ⟨k, kind, rfl⟩ := Family.kind_of_forDType family
    exact Family.isFor_binary kind made
  rcases isFor.apply_cases fullX fullY with
    ⟨divided, fails⟩ | ⟨undivided, ⟨nothing, fails⟩ | ⟨something, t, gives, elementwise, -⟩⟩
  · simp [fails, divided]
  · simp [fails, undivided, nothing]
  · refine ⟨?_, ?_, fun _ _ => ⟨t, gives, elementwise⟩⟩
    · simp [gives, undivided]
    · simp [gives, something]

end BinaryKernel

/-- Seven and its negative. -/
def sevens : Tensor := ⟨[2], ⟨.int32, [7, -7]⟩, .integer .int32⟩

/-- Two, as a scalar. -/
def scalarTwo : Tensor := ⟨[], ⟨.int32, [2]⟩, .integer .int32⟩

/-- The half of both, by a scalar divisor: quotients truncate towards zero. -/
theorem sevens_halved : ∃ b,
    (Family.integer .int32).binary (.arith .quo) sevens.shape scalarTwo.shape = .ok b ∧
      ∃ t, b.apply sevens scalarTwo = .ok t ∧
        (Operator.arith .quo).Elementwise b.out sevens scalarTwo t ∧
        t = ⟨[2], ⟨.int32, [3, -3]⟩, .integer .int32⟩ := by
  have made : (Family.integer .int32).binary (.arith .quo) sevens.shape scalarTwo.shape =
      .ok (.divide .int32 .quo ⟨.int32, [2]⟩) := rfl
  have fullX : sevens.IsFull := rfl
  have fullY : scalarTwo.IsFull := rfl
  have nonzero : ¬ scalarTwo.elements.HasIntegerZero := by
    rw [scalarTwo, Elements.hasIntegerZero_iff]
    decide
  have something : ¬ sevens.RepeatedForNothing scalarTwo := by
    rintro (⟨scalar, -⟩ | ⟨-, empty⟩)
    · cases scalar
    · cases empty
  obtain ⟨t, gives, elementwise⟩ := (BinaryKernel.computes_elementwise rfl made rfl rfl fullX
    fullY).2.2 (fun h => nonzero h.2) something
  refine ⟨_, made, t, gives, elementwise, ?_⟩
  cases gives
  rfl

/-- A scalar is not repeated for a tensor without elements: the kernel for the two shapes announces
an empty result and refuses the operands. -/
theorem sumWithNothing_refused : ∃ b nothing,
    Tensor.zero ⟨.int32, [0]⟩ = .ok nothing ∧ nothing.IsFull ∧ scalarTwo.IsFull ∧
      (Family.integer .int32).binary (.arith .add) scalarTwo.shape nothing.shape = .ok b ∧
      b.out = ⟨.int32, [0]⟩ ∧
      b.apply scalarTwo nothing =
        .error (.mixedOperands scalarTwo.shape nothing.shape) :=
  ⟨_, _, rfl, rfl, rfl, rfl, rfl, rfl⟩

end TensorCompiler
