import TensorCompiler.Kernel.Graph
import TensorCompiler.Proofs.Outcome

/-!
# Array kernels of operators

An operator takes its array kernel from the shapes of its operands alone. A node announces a shape
before anything is computed, and the kernel is taken then.

Main statements: the node of an operator holds the kernel that the operator has for the announced
shapes; and a tensor that such a kernel computes has the shape that was announced.
-/

namespace TensorCompiler

namespace KernelOp

/-- The array kernel of an operator on two operands of the given shapes. -/
def binaryKernel? (op : KernelOp) (x y : Shape) : Option BinaryKernel :=
  match op with
  | .binary o => (do let f ← Family.forDType x.dtype; f.binary o x y : Except _ _).toOption
  | _ => none

/-- The array kernel of an operator on one operand of the given shape. -/
def unaryKernel? (op : KernelOp) (x : Shape) : Option UnaryKernel :=
  match op with
  | .binary _ => none
  | .negate => (do let f ← Family.forDType x.dtype; f.unary (.arith .sub) x : Except _ _).toOption
  | .copy => some .copy
  | .math f => (Family.forDType x.dtype).toOption.bind (·.math? f)

/-- The node of an operator on one operand. -/
theorem toOption_node_one (op : KernelOp) (x : GraphNode) :
    (op.node [x]).toOption = (op.unaryKernel? x.shape).map fun k => .unary k x := by
  cases op with
  | binary | copy => rfl
  | negate =>
      simp only [node, unaryKernel?, GraphNode.family]
      split <;> rename_i chosen <;> rw [chosen] <;> rfl
  | math f =>
      simp only [node, unaryKernel?, GraphNode.family]
      cases Family.forDType x.shape.dtype with
      | error e => rfl
      | ok family =>
          simp only [Except.toOption, Option.bind_some]
          cases family.math? f <;> rfl

/-- The node of an operator on two operands. -/
theorem toOption_node_two (op : KernelOp) (x y : GraphNode) :
    (op.node [x, y]).toOption =
      (op.binaryKernel? x.shape y.shape).map fun k => .binary k x y := by
  cases op with
  | negate | copy | math => rfl
  | binary o =>
      simp only [node, binaryKernel?, GraphNode.family]
      split <;> rename_i chosen <;> rw [chosen] <;> rfl

/-- An operator has one operand or two. -/
theorem toOption_node_other (op : KernelOp) {ns : List GraphNode} (one : ns.length ≠ 1)
    (two : ns.length ≠ 2) : (op.node ns).toOption = none := by
  rcases ns with _ | ⟨x, _ | ⟨y, _ | ⟨z, rest⟩⟩⟩
  · cases op <;> rfl
  · exact absurd rfl one
  · exact absurd rfl two
  · cases op <;> rfl

/-- The node of an operator holds the kernel that the operator has for the announced shapes. -/
theorem node_eq_ok_iff {op : KernelOp} {ns : List GraphNode} {n : GraphNode} :
    op.node ns = .ok n ↔
      (∃ x k, ns = [x] ∧ op.unaryKernel? x.shape = some k ∧ n = .unary k x) ∨
        ∃ x y k, ns = [x, y] ∧ op.binaryKernel? x.shape y.shape = some k ∧ n = .binary k x y := by
  have result : op.node ns = .ok n ↔ (op.node ns).toOption = some n :=
    ⟨fun h => h ▸ rfl, ok_of_toOption⟩
  rw [result]
  rcases ns with _ | ⟨x, _ | ⟨y, _ | ⟨z, rest⟩⟩⟩
  · simp [toOption_node_other]
  · rw [toOption_node_one, Option.map_eq_some_iff]
    constructor
    · rintro ⟨k, chosen, rfl⟩
      exact .inl ⟨x, k, rfl, chosen, rfl⟩
    · rintro (⟨_, k, ⟨⟩, chosen, rfl⟩ | ⟨_, _, _, ⟨⟩, _⟩)
      exact ⟨k, chosen, rfl⟩
  · rw [toOption_node_two, Option.map_eq_some_iff]
    constructor
    · rintro ⟨k, chosen, rfl⟩
      exact .inr ⟨x, y, k, rfl, chosen, rfl⟩
    · rintro (⟨_, _, ⟨⟩, _⟩ | ⟨_, _, k, ⟨⟩, chosen, rfl⟩)
      exact ⟨k, chosen, rfl⟩
  · simp [toOption_node_other]

end KernelOp

/-! ### Shapes of results -/

theorem DType.eq_of_kind? {dt : DType} {k : Kind} (h : dt.kind? = some k) : dt = k.dtype := by
  cases dt <;> simp only [DType.kind?, Option.some.injEq, reduceCtorEq] at h <;> subst h <;> rfl

/-- Elements can be used as those of their own kind only. -/
theorem Tensor.kind_of_itemsAs {t : Tensor} {k : Kind} {xs : List k.Carrier}
    (h : t.itemsAs k = .ok xs) : t.kind = k := by
  unfold itemsAs Elements.as? at h
  by_cases same : t.elements.kind = k
  · exact same
  · simp [same] at h

/-- A result that is repeated has the data type that was asked for. -/
theorem dtype_of_broadcast {dt : DType} {x y out : Shape} (h : broadcast dt x y = .ok out) :
    out.dtype = dt := by
  unfold broadcast at h
  split at h
  · cases h
  · split at h
    · cases h; rfl
    · split at h
      · cases h; rfl
      · split at h
        · cases h; rfl
        · cases h

namespace BinaryKernel

/-- The kind of the elements that a kernel computes. -/
def kind : BinaryKernel → Kind
  | .logic _ _ | .compare _ _ _ => .bool
  | .arith k _ _ _ => .num k
  | .divide k _ _ => .num (.int k)

/-- Combined tensors have the kind and the dimensions that were asked for. -/
theorem shape_of_combine {k l : Kind} {f : k.Carrier → k.Carrier → Option l.Carrier}
    {dims : List Int} {family : Family} {x y t : Tensor}
    (h : combine k l f dims family x y = .ok t) : t.shape = ⟨l.dtype, dims⟩ := by
  unfold combine at h
  obtain ⟨xs, -, h⟩ := ok_of_bind_ok h
  obtain ⟨ys, -, h⟩ := ok_of_bind_ok h
  split at h
  · cases h
  · split at h
    · cases h
    · cases h
      rfl

/-- A kernel that announces the data type of its elements computes what it announces. -/
theorem shape_of_apply {k : BinaryKernel} (announced : k.out.dtype = k.kind.dtype) {x y t : Tensor}
    (h : k.apply x y = .ok t) : t.shape = k.out := by
  have whole : t.shape = ⟨k.kind.dtype, k.out.dims⟩ := by
    cases k with
    | logic | compare | arith => exact shape_of_combine h
    | divide k op out =>
        obtain ⟨ys, -, h⟩ := ok_of_bind_ok h
        split at h
        · cases h
        · exact shape_of_combine h
  rw [whole, ← announced]

end BinaryKernel

/-- The numbers of an algebraic kernel are those of the announced data type. -/
theorem Family.announced_algebraicBinary {k : NumKind} {wrap : Shape → Family} {op : Operator}
    {x y : Shape} (numbers : x.dtype = (Kind.num k).dtype) {b : BinaryKernel}
    (h : algebraicBinary k wrap op x y = .ok b) : b.out.dtype = b.kind.dtype := by
  unfold algebraicBinary at h
  split at h
  · obtain ⟨out, shape, h⟩ := ok_of_bind_ok h
    cases h
    exact dtype_of_broadcast shape
  · obtain ⟨out, shape, h⟩ := ok_of_bind_ok h
    cases h
    exact (dtype_of_broadcast shape).trans numbers
  · obtain ⟨out, -, h⟩ := ok_of_bind_ok h
    cases h

/-- A kernel of a family announces the data type of its elements. -/
theorem Family.announced_binary {k : Kind} {op : Operator} {x y : Shape} (kind : x.dtype = k.dtype)
    {b : BinaryKernel} (h : (Family.ofKind k).binary op x y = .ok b) :
    b.out.dtype = b.kind.dtype := by
  cases k with
  | bool =>
      obtain ⟨out, shape, h⟩ := ok_of_bind_ok h
      split at h
      · cases h
        exact dtype_of_broadcast shape
      · cases h
  | num k =>
      cases k with
      | float32 | float64 => exact announced_algebraicBinary kind h
      | int k =>
          simp only [ofKind, binary] at h
          split at h
          · obtain ⟨out, shape, h⟩ := ok_of_bind_ok h
            cases h
            exact (dtype_of_broadcast shape).trans kind
          · exact announced_algebraicBinary kind h

/-- The kernel of an operator announces the data type of its elements. -/
theorem KernelOp.announced_binaryKernel {op : KernelOp} {x y : Shape} {k : BinaryKernel}
    (h : op.binaryKernel? x y = some k) : k.out.dtype = k.kind.dtype := by
  cases op with
  | negate | copy | math => cases h
  | binary o =>
      obtain ⟨f, family, h⟩ := ok_of_bind_ok (ok_of_toOption h)
      unfold Family.forDType at family
      split at family
      · rename_i kind found
        cases family
        exact Family.announced_binary (DType.eq_of_kind? found) h
      · cases family

namespace UnaryKernel

/-- Mapped elements are of the kind that was asked for. -/
theorem kind_of_mapItems {k l : Kind} {f : k.Carrier → l.Carrier} {x : Tensor}
    {zs : List l.Carrier} (h : mapItems k l f x = .ok zs) : x.kind = k := by
  obtain ⟨xs, items, -⟩ := ok_of_bind_ok h
  exact Tensor.kind_of_itemsAs items

/-- A kernel that is no conversion keeps the shape of its operand. -/
theorem shape_of_apply {k : UnaryKernel} (keeps : ∀ a b dims, k ≠ .cast a b dims) {x t : Tensor}
    (h : k.apply x = .ok t) : t.shape = x.shape := by
  cases k with
  | copy =>
      cases h
      rfl
  | neg | not | keep | math =>
      obtain ⟨zs, items, h⟩ := ok_of_bind_ok h
      cases h
      rw [Tensor.shape, Tensor.shape, kind_of_mapItems items]
      rfl
  | cast a b dims => exact absurd rfl (keeps a b dims)

end UnaryKernel

/-- A family has no operator of one operand that converts. -/
theorem Family.keeps_unary {f : Family} {op : Operator} {s : Shape} {k : UnaryKernel}
    (h : f.unary op s = .ok k) (a b : NumKind) (dims : List Int) : k ≠ .cast a b dims := by
  rintro rfl
  unfold Family.unary at h
  split at h <;> cases h

/-- No operator converts. -/
theorem KernelOp.keeps_unaryKernel {op : KernelOp} {x : Shape} {k : UnaryKernel}
    (h : op.unaryKernel? x = some k) (a b : NumKind) (dims : List Int) : k ≠ .cast a b dims := by
  rintro rfl
  cases op with
  | binary => cases h
  | negate =>
      obtain ⟨family, -, h⟩ := ok_of_bind_ok (ok_of_toOption h)
      exact Family.keeps_unary h a b dims rfl
  | copy => cases h
  | math f =>
      obtain ⟨family, -, h⟩ := Option.bind_eq_some_iff.mp h
      obtain ⟨number, -, h⟩ := Option.map_eq_some_iff.mp h
      cases h

end TensorCompiler
