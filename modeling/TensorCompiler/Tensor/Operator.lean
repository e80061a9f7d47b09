import TensorCompiler.Tensor.Arith
import TensorCompiler.Tensor.Basic

/-!
# Kernels of operators

A family turns an operator and the shapes of its operands into a kernel and the shape the kernel
announces. Kernels are data; applying one to tensors checks their kinds and lengths again. Only the
kernels of divisions look for a zero: the quotient of an algebraic family stops the machine at one.
-/

namespace TensorCompiler

/-- The operators a program may name. -/
inductive Operator where
  | arith (op : ArithOp)
  | rem
  | compare (c : Comparison)
  | land
  | lor
  | not
  | other (symbol : String)
deriving DecidableEq, Repr

/-- The symbol of an operator. -/
def Operator.symbol : Operator → String
  | .arith .add => "+"
  | .arith .sub => "-"
  | .arith .mul => "*"
  | .arith .quo => "/"
  | .rem => "%"
  | .compare .eql => "=="
  | .compare .neq => "!="
  | .compare .lss => "<"
  | .compare .gtr => ">"
  | .compare .leq => "<="
  | .compare .geq => ">="
  | .land => "&&"
  | .lor => "||"
  | .not => "!"
  | .other symbol => symbol

/-- The operators with a meaning for some kind. -/
def Operator.known : List Operator :=
  [.arith .add, .arith .sub, .arith .mul, .arith .quo, .rem, .compare .eql, .compare .neq,
    .compare .lss, .compare .gtr, .compare .leq, .compare .geq, .land, .lor, .not]

/-- The operator with a symbol. -/
def Operator.ofSymbol (symbol : String) : Operator :=
  (Operator.known.find? (·.symbol == symbol)).getD (.other symbol)

@[simp]
theorem Operator.symbol_ofSymbol (symbol : String) :
    (Operator.ofSymbol symbol).symbol = symbol := by
  unfold Operator.ofSymbol
  cases h : Operator.known.find? (·.symbol == symbol) with
  | none => rfl
  | some op => simpa using List.find?_some h

/-- A kernel of two operands with the shape it announces. -/
inductive BinaryKernel where
  | logic (op : LogicOp) (out : Shape)
  | compare (k : NumKind) (c : Comparison) (out : Shape)
  | arith (k : NumKind) (op : ArithOp) (out : Shape) (family : Family)
  | divide (k : IntKind) (op : DivOp) (out : Shape)
deriving DecidableEq, Repr

/-- A kernel of one operand. -/
inductive UnaryKernel where
  | neg (k : NumKind) (family : Family)
  | not
  | copy
  | keep (k : IntKind)
  | math (k : NumKind) (f : MathFn)
  | cast (k l : NumKind) (dims : List Int)
deriving DecidableEq, Repr

/-- The shape of the result of an operator: a scalar is repeated to the shape of the other
operand. -/
def broadcast (dt : DType) (x y : Shape) : Except TensorError Shape :=
  if x.dtype ≠ y.dtype then .error (.mixedTypes x.dtype y.dtype)
  else if x.isScalar then .ok ⟨dt, y.dims⟩
  else if y.isScalar then .ok ⟨dt, x.dims⟩
  else if x.dims = y.dims then .ok ⟨dt, x.dims⟩
  else .error (.mixedShapes x y)

namespace BinaryKernel

/-- The shape a kernel announces. -/
def out : BinaryKernel → Shape
  | .logic _ out => out
  | .compare _ _ out => out
  | .arith _ _ out _ => out
  | .divide _ _ out => out

/-- A single value is repeated `n` times, others stand for themselves. -/
def spreadTo {α : Type} (n : Nat) : List α → List α
  | [x] => List.replicate n x
  | xs => xs

/-- Combines two sequences of one length, or one with a single value. -/
def zipItems {α β : Type} (f : α → α → β) (xs ys : List α) : Option (List β) :=
  let n := max xs.length ys.length
  if (xs.length ≠ n ∧ xs.length ≠ 1) ∨ (ys.length ≠ n ∧ ys.length ≠ 1) then none
  else some (List.zipWith f (spreadTo n xs) (spreadTo n ys))

/-- The results in order, if every one of them is there. -/
def results? {β : Type} : List (Option β) → Option (List β)
  | [] => some []
  | none :: _ => none
  | some z :: zs => (results? zs).map (z :: ·)

/-- Combines the elements of two tensors of kind `k` into one of kind `l`. The machine stops at
elements that have no result. -/
def combine (k l : Kind) (f : k.Carrier → k.Carrier → Option l.Carrier) (dims : List Int)
    (family : Family) (x y : Tensor) : Except TensorError Tensor := do
  let xs ← x.itemsAs k
  let ys ← y.itemsAs k
  match zipItems f xs ys with
  | none => throw (.mixedOperands x.shape y.shape)
  | some zs =>
    match results? zs with
    | none => throw .stopped
    | some zs => return ⟨dims, ⟨l, zs⟩, family⟩

/-- Applies a kernel. A division looks at all divisors first. -/
def apply : BinaryKernel → Tensor → Tensor → Except TensorError Tensor
  | .logic op out, x, y =>
    combine .bool .bool (fun a b => some (op.apply a b)) out.dims .logical x y
  | .compare k c out, x, y =>
    combine (.num k) .bool (fun a b => some (c.apply k a b)) out.dims .logical x y
  | .arith k op out family, x, y => combine (.num k) (.num k) (op.apply k) out.dims family x y
  | .divide k op out, x, y => do
    let ys ← y.itemsAs (.num (.int k))
    if ys.any k.isZero then throw .divisionByZero
    combine (.num (.int k)) (.num (.int k)) (op.apply k) out.dims (.integer k) x y

end BinaryKernel

namespace UnaryKernel

/-- Maps the elements of a tensor of kind `k` to elements of kind `l`. -/
def mapItems (k l : Kind) (f : k.Carrier → l.Carrier) (x : Tensor) :
    Except TensorError (List l.Carrier) := do
  let xs ← x.itemsAs k
  return xs.map f

/-- Applies a kernel. -/
def apply : UnaryKernel → Tensor → Except TensorError Tensor
  | .neg k family, x => do
    let zs ← mapItems (.num k) (.num k) k.neg x
    return ⟨x.dims, ⟨.num k, zs⟩, family⟩
  | .not, x => do
    let zs ← mapItems .bool .bool Bool.not x
    return ⟨x.dims, ⟨.bool, zs⟩, .logical⟩
  | .copy, x => .ok x
  | .keep k, x => do
    let zs ← mapItems (.num (.int k)) (.num (.int k)) id x
    return ⟨x.dims, ⟨.num (.int k), zs⟩, .integer k⟩
  | .math k f, x => do
    let zs ← mapItems (.num k) (.num k) (f.onNumber k) x
    return ⟨x.dims, ⟨.num k, zs⟩, x.family⟩
  | .cast k l dims, x => do
    let zs ← mapItems (.num k) (.num l) (k.convert l) x
    return ⟨dims, ⟨.num l, zs⟩, .ofKind (.num l)⟩

end UnaryKernel

namespace Family

/-- The kernel of a binary operator in an algebraic family, whose results belong to the family
`wrap` gives for the announced shape. -/
def algebraicBinary (k : NumKind) (wrap : Shape → Family) (op : Operator) (x y : Shape) :
    Except TensorError BinaryKernel :=
  match op with
  | .compare c => do
    let out ← broadcast .bool x y
    return .compare k c out
  | .arith a => do
    let out ← broadcast x.dtype x y
    return .arith k a out (wrap out)
  | _ => do
    let _ ← broadcast x.dtype x y
    throw (.noOperator op.symbol x.dtype)

/-- The division an operator is, if it is one. -/
def divOp? : Operator → Option DivOp
  | .arith .quo => some .quo
  | .rem => some .rem
  | _ => none

/-- The operator on truth values an operator is, if it is one. -/
def logicOp? : Operator → Option LogicOp
  | .land => some .land
  | .lor => some .lor
  | .compare .eql => some .eql
  | .compare .neq => some .neq
  | _ => none

/-- The kernel of a binary operator between operands of the given shapes. -/
def binary (f : Family) (op : Operator) (x y : Shape) : Except TensorError BinaryKernel :=
  match f with
  | .logical => do
    let out ← broadcast .bool x y
    match logicOp? op with
    | some o => return .logic o out
    | none => throw (.noOperator op.symbol x.dtype)
  | .algebraic k => algebraicBinary k (fun _ => .algebraic k) op x y
  | .integer k =>
    match divOp? op with
    | some d => do
      let out ← broadcast x.dtype x y
      return .divide k d out
    | none =>
      algebraicBinary (.int k)
        (fun out => if out.dtype = .bool then .algebraic (.int k) else .integer k) op x y

/-- The kernel of a unary operator, which announces the shape of its operand. -/
def unary (f : Family) (op : Operator) (x : Shape) : Except TensorError UnaryKernel :=
  match f, op with
  | .logical, .not => .ok .not
  | .algebraic k, .arith .sub => .ok (.neg k (.algebraic k))
  | .algebraic _, .arith .add => .ok .copy
  | .integer k, .arith .sub => .ok (.neg (.int k) (.integer k))
  | .integer k, .arith .add => .ok (.keep k)
  | _, _ => .error (.noOperator op.symbol x.dtype)

/-- The numbers a family computes with. -/
def numKind? : Family → Option NumKind
  | .logical => none
  | .algebraic k => some k
  | .integer k => some (.int k)

/-- The kernel that converts to another data type and the shape it announces. -/
def cast (f : Family) (target : DType) (dims : List Int) :
    Except TensorError (UnaryKernel × Shape) :=
  match f.numKind? with
  | none => .error .castFromBool
  | some k =>
    match target.kind? with
    | some (.num l) => .ok (.cast k l dims, ⟨target, dims⟩)
    | _ => .error (.castTo target)

/-- The kernel of a function of one real argument. Truth values have none. -/
def math? (f : Family) (fn : MathFn) : Option UnaryKernel :=
  f.numKind?.map fun k => .math k fn

end Family
end TensorCompiler
