import TensorCompiler.Tensor.Elements
import TensorCompiler.Tensor.Shape

/-!
# Tensors

A tensor is a flat sequence of elements with the lengths of its axes. It carries the family of
kernels that operators on it are taken from.
-/

namespace TensorCompiler

/-- A family of kernels. The integer family guards its divisions, the algebraic one does not. -/
inductive Family where
  | logical
  | algebraic (k : NumKind)
  | integer (k : IntKind)
deriving DecidableEq, Repr

/-- The family of a kind. -/
def Family.ofKind : Kind → Family
  | .bool => .logical
  | .num (.int k) => .integer k
  | .num k => .algebraic k

/-- A multi-dimensional array. -/
structure Tensor where
  dims : List Int
  elements : Elements
  family : Family
deriving DecidableEq

/-- Why an operation on tensors has no result. It is refused, or the machine `stopped` in the midst
of it because it was to divide an integer by zero. -/
inductive TensorError where
  | noFamily (dt : DType)
  | notElements (typeName : String)
  | valueCount (count : Nat) (shape : Shape)
  | noZero (dt : DType)
  | notAtomic (shape : Shape)
  | wrongKind (got want : Kind)
  | mixedTypes (x y : DType)
  | mixedShapes (x y : Shape)
  | mixedOperands (x y : Shape)
  | noOperator (symbol : String) (dt : DType)
  | divisionByZero
  | castTo (dt : DType)
  | castFromBool
  | stopped
deriving DecidableEq

/-- The name of the storage of a kind. -/
def Kind.storageName (k : Kind) : String :=
  "*kernels.arrayT[" ++ k.name ++ "]"

/-- The wording of a refusal, and what a machine that stops reports. -/
def TensorError.message : TensorError → String
  | .noFamily dt => "no factory for " ++ dt.name
  | .notElements name => "cannot create an array from " ++ name ++ ": not supported"
  | .valueCount count shape =>
    "mismatch between the number of values (=" ++ Text.ofNat count ++
      ") and the number of elements (=" ++ Text.ofInt shape.size ++ ") in shape " ++ shape.text
  | .noZero dt => "cannot create an array of data type " ++ dt.name ++ ": not supported"
  | .notAtomic shape => shape.text ++ " not atomic"
  | .wrongKind got want => "cannot use array " ++ got.storageName ++ " as " ++ want.storageName
  | .mixedTypes x y => "mismatched data types " ++ x.name ++ " and " ++ y.name
  | .mixedShapes x y =>
    "cannot apply an operator between shapes " ++ x.text ++ " and " ++ y.text
  | .mixedOperands x y => "cannot apply an operator between " ++ x.text ++ " and " ++ y.text
  | .noOperator symbol dt => "operator " ++ symbol ++ " not supported for " ++ dt.name
  | .divisionByZero => "integer division by zero"
  | .castTo dt => "cast to " ++ dt.name ++ " not supported"
  | .castFromBool => "cast from bool not supported"
  | .stopped => "runtime error: integer divide by zero"

instance : ToString TensorError := ⟨TensorError.message⟩

/-- The family of a data type. -/
def Family.forDType (dt : DType) : Except TensorError Family :=
  match dt.kind? with
  | some k => .ok (.ofKind k)
  | none => .error (.noFamily dt)

namespace Tensor

/-- A tensor with the family of its elements. -/
def ofElements (e : Elements) (dims : List Int) : Tensor :=
  ⟨dims, e, .ofKind e.kind⟩

/-- The kind of the elements. -/
def kind (t : Tensor) : Kind :=
  t.elements.kind

/-- Data type and axis lengths. -/
def shape (t : Tensor) : Shape :=
  ⟨t.kind.dtype, t.dims⟩

/-- A tensor of host values. There must be as many as the axes have places. -/
def ofSlice (values : HostSlice) (dims : List Int) : Except TensorError Tensor :=
  match values with
  | .elements e =>
    let t := ofElements e dims
    if t.shape.size = e.length then .ok t else .error (.valueCount e.length t.shape)
  | _ => .error (.notElements values.typeName)

/-- A tensor of zeros. -/
def zero (s : Shape) : Except TensorError Tensor :=
  match s.dtype.kind? with
  | some k => .ok (ofElements ⟨k, List.replicate s.size.toNat k.zero⟩ s.dims)
  | none => .error (.noZero s.dtype)

/-- The elements as elements of a kind. -/
def itemsAs (t : Tensor) (k : Kind) : Except TensorError (List k.Carrier) :=
  match t.elements.as? k with
  | some xs => .ok xs
  | none => .error (.wrongKind t.kind k)

/-- The only element of a tensor. -/
def atom (t : Tensor) : Except TensorError t.kind.Carrier :=
  match t.elements.items with
  | [x] => .ok x
  | _ => .error (.notAtomic t.shape)

/-- The printed form of a tensor. -/
def text (t : Tensor) : String :=
  ArrayText.typed t.shape t.elements.texts

end Tensor
end TensorCompiler
