import TensorCompiler.Tensor.Kind

/-!
# Arithmetic on elements

Operators on the elements of a kind. Integers are two's complement and quotients truncate towards
zero; an integer has no quotient and no remainder by zero, and a machine that is asked for one
stops. Comparisons of floating-point numbers are those of the standard, so a number that is none
differs from itself.
-/

namespace TensorCompiler

/-- Operators that combine two elements into one of the same kind. -/
inductive ArithOp where
  | add
  | sub
  | mul
  | quo
deriving DecidableEq, Repr

/-- Operators that compare two numbers. -/
inductive Comparison where
  | eql
  | neq
  | lss
  | gtr
  | leq
  | geq
deriving DecidableEq, Repr

/-- Operators on truth values. -/
inductive LogicOp where
  | land
  | lor
  | eql
  | neq
deriving DecidableEq, Repr

/-- Division of integers. -/
inductive DivOp where
  | quo
  | rem
deriving DecidableEq, Repr

/-- Whether an integer is zero. -/
def IntKind.isZero : (k : IntKind) → k.Carrier → Bool
  | .int32, a => a == 0
  | .int64, a => a == 0

/-- The division of an integer by another one: there is none by zero. -/
def DivOp.apply (op : DivOp) : (k : IntKind) → k.Carrier → k.Carrier → Option k.Carrier
  | .int32, a, b => if b == 0 then none else match op with
    | .quo => some (a / b)
    | .rem => some (a % b)
  | .int64, a, b => if b == 0 then none else match op with
    | .quo => some (a / b)
    | .rem => some (a % b)

/-- The meaning of an operator on integers. -/
def ArithOp.applyInt (op : ArithOp) (k : IntKind) (a b : k.Carrier) : Option k.Carrier :=
  match k, op with
  | .int32, .add => some (Int32.add a b)
  | .int32, .sub => some (Int32.sub a b)
  | .int32, .mul => some (Int32.mul a b)
  | .int64, .add => some (Int64.add a b)
  | .int64, .sub => some (Int64.sub a b)
  | .int64, .mul => some (Int64.mul a b)
  | k, .quo => DivOp.quo.apply k a b

/-- The meaning of an operator on numbers in single precision. -/
def ArithOp.applyFloat32 : ArithOp → Float32 → Float32 → Float32
  | .add, a, b => a + b
  | .sub, a, b => a - b
  | .mul, a, b => a * b
  | .quo, a, b => a / b

/-- The meaning of an operator on numbers in double precision. -/
def ArithOp.applyFloat64 : ArithOp → Float → Float → Float
  | .add, a, b => a + b
  | .sub, a, b => a - b
  | .mul, a, b => a * b
  | .quo, a, b => a / b

/-- The meaning of an operator on numbers. -/
def ArithOp.apply (op : ArithOp) : (k : NumKind) → k.Carrier → k.Carrier → Option k.Carrier
  | .float32, a, b => some (op.applyFloat32 a b)
  | .float64, a, b => some (op.applyFloat64 a b)
  | .int k, a, b => op.applyInt k a b

/-- The meaning of a comparison, given equality and strict order. -/
def Comparison.decideBy (c : Comparison) (eq lt gt : Bool) : Bool :=
  match c with
  | .eql => eq
  | .neq => !eq
  | .lss => lt
  | .gtr => gt
  | .leq => lt || eq
  | .geq => gt || eq

/-- The meaning of a comparison on integers. -/
def Comparison.applyInt (c : Comparison) : (k : IntKind) → k.Carrier → k.Carrier → Bool
  | .int32, a, b => c.decideBy (decide (a = b)) (decide (a < b)) (decide (b < a))
  | .int64, a, b => c.decideBy (decide (a = b)) (decide (a < b)) (decide (b < a))

/-- The meaning of a comparison on numbers. -/
def Comparison.apply (c : Comparison) : (k : NumKind) → k.Carrier → k.Carrier → Bool
  | .float32, a, b => c.decideBy (Float32.beq a b) (decide (a < b)) (decide (b < a))
  | .float64, a, b => c.decideBy (Float.beq a b) (decide (a < b)) (decide (b < a))
  | .int k, a, b => c.applyInt k a b

/-- The meaning of an operator on truth values. -/
def LogicOp.apply : LogicOp → Bool → Bool → Bool
  | .land, a, b => a && b
  | .lor, a, b => a || b
  | .eql, a, b => a == b
  | .neq, a, b => a != b

/-- The negation of a number. -/
def NumKind.neg : (k : NumKind) → k.Carrier → k.Carrier
  | .float32, a => -a
  | .float64, a => -a
  | .int .int32, a => -a
  | .int .int64, a => -a

/-- The double-precision number nearest to a number. -/
def NumKind.toFloat : (k : NumKind) → k.Carrier → Float
  | .float32, a => a.toFloat
  | .float64, a => a
  | .int .int32, a => a.toFloat
  | .int .int64, a => a.toFloat

/-- A double-precision number cut to an integer of 32 bits, and the least one for a number whose
whole part none of them has. -/
def cutInt32 (a : Float) : Int32 :=
  if -2147483649.0 < a && a < 2147483648.0 then a.toInt32 else Int32.minValue

/-- A double-precision number cut to an integer of 64 bits, and the least one for a number whose
whole part none of them has. -/
def cutInt64 (a : Float) : Int64 :=
  if -9223372036854775808.0 ≤ a && a < 9223372036854775808.0 then a.toInt64 else Int64.minValue

/-- A double-precision number in another kind: rounded to single precision or cut to an integer. -/
def NumKind.ofFloat : (k : NumKind) → Float → k.Carrier
  | .float32, a => a.toFloat32
  | .float64, a => a
  | .int .int32, a => cutInt32 a
  | .int .int64, a => cutInt64 a

/-- The conversion of an integer to another kind, in one rounding. -/
def IntKind.convert : (k : IntKind) → (l : NumKind) → k.Carrier → l.Carrier
  | .int32, .float32, a => a.toFloat32
  | .int32, .float64, a => a.toFloat
  | .int32, .int .int32, a => a
  | .int32, .int .int64, a => a.toInt64
  | .int64, .float32, a => a.toFloat32
  | .int64, .float64, a => a.toFloat
  | .int64, .int .int32, a => a.toInt32
  | .int64, .int .int64, a => a

/-- The conversion of a number to another kind. -/
def NumKind.convert : (k l : NumKind) → k.Carrier → l.Carrier
  | .float32, l, a => l.ofFloat a.toFloat
  | .float64, l, a => l.ofFloat a
  | .int k, l, a => k.convert l a

/-- Functions of one real argument. -/
inductive MathFn where
  | exp
  | log
  | tanh
  | sqrt
  | sigmoid
  | relu
  | abs
  | floor
  | ceil
deriving DecidableEq, Repr

/-- The functions by name. -/
def MathFn.named : List (String × MathFn) :=
  [("exp", .exp), ("log", .log), ("tanh", .tanh), ("sqrt", .sqrt), ("sigmoid", .sigmoid),
    ("relu", .relu), ("abs", .abs), ("floor", .floor), ("ceil", .ceil)]

/-- The function with a name. -/
def MathFn.ofName? (name : String) : Option MathFn :=
  (MathFn.named.find? (·.1 == name)).map Prod.snd

/-- The meaning of a function in double precision. -/
def MathFn.apply : MathFn → Float → Float
  | .exp, x => x.exp
  | .log, x => x.log
  | .tanh, x => x.tanh
  | .sqrt, x => x.sqrt
  | .sigmoid, x => 1 / (1 + (-x).exp)
  | .relu, x => if x.isNaN then x else if 0 < x then x else 0
  | .abs, x => x.abs
  | .floor, x => x.floor
  | .ceil, x => x.ceil

/-- A function of one real argument on a number: it is computed in double precision. -/
def MathFn.onNumber (f : MathFn) (k : NumKind) (a : k.Carrier) : k.Carrier :=
  k.ofFloat (f.apply (k.toFloat a))

end TensorCompiler
