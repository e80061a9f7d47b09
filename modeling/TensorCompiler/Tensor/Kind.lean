/-!
# Element kinds

Data types name what a tensor may declare, element kinds what a tensor can hold. The five kinds
are the data types with an implementation; the others exist only as declarations.
-/

namespace TensorCompiler

/-- The data type a tensor declares for its elements. -/
inductive DType where
  | bool
  | int32
  | int64
  | float32
  | float64
  | uint32
  | uint64
  | bfloat16
  | int
  | invalid
deriving DecidableEq, Repr

/-- The printed name of a data type. A machine integer has none of its own. -/
def DType.name : DType → String
  | .bool => "bool"
  | .int32 => "int32"
  | .int64 => "int64"
  | .float32 => "float32"
  | .float64 => "float64"
  | .uint32 => "uint32"
  | .uint64 => "uint64"
  | .bfloat16 => "bfloat16"
  | .int => "invalid"
  | .invalid => "invalid"

/-- The data types with a printed name of their own. -/
def DType.named : List DType :=
  [.bool, .int32, .int64, .float32, .float64, .uint32, .uint64, .bfloat16, .invalid]

/-- The data type with a name. Machine integers are known by a name they are not printed with. -/
def DType.ofName? (name : String) : Option DType :=
  if name = "int" then some .int else DType.named.find? (·.name == name)

/-- A printed name is read back, except that of machine integers. -/
theorem DType.ofName?_name {dt : DType} (h : dt ≠ .int) : DType.ofName? dt.name = some dt := by
  cases dt <;> first | exact absurd rfl h | decide

/-- The integer kinds. -/
inductive IntKind where
  | int32
  | int64
deriving DecidableEq, Repr

/-- The kinds with arithmetic. -/
inductive NumKind where
  | float32
  | float64
  | int (k : IntKind)
deriving DecidableEq, Repr

/-- The kinds of elements a tensor can hold. -/
inductive Kind where
  | bool
  | num (k : NumKind)
deriving DecidableEq, Repr

namespace Kind

/-- Single-precision numbers. -/
abbrev float32 : Kind := .num .float32

/-- Double-precision numbers. -/
abbrev float64 : Kind := .num .float64

/-- Two's complement numbers of 32 bits. -/
abbrev int32 : Kind := .num (.int .int32)

/-- Two's complement numbers of 64 bits. -/
abbrev int64 : Kind := .num (.int .int64)

/-- The data type that declares a kind. -/
def dtype : Kind → DType
  | .bool => .bool
  | .num .float32 => .float32
  | .num .float64 => .float64
  | .num (.int .int32) => .int32
  | .num (.int .int64) => .int64

/-- The name of the data type of a kind. -/
def name (k : Kind) : String :=
  k.dtype.name

end Kind

/-- The kind a data type declares, if it has an implementation. -/
def DType.kind? : DType → Option Kind
  | .bool => some .bool
  | .float32 => some .float32
  | .float64 => some .float64
  | .int32 => some .int32
  | .int64 => some .int64
  | _ => none

@[simp]
theorem DType.kind?_dtype (k : Kind) : k.dtype.kind? = some k := by
  rcases k with _ | (_ | _ | (_ | _)) <;> rfl

theorem Kind.dtype_injective {k l : Kind} (h : k.dtype = l.dtype) : k = l := by
  have := congrArg DType.kind? h
  simpa using this

/-- The integers of a kind. -/
abbrev IntKind.Carrier : IntKind → Type
  | .int32 => Int32
  | .int64 => Int64

/-- The numbers of a kind. -/
abbrev NumKind.Carrier : NumKind → Type
  | .float32 => Float32
  | .float64 => Float
  | .int k => k.Carrier

/-- The elements of a kind. -/
abbrev Kind.Carrier : Kind → Type
  | .bool => Bool
  | .num k => k.Carrier

instance : (k : IntKind) → DecidableEq k.Carrier
  | .int32 => inferInstanceAs (DecidableEq Int32)
  | .int64 => inferInstanceAs (DecidableEq Int64)

instance : (k : NumKind) → DecidableEq k.Carrier
  | .float32 => inferInstanceAs (DecidableEq Float32)
  | .float64 => inferInstanceAs (DecidableEq Float)
  | .int k => inferInstanceAs (DecidableEq k.Carrier)

instance : (k : Kind) → DecidableEq k.Carrier
  | .bool => inferInstanceAs (DecidableEq Bool)
  | .num k => inferInstanceAs (DecidableEq k.Carrier)

end TensorCompiler
