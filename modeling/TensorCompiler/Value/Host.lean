import TensorCompiler.Value.Basic

/-!
# Host values

What a host passes to a program and what it gets back. Arguments become values on the device of the
program; results become host scalars, flat sequences and lists.
-/

namespace TensorCompiler

/-- An argument of a call. It may hold values with functions of the given code. A sequence or a list
without storage is told apart from an empty one. -/
inductive HostArg (φ : Type) where
  | missing
  | scalar (kind : Kind) (x : kind.Carrier)
  | slice (values : HostSlice)
  | noSlice (kind : Kind)
  | tensor (values : HostSlice) (dims : List Int)
  | noTensor
  | array (t : Tensor)
  | handle (cell : Cell)
  | noHandle
  | list (items : List (HostArg φ))
  | noList
  | value (v : Value φ)
  | other (typeName : String)

/-- Why an argument is refused. -/
inductive ArgError where
  | type (index : Nat) (typeName : String)
  | cell (e : CellError)

/-- The wording of a refusal. -/
def ArgError.message : ArgError → String
  | .type index name =>
    "argument " ++ Text.ofNat index ++ ": cannot convert " ++ name ++ " to a value"
  | .cell e => e.message

instance : ToString ArgError := ⟨ArgError.message⟩

/-- A cell with the same tensor on a device. -/
def Cell.toDevice (c : Cell) (device : DeviceId) : Except CellError Cell :=
  match c.content with
  | some t => .ok ⟨device, some t⟩
  | none => .error .transferUnset

namespace HostArg

variable {φ : Type}

/-- A tensor sent to a device. -/
def send (device : DeviceId) (values : HostSlice) (dims : List Int) : Except ArgError (Value φ) :=
  match Tensor.ofSlice values dims with
  | .ok t => .ok (.tensor ⟨device, some t⟩)
  | .error e => .error (.cell (.tensor e))

/-- A tensor of elements sent to a device; other sequences have no tensor type. -/
def sendElements (device : DeviceId) (index : Nat) (values : HostSlice) (dims : List Int) :
    Except ArgError (Value φ) :=
  match values with
  | .elements _ => send device values dims
  | _ => .error (.type index values.typeName)

/-- The number of values in a sequence. Nothing is counted in a value that is no sequence. -/
def sliceLength : HostSlice → Nat
  | .elements e => e.length
  | .texts xs => xs.length
  | .machineInts xs => xs.length
  | .absent | .other _ _ => 0

mutual

/-- The value of an argument on a device. The index is that of the argument in its call. -/
def toValue (device : DeviceId) (index : Nat) : HostArg φ → Except ArgError (Value φ)
  | .missing => .error (.type index "<nil>")
  | .scalar kind x => send device (.elements ⟨kind, [x]⟩) []
  | .slice values => sendElements device index values [(sliceLength values : Int)]
  | .noSlice kind => sendElements device index (.elements ⟨kind, []⟩) [0]
  | .tensor values dims => sendElements device index values dims
  | .noTensor => .error (.type index "*entry.Tensor")
  | .array t => .ok (.tensor ⟨device, some t⟩)
  | .handle cell =>
    match cell.toDevice device with
    | .ok c => .ok (.tensor c)
    | .error e => .error (.cell e)
  | .noHandle => .error (.type index "*platform.Handle")
  | .list items => do
    let fields ← toValues device index items
    return .tuple fields
  | .noList => .ok (.tuple [])
  | .value v => .ok v
  | .other name => .error (.type index name)

/-- The values of the items of a list, all reported under one index. -/
def toValues (device : DeviceId) (index : Nat) :
    List (HostArg φ) → Except ArgError (List (Value φ))
  | [] => .ok []
  | a :: as => do
    let v ← toValue device index a
    let vs ← toValues device index as
    return v :: vs

end

end HostArg

/-- A result handed to the host. -/
inductive HostResult (φ : Type) where
  | scalar (kind : Kind) (x : kind.Carrier)
  | slice (elements : Elements)
  | list (items : List (HostResult φ))
  | value (v : Value φ)

/-- The name of the host type of a result. -/
def HostResult.typeName {φ : Type} : HostResult φ → String
  | .scalar kind _ => kind.name
  | .slice e => "[]" ++ e.kind.name
  | .list _ => "[]interface \x7b\x7d"
  | .value v => v.formName

/-- Why a value has no host form. -/
inductive ResultError where
  | unset
  | absent
  | atom (e : TensorError)

/-- The wording of a refusal. -/
def ResultError.message : ResultError → String
  | .unset => "tensor not set"
  | .absent => "cannot convert <nil> to Go"
  | .atom e => e.message

instance : ToString ResultError := ⟨ResultError.message⟩

namespace Value

variable {φ : Type}

mutual

/-- The host form of a value: a tensor without axes is a scalar, any other tensor the flat sequence
of its elements. -/
def toHost : Value φ → Except ResultError (HostResult φ)
  | .absent => .error .absent
  | .tensor cell =>
    match cell.content with
    | none => .error .unset
    | some t =>
      match t.dims with
      | [] =>
        match t.atom with
        | .ok x => .ok (.scalar t.kind x)
        | .error e => .error (.atom e)
      | _ => .ok (.slice t.elements)
  | .tuple fields => do
    let items ← toHosts fields
    return .list items
  | .data ctor fields => .ok (.value (.data ctor fields))
  | .func name arity code => .ok (.value (.func name arity code))

/-- The host forms of several values. -/
def toHosts : List (Value φ) → Except ResultError (List (HostResult φ))
  | [] => .ok []
  | v :: vs => do
    let r ← toHost v
    let rs ← toHosts vs
    return r :: rs

end

mutual

/-- A value with other code in its functions. -/
def map {ψ : Type} (f : φ → ψ) : Value φ → Value ψ
  | .absent => .absent
  | .tensor cell => .tensor cell
  | .tuple fields => .tuple (mapAll f fields)
  | .data ctor fields => .data ctor (mapAll f fields)
  | .func name arity code => .func name arity (f code)

/-- Several values with other code in their functions. -/
def mapAll {ψ : Type} (f : φ → ψ) : List (Value φ) → List (Value ψ)
  | [] => []
  | v :: vs => map f v :: mapAll f vs

end

end Value
end TensorCompiler
