import TensorCompiler.Device.Handle
import TensorCompiler.Kernel.Graph

/-!
# Kernels

A compiled primitive function. A call passes the inputs and, last, an empty cell for the result.
Shared nodes are computed when they are first needed and remembered for the rest of the call.
-/

namespace TensorCompiler

/-- A compiled primitive function. -/
structure Kernel where
  name : String
  inputs : List KernelInput
  output : GraphNode

/-- A refusal to compile a kernel. -/
structure CompileError where
  kernel : String
  cause : GraphError

/-- The wording of a refusal. -/
def CompileError.message (e : CompileError) : String :=
  "kernel " ++ e.kernel ++ ": " ++ e.cause.message

instance : ToString CompileError := ⟨CompileError.message⟩

/-- The inputs and the result of a primitive function. -/
def Function.graph (f : Function) : Except GraphError (List KernelInput × GraphNode) := do
  let (s, inputs) ← enterParams .empty [] f.params
  let (b, _) ← s.build f.body
  match b with
  | .node n => return (inputs, n)
  | .tuple _ => throw .tupleResult

/-- Compiles a primitive function. -/
def Kernel.compile (name : String) (f : Function) : Except CompileError Kernel :=
  match f.graph with
  | .ok (inputs, output) => .ok ⟨name, inputs, output⟩
  | .error e => .error ⟨name, e⟩

namespace GraphNode

/-- The values of the shared nodes computed so far. -/
abbrev Memo := List (Nat × Tensor)

/-- Computes a node. -/
def exec (inputs : List Tensor) (memo : Memo) : GraphNode → Except TensorError (Tensor × Memo)
  | .constant t => .ok (t, memo)
  | .input index _ shape =>
    match inputs[index]? with
    | some t => .ok (t, memo)
    | none => (Tensor.zero shape).map (·, memo)
  | .binary k x y => do
    let (a, memo) ← x.exec inputs memo
    let (b, memo) ← y.exec inputs memo
    let c ← k.apply a b
    return (c, memo)
  | .unary k x => do
    let (a, memo) ← x.exec inputs memo
    let c ← k.apply a
    return (c, memo)
  | .shared slot x =>
    match memo.find? (·.1 == slot) with
    | some p => .ok (p.2, memo)
    | none => do
      let (a, memo) ← x.exec inputs memo
      return (a, (slot, a) :: memo)

end GraphNode

/-- What a call passes for a parameter of a kernel. -/
inductive Slot where
  | missing
  | empty
  | holds (t : Tensor)

/-- The tensor a slot holds. -/
def Slot.tensor? : Slot → Option Tensor
  | .holds t => some t
  | _ => none

/-- Why a call of a kernel fails. -/
inductive CallError where
  | argCount (kernel : String) (got want : Nat)
  | inputUnset (kernel input : String)
  | inputShape (kernel input : String) (got want : Shape)
  | noOutput (kernel : String)
  | compute (kernel : String) (e : TensorError)
  | outputSet (t : Tensor)

/-- The wording of a failure. -/
def CallError.message : CallError → String
  | .argCount kernel got want =>
    "kernel " ++ kernel ++ ": got " ++ Text.ofNat got ++ " argument(s) but want " ++ Text.ofNat want
  | .inputUnset kernel input => "kernel " ++ kernel ++ ": argument " ++ input ++ " not set"
  | .inputShape kernel input got want =>
    "kernel " ++ kernel ++ ": argument " ++ input ++ ": got shape " ++ got.text ++ " but want " ++
      want.text
  | .noOutput kernel => "kernel " ++ kernel ++ ": nil output slot"
  | .compute kernel e => "kernel " ++ kernel ++ ": " ++ e.message
  | .outputSet t => (CellError.alreadySet t).message

instance : ToString CallError := ⟨CallError.message⟩

namespace Kernel

/-- Inputs and the output slot. -/
def arity (k : Kernel) : Nat :=
  k.inputs.length + 1

/-- The shape of the result. -/
def outputShape (k : Kernel) : Shape :=
  k.output.shape

/-- The tensors of the inputs, each set and of the declared shape. -/
def checkInputs (name : String) : List KernelInput → List Slot → Except CallError (List Tensor)
  | i :: is, s :: ss =>
    match s.tensor? with
    | none => .error (.inputUnset name i.name)
    | some t =>
      if t.shape = i.shape then (checkInputs name is ss).map (t :: ·)
      else .error (.inputShape name i.name t.shape i.shape)
  | _, _ => .ok []

/-- Calls a kernel: the tensor that goes into the output slot. -/
def call (k : Kernel) (args : List Slot) : Except CallError Tensor :=
  if args.length ≠ k.arity then .error (.argCount k.name args.length k.arity)
  else do
    let inputs ← checkInputs k.name k.inputs args
    match args.getLast? with
    | some .empty =>
      match k.output.exec inputs [] with
      | .ok (t, _) => return t
      | .error e => throw (.compute k.name e)
    | some (.holds old) =>
      match k.output.exec inputs [] with
      | .ok _ => throw (.outputSet old)
      | .error e => throw (.compute k.name e)
    | _ => throw (.noOutput k.name)

/-- The slot of an optional handle. -/
def slotOf (m : Memory) : Option Nat → Slot
  | none => .missing
  | some h =>
    match m.cell? h with
    | some ⟨_, some t⟩ => .holds t
    | some ⟨_, none⟩ => .empty
    | none => .missing

/-- Calls a kernel on cells: the last one receives the result. -/
def callOn (k : Kernel) (m : Memory) (args : List (Option Nat)) : Except CallError Memory := do
  let t ← k.call (args.map (slotOf m))
  match args.getLast? with
  | some (some h) =>
    match m.cell? h with
    | some c => return m.put h { c with content := some t }
    | none => return m
  | _ => return m

end Kernel
end TensorCompiler
