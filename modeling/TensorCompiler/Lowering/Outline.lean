import TensorCompiler.Kernel.Basic
import TensorCompiler.Lowering.Session

/-!
# The native backend

Compiles primitive functions into kernels that run in this process.
-/

namespace TensorCompiler

instance : CompiledKernel Kernel where
  name := Kernel.name
  arity k := k.arity

/-- Compiles every primitive function it can build a graph for. -/
def Backend.native : Backend Kernel where
  compile name f :=
    match Kernel.compile name f with
    | .ok k => .ok (some k)
    | .error e => .error e.message

/-!
## Kernel outlines

Lowering asks no more of a kernel than its name and its arity. A backend that gives just these lets
lowering be studied apart from code generation: the native backend seen from outside, or a plan
that says which operators fail.
-/

/-- A kernel without code. -/
structure KernelOutline where
  name : String
  arity : Int
deriving DecidableEq, Repr

instance : CompiledKernel KernelOutline where
  name := KernelOutline.name
  arity := KernelOutline.arity

/-- The native backend with the code of its kernels left out. -/
def Backend.nativeOutline : Backend KernelOutline where
  compile name f := (Backend.native.compile name f).map fun k => k.map fun k => ⟨k.name, k.arity⟩

/-- A planned backend: the operators it fails on, whether it gives no kernels at all, and how many
parameters it adds to each. -/
structure BackendPlan where
  failing : List String
  silent : Bool
  extra : Int

namespace BackendPlan

/-- The inputs that a parameter stands for: a tuple is passed by its fields. -/
def inputsOf (v : Var) : Nat :=
  match v.ty with
  | .tuple fields => fields.length
  | _ => 1

/-- The operator that the body of a function applies at once. -/
def operator? (f : Function) : Option String :=
  match f.body with
  | .call (.op name) _ _ => some name
  | _ => none

/-- The outline of a function, the output slot counted. -/
def outline (p : BackendPlan) (name : String) (f : Function) : KernelOutline :=
  ⟨name, f.params.foldl (fun n v => n + inputsOf v) 1 + p.extra⟩

/-- The backend that follows a plan. -/
def backend (p : BackendPlan) : Backend KernelOutline where
  compile name f :=
    match (operator? f).filter p.failing.contains with
    | some op => .error ("operator " ++ op ++ " not supported")
    | none => .ok (if p.silent then none else some (p.outline name f))

end BackendPlan
end TensorCompiler
