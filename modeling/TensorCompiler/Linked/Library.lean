import TensorCompiler.Emit.Source
import TensorCompiler.Linked.Eval

/-!
# Libraries

A linked program. Its symbols are the functions of the program; a symbol takes the captured
parameters in front of its inputs.
-/

namespace TensorCompiler

open Linked

/-- A linked program. -/
structure Library where
  image : Image
  source : Source
  arities : List (String × Nat)

/-- Why a program is not linked. -/
inductive LinkError where
  | canceled
  | noRegistry (program : String)
  | kernelMissing (kernel : String)
  | image (e : ImageError)
  | function (name : String) (e : NodeError)

/-- The wording of a refusal. -/
def LinkError.message : LinkError → String
  | .canceled => "context canceled"
  | .noRegistry program => "program " ++ program ++ " has no kernel registry"
  | .kernelMissing kernel => "kernel " ++ kernel ++ " not found in registry"
  | .image e => e.message
  | .function name e => "cannot link " ++ name ++ ": " ++ e.message

instance : ToString LinkError := ⟨LinkError.message⟩

namespace Library

/-- Links a function and defines it. -/
def define (lib : Library) (name : String) (r : Lowered.Routine) : Except LinkError Library :=
  match Linked.routine lib.source.params r with
  | .error e => .error (.function name e)
  | .ok routine =>
    match lib.image.define ⟨name, r.params.length, .routine routine⟩ with
    | .error e => .error (.image e)
    | .ok image =>
      .ok { lib with image := image, arities := (name, r.params.length) :: lib.arities }

/-- Links and defines functions in order. -/
def defineAll (lib : Library) : List (String × Lowered.Routine) → Except LinkError Library
  | [] => .ok lib
  | (name, r) :: rest => do
    let lib ← lib.define name r
    lib.defineAll rest

/-- Links a program with its kernels on a device of a host. The data types of the program are
declared by a signature. -/
def link (sig : Signature) (device : DeviceId) (host : Host) (kernels : Option (Registry Kernel))
    (p : Program) (entry : Lowered.Routine) (source : Source) : Except LinkError Library :=
  match kernels with
  | none => .error (.noRegistry p.name)
  | some kernels =>
    match source.kernels.find? fun k => (kernels.lookup k).isNone with
    | some k => .error (.kernelMissing k)
    | none =>
      match (Image.start kernels device host).registerAll (source.dataTypes.map sig.ctorsOf) with
      | (.error e, _) => .error (.image e)
      | (.ok (), image) =>
        defineAll ⟨image, source, []⟩
          ((p.globals.map fun g => (g.name, g.routine)) ++ [(p.name, entry)])

end Library

/-- Why a call of a symbol fails. -/
inductive SymbolError where
  | unknown (name : String)
  | argCount (name : String) (got params inputs : Nat)
  | run (e : RunError)

/-- The wording of a failure. -/
def SymbolError.message : SymbolError → String
  | .unknown name => "symbol " ++ name ++ " not found"
  | .argCount name got params inputs =>
    name ++ ": got " ++ Text.ofNat got ++ " argument(s) but want " ++ Text.ofNat params ++
      " parameter(s) and " ++ Text.ofNat inputs ++ " input(s)"
  | .run e => e.message

instance : ToString SymbolError := ⟨SymbolError.message⟩

/-- A result with the frames its functions refer to. -/
structure Outcome where
  value : Value Code
  frames : Frames

namespace Library

/-- The number of inputs of a symbol. -/
def arity? (lib : Library) (name : String) : Option Nat :=
  (lib.arities.find? (·.1 == name)).map Prod.snd

/-- Calls a global with captured parameters. -/
def run (lib : Library) (fuel : Nat) (name : String) (captured args : List (Value Code)) :
    RunM (Value Code) := do
  let f ← pureStep (lib.image.globalValue captured name)
  apply lib.image fuel f args

/-- Calls a symbol with host-made values: the captured parameters, then the inputs. -/
def call (lib : Library) (fuel : Nat) (name : String) (args : List HostMade) :
    Except SymbolError Outcome :=
  match lib.arity? name with
  | none => .error (.unknown name)
  | some inputs =>
    let params := lib.source.params.length
    if args.length ≠ params + inputs then .error (.argCount name args.length params inputs)
    else
      let args := Value.mapAll Code.ofHost args
      match (lib.run fuel name (args.take params) (args.drop params)).run #[] with
      | (.ok v, frames) => .ok ⟨v, frames⟩
      | (.error e, _) => .error (.run e)

end Library
end TensorCompiler
