import TensorCompiler.Kernel.Registry
import TensorCompiler.Linked.Host

/-!
# Images

What a running program can refer to: kernels, constructors of data types, the functions of its host,
and global functions, some of them defined by the host. An image only grows.
-/

namespace TensorCompiler.Linked

open Lowered (Convention)

/-- The code of a function value. A function of the host has values that it keeps. A global
remembers the parameters captured where it was taken; a local function also remembers the frame it
was made in. -/
inductive Code where
  | host (f : HostFunction) (kept : List (Value Code))
  | global (name : String) (captured : List (Value Code))
  | closure (routine : Routine) (frame : Nat) (captured : List (Value Code))

/-- The code of a function that the host passes to a program. -/
def Code.ofHost (f : HostFunction) : Code :=
  .host f []

/-- The body of a global function. -/
inductive GlobalBody where
  | host (f : HostFunction)
  | routine (r : Routine)

/-- A global function. -/
structure Global where
  name : String
  arity : Int
  body : GlobalBody

/-- Everything a running program can refer to. -/
structure Image where
  kernels : Registry Kernel
  device : DeviceId
  host : Host
  ctors : List Ctor
  globals : List Global

/-- Why an image refuses to grow. -/
inductive ImageError where
  | ctorTaken (name data : String)
  | globalTaken (name : String)
deriving DecidableEq

/-- The wording of a refusal. -/
def ImageError.message : ImageError → String
  | .ctorTaken name data => "constructor " ++ name ++ " already registered for " ++ data
  | .globalTaken name => "global " ++ name ++ " already defined"

instance : ToString ImageError := ⟨ImageError.message⟩

namespace Image

/-- An image of kernels only, for a host. -/
def start (kernels : Registry Kernel) (device : DeviceId) (host : Host) : Image :=
  ⟨kernels, device, host, [], []⟩

/-- Registers constructors one by one. Those in front of a refused one stay registered. -/
def registerCtors (img : Image) : List Ctor → Except ImageError Unit × Image
  | [] => (.ok (), img)
  | c :: cs =>
    match img.ctors.find? (·.name == c.name) with
    | some known =>
      if known = c then registerCtors img cs
      else (.error (.ctorTaken c.name known.data.name), img)
    | none => registerCtors { img with ctors := img.ctors ++ [c] } cs

/-- Registers the constructors of several data types up to the first refusal. -/
def registerAll (img : Image) : List (List Ctor) → Except ImageError Unit × Image
  | [] => (.ok (), img)
  | cs :: rest =>
    match img.registerCtors cs with
    | (.ok (), img) => registerAll img rest
    | refused => refused

/-- The global with a name. -/
def global? (img : Image) (name : String) : Option Global :=
  img.globals.find? (·.name == name)

/-- Defines a global. -/
def define (img : Image) (g : Global) : Except ImageError Image :=
  match img.global? g.name with
  | some _ => .error (.globalTaken g.name)
  | none => .ok { img with globals := img.globals ++ [g] }

/-- A global as a value that keeps the captured parameters. -/
def globalValue (img : Image) (captured : List (Value Code)) (name : String) :
    Except RunError (Value Code) :=
  match img.global? name with
  | some g => .ok (.func name g.arity (.global name captured))
  | none => .error (.undefinedGlobal name)

/-- The inputs of a kernel under a calling convention. -/
def kernelInputs {φ : Type} (kernel : String) (conv : Convention) (args : List (Value φ)) :
    Except RunError (List (Value φ)) :=
  if conv = .spread then
    match args with
    | [.tuple fields] => .ok fields
    | [v] => .error (.spreadValue kernel v.shown)
    | _ => .error (.spreadCount kernel args.length)
  else .ok args

/-- Calls a kernel and gives its result as a tensor on the device of the image. -/
def packedCall {φ : Type} (img : Image) (kernel : String) (arity : Int) (conv : Convention)
    (args : List (Value φ)) : Except RunError (Value φ) :=
  match img.kernels.lookup kernel with
  | none => .error (.kernelUnknown kernel)
  | some k => do
    let inputs ← kernelInputs kernel conv args
    if ((inputs.length + 1 : Nat) : Int) ≠ arity then
      throw (.inputCount kernel inputs.length arity)
    let slots ← Value.slots kernel 0 inputs
    match k.call (slots ++ [.empty]) with
    | .ok t => return .tensor ⟨img.device, some t⟩
    | .error e => throw (.kernelCall e)

/-- What the runtime answers a global function of the host. -/
def serve (img : Image) : Service → List (Value Code) → Except RunError (Value Code)
  | .global name, captured => img.globalValue captured name
  | .packed kernel arity conv, args => img.packedCall kernel arity conv args
  | .construct ctor tag, args => Value.construct img.ctors ctor tag args

end Image

/-- A captured parameter. -/
def capturedParam {φ : Type} (captured : List (Value φ)) (index : Int) :
    Except RunError (Value φ) :=
  match (if index < 0 then none else captured[index.toNat]?) with
  | some v => .ok v
  | none => .error (.paramRange index captured.length)

end TensorCompiler.Linked
