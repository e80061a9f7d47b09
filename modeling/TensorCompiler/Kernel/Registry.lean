import TensorCompiler.Syntax.Fingerprint

/-!
# Kernel registries

A registry keeps the kernel compiled under each name with the encoding it was compiled for. A
kernel is compiled when its name is asked for the first time, and an entry never changes; a name
asked for with another encoding is a collision.

What is stored is a table of builders. The builder of a name is published before its kernel is
compiled, so that whoever asks for the same name meanwhile waits for it, and it stays in the table
when the compilation fails. `Registry` is what this table comes to: the builders that hold a kernel.
-/

namespace TensorCompiler

/-- What the project knows of a compiled kernel: its name and its number of parameters, the output
slot included. -/
class CompiledKernel (κ : Type) where
  name : κ → String
  arity : κ → Int

/-- A kernel with the encoding it was compiled for. -/
structure RegistryEntry (κ : Type) where
  name : String
  encoding : String
  kernel : κ

/-- The kernels compiled so far. -/
structure Registry (κ : Type) where
  entries : List (RegistryEntry κ)
  compilations : Nat

/-- Why a registry has no kernel for a fingerprint. A backend reports in its own words. -/
inductive RegistryError where
  | collision (name known requested : String)
  | backend (name reason : String)
  | noKernel (name : String)
deriving DecidableEq

/-- The wording of a refusal. -/
def RegistryError.message : RegistryError → String
  | .collision name known requested =>
    "fingerprint collision for kernel " ++ name ++ ":\n" ++ known ++ "\n" ++ requested
  | .backend name reason => "cannot compile kernel " ++ name ++ ": " ++ reason
  | .noKernel name => "cannot compile kernel " ++ name ++ ": backend returned no kernel"

namespace Registry

variable {κ : Type}

/-- A registry without kernels. -/
def empty : Registry κ := ⟨[], 0⟩

/-- The entry under a name. -/
def find? (r : Registry κ) (name : String) : Option (RegistryEntry κ) :=
  r.entries.find? (·.name == name)

/-- The kernel under a name. -/
def lookup (r : Registry κ) (name : String) : Option κ :=
  (r.find? name).map RegistryEntry.kernel

/-- The names of all kernels, sorted. -/
def names (r : Registry κ) : List String :=
  (r.entries.map RegistryEntry.name).mergeSort fun a b => !decide (b < a)

/-- Registers a kernel. -/
def insert (r : Registry κ) (name encoding : String) (kernel : κ) : Registry κ :=
  ⟨r.entries ++ [⟨name, encoding, kernel⟩], r.compilations + 1⟩

/-- Whether asking for a fingerprint compiles a kernel. -/
def compiles (r : Registry κ) (f : Fingerprint) : Bool :=
  (r.find? f.kernelName).isNone

/-- The kernel for a fingerprint, compiled if its name has none yet. A failure registers nothing. -/
def load (r : Registry κ) (f : Fingerprint) (compile : String → Except String (Option κ)) :
    Except RegistryError κ × Registry κ :=
  match r.find? f.kernelName with
  | some e =>
    if e.encoding = f.encoding then (.ok e.kernel, r)
    else (.error (.collision f.kernelName e.encoding f.encoding), r)
  | none =>
    match compile f.kernelName with
    | .ok (some k) => (.ok k, r.insert f.kernelName f.encoding k)
    | .ok none => (.error (.noKernel f.kernelName), r)
    | .error reason => (.error (.backend f.kernelName reason), r)

end Registry

/-! ## Published builders -/

/-- The place of a kernel. It is empty until the kernel is compiled. -/
structure Builder (κ : Type) where
  kernel : Option κ
  encoding : String

/-- The builders under their names, and the number of kernels compiled. -/
structure BuilderTable (κ : Type) where
  builders : List (String × Builder κ)
  compilations : Nat

namespace BuilderTable

variable {κ : Type}

/-- A table without builders. -/
def empty : BuilderTable κ := ⟨[], 0⟩

/-- The builder under a name. -/
def builder? (t : BuilderTable κ) (name : String) : Option (Builder κ) :=
  (t.builders.find? (·.1 == name)).map Prod.snd

/-- Publishes an empty builder under a name that has none. -/
def publish (t : BuilderTable κ) (name : String) : BuilderTable κ :=
  match t.builder? name with
  | some _ => t
  | none => { t with builders := t.builders ++ [(name, ⟨none, ""⟩)] }

/-- Puts a kernel into the builder of a name. -/
def fill (t : BuilderTable κ) (name encoding : String) (kernel : κ) : BuilderTable κ where
  builders := t.builders.map fun p => if p.1 = name then (name, ⟨some kernel, encoding⟩) else p
  compilations := t.compilations + 1

/-- The kernel under a name. An empty builder has none. -/
def lookup (t : BuilderTable κ) (name : String) : Option κ :=
  (t.builder? name).bind Builder.kernel

/-- The names of the builders that hold a kernel, sorted. -/
def names (t : BuilderTable κ) : List String :=
  ((t.builders.filter (·.2.kernel.isSome)).map Prod.fst).mergeSort fun a b => !decide (b < a)

/-- The kernel for a fingerprint. Its builder is published; if the builder is empty then a callback
compiles the kernel, and the builder stays empty if the callback fails. -/
def loadWith {m : Type → Type} [Monad m] (t : BuilderTable κ) (f : Fingerprint)
    (compile : String → m (Except String (Option κ))) :
    m (Except RegistryError κ × BuilderTable κ) :=
  let t := t.publish f.kernelName
  match t.builder? f.kernelName with
  | some ⟨some k, encoding⟩ =>
    if encoding = f.encoding then pure (.ok k, t)
    else pure (.error (.collision f.kernelName encoding f.encoding), t)
  | _ => do
    match ← compile f.kernelName with
    | .ok (some k) => pure (.ok k, t.fill f.kernelName f.encoding k)
    | .ok none => pure (.error (.noKernel f.kernelName), t)
    | .error reason => pure (.error (.backend f.kernelName reason), t)

/-- The kernel for a fingerprint, compiled by a callback without effects. -/
def load (t : BuilderTable κ) (f : Fingerprint) (compile : String → Except String (Option κ)) :
    Except RegistryError κ × BuilderTable κ :=
  t.loadWith (m := Id) f compile

end BuilderTable
end TensorCompiler
