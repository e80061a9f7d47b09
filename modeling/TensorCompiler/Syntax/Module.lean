import TensorCompiler.Syntax.Print

/-!
# Modules

A module is an append-only arena of global functions. A declaration takes the next handle and
keeps it; a definition fills the place of its declaration once.
-/

namespace TensorCompiler

/-- A declared global and its function once it is defined. -/
structure Definition where
  name : String
  function : Option Function

/-- A set of global functions. The handle of a global is its position, counted from one. -/
structure Module where
  name : String
  defs : List Definition

/-- Why a module refuses a change. -/
inductive ModuleError where
  | alreadyDeclared (global module : String)
  | notDeclared (global module : String)
  | alreadyDefined (global module : String)
  | typeMismatch (global declared defined : String)

/-- The wording of a refusal. -/
def ModuleError.message : ModuleError → String
  | .alreadyDeclared g m => "global " ++ g ++ " already declared in module " ++ m
  | .notDeclared g m => "global " ++ g ++ " has not been declared in module " ++ m
  | .alreadyDefined g m => "global " ++ g ++ " already defined in module " ++ m
  | .typeMismatch g t u =>
    "cannot define global " ++ g ++ " of type " ++ t ++ " with a function of type " ++ u

instance : ToString ModuleError := ⟨ModuleError.message⟩

namespace Module

/-- A module without globals. -/
def empty (name : String) : Module :=
  ⟨name, []⟩

/-- The handle of a global. -/
def lookup (m : Module) (name : String) : Option Nat :=
  (m.defs.findIdx? (·.name == name)).map (· + 1)

/-- The definition with a handle. -/
def definition (m : Module) : Nat → Option Definition
  | 0 => none
  | id + 1 => m.defs[id]?

/-- The function of a handle. -/
def function? (m : Module) (id : Nat) : Option Function :=
  (m.definition id).bind Definition.function

/-- The definition of a name. -/
def find (m : Module) (name : String) : Option Definition :=
  m.defs.find? (·.name == name)

/-- A reference to a defined global. -/
def global (m : Module) (name : String) : Option GlobalRef :=
  match m.find name with
  | some ⟨n, some f⟩ => some ⟨n, f.ty⟩
  | _ => none

/-- Declares a global without its function. -/
def declare (m : Module) (name : String) (ty : Ty) : Except ModuleError (GlobalRef × Module) :=
  if (m.find name).isSome then .error (.alreadyDeclared name m.name)
  else .ok (⟨name, ty⟩, { m with defs := m.defs ++ [⟨name, none⟩] })

/-- Fills the place of a name. -/
def fill (name : String) (f : Function) : List Definition → List Definition
  | [] => []
  | d :: ds => if d.name = name then ⟨d.name, some f⟩ :: ds else d :: fill name f ds

/-- Defines a declared global. -/
def define (m : Module) (g : GlobalRef) (f : Function) : Except ModuleError Module :=
  match m.find g.name with
  | none => .error (.notDeclared g.name m.name)
  | some ⟨_, some _⟩ => .error (.alreadyDefined g.name m.name)
  | some ⟨_, none⟩ =>
    if g.ty = f.ty then .ok { m with defs := fill g.name f m.defs }
    else .error (.typeMismatch g.name g.ty.text f.ty.text)

/-- Declares and defines a global. -/
def add (m : Module) (name : String) (f : Function) : Except ModuleError (GlobalRef × Module) := do
  let (g, m) ← m.declare name f.ty
  let m ← m.define g f
  return (g, m)

end Module
end TensorCompiler
