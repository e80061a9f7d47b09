import TensorCompiler.Compile.EntryPoint
import TensorCompiler.Lowering.Outline
import TensorCompiler.Syntax.Build

/-!
# Compiling

From an expression of a module to an entry point: the expression is lowered, the program emitted,
its sources handed to a linker, and the linked entry symbol wrapped for the host.
-/

namespace TensorCompiler

/-- Why an expression is no entry. -/
inductive EntryFault where
  | noName
  | unknownGlobal (global module : String)
  | form (e : Expr)

/-- The wording of a refusal. -/
def EntryFault.message : EntryFault → String
  | .noName => "missing entry point name"
  | .unknownGlobal global module => "global " ++ global ++ " not defined in module " ++ module
  | .form e => "cannot compile " ++ e.formName ++ ": entry must be a function or a global"

/-- The function an entry expression stands for. A global is wrapped into a function that calls
it. -/
def Module.entryFunction (m : Module) (e : Expr) : Except EntryFault Function :=
  match e with
  | .fn params body ret primitive => .ok ⟨params, body, ret, primitive⟩
  | .global g =>
    match m.lookup g.name with
    | none => .error (.unknownGlobal g.name m.name)
    | some _ =>
      let types := match g.ty with
        | .func params _ => params
        | _ => []
      let params := numberedParams 0 "arg" 0 types
      let result := g.ty.resultOrUnknown
      .ok ⟨params, .call e (params.map Expr.var) result, result, false⟩
  | e => .error (.form e)

/-- The names under which a program is written. -/
structure Target where
  package : String
  modulePath : String
  support : Option LocalModule

/-- A lowered and emitted program. -/
structure Emitted where
  program : Program
  entry : Lowered.Routine
  registry : Registry Kernel
  source : Source

/-- Why a program is not compiled. -/
inductive FrontError where
  | entry (e : EntryFault)
  | lower (e : LowerError)
  | emit (e : EmitError)

/-- The wording of a refusal. -/
def FrontError.message : FrontError → String
  | .entry e => e.message
  | .lower e => e.message
  | .emit e => e.message

instance : ToString FrontError := ⟨FrontError.message⟩

/-- Lowers and emits an entry expression of a module. Kernels that are registered before are used
again. -/
def Module.emitEntry (m : Module) (e : Expr) (name : String) (target : Target)
    (kernels : Registry Kernel := .empty) : Except FrontError Emitted :=
  if name.isEmpty then .error (.entry .noName)
  else
    match m.entryFunction e with
    | .error fault => .error (.entry fault)
    | .ok f =>
      match (Session.start kernels).lowerFunction m .native f with
      | (.error err, _) => .error (.lower err)
      | (.ok routine, session) =>
        let program : Program :=
          ⟨name, some routine, session.globals m, target.package, target.modulePath, target.support⟩
        match program.emit with
        | .error err => .error (.emit err)
        | .ok source => .ok ⟨program, routine, session.registry, source⟩

end TensorCompiler
