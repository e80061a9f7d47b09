import TensorCompiler.Emit.Statement
import TensorCompiler.Linked.Image

/-!
# The meaning of emitted statements

An evaluator of emitted blocks as the emitted language reads them. A call is followed by a return of
its error, a literal of a function keeps the locals around it, and every other expression is a call
of a method of the runtime.

## Implementation notes

A block that is no program has no meaning: a read of a local that is not declared, and a declaration
of a name that is in scope already or that the text itself uses. The language lets an inner block
hide a name of an outer one; here that counts as no meaning too, so a local in scope has one value
and what has a meaning here has the same one there. An index behind the end of `args` or `binds` has
a meaning, the report of the language.

Calls of functions are counted as in linked programs. The literals handed to `If` and `Match` are
called at once and cost nothing.
-/

namespace TensorCompiler.Printed

open Emit
open Lowered (Convention)

/-- The code of a function value: a function of the host with the values it keeps, a global with the
parameters captured where it was taken, or a literal with everything in scope around it. -/
inductive Code where
  | host (f : HostFunction) (kept : List (Value Code))
  | global (name : String) (captured : List (Value Code))
  | literal (body : Block) (captured binds : List (Value Code))
      (locals : List (String × Value Code))

/-- The body of a global function. -/
inductive GlobalBody where
  | host (f : HostFunction)
  | block (b : Block)

/-- A global function. -/
structure Global where
  name : String
  arity : Int
  body : GlobalBody

/-- What a runtime knows besides the parameters it captures. -/
structure Runtime where
  kernels : Registry Kernel
  device : DeviceId
  host : Host
  ctors : List Ctor
  globals : List Global

namespace Runtime

/-- The global with a name. -/
def global? (rt : Runtime) (name : String) : Option Global :=
  rt.globals.find? (·.name == name)

/-- A global as a value that keeps the captured parameters. -/
def globalValue (rt : Runtime) (captured : List (Value Code)) (name : String) :
    Except RunError (Value Code) :=
  match rt.global? name with
  | some g => .ok (.func name g.arity (.global name captured))
  | none => .error (.undefinedGlobal name)

/-- Calls a kernel. -/
def packedCall (rt : Runtime) (kernel : String) (arity : Int) (spread : Bool)
    (args : List (Value Code)) : Except RunError (Value Code) :=
  Linked.Image.packedCall ⟨rt.kernels, rt.device, rt.host, rt.ctors, []⟩ kernel arity
    (if spread then .spread else .flat) args

/-- What the runtime answers a global function of the host. -/
def serve (rt : Runtime) : Service → List (Value Code) → Except RunError (Value Code)
  | .global name, captured => rt.globalValue captured name
  | .packed kernel arity conv, args => rt.packedCall kernel arity (conv == .spread) args
  | .construct ctor tag, args => Value.construct rt.ctors ctor tag args

end Runtime

/-- The locals in scope, the latest first. -/
abbrev Locals := List (String × Value Code)

/-- What a block refers to besides its locals: the parameters captured by the runtime, and the lists
of arguments and of matched sub-values. -/
structure Inputs where
  captured : List (Value Code)
  args : List (Value Code)
  binds : List (Value Code)

/-- Names that are used in the text of every function. -/
def textNames : List String :=
  ["r", "args", "binds", "err", "values", "aotrt", "lowered", "_", "nil", "error"]

namespace Locals

/-- The value of a local. -/
def read? (locals : Locals) (name : String) : Option (Value Code) :=
  (locals.find? (·.1 == name)).map Prod.snd

/-- The values of several locals. -/
def readAll? (locals : Locals) (names : List String) : Option (List (Value Code)) :=
  names.mapM locals.read?

/-- Declares a local. -/
def declare? (locals : Locals) (name : String) (x : Value Code) : Option Locals :=
  if name ∈ textNames ∨ (locals.read? name).isSome then none else some ((name, x) :: locals)

end Locals

/-- Steps of a run, if the text has a meaning. A failed step ends the function. -/
abbrev Run := ExceptT RunError Option

/-- A step of the runtime. -/
def step {α : Type} (x : Except RunError α) : Run α :=
  ExceptT.mk (some x)

/-- A step that has to have a meaning. -/
def meant {α : Type} (x : Option α) : Run α :=
  ExceptT.mk (x.map .ok)

/-- A value of a list. -/
def element (values : List (Value Code)) (index : Nat) : Except RunError (Value Code) :=
  match values[index]? with
  | some v => .ok v
  | none => .error (.valueRange index values.length)

/-- The value that a bound local gets. -/
def Inputs.value (given : Inputs) (locals : Locals) : Origin → Run (Value Code)
  | .place name => meant (locals.read? name)
  | .arg index => step (element given.args index)
  | .bound index => step (element given.binds index)

section

variable (rt : Runtime) (apply : Value Code → List (Value Code) → Run (Value Code))

mutual

/-- Runs statements and returns the local behind them. -/
def evalBlock (given : Inputs) (locals : Locals) : Block → Run (Value Code)
  | .mk stmts result => do
    let locals ← evalStmts given locals stmts
    meant (locals.read? result)

/-- Runs statements in order. -/
def evalStmts (given : Inputs) (locals : Locals) : List Stmt → Run Locals
  | [] => return locals
  | s :: ss => do
    let locals ← evalStmt given locals s
    evalStmts given locals ss

/-- Runs a statement. -/
def evalStmt (given : Inputs) (locals : Locals) : Stmt → Run Locals
  | .call name c => do
    let x ← evalCall given locals c
    meant (locals.declare? name x)
  | .tuple name fields => do
    let xs ← meant (locals.readAll? fields)
    meant (locals.declare? name (.tuple xs))
  | .func name arity body =>
    meant (locals.declare? name
      (.func "func" arity (.literal body given.captured given.binds locals)))
  | .bind name origin => do
    let x ← given.value locals origin
    meant (locals.declare? name x)

/-- Makes a call. Calls of function values are handed to `apply`. -/
def evalCall (given : Inputs) (locals : Locals) : Call → Run (Value Code)
  | .param index => step (Linked.capturedParam given.captured index)
  | .global name => step (rt.globalValue given.captured name)
  | .packed kernel arity spread args => do
    let xs ← meant (locals.readAll? args)
    step (rt.packedCall kernel arity spread xs)
  | .invoke callee args => do
    let f ← meant (locals.read? callee)
    let xs ← meant (locals.readAll? args)
    apply f xs
  | .cond test yes no => do
    let x ← meant (locals.read? test)
    let b ← step x.truth
    if b then evalBlock given locals yes else evalBlock given locals no
  | .field tuple index => do
    let x ← meant (locals.read? tuple)
    step (x.field index)
  | .cases data clauses => do
    let x ← meant (locals.read? data)
    evalClauses given locals x clauses
  | .construct ctor tag args => do
    let xs ← meant (locals.readAll? args)
    step (Value.construct rt.ctors ctor tag xs)

/-- Runs the block of the first clause that describes a value. -/
def evalClauses (given : Inputs) (locals : Locals) (x : Value Code) :
    List (Matcher × Block) → Run (Value Code)
  | [] => step (.error (.noClause x.shown))
  | (m, body) :: rest =>
    match m.run x [] with
    | some binds => evalBlock { given with binds := binds } locals body
    | none => evalClauses given locals x rest

end

end

/-- How functions of the host are run. Their calls are handed to `apply`. -/
def port {ρ : Type} (apply : Value Code → List (Value Code) → Run (Value Code))
    (serve : ρ → List (Value Code) → Except RunError (Value Code)) : HostPort Code ρ Run where
  make := .host
  call f args := attempt (apply f args)
  serve := serve
  finish := step

/-- Calls a function value. -/
def apply (rt : Runtime) (fuel : Nat) (f : Value Code) (args : List (Value Code)) :
    Run (Value Code) :=
  match f with
  | .func name arity code =>
    if 0 ≤ arity ∧ (args.length : Int) ≠ arity then
      step (.error (.argCount name args.length arity))
    else
      let below := match fuel with
        | 0 => fun _ _ => step (.error .exhausted)
        | fuel + 1 => apply rt fuel
      match code with
      | .host h kept => (port below nofun).start (rt.host.call h) kept args
      | .global g captured =>
        match rt.global? g with
        | none => step (.error (.undefinedGlobal g))
        | some d =>
          match d.body with
          | .host h => (port below rt.serve).start (rt.host.serve h) captured args
          | .block body =>
            match fuel with
            | 0 => step (.error .exhausted)
            | fuel + 1 => evalBlock rt (apply rt fuel) ⟨captured, args, []⟩ [] body
      | .literal body captured binds locals =>
        match fuel with
        | 0 => step (.error .exhausted)
        | fuel + 1 => evalBlock rt (apply rt fuel) ⟨captured, args, binds⟩ locals body
  | v => step (.error (.notFunction v.shown))
termination_by structural fuel

end TensorCompiler.Printed
