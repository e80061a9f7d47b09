import TensorCompiler.Linked.Library
import TensorCompiler.Lowering.Outline

/-!
# The meaning of the source

An evaluator that runs the source language as it stands: by value, from left to right, with
immutable environments. A function value keeps the environment it was made in. A constant denotes
its tensor. A primitive function is run by the kernel that a primitive function compiles to by
itself, whatever else was compiled: this one, or the one that is named as its server.

## Implementation notes

Calls of functions are counted as in linked programs: a call of a function value that runs source
code costs one unit of fuel, the call of a primitive function in place costs nothing.
-/

namespace TensorCompiler.Meaning

open Lowered (Convention)

/-- The code of a function value: a function of the host with the values it keeps, a global, or a
function with the environment it was made in. -/
inductive SourceCode where
  | host (f : HostFunction) (kept : List (Value SourceCode))
  | global (name : String)
  | closure (f : Function) (env : List (Var × Value SourceCode))

/-- The code of a function that the host passes to a program. -/
def SourceCode.ofHost (f : HostFunction) : SourceCode :=
  .host f []

/-- A value of the source. -/
abbrev SourceValue := Value SourceCode

/-- The values of the variables in scope, the latest first. -/
abbrev Env := List (Var × SourceValue)

/-- The value of a variable. -/
def Env.find? (env : Env) (v : Var) : Option SourceValue :=
  (List.find? (·.1 == v) env).map Prod.snd

/-- What the meaning of an expression depends on: the global functions, the device of tensors, the
functions of the host, and for each primitive function the one whose kernel serves it. -/
structure SourceProgram where
  module : Module
  device : DeviceId
  host : Host
  server : Function → Function

namespace SourceProgram

variable {φ : Type}

/-- The function a global stands for. -/
def function? (p : SourceProgram) (name : String) : Option Function :=
  (p.module.lookup name).bind fun id => (p.module.definition id).bind Definition.function

/-- The kernel for a primitive function: what its server compiles to, under the name that the
encoding of the function has. -/
def kernel? (p : SourceProgram) (f : Function) : Option Kernel :=
  match f.fingerprint with
  | .error _ => none
  | .ok fp => (Kernel.compile fp.kernelName (p.server f)).toOption

/-- The tensor a constant denotes. -/
def constant (p : SourceProgram) (c : Constant) : Except RunError (Value φ) :=
  match Tensor.ofSlice c.values c.shape.dims with
  | .ok t => .ok (.tensor ⟨p.device, some t⟩)
  | .error e => .error (.atom e)

/-- A single argument of a tuple type is spread into its fields. -/
def spreads : List Ty → Convention
  | [.tuple _] => .spread
  | _ => .flat

/-- Runs the kernel for a primitive function on arguments of some types. -/
def runPrimitive (p : SourceProgram) (f : Function) (types : List Ty) (args : List (Value φ)) :
    Except RunError (Value φ) :=
  match p.kernel? f with
  | none => .error (.kernelUnknown "")
  | some k => do
    let inputs ← Linked.Image.kernelInputs k.name (spreads types) args
    if inputs.length + 1 ≠ k.arity then throw (.inputCount k.name inputs.length k.arity)
    let slots ← Value.slots k.name 0 inputs
    match k.call (slots ++ [.empty]) with
    | .ok t => return .tensor ⟨p.device, some t⟩
    | .error e => throw (.kernelCall e)

/-- A global as a value. -/
def globalValue (p : SourceProgram) (name : String) : Except RunError SourceValue :=
  match p.function? name with
  | some f => .ok (.func name f.params.length (.global name))
  | none => .error (.undefinedGlobal name)

end SourceProgram

mutual

/-- Matches a value with a pattern: constructors by their tags, tuples by their lengths. The
variables of the pattern are bound from left to right. -/
def matchPattern : Pattern → SourceValue → Option Env
  | .wildcard, _ => some []
  | .var v, x => some [(v, x)]
  | .ctor c ps, .data d xs => if d.tag = c.tag then matchPatterns ps xs else none
  | .tuple ps, .tuple xs => matchPatterns ps xs
  | _, _ => none

/-- Matches as many values as there are patterns. -/
def matchPatterns : List Pattern → List SourceValue → Option Env
  | [], [] => some []
  | p :: ps, x :: xs => do
    let binds ← matchPattern p x
    let rest ← matchPatterns ps xs
    return binds ++ rest
  | _, _ => none

end

section

variable (p : SourceProgram) (apply : SourceValue → List SourceValue → Except RunError SourceValue)

mutual

/-- Evaluates an expression in an environment. Calls of function values are handed to `apply`. -/
def eval (env : Env) : Expr → Except RunError SourceValue
  | .var v =>
    match env.find? v with
    | some x => .ok x
    | none => .error (.undefinedVariable v.name)
  | .const c => p.constant c
  | .global g => p.globalValue g.name
  | .call (.fn params body ret true) args _ => do
    let xs ← evalAll env args
    p.runPrimitive ⟨params, body, ret, true⟩ (args.map Expr.ty) xs
  | .call (.ctor c) args _ => do
    let xs ← evalAll env args
    return .data c xs
  | .call callee args _ => do
    let f ← eval env callee
    let xs ← evalAll env args
    apply f xs
  | .bind v value body => do
    let x ← eval env value
    eval ((v, x) :: env) body
  | .cond test yes no _ => do
    let c ← eval env test
    let b ← c.truth
    if b then eval env yes else eval env no
  | .tuple fields _ => do
    let xs ← evalAll env fields
    return .tuple xs
  | .proj e index _ => do
    let x ← eval env e
    x.field index
  | .cases data clauses _ => do
    let x ← eval env data
    evalClauses env x clauses
  | .fn params body ret primitive =>
    .ok (.func "func" params.length (.closure ⟨params, body, ret, primitive⟩ env))
  | e => .error (.notFunction e.formName)

/-- Evaluates several expressions from left to right. -/
def evalAll (env : Env) : List Expr → Except RunError (List SourceValue)
  | [] => .ok []
  | e :: es => do
    let x ← eval env e
    let xs ← evalAll env es
    return x :: xs

/-- Evaluates the body of the first clause whose pattern describes a value. -/
def evalClauses (env : Env) (x : SourceValue) :
    List (Pattern × Expr) → Except RunError SourceValue
  | [] => .error (.noClause x.shown)
  | (q, body) :: rest =>
    match matchPattern q x with
    | some binds => eval (binds ++ env) body
    | none => evalClauses env x rest

end

/-- Runs a function on an argument for each of its parameters. Further arguments do not count. -/
def evalBody (f : Function) (env : Env) (args : List SourceValue) : Except RunError SourceValue :=
  if args.length < f.params.length then .error (.valueRange args.length args.length)
  else if f.primitive then
    p.runPrimitive f (f.params.map Var.ty) (args.take f.params.length)
  else eval p apply (f.params.zip args ++ env) f.body

end

/-- How functions of the host are run. Their calls are handed to `apply`. -/
def port (apply : SourceValue → List SourceValue → Except RunError SourceValue) :
    HostPort SourceCode Empty (Except RunError) where
  make := .host
  call f args := reported (apply f args)
  serve := nofun
  finish := id

/-- Calls a function value. -/
def apply (p : SourceProgram) (fuel : Nat) (f : SourceValue) (args : List SourceValue) :
    Except RunError SourceValue :=
  match f with
  | .func name arity code =>
    if 0 ≤ arity ∧ (args.length : Int) ≠ arity then .error (.argCount name args.length arity)
    else
      let below := match fuel with
        | 0 => fun _ _ => .error .exhausted
        | fuel + 1 => apply p fuel
      match code with
      | .host h kept => (port below).start (p.host.call h) kept args
      | .global name =>
        match p.function? name with
        | none => .error (.undefinedGlobal name)
        | some g =>
          match fuel with
          | 0 => .error .exhausted
          | fuel + 1 => evalBody p (apply p fuel) g [] args
      | .closure g env =>
        match fuel with
        | 0 => .error .exhausted
        | fuel + 1 => evalBody p (apply p fuel) g env args
  | v => .error (.notFunction v.shown)
termination_by structural fuel

/-- Calls an entry function with as many inputs as it has parameters. A report of another number of
inputs shows the name of the entry point and counts the parameters it captures. -/
def SourceProgram.callEntry (p : SourceProgram) (name : String) (captured : Nat) (f : Function)
    (fuel : Nat) (inputs : List SourceValue) : Except SymbolError SourceValue :=
  if inputs.length ≠ f.params.length then
    .error (.argCount name (captured + inputs.length) captured f.params.length)
  else
    match fuel with
    | 0 => .error (.run .exhausted)
    | fuel + 1 => (evalBody p (apply p fuel) f [] inputs).mapError .run

end TensorCompiler.Meaning
