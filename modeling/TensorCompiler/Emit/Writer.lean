import TensorCompiler.Emit.Statement
import TensorCompiler.Lowered.Node
import TensorCompiler.Names.Supply

/-!
# Writing statements

A lowered function becomes a block: operands are computed into locals from left to right, and every
local of a function has a name of its own. A variable keeps the local it was bound to last.
-/

namespace TensorCompiler.Emit

open Lowered (Node)

/-- Why a function is not written. -/
inductive WriteError where
  | undefinedVariable (name : String)
  | notCaptured (c : Constant)
  | pattern (e : PatternError)
  | missing

/-- The wording of a refusal. -/
def WriteError.message : WriteError → String
  | .undefinedVariable name => "undefined variable " ++ name
  | .notCaptured c => "constant " ++ c.text ++ " not captured"
  | .pattern e => e.message
  | .missing => "cannot emit node <nil>"

/-- The names given out and the locals of the variables bound so far. -/
structure Scope where
  names : NameSupply
  locals : List (Var × String)

/-- Writing steps. -/
abbrev WriteM := StateT Scope (Except WriteError)

/-- The names an emitted function uses itself. -/
def reservedLocals : List String :=
  ["r", "args", "binds", "err", "values", "aotrt", "lowered"]

/-- The scope of a new function. -/
def Scope.start : Scope :=
  ⟨NameSupply.empty.reserveAll reservedLocals, []⟩

/-- A new local. -/
def freshLocal (root : String) : WriteM String := do
  let s ← get
  let (name, names) := s.names.fresh root
  set { s with names := names }
  return name

/-- A new local for the result of a step. -/
def freshResult : WriteM String :=
  freshLocal "v"

/-- The local of a variable. -/
def localOf (v : Var) : WriteM String := do
  match (← get).locals.find? (·.1 == v) with
  | some p => return p.2
  | none => throw (.undefinedVariable v.name)

/-- Binds a variable to a new local. -/
def bindVar (v : Var) (origin : Origin) : WriteM Stmt := do
  let name ← freshLocal v.name
  modify fun s => { s with locals := (v, name) :: s.locals }
  return .bind name origin

/-- Binds variables in order to numbered origins. -/
def bindVars (origin : Nat → Origin) (index : Nat) : List Var → WriteM (List Stmt)
  | [] => return []
  | v :: vs => do
    let s ← bindVar v (origin index)
    let ss ← bindVars origin (index + 1) vs
    return s :: ss

/-- The last step of a node: a call into a new local. -/
def finish (before : List Stmt) (c : Call) : WriteM (List Stmt × String) := do
  let name ← freshResult
  return (before ++ [.call name c], name)

mutual

/-- The statements that compute a node, and the local that holds it. -/
def writeNode (captured : List Constant) : Node → WriteM (List Stmt × String)
  | .hole => throw .missing
  | .var v => do
    let name ← localOf v
    return ([], name)
  | .const c =>
    match captured.findIdx? (· == c) with
    | some i => finish [] (.param i)
    | none => throw (.notCaptured c)
  | .global g => finish [] (.global g.name)
  | .packed kernel arity conv args _ => do
    let (ss, xs) ← writeNodes captured args
    finish ss (.packed kernel arity (conv == .spread) xs)
  | .invoke callee args _ => do
    let (ss, f) ← writeNode captured callee
    let (ts, xs) ← writeNodes captured args
    finish (ss ++ ts) (.invoke f xs)
  | .decl bindings body => do
    let ss ← writeBindings captured bindings
    let (ts, x) ← writeNode captured body
    return (ss ++ ts, x)
  | .cond test yes no _ => do
    let (ss, c) ← writeNode captured test
    let (ys, y) ← writeNode captured yes
    let (ns, n) ← writeNode captured no
    finish ss (.cond c (.mk ys y) (.mk ns n))
  | .tuple fields _ => do
    let (ss, xs) ← writeNodes captured fields
    let name ← freshResult
    return (ss ++ [.tuple name xs], name)
  | .proj n index _ => do
    let (ss, t) ← writeNode captured n
    finish ss (.field t index)
  | .cases data clauses _ => do
    let (ss, d) ← writeNode captured data
    let cs ← writeClauses captured clauses
    finish ss (.cases d cs)
  | .fn params body _ => do
    let bs ← bindVars .arg 0 params
    let (ss, x) ← writeNode captured body
    let name ← freshResult
    return ([.func name params.length (.mk (bs ++ ss) x)], name)
  | .construct c tag args => do
    let (ss, xs) ← writeNodes captured args
    finish ss (.construct c.name tag xs)

/-- The statements that compute several nodes in order, and their locals. -/
def writeNodes (captured : List Constant) : List Node → WriteM (List Stmt × List String)
  | [] => return ([], [])
  | n :: ns => do
    let (ss, x) ← writeNode captured n
    let (ts, xs) ← writeNodes captured ns
    return (ss ++ ts, x :: xs)

/-- The statements of bindings in order. -/
def writeBindings (captured : List Constant) : List (Var × Node) → WriteM (List Stmt)
  | [] => return []
  | (v, n) :: rest => do
    let (ss, x) ← writeNode captured n
    let b ← bindVar v (.place x)
    let ts ← writeBindings captured rest
    return ss ++ b :: ts

/-- The matchers and blocks of clauses in order. -/
def writeClauses (captured : List Constant) :
    List (Pattern × Node) → WriteM (List (Matcher × Block))
  | [] => return []
  | (p, n) :: rest =>
    match Matcher.ofPattern p with
    | .error e => throw (.pattern e)
    | .ok m => do
      let bs ← bindVars .bound 0 p.vars
      let (ss, x) ← writeNode captured n
      let cs ← writeClauses captured rest
      return (m, .mk (bs ++ ss) x) :: cs

end

/-- The block of a function. -/
def writeRoutine (captured : List Constant) (r : Lowered.Routine) : Except WriteError Block := do
  let act : WriteM Block := do
    let bs ← bindVars .arg 0 r.params
    let (ss, x) ← writeNode captured r.body
    return .mk (bs ++ ss) x
  let (block, _) ← act.run Scope.start
  return block

end TensorCompiler.Emit
