import TensorCompiler.Lowered.Node
import TensorCompiler.Value.Matcher

/-!
# Linked programs

A lowered program made ready to run: constants have become places among the captured parameters,
patterns have become matchers beside the variables they bind, types are gone.
-/

namespace TensorCompiler.Linked

open Lowered (Convention)

/-- A node of a linked program. -/
inductive Node where
  | var (v : Var)
  | param (index : Nat)
  | global (name : String)
  | packed (kernel : String) (arity : Int) (conv : Convention) (args : List Node)
  | invoke (callee : Node) (args : List Node)
  | decl (bindings : List (Var × Node)) (body : Node)
  | cond (test yes no : Node)
  | tuple (fields : List Node)
  | proj (node : Node) (index : Int)
  | cases (data : Node) (clauses : List (Matcher × List Var × Node))
  | fn (params : List Var) (body : Node)
  | construct (ctor : String) (tag : Int) (args : List Node)
deriving Inhabited

/-- A function of a linked program. -/
structure Routine where
  params : List Var
  body : Node
deriving Inhabited

/-- Why a node is not linked. -/
inductive NodeError where
  | notCaptured (c : Constant)
  | pattern (e : PatternError)
  | missing

/-- The wording of a refusal. -/
def NodeError.message : NodeError → String
  | .notCaptured c => "constant " ++ c.text ++ " not captured"
  | .pattern e => e.message
  | .missing => "cannot link node <nil>"

mutual

/-- Links a node. A constant is the parameter at its place among the captured ones. -/
def node (captured : List Constant) : Lowered.Node → Except NodeError Node
  | .hole => .error .missing
  | .var v => .ok (.var v)
  | .const c =>
    match captured.findIdx? (· == c) with
    | some i => .ok (.param i)
    | none => .error (.notCaptured c)
  | .global g => .ok (.global g.name)
  | .packed kernel arity conv args _ => do
    let args ← nodes captured args
    return .packed kernel arity conv args
  | .invoke callee args _ => do
    let callee ← node captured callee
    let args ← nodes captured args
    return .invoke callee args
  | .decl bindings body => do
    let bindings ← nodeBindings captured bindings
    let body ← node captured body
    return .decl bindings body
  | .cond test yes no _ => do
    let test ← node captured test
    let yes ← node captured yes
    let no ← node captured no
    return .cond test yes no
  | .tuple fields _ => do
    let fields ← nodes captured fields
    return .tuple fields
  | .proj n index _ => do
    let n ← node captured n
    return .proj n index
  | .cases data clauses _ => do
    let data ← node captured data
    let clauses ← nodeClauses captured clauses
    return .cases data clauses
  | .fn params body _ => do
    let body ← node captured body
    return .fn params body
  | .construct c tag args => do
    let args ← nodes captured args
    return .construct c.name tag args

/-- Links several nodes in order. -/
def nodes (captured : List Constant) : List Lowered.Node → Except NodeError (List Node)
  | [] => .ok []
  | n :: ns => do
    let m ← node captured n
    let ms ← nodes captured ns
    return m :: ms

/-- Links the values of bindings in order. -/
def nodeBindings (captured : List Constant) :
    List (Var × Lowered.Node) → Except NodeError (List (Var × Node))
  | [] => .ok []
  | (v, n) :: rest => do
    let m ← node captured n
    let ms ← nodeBindings captured rest
    return (v, m) :: ms

/-- Links clauses in order, the pattern of each before its body. -/
def nodeClauses (captured : List Constant) :
    List (Pattern × Lowered.Node) → Except NodeError (List (Matcher × List Var × Node))
  | [] => .ok []
  | (p, n) :: rest =>
    match Matcher.ofPattern p with
    | .error e => .error (.pattern e)
    | .ok m => do
      let body ← node captured n
      let ms ← nodeClauses captured rest
      return (m, p.vars, body) :: ms

end

/-- Links a function. -/
def routine (captured : List Constant) (r : Lowered.Routine) : Except NodeError Routine := do
  let body ← node captured r.body
  return ⟨r.params, body⟩

end TensorCompiler.Linked
