import TensorCompiler.Linked.Image

/-!
# Running linked programs

Variables live in frames. A call and a clause of a match run in a frame of their own, chained to
the one they were written in; a binding writes the current frame, also inside a branch, and a
function made in a frame sees what is written there later. Calls are counted: `fuel` bounds how
deep they nest.
-/

namespace TensorCompiler.Linked

/-- The variables of one call or clause. -/
structure Frame where
  parent : Option Nat
  slots : List (Var × Value Code)

/-- All frames of a run. A frame is known by its position, and its parent is older. -/
abbrev Frames := Array Frame

/-- Steps of a run: they may stop, and write frames. -/
abbrev RunM := ExceptT RunError (StateM Frames)

namespace Frame

/-- The last value written to a variable of this frame. -/
def get? (f : Frame) (v : Var) : Option (Value Code) :=
  (f.slots.find? (·.1 == v)).map Prod.snd

/-- Writes a variable. -/
def set (f : Frame) (v : Var) (x : Value Code) : Frame :=
  { f with slots := (v, x) :: f.slots }

/-- Writes variables in order. -/
def setAll (f : Frame) : List (Var × Value Code) → Frame
  | [] => f
  | (v, x) :: rest => (f.set v x).setAll rest

end Frame

namespace Frames

/-- The value of a variable in a frame or the nearest of its ancestors. -/
def lookup (fs : Frames) (frame : Nat) (v : Var) : Option (Value Code) :=
  match fs[frame]? with
  | none => none
  | some f =>
    match f.get? v with
    | some x => some x
    | none =>
      match f.parent with
      | none => none
      | some p => if p < frame then lookup fs p v else none
termination_by frame

end Frames

/-- A step that touches no frame. -/
def pureStep {α : Type} : Except RunError α → RunM α
  | .ok a => pure a
  | .error e => throw e

/-- Opens a frame with the given variables. There has to be a value for each of them. -/
def openFrame (parent : Option Nat) (vars : List Var) (values : List (Value Code)) : RunM Nat :=
  if values.length < vars.length then throw (.valueRange values.length values.length)
  else modifyGet fun fs => (fs.size, fs.push (Frame.setAll ⟨parent, []⟩ (vars.zip values)))

/-- Reads a variable. -/
def readVar (frame : Nat) (v : Var) : RunM (Value Code) := do
  match (← get).lookup frame v with
  | some x => return x
  | none => throw (.undefinedVariable v.name)

/-- Writes a variable of the current frame. -/
def writeVar (frame : Nat) (v : Var) (x : Value Code) : RunM Unit :=
  modify fun fs => fs.modify frame fun f => f.set v x

section

variable (img : Image) (apply : Value Code → List (Value Code) → RunM (Value Code))

mutual

/-- Evaluates a node in a frame with captured parameters. Calls are handed to `apply`. -/
def eval (captured : List (Value Code)) (frame : Nat) : Node → RunM (Value Code)
  | .var v => readVar frame v
  | .param index => pureStep (capturedParam captured index)
  | .global name => pureStep (img.globalValue captured name)
  | .packed kernel arity conv args => do
    let xs ← evalAll captured frame args
    pureStep (img.packedCall kernel arity conv xs)
  | .invoke callee args => do
    let f ← eval captured frame callee
    let xs ← evalAll captured frame args
    apply f xs
  | .decl bindings body => do
    evalBindings captured frame bindings
    eval captured frame body
  | .cond test yes no => do
    let c ← eval captured frame test
    let b ← pureStep c.truth
    if b then eval captured frame yes else eval captured frame no
  | .tuple fields => do
    let xs ← evalAll captured frame fields
    return .tuple xs
  | .proj n index => do
    let x ← eval captured frame n
    pureStep (x.field index)
  | .cases data clauses => do
    let x ← eval captured frame data
    evalClauses captured frame x clauses
  | .fn params body => return .func "func" params.length (.closure ⟨params, body⟩ frame captured)
  | .construct ctor tag args => do
    let xs ← evalAll captured frame args
    pureStep (Value.construct img.ctors ctor tag xs)

/-- Evaluates several nodes from left to right. -/
def evalAll (captured : List (Value Code)) (frame : Nat) : List Node → RunM (List (Value Code))
  | [] => return []
  | n :: ns => do
    let x ← eval captured frame n
    let xs ← evalAll captured frame ns
    return x :: xs

/-- Evaluates bindings in order, each written before the next one. -/
def evalBindings (captured : List (Value Code)) (frame : Nat) : List (Var × Node) → RunM Unit
  | [] => return ()
  | (v, n) :: rest => do
    let x ← eval captured frame n
    writeVar frame v x
    evalBindings captured frame rest

/-- Evaluates the body of the first clause that describes a value, in a frame of its own. -/
def evalClauses (captured : List (Value Code)) (frame : Nat) (x : Value Code) :
    List (Matcher × List Var × Node) → RunM (Value Code)
  | [] => throw (.noClause x.shown)
  | (m, vars, body) :: rest =>
    match m.run x [] with
    | some binds => do
      let inner ← openFrame (some frame) vars binds
      eval captured inner body
    | none => evalClauses captured frame x rest

end

end

/-- How functions of the host are run. Their calls are handed to `apply`. -/
def port {ρ : Type} (apply : Value Code → List (Value Code) → RunM (Value Code))
    (serve : ρ → List (Value Code) → Except RunError (Value Code)) : HostPort Code ρ RunM where
  make := .host
  call f args := attempt (apply f args)
  serve := serve
  finish := pureStep

/-- Calls a function value. -/
def apply (img : Image) (fuel : Nat) (f : Value Code) (args : List (Value Code)) :
    RunM (Value Code) :=
  match f with
  | .func name arity code =>
    if 0 ≤ arity ∧ (args.length : Int) ≠ arity then throw (.argCount name args.length arity)
    else
      let below := match fuel with
        | 0 => fun _ _ => throw .exhausted
        | fuel + 1 => apply img fuel
      match code with
      | .host h kept => (port below nofun).start (img.host.call h) kept args
      | .global g captured =>
        match img.global? g with
        | none => throw (.undefinedGlobal g)
        | some d =>
          match d.body with
          | .host h => (port below img.serve).start (img.host.serve h) captured args
          | .routine r =>
            match fuel with
            | 0 => throw .exhausted
            | fuel + 1 => do
              let frame ← openFrame none r.params args
              eval img (apply img fuel) captured frame r.body
      | .closure r parent captured =>
        match fuel with
        | 0 => throw .exhausted
        | fuel + 1 => do
          let frame ← openFrame (some parent) r.params args
          eval img (apply img fuel) captured frame r.body
  | v => throw (.notFunction v.shown)
termination_by structural fuel

end TensorCompiler.Linked
