import TensorCompiler.Linked.Node
import TensorCompiler.Value.Host

/-!
# Functions of the host

A host passes functions of its own to a program, and defines some globals by them. What such a
function does is up to the host. It may call the function values it has come to know, with any
arguments and under any arity, go on with what they return or report, and hand out new functions
that keep some of these values.

## Implementation notes

A function value of a program is a number to the host, the one under which it came to know the
function; so a host cannot look inside. What a function of the host does is given as a tree: it
ends, or it calls back and has a subtree for each outcome. The same tree is run by every evaluator.
-/

namespace TensorCompiler

/-- A function of the host. A program knows no more of it than a name. -/
structure HostFunction where
  name : String
deriving DecidableEq, Repr

/-- A value made by the host. -/
abbrev HostMade := Value HostFunction

/-- What the host puts into a function value: a function it has come to know, or one of its own with
the values that this keeps. -/
inductive HostCode where
  | known (index : Nat)
  | made (f : HostFunction) (kept : List (Value Nat))

/-- What a global function of the host may ask of the runtime it is called by, with the captured
parameters or the arguments. -/
inductive Service where
  | global (name : String)
  | packed (kernel : String) (arity : Int) (conv : Lowered.Convention)
  | construct (ctor : String) (tag : Int)

/-- What a function of the host does that may ask for services. -/
inductive HostRun (ρ : Type) where
  | answer (out : Except RunError (Value HostCode))
  | call (f : Value HostCode) (args : List (Value HostCode))
      (next : Except RunError (Value Nat) → HostRun ρ)
  | ask (service : ρ) (args : List (Value HostCode))
      (next : Except RunError (Value Nat) → HostRun ρ)

/-- What the functions of a host do, as function values with the values they keep, and as globals
with the captured parameters. -/
structure Host where
  call : HostFunction → (kept args : List (Value Nat)) → HostRun Empty
  serve : HostFunction → (params args : List (Value Nat)) → HostRun Service

/-! ### Function values in the hands of the host -/

namespace Value

variable {φ ψ : Type}

mutual

/-- A value with a number for each function in it, which comes to be known after those in `known`.
-/
def learn (known : List φ) : Value φ → Value Nat × List φ
  | .absent => (.absent, known)
  | .tensor cell => (.tensor cell, known)
  | .tuple fields =>
    let (fields, known) := learnAll known fields
    (.tuple fields, known)
  | .data ctor fields =>
    let (fields, known) := learnAll known fields
    (.data ctor fields, known)
  | .func name arity code => (.func name arity known.length, known ++ [code])

/-- Several values with numbers for their functions. -/
def learnAll (known : List φ) : List (Value φ) → List (Value Nat) × List φ
  | [] => ([], known)
  | v :: vs =>
    let (v, known) := learn known v
    let (vs, known) := learnAll known vs
    (v :: vs, known)

end

mutual

/-- A value with code for its functions. Nothing is left of a function without code. -/
def recode (code : φ → Option ψ) : Value φ → Value ψ
  | .absent => .absent
  | .tensor cell => .tensor cell
  | .tuple fields => .tuple (recodeAll code fields)
  | .data ctor fields => .data ctor (recodeAll code fields)
  | .func name arity c =>
    match code c with
    | some d => .func name arity d
    | none => .absent

/-- Several values with code for their functions. -/
def recodeAll (code : φ → Option ψ) : List (Value φ) → List (Value ψ)
  | [] => []
  | v :: vs => recode code v :: recodeAll code vs

end

end Value

/-- An outcome as the host comes to know it. -/
def learnOutcome {φ : Type} (known : List φ) :
    Except RunError (Value φ) → Except RunError (Value Nat) × List φ
  | .error e => (.error e, known)
  | .ok v =>
    let (v, known) := v.learn known
    (.ok v, known)

/-! ### Running functions of the host -/

/-- How an evaluator runs functions of the host: the code of a function that the host makes, a call
back and its outcome, the answer of a service, and the end of the run. -/
structure HostPort (φ ρ : Type) (m : Type → Type) where
  make : HostFunction → List (Value φ) → φ
  call : Value φ → List (Value φ) → m (Except RunError (Value φ))
  serve : ρ → List (Value φ) → Except RunError (Value φ)
  finish : Except RunError (Value φ) → m (Value φ)

namespace HostPort

variable {φ ρ : Type} {m : Type → Type} (port : HostPort φ ρ m)

/-- The code that the host puts into a function value. -/
def code (known : List φ) : HostCode → Option φ
  | .known index => known[index]?
  | .made f kept => some (port.make f (Value.recodeAll (known[·]?) kept))

/-- A value that the host hands out. -/
def value (known : List φ) (v : Value HostCode) : Value φ :=
  v.recode (port.code known)

/-- Values that the host hands out. -/
def values (known : List φ) (vs : List (Value HostCode)) : List (Value φ) :=
  Value.recodeAll (port.code known) vs

/-- Runs a function of the host that knows some function values. -/
def run [Monad m] (known : List φ) : HostRun ρ → m (Value φ)
  | .answer out => port.finish (out.map (port.value known))
  | .call f args next => do
    let out ← port.call (port.value known f) (port.values known args)
    let (out, known) := learnOutcome known out
    run known (next out)
  | .ask service args next =>
    let (out, known) := learnOutcome known (port.serve service (port.values known args))
    run known (next out)

/-- Calls a function of the host, which comes to know the function values it is given. -/
def start [Monad m] (act : (kept args : List (Value Nat)) → HostRun ρ)
    (kept args : List (Value φ)) : m (Value φ) :=
  let (kept, known) := Value.learnAll [] kept
  let (args, known) := Value.learnAll known args
  port.run known (act kept args)

end HostPort

/-- A step whose report is handed to the host as an outcome. When a run is out of depth it is over
for the host too. -/
def reported {α : Type} : Except RunError α → Except RunError (Except RunError α)
  | .ok a => .ok (.ok a)
  | .error .exhausted => .error .exhausted
  | .error e => .ok (.error e)

/-- A run whose report is handed to the host as an outcome. -/
def attempt {α : Type} {m : Type → Type} [Monad m] (x : ExceptT RunError m α) :
    ExceptT RunError m (Except RunError α) :=
  ExceptT.mk (reported <$> x.run)

/-! ### A plain host -/

/-- What a function of a plain host does, by its name: it returns its first argument, the last one,
all of them, or nothing. Any other name is the message of a failure. -/
def plainRun {ρ : Type} (f : HostFunction) (args : List (Value Nat)) : HostRun ρ :=
  let known (v : Value Nat) : HostRun ρ := .answer (.ok (v.map .known))
  match f.name with
  | "first" => known (args.headD .absent)
  | "last" => known (args.getLastD .absent)
  | "tuple" => known (.tuple args)
  | "nil" => known .absent
  | message => .answer (.error (.host message))

/-- A host whose functions call nothing. One of its globals returns the first captured parameter. -/
def Host.plain : Host where
  call f _ args := plainRun f args
  serve f params args :=
    if f.name = "param0" then
      .answer (match params with
        | v :: _ => .ok (v.map .known)
        | [] => .error (.paramRange 0 0))
    else plainRun f args

end TensorCompiler
