import TensorCompiler.Linked.Library
import TensorCompiler.Proofs.Meaning.Frames

/-!
# Watched runs

A run of a linked program that keeps apart who reports an error, the program or a function of the
host, and that tells a kernel called with its inputs one by one from one called with the fields of a
tuple. It stops at the first error of the program that blames the linker, also where a function of
the host would be told the error and go on.

## Implementation notes

A plain run reports alike that a kernel got a wrong number of inputs, whatever the convention. Only
a run that watches this step can tell that one of the two never happens. The watched evaluator goes
through the nodes as the plain one does. What ties the two together is proved of all nodes at once,
in the induction that shows the alarms to be silent, so a difference between them would be found
there.
-/

namespace TensorCompiler

open Linked
open Lowered (Convention)

/-- The errors that blame the linker: a name, a kernel or a constructor that is not there, a
captured parameter or a value out of range, a constructor or a kernel that is declared otherwise. -/
def RunError.isLinking : RunError → Bool
  | .undefinedGlobal _ | .paramRange _ _ | .valueRange _ _ | .kernelUnknown _ | .unknownCtor _
  | .ctorTag _ _ _ | .ctorArgs _ _ _ | .kernelCall (.argCount _ _ _) => true
  | _ => false

namespace Watched

/-- Why a watched run stops. -/
inductive Alarm where
  | report (e : RunError)
  | host (e : RunError)
  | inputs (kernel : String) (count : Nat) (arity : Int)

/-- Steps of a watched run. -/
abbrev WatchM := ExceptT Alarm (StateM Frames)

/-- A plain step whose errors are attributed. -/
def watch {α : Type} (alarm : RunError → Alarm) (x : RunM α) : WatchM α :=
  ExceptT.mk fun fs => ((x.run fs).1.mapError alarm, (x.run fs).2)

/-- Calls a kernel. If its inputs are passed one by one, their number has to be right. -/
def packedCall (img : Image) (kernel : String) (arity : Int) (conv : Convention)
    (args : List (Value Code)) : WatchM (Value Code) :=
  if conv = .flat ∧ ((args.length + 1 : Nat) : Int) ≠ arity then
    throw (.inputs kernel args.length arity)
  else watch .report (pureStep (img.packedCall kernel arity conv args))

section

variable (img : Image) (apply : Value Code → List (Value Code) → WatchM (Value Code))

mutual

/-- Evaluates a node in a frame with captured parameters. Calls are handed to `apply`. -/
def eval (captured : List (Value Code)) (frame : Nat) : Node → WatchM (Value Code)
  | .var v => watch .report (readVar frame v)
  | .param index => watch .report (pureStep (capturedParam captured index))
  | .global name => watch .report (pureStep (img.globalValue captured name))
  | .packed kernel arity conv args => do
    let xs ← evalAll captured frame args
    packedCall img kernel arity conv xs
  | .invoke callee args => do
    let f ← eval captured frame callee
    let xs ← evalAll captured frame args
    apply f xs
  | .decl bindings body => do
    evalBindings captured frame bindings
    eval captured frame body
  | .cond test yes no => do
    let c ← eval captured frame test
    let b ← watch .report (pureStep c.truth)
    if b then eval captured frame yes else eval captured frame no
  | .tuple fields => do
    let xs ← evalAll captured frame fields
    return .tuple xs
  | .proj n index => do
    let x ← eval captured frame n
    watch .report (pureStep (x.field index))
  | .cases data clauses => do
    let x ← eval captured frame data
    evalClauses captured frame x clauses
  | .fn params body => return .func "func" params.length (.closure ⟨params, body⟩ frame captured)
  | .construct ctor tag args => do
    let xs ← evalAll captured frame args
    watch .report (pureStep (Value.construct img.ctors ctor tag xs))

/-- Evaluates several nodes from left to right. -/
def evalAll (captured : List (Value Code)) (frame : Nat) : List Node → WatchM (List (Value Code))
  | [] => return []
  | n :: ns => do
    let x ← eval captured frame n
    let xs ← evalAll captured frame ns
    return x :: xs

/-- Evaluates bindings in order. -/
def evalBindings (captured : List (Value Code)) (frame : Nat) : List (Var × Node) → WatchM Unit
  | [] => return ()
  | (v, n) :: rest => do
    let x ← eval captured frame n
    watch .report (writeVar frame v x)
    evalBindings captured frame rest

/-- Evaluates the body of the first clause that describes a value, in a frame of its own. -/
def evalClauses (captured : List (Value Code)) (frame : Nat) (x : Value Code) :
    List (Matcher × List Var × Node) → WatchM (Value Code)
  | [] => throw (.report (.noClause x.shown))
  | (m, vars, body) :: rest =>
    match m.run x [] with
    | some binds => do
      let inner ← watch .report (openFrame (some frame) vars binds)
      eval captured inner body
    | none => evalClauses captured frame x rest

end

end

/-- What a function of the host is told of a call, if the run does not stop. -/
def told {α : Type} : Except Alarm α → Except Alarm (Except RunError α)
  | .ok a => .ok (.ok a)
  | .error (.report e) =>
    if e.isLinking then .error (.report e) else (reported (.error e)).mapError .report
  | .error (.host e) => (reported (.error e)).mapError .host
  | .error (.inputs kernel count arity) => .error (.inputs kernel count arity)

/-- A call whose report is handed to a function of the host. -/
def attempt {α : Type} (x : WatchM α) : WatchM (Except RunError α) :=
  ExceptT.mk (told <$> x.run)

/-- How functions of the host are run. Their calls are handed to `apply`. -/
def port {ρ : Type} (apply : Value Code → List (Value Code) → WatchM (Value Code))
    (serve : ρ → List (Value Code) → Except RunError (Value Code)) : HostPort Code ρ WatchM where
  make := .host
  call f args := attempt (apply f args)
  serve := serve
  finish out := watch .host (pureStep out)

/-- Calls a function value. -/
def apply (img : Image) (fuel : Nat) (f : Value Code) (args : List (Value Code)) :
    WatchM (Value Code) :=
  match f with
  | .func name arity code =>
    if 0 ≤ arity ∧ (args.length : Int) ≠ arity then
      throw (.report (.argCount name args.length arity))
    else
      let below := match fuel with
        | 0 => fun _ _ => throw (.report .exhausted)
        | fuel + 1 => apply img fuel
      match code with
      | .host h kept => (port below nofun).start (img.host.call h) kept args
      | .global g captured =>
        match img.global? g with
        | none => throw (.report (.undefinedGlobal g))
        | some d =>
          match d.body with
          | .host h => (port below img.serve).start (img.host.serve h) captured args
          | .routine r =>
            match fuel with
            | 0 => throw (.report .exhausted)
            | fuel + 1 => do
              let frame ← watch .report (openFrame none r.params args)
              eval img (apply img fuel) captured frame r.body
      | .closure r parent captured =>
        match fuel with
        | 0 => throw (.report .exhausted)
        | fuel + 1 => do
          let frame ← watch .report (openFrame (some parent) r.params args)
          eval img (apply img fuel) captured frame r.body
  | v => throw (.report (.notFunction v.shown))
termination_by structural fuel

/-- Calls a global with captured parameters. -/
def run (img : Image) (fuel : Nat) (name : String) (captured args : List (Value Code)) :
    WatchM (Value Code) := do
  let f ← watch .report (pureStep (img.globalValue captured name))
  apply img fuel f args

/-! ### Silent alarms -/

/-- What a watched step says of the plain one: the value it has, or the error it stops with, which
blames the linker only if a function of the host reports it. -/
inductive Tells {α : Type} (Q : α → Prop) : Except Alarm α → Except RunError α → Prop
  | value {a : α} (h : Q a) : Tells Q (.ok a) (.ok a)
  | report {e : RunError} (h : e.isLinking = false) : Tells Q (.error (.report e)) (.error e)
  | host (e : RunError) : Tells Q (.error (.host e)) (.error e)

/-- A watched step goes on exactly as the plain one, sounds no alarm, and keeps an invariant of the
frames. -/
def Silent {α : Type} (good : Frames → Prop) (x : WatchM α) (y : RunM α) (Q : α → Prop) : Prop :=
  ∀ fs, good fs → Tells Q (x.run fs).1 (y.run fs).1 ∧ (x.run fs).2 = (y.run fs).2 ∧
    good (y.run fs).2

section

variable {α β : Type} {good : Frames → Prop}

/-- A weaker description of the value. -/
theorem Tells.mono {Q R : α → Prop} {x : Except Alarm α} {y : Except RunError α}
    (h : Tells Q x y) (imp : ∀ a, Q a → R a) : Tells R x y := by
  cases h with
  | value h => exact .value (imp _ h)
  | report h => exact .report h
  | host e => exact .host e

/-- An error that blames the linker is one of the host. -/
theorem Tells.eq_host {Q : α → Prop} {x : Except Alarm α} {e : RunError}
    (h : Tells Q x (.error e)) (blames : e.isLinking = true) : x = .error (.host e) := by
  cases h with
  | report other =>
      rw [other] at blames
      cases blames
  | host => rfl

theorem Silent.mono {x : WatchM α} {y : RunM α} {Q R : α → Prop} (h : Silent good x y Q)
    (imp : ∀ a, Q a → R a) : Silent good x y R := by
  intro fs hfs
  obtain ⟨tells, rest⟩ := h fs hfs
  exact ⟨tells.mono imp, rest⟩

theorem Silent.pure {a : α} {Q : α → Prop} (h : Q a) :
    Silent good (Pure.pure a) (Pure.pure a) Q := by
  intro fs hfs
  exact ⟨.value h, rfl, hfs⟩

/-- A report that does not blame the linker. -/
theorem Silent.report {e : RunError} (h : e.isLinking = false) {Q : α → Prop} :
    Silent good (throw (.report e)) (throw e) Q := by
  intro fs hfs
  exact ⟨.report h, rfl, hfs⟩

/-- Two silent steps in a row. -/
theorem Silent.bind {x : WatchM α} {y : RunM α} {f : α → WatchM β} {g : α → RunM β}
    {Q : α → Prop} {R : β → Prop} (hx : Silent good x y Q)
    (hf : ∀ a, Q a → Silent good (f a) (g a) R) : Silent good (x >>= f) (y >>= g) R := by
  intro fs hfs
  obtain ⟨tells, same, kept⟩ := hx fs hfs
  rw [run_bind, run_bind]
  rcases hwatched : x.run fs with ⟨a, fs'⟩
  rcases hplain : y.run fs with ⟨b, fs''⟩
  rw [hwatched, hplain] at tells same
  rw [hplain] at kept
  obtain rfl : fs' = fs'' := same
  cases tells with
  | value h => exact hf _ h fs' kept
  | report h => exact ⟨.report h, rfl, kept⟩
  | host e => exact ⟨.host e, rfl, kept⟩

/-- A plain step that keeps the invariant and does not blame the linker. -/
theorem silent_watch {y : RunM α} {Q : α → Prop}
    (h : ∀ fs, good fs → good (y.run fs).2 ∧ (∀ a, (y.run fs).1 = .ok a → Q a) ∧
      ∀ e, (y.run fs).1 = .error e → e.isLinking = false) :
    Silent good (watch .report y) y Q := by
  intro fs hfs
  obtain ⟨kept, value, error⟩ := h fs hfs
  refine ⟨?_, rfl, kept⟩
  change Tells Q ((y.run fs).1.mapError .report) (y.run fs).1
  cases hrun : (y.run fs).1 with
  | error e => exact .report (error e hrun)
  | ok a => exact .value (value a hrun)

/-- A step that touches no frame and does not blame the linker. -/
theorem silent_pureStep {r : Except RunError α} {Q : α → Prop} (value : ∀ a, r = .ok a → Q a)
    (error : ∀ e, r = .error e → e.isLinking = false) :
    Silent good (watch .report (pureStep r)) (pureStep r) Q := by
  refine silent_watch fun fs hfs => ?_
  rw [run_pureStep]
  exact ⟨hfs, value, error⟩

/-- A function of the host is told what a silent call comes to. -/
theorem Silent.attempt {x : WatchM α} {y : RunM α} {Q : α → Prop} (h : Silent good x y Q) :
    Silent good (Watched.attempt x) (TensorCompiler.attempt y) fun out =>
      ∀ a, out = .ok a → Q a := by
  intro fs hfs
  obtain ⟨tells, same, kept⟩ := h fs hfs
  refine ⟨?_, same, kept⟩
  change Tells _ (told (x.run fs).1) (reported (y.run fs).1)
  revert tells
  generalize (x.run fs).1 = watched
  generalize (y.run fs).1 = plain
  intro tells
  cases tells with
  | value h =>
      refine .value ?_
      rintro _ ⟨⟩
      exact h
  | @report e blameless =>
      simp only [told, blameless, Bool.false_eq_true, if_false]
      cases e with
      | exhausted => exact .report rfl
      | _ => exact .value nofun
  | host e =>
      cases e with
      | exhausted => exact .host _
      | _ => exact .value nofun

/-- A function of the host may report what it likes. -/
theorem silent_host {r : Except RunError α} {Q : α → Prop} (value : ∀ a, r = .ok a → Q a) :
    Silent good (watch .host (pureStep r)) (pureStep r) Q := by
  intro fs hfs
  rw [run_pureStep]
  refine ⟨?_, ?_, hfs⟩
  · change Tells Q (((pureStep r).run fs).1.mapError .host) r
    rw [run_pureStep]
    cases r with
    | error e => exact .host e
    | ok a => exact .value (value a rfl)
  · change ((pureStep r).run fs).2 = fs
    rw [run_pureStep]

end

end Watched
end TensorCompiler
