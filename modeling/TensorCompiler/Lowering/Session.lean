import TensorCompiler.Kernel.Registry
import TensorCompiler.Lowered.Node
import TensorCompiler.Syntax.Module

/-!
# Lowering

The sessions that lower expressions, and what they refuse.

## Errors

A call may not fit its callee, a node may have no lowered form, a primitive function may have no
kernel.
-/

namespace TensorCompiler.Lowering

/-- Why the arguments of a call are refused. -/
inductive ShapeFault where
  | ctorCount (ctor : String) (want got : Nat)
  | tupleField (index : Nat) (ty : Ty)
  | notTensor (index : Nat) (ty : Ty)
  | paramCount (params args : Nat)
  | kernelArity (kernel : String) (arity : Int) (required : Nat)

/-- The wording of a refusal. -/
def ShapeFault.message : ShapeFault → String
  | .ctorCount ctor want got =>
    "constructor " ++ ctor ++ " expects " ++ Text.ofNat want ++ " argument(s) but got " ++
      Text.ofNat got
  | .tupleField index ty =>
    "field " ++ Text.ofNat index ++ " of the tuple argument has type " ++
      (if ty = .unknown then "%!s(<nil>)" else ty.text) ++ ": not a tensor"
  | .notTensor index ty =>
    "argument " ++ Text.ofNat index ++ " has type " ++ ty.text ++
      ": not a tensor or a single tuple of tensors"
  | .paramCount params args =>
    "primitive function has " ++ Text.ofNat params ++ " parameter(s) but is called with " ++
      Text.ofNat args ++ " argument(s)"
  | .kernelArity kernel arity required =>
    "kernel " ++ kernel ++ " has arity " ++ Text.ofInt arity ++ " but the call requires " ++
      Text.ofNat required

/-- Why a node has no lowered form. -/
inductive NodeFault where
  | missing
  | bareOperator
  | bareConstructor
  | operatorCall (name : String)
  | noCallee
  | unknownGlobal (module : String)
  | noDefinition
  | tooDeep

/-- The wording of a refusal. -/
def NodeFault.message : NodeFault → String
  | .missing => "nil expression"
  | .bareOperator => "operator used outside of a call in a primitive function"
  | .bareConstructor => "constructor needs to be applied"
  | .operatorCall name => "operator " ++ name ++ " can only be called from a primitive function"
  | .noCallee => "call without a callee"
  | .unknownGlobal module => "global not defined in module " ++ module
  | .noDefinition => "global declared but never defined"
  | .tooDeep => "no lowering rule"

end Lowering

/-- Why an expression is not lowered. -/
inductive LowerError where
  | shape (site : Expr) (fault : Lowering.ShapeFault)
  | node (node : Expr) (fault : Lowering.NodeFault)
  | encode (cause : EncodeError)
  | registry (cause : RegistryError)

/-- The wording of a refusal. -/
def LowerError.message : LowerError → String
  | .shape site fault => "invalid arguments in call " ++ site.text ++ ": " ++ fault.message
  | .node e fault => "cannot lower " ++ e.formName ++ " " ++ e.text ++ ": " ++ fault.message
  | .encode cause => "cannot compile kernel <unnamed>: " ++ cause.message
  | .registry cause => cause.message

instance : ToString LowerError := ⟨LowerError.message⟩

/-!
## Lowering sessions

A session lowers expressions of one module. It keeps the globals resolved so far, in the order in
which they were completed, and shares a kernel registry with other sessions if it is told to. A
global is lowered when it is first referred to; a reference to a global that is being lowered is
recursive and returns at once. If the lowering of a global fails, everything completed since it was
begun is forgotten.
-/

open Lowered

/-- What compiles primitive functions: a kernel, no kernel, or a failure in words. -/
structure Backend (κ : Type) where
  compile : String → Function → Except String (Option κ)

/-- What a session reports while it works. -/
inductive LowerEvent where
  | compiling (kernel : String) (conv : Convention) (arity : Nat)
  | resolving (global : String)
  | recursive (global : String)

/-- The wording of a report. -/
def LowerEvent.message : LowerEvent → String
  | .compiling kernel conv arity =>
    "compiling kernel " ++ kernel ++ " (" ++ conv.name ++ ", arity " ++ Text.ofNat arity ++ ")"
  | .resolving global => "resolving global " ++ global
  | .recursive global => "recursive reference to " ++ global

/-- The state of a session: the globals completed, those being lowered, the kernels, and what was
reported. -/
structure Session (κ : Type) where
  resolved : List (Nat × Routine)
  active : List Nat
  registry : Registry κ
  log : List LowerEvent

/-- A session with a registry. -/
def Session.start {κ : Type} (registry : Registry κ) : Session κ :=
  ⟨[], [], registry, []⟩

/-- What lowering asks of a session: kernels of its registry `ρ`, marks at the globals under way,
and the functions of those finished. -/
class SessionState (σ : Type) (κ ρ : outParam Type) where
  /-- Adds to the reports. -/
  report : LowerEvent → σ → σ
  /-- Shares a registry. -/
  share : ρ → σ → σ
  /-- Whether asking for a fingerprint compiles a kernel. -/
  compiles : σ → Fingerprint → Bool
  /-- The kernel for a fingerprint, compiled if its name has none yet. -/
  load : σ → Fingerprint → (String → Except String (Option κ)) → Except RegistryError κ × σ
  /-- Whether a global is under way. -/
  Resolving : σ → Nat → Prop
  /-- The lowered function of a finished global. -/
  routine? : σ → Nat → Option Routine
  /-- Marks a global as under way. -/
  begin : Nat → σ → σ
  /-- Finishes a global that was begun in the session `before`. -/
  finish : (before : σ) → Nat → Routine → σ → σ
  /-- Forgets a global that was begun in the session `before`, and what was finished since. -/
  abandon : (before : σ) → Nat → σ → σ
  [decResolving : ∀ s id, Decidable (Resolving s id)]

attribute [reducible, instance] SessionState.decResolving

/-- Lowering steps in a session: they may fail, and keep what they did to the session if they do. -/
abbrev LowerIn (σ : Type) := ExceptT LowerError (StateM σ)

/-- Lowering steps in a session that lists the globals completed. -/
abbrev LowerM (κ : Type) := LowerIn (Session κ)

namespace Session

variable {κ : Type}

/-- The lowered function of a handle. -/
def routine? (s : Session κ) (id : Nat) : Option Routine :=
  (s.resolved.find? (·.1 == id)).map Prod.snd

/-- The lowered function of a global of a module. -/
def global? (s : Session κ) (m : Module) (name : String) : Option Routine :=
  (m.lookup name).bind s.routine?

/-- The resolved globals in the order in which their resolution completed. -/
def globals (s : Session κ) (m : Module) : List ResolvedGlobal :=
  s.resolved.map fun p => ⟨p.1, ((m.definition p.1).map Definition.name).getD "", p.2⟩

instance : SessionState (Session κ) κ (Registry κ) where
  report e s := { s with log := s.log ++ [e] }
  share registry s := { s with registry := registry }
  compiles s f := s.registry.compiles f
  load s f compile :=
    let (r, registry) := s.registry.load f compile
    (r, { s with registry := registry })
  Resolving s id := id ∈ s.active
  routine? := routine?
  begin id s := { s with active := id :: s.active }
  finish before id r s := { s with active := before.active, resolved := s.resolved ++ [(id, r)] }
  abandon before _ s :=
    { s with active := before.active, resolved := s.resolved.take before.resolved.length }

end Session

namespace Lowering

variable {σ κ ρ : Type} [SessionState σ κ ρ]

/-- Adds to the reports of the session. -/
def report (e : LowerEvent) : LowerIn σ Unit :=
  modify (SessionState.report e)

/-- The first field that is not a tensor, with its position counted from `i`. -/
def notTensorFrom (i : Nat) : List Ty → Option (Nat × Ty)
  | [] => none
  | t :: ts => if t.isTensor then notTensorFrom (i + 1) ts else some (i, t)

/-- The calling convention of a primitive function and its number of inputs. A single argument of
a tuple type is spread into its fields. -/
def convention (site : Expr) (params : Nat) (args : List Ty) :
    Except LowerError (Convention × Nat) :=
  match args with
  | [.tuple fields] =>
    match notTensorFrom 0 fields with
    | some (i, t) => .error (.shape site (.tupleField i t))
    | none => .ok (.spread, fields.length)
  | _ =>
    match notTensorFrom 0 args with
    | some (i, t) => .error (.shape site (.notTensor i t))
    | none =>
      if args.length = params then .ok (.flat, params)
      else .error (.shape site (.paramCount params args.length))

/-- Reports that a kernel is compiled, if asking for its fingerprint compiles one. -/
def announce (fp : Fingerprint) (conv : Convention) (arity : Nat) : LowerIn σ Unit := do
  if SessionState.compiles (← get) fp then report (.compiling fp.kernelName conv arity)

/-- The kernel for a fingerprint, taken from the registry or compiled into it. -/
def loadKernel (fp : Fingerprint) (compile : String → Except String (Option κ)) : LowerIn σ κ := do
  let (r, s) := SessionState.load (← get) fp compile
  set s
  match r with
  | .ok k => return k
  | .error e => throw (.registry e)

/-- The kernel of a primitive function. -/
def kernelFor (b : Backend κ) (f : Function) (conv : Convention) (arity : Nat) : LowerIn σ κ := do
  match f.fingerprint with
  | .error e => throw (.encode e)
  | .ok fp =>
    announce fp conv arity
    loadKernel fp fun name => b.compile name f

/-- The packed call of a primitive function, waiting for its lowered arguments. -/
def packedCall [CompiledKernel κ] (b : Backend κ) (site : Expr) (f : Function) (args : List Ty) :
    LowerIn σ (List Node → Node) := do
  let (conv, inputs) ← convention site f.params.length args
  let k ← kernelFor b f conv (inputs + 1)
  if CompiledKernel.arity k ≠ (inputs + 1 : Nat) then
    throw (.shape site (.kernelArity (CompiledKernel.name k) (CompiledKernel.arity k) (inputs + 1)))
  return fun nodes => .packed (CompiledKernel.name k) (inputs + 1 : Nat) conv nodes f.ret

mutual

/-- Lowers an expression. Globals are handed to `resolve`. -/
def lower [CompiledKernel κ] (b : Backend κ) (resolve : GlobalRef → LowerIn σ Unit) :
    Expr → LowerIn σ Node
  | .hole => throw (.node .hole .missing)
  | .var v => return .var v
  | .const c => return .const c
  | .global g => do
    resolve g
    return .global g
  | .op name => throw (.node (.op name) .bareOperator)
  | .ctor c => throw (.node (.ctor c) .bareConstructor)
  | .call (.fn params body ret true) args ty => do
    let site := Expr.call (.fn params body ret true) args ty
    let pack ← packedCall b site ⟨params, body, ret, true⟩ (args.map Expr.ty)
    let nodes ← lowerAll b resolve args
    return pack nodes
  | .call (.ctor c) args ty => do
    if args.length ≠ c.inputs.length then
      throw (.shape (.call (.ctor c) args ty) (.ctorCount c.name c.inputs.length args.length))
    let nodes ← lowerAll b resolve args
    return .construct c c.tag nodes
  | .call (.op name) args ty => throw (.node (.call (.op name) args ty) (.operatorCall name))
  | .call .hole args ty => throw (.node (.call .hole args ty) .noCallee)
  | .call callee args ty => do
    let f ← lower b resolve callee
    let nodes ← lowerAll b resolve args
    return .invoke f nodes ty
  | .bind v value body => do
    let x ← lower b resolve value
    let n ← lower b resolve body
    return Node.bindBefore v x n
  | .cond test yes no ty => do
    let c ← lower b resolve test
    let y ← lower b resolve yes
    let n ← lower b resolve no
    return .cond c y n ty
  | .tuple fields ty => do
    let nodes ← lowerAll b resolve fields
    return .tuple nodes ty
  | .proj e index ty => do
    let n ← lower b resolve e
    return .proj n index ty
  | .cases data clauses ty => do
    let d ← lower b resolve data
    let cs ← lowerClauses b resolve clauses
    return .cases d cs ty
  | .fn params body ret true => do
    let f : Function := ⟨params, body, ret, true⟩
    let pack ← packedCall b f.toExpr f (params.map Var.ty)
    return .fn params (pack (params.map Node.var)) ret
  | .fn params body ret false => do
    let n ← lower b resolve body
    return .fn params n ret

/-- Lowers several expressions in order. -/
def lowerAll [CompiledKernel κ] (b : Backend κ) (resolve : GlobalRef → LowerIn σ Unit) :
    List Expr → LowerIn σ (List Node)
  | [] => return []
  | e :: es => do
    let n ← lower b resolve e
    let ns ← lowerAll b resolve es
    return n :: ns

/-- Lowers the bodies of clauses in order. -/
def lowerClauses [CompiledKernel κ] (b : Backend κ) (resolve : GlobalRef → LowerIn σ Unit) :
    List (Pattern × Expr) → LowerIn σ (List (Pattern × Node))
  | [] => return []
  | (p, e) :: rest => do
    let n ← lower b resolve e
    let ns ← lowerClauses b resolve rest
    return (p, n) :: ns

end

/-- Lowers a function. -/
def lowerFunction [CompiledKernel κ] (b : Backend κ) (resolve : GlobalRef → LowerIn σ Unit)
    (f : Function) : LowerIn σ Routine := do
  if f.primitive then
    let pack ← packedCall b f.toExpr f (f.params.map Var.ty)
    return ⟨f.params, pack (f.params.map Node.var), f.ret⟩
  else
    let n ← lower b resolve f.body
    return ⟨f.params, n, f.ret⟩

/-- Marks a global as being lowered, lowers its function by `act`, and records the result. A
failure restores the globals of the session. -/
def complete (id : Nat) (name : String) (act : LowerIn σ Routine) : LowerIn σ Unit := do
  let before ← get
  modify (SessionState.begin id)
  report (.resolving name)
  try
    let r ← act
    modify (SessionState.finish before id r)
  catch e =>
    modify (SessionState.abandon before id)
    throw e

/-- Looks a global up, and enters its function if the global is new. -/
def visit (m : Module) (enter : Nat → Function → LowerIn σ Unit) (g : GlobalRef) :
    LowerIn σ Unit :=
  match m.lookup g.name with
  | none => throw (.node (.global g) (.unknownGlobal m.name))
  | some id =>
    match m.function? id with
    | none => throw (.node (.global g) .noDefinition)
    | some f => do
      let s ← get
      if SessionState.Resolving s id then
        report (.recursive g.name)
      else if (SessionState.routine? s id).isSome then
        return
      else
        enter id f

/-- Lowers a global if it has not been lowered yet. At most `depth` globals may be begun inside
one another: a module never needs more than it has definitions. -/
def resolve [CompiledKernel κ] (m : Module) (b : Backend κ) : Nat → GlobalRef → LowerIn σ Unit
  | 0, g => visit m (fun _ _ => throw (.node (.global g) .tooDeep)) g
  | depth + 1, g =>
    visit m (fun id f => complete id g.name (lowerFunction b (resolve m b depth) f)) g

end Lowering

namespace SessionState

variable {σ κ ρ : Type} [SessionState σ κ ρ] [CompiledKernel κ]

/-- The lowered function of a global of a module. -/
def global? (s : σ) (m : Module) (name : String) : Option Routine :=
  (m.lookup name).bind (routine? s)

/-- Lowers an expression. -/
def lower (s : σ) (m : Module) (b : Backend κ) (e : Expr) : Except LowerError Node × σ :=
  (Lowering.lower b (Lowering.resolve m b m.defs.length) e).run s

/-- Lowers a function. -/
def lowerFunction (s : σ) (m : Module) (b : Backend κ) (f : Function) :
    Except LowerError Routine × σ :=
  (Lowering.lowerFunction b (Lowering.resolve m b m.defs.length) f).run s

/-- Resolves a global and returns its lowered function. -/
def lowerGlobalBy (s : σ) (m : Module) (resolve : GlobalRef → LowerIn σ Unit) (name : String) :
    Except LowerError Routine × σ :=
  match m.global name with
  | none => (.error (.node (.global ⟨name, .unknown⟩) (.unknownGlobal m.name)), s)
  | some g =>
    match (resolve g).run s with
    | (.error e, s) => (.error e, s)
    | (.ok (), s) =>
      match global? s m name with
      | some r => (.ok r, s)
      | none => (.error (.node (.global g) .noDefinition), s)

/-- Resolves a global by the bounded resolution. -/
def lowerGlobal (s : σ) (m : Module) (b : Backend κ) (name : String) :
    Except LowerError Routine × σ :=
  lowerGlobalBy s m (Lowering.resolve m b m.defs.length) name

end SessionState

namespace Session

variable {κ : Type} [CompiledKernel κ]

/-- Lowers an expression. -/
def lower (s : Session κ) (m : Module) (b : Backend κ) (e : Expr) :
    Except LowerError Node × Session κ :=
  SessionState.lower s m b e

/-- Lowers a function. -/
def lowerFunction (s : Session κ) (m : Module) (b : Backend κ) (f : Function) :
    Except LowerError Routine × Session κ :=
  SessionState.lowerFunction s m b f

/-- Resolves a global and returns its lowered function. -/
def lowerGlobal (s : Session κ) (m : Module) (b : Backend κ) (name : String) :
    Except LowerError Routine × Session κ :=
  SessionState.lowerGlobal s m b name

end Session
end TensorCompiler
