import TensorCompiler.Syntax.Print
import TensorCompiler.Tensor.Operator

/-!
# Graphs of kernels

The body of a primitive function becomes a graph: inputs, constants, kernels applied to nodes, and
shared nodes, which are computed at most once in a call. Let-bound tensors are shared; tuples exist
only while the graph is built; nested primitive functions are expanded in place.

One table of variables serves the whole graph. The parameters of an expanded function are entered
one by one, each as soon as its argument is built.
-/

namespace TensorCompiler

/-- A node of a graph. -/
inductive GraphNode where
  | constant (t : Tensor)
  | input (index : Nat) (name : String) (shape : Shape)
  | binary (kernel : BinaryKernel) (x y : GraphNode)
  | unary (kernel : UnaryKernel) (x : GraphNode)
  | shared (slot : Nat) (x : GraphNode)

namespace GraphNode

/-- The shape a node announces. -/
def shape : GraphNode → Shape
  | .constant t => t.shape
  | .input _ _ s => s
  | .binary k _ _ => k.out
  | .unary _ x => x.shape
  | .shared _ x => x.shape

/-- The family operators on a node are taken from. -/
def family (n : GraphNode) : Except TensorError Family :=
  Family.forDType n.shape.dtype

end GraphNode

/-- The operators a primitive function may call. -/
inductive KernelOp where
  | binary (op : Operator)
  | negate
  | copy
  | math (f : MathFn)
deriving DecidableEq

/-- The operators by name, in alphabetical order. -/
def kernelOps : List (String × KernelOp) :=
  [("add", .binary (.arith .add)), ("copy", .copy), ("divide", .binary (.arith .quo)),
   ("equal", .binary (.compare .eql)), ("exp", .math .exp), ("greater", .binary (.compare .gtr)),
   ("less", .binary (.compare .lss)), ("log", .math .log), ("multiply", .binary (.arith .mul)),
   ("negative", .negate), ("relu", .math .relu), ("sigmoid", .math .sigmoid),
   ("sqrt", .math .sqrt), ("subtract", .binary (.arith .sub)), ("tanh", .math .tanh)]

/-- The operator with a name. -/
def kernelOp? (name : String) : Option KernelOp :=
  (kernelOps.find? (·.1 == name)).map Prod.snd

/-- Why an operator cannot be applied to its arguments. -/
inductive OperatorError where
  | binaryCount (symbol : String) (count : Nat)
  | unaryCount (count : Nat)
  | noMath (shape : Shape)
  | tensor (e : TensorError)

/-- The wording of a refusal. -/
def OperatorError.message : OperatorError → String
  | .binaryCount symbol count =>
    "binary operator " ++ symbol ++ " called with " ++ Text.ofNat count ++ " argument(s)"
  | .unaryCount count => "unary operator called with " ++ Text.ofNat count ++ " argument(s)"
  | .noMath shape => "math functions not supported for " ++ shape.text
  | .tensor e => e.message

/-- Why a primitive function has no graph. -/
inductive GraphError where
  | inputType (input : String) (e : TensorError)
  | fieldType (param : String) (index : Nat) (ty : Ty)
  | paramType (param : String) (ty : Ty)
  | tupleOperand (e : Expr)
  | undefined (name : String)
  | constant (e : TensorError)
  | projection (e : Expr)
  | form (e : Expr)
  | noOperator (name : String)
  | operator (name : String) (e : OperatorError)
  | argCount (call : Expr) (args params : Nat)
  | callee (e : Expr)
  | tupleResult

/-- The wording of a refusal. -/
def GraphError.message : GraphError → String
  | .inputType input e => "argument " ++ input ++ ": " ++ e.message
  | .fieldType param index ty =>
    "parameter " ++ param ++ ": field " ++ Text.ofNat index ++ " of type " ++ ty.text ++
      " is not a tensor"
  | .paramType param ty => "parameter " ++ param ++ ": type " ++ ty.text ++ " not supported"
  | .tupleOperand e => e.text ++ " is a tuple: expected a tensor"
  | .undefined name => "undefined variable " ++ name
  | .constant e => e.message
  | .projection e => "invalid projection " ++ e.text
  | .form e => e.formName ++ " not supported in a primitive function"
  | .noOperator name => "operator " ++ name ++ " not supported by the Go native backend"
  | .operator name e => "operator " ++ name ++ ": " ++ e.message
  | .argCount call args params =>
    call.text ++ ": " ++ Text.ofNat args ++ " argument(s) for " ++ Text.ofNat params ++
      " parameter(s)"
  | .callee e => "call to " ++ e.text ++ " not supported in a primitive function"
  | .tupleResult => "returning a tuple is not supported"

/-- What an expression denotes while a graph is built. -/
inductive Built where
  | node (n : GraphNode)
  | tuple (fields : List Built)

/-- The variables entered so far and the number of shared nodes. -/
structure GraphScope where
  vars : List (Var × Built)
  slots : Nat

namespace GraphScope

/-- Nothing entered. -/
def empty : GraphScope := ⟨[], 0⟩

/-- What a variable denotes: the latest entry counts. -/
def find? (s : GraphScope) (v : Var) : Option Built :=
  (s.vars.find? (·.1 == v)).map Prod.snd

/-- Enters a variable. -/
def enter (s : GraphScope) (v : Var) (b : Built) : GraphScope :=
  { s with vars := (v, b) :: s.vars }

/-- Makes a tensor a shared node. -/
def share (s : GraphScope) : Built → Built × GraphScope
  | .node n => (.node (.shared s.slots n), { s with slots := s.slots + 1 })
  | .tuple fields => (.tuple fields, s)

end GraphScope

/-- The node that applies an operator to nodes. -/
def KernelOp.node (op : KernelOp) (args : List GraphNode) : Except OperatorError GraphNode :=
  match op with
  | .binary o =>
    match args with
    | [x, y] =>
      match (do let f ← x.family; f.binary o x.shape y.shape) with
      | .ok k => .ok (.binary k x y)
      | .error e => .error (.tensor e)
    | _ => .error (.binaryCount o.symbol args.length)
  | .negate =>
    match args with
    | [x] =>
      match (do let f ← x.family; f.unary (.arith .sub) x.shape) with
      | .ok k => .ok (.unary k x)
      | .error e => .error (.tensor e)
    | _ => .error (.unaryCount args.length)
  | .copy =>
    match args with
    | [x] => .ok (.unary .copy x)
    | _ => .error (.unaryCount args.length)
  | .math f =>
    match args with
    | [x] =>
      match x.family with
      | .ok fam =>
        match fam.math? f with
        | some k => .ok (.unary k x)
        | none => .error (.noMath x.shape)
      | .error e => .error (.tensor e)
    | _ => .error (.unaryCount args.length)

/-- The node an expression must denote where a tensor is expected. -/
def Built.asNode (e : Expr) : Built → Except GraphError GraphNode
  | .node n => .ok n
  | .tuple _ => .error (.tupleOperand e)

/-- The field a projection selects. -/
def Built.field (e : Expr) (index : Int) : Built → Except GraphError Built
  | .node _ => .error (.projection e)
  | .tuple fields =>
    match (if index < 0 then none else fields[index.toNat]?) with
    | some b => .ok b
    | none => .error (.projection e)

namespace GraphScope

mutual

/-- What an expression denotes. -/
def build (s : GraphScope) : Expr → Except GraphError (Built × GraphScope)
  | .var v =>
    match s.find? v with
    | some b => .ok (b, s)
    | none => .error (.undefined v.name)
  | .const c =>
    match Tensor.ofSlice c.values c.shape.dims with
    | .ok t => .ok (.node (.constant t), s)
    | .error e => .error (.constant e)
  | .bind v value body => do
    let (b, s) ← build s value
    let (b, s) := s.share b
    build (s.enter v b) body
  | .tuple fields _ => do
    let (bs, s) ← buildFields s fields
    return (.tuple bs, s)
  | .proj e index ty => do
    let (b, s) ← build s e
    let b ← b.field (.proj e index ty) index
    return (b, s)
  | .call (.op name) args _ =>
    match kernelOp? name with
    | none => .error (.noOperator name)
    | some op => do
      let (ns, s) ← buildNodes s args
      match op.node ns with
      | .ok n => return (.node n, s)
      | .error e => throw (.operator name e)
  | .call (.fn params body ret true) args ty =>
    if args.length ≠ params.length then
      .error (.argCount (.call (.fn params body ret true) args ty) args.length params.length)
    else do
      let s ← buildArgs s params args
      build s body
  | .call callee _ _ => .error (.callee callee)
  | e => .error (.form e)

/-- What the fields of a tuple denote. -/
def buildFields (s : GraphScope) : List Expr → Except GraphError (List Built × GraphScope)
  | [] => .ok ([], s)
  | e :: es => do
    let (b, s) ← build s e
    let (bs, s) ← buildFields s es
    return (b :: bs, s)

/-- The nodes that operands denote. -/
def buildNodes (s : GraphScope) : List Expr → Except GraphError (List GraphNode × GraphScope)
  | [] => .ok ([], s)
  | e :: es => do
    let (b, s) ← build s e
    let n ← b.asNode e
    let (ns, s) ← buildNodes s es
    return (n :: ns, s)

/-- Builds arguments and enters each parameter as soon as its argument is built. -/
def buildArgs (s : GraphScope) : List Var → List Expr → Except GraphError GraphScope
  | p :: ps, e :: es => do
    let (b, s) ← build s e
    buildArgs (s.enter p b) ps es
  | _, _ => .ok s

end

end GraphScope

/-- An input of a kernel. -/
structure KernelInput where
  name : String
  shape : Shape
deriving DecidableEq

/-- The node of a tensor parameter, which becomes the next input. -/
def inputNode (inputs : List KernelInput) (name : String) (shape : Shape) :
    Except GraphError (GraphNode × List KernelInput) :=
  match Family.forDType shape.dtype with
  | .ok _ => .ok (.input inputs.length name shape, inputs ++ [⟨name, shape⟩])
  | .error e => .error (.inputType name e)

/-- The inputs of the fields of a tuple parameter, numbered from `i`. -/
def fieldInputs (name : String) (inputs : List KernelInput) (i : Nat) :
    List Ty → Except GraphError (List Built × List KernelInput)
  | [] => .ok ([], inputs)
  | .tensor shape :: rest => do
    let (n, inputs) ← inputNode inputs (name ++ "." ++ Text.ofNat i) shape
    let (bs, inputs) ← fieldInputs name inputs (i + 1) rest
    return (.node n :: bs, inputs)
  | t :: _ => .error (.fieldType name i t)

/-- The inputs of a parameter: a tuple is flattened into consecutive inputs. -/
def paramInputs (inputs : List KernelInput) (v : Var) :
    Except GraphError (Built × List KernelInput) :=
  match v.ty with
  | .tensor shape => do
    let (n, inputs) ← inputNode inputs v.name shape
    return (.node n, inputs)
  | .tuple fields => do
    let (bs, inputs) ← fieldInputs v.name inputs 0 fields
    return (.tuple bs, inputs)
  | t => .error (.paramType v.name t)

/-- Enters the parameters of a primitive function. -/
def enterParams (s : GraphScope) (inputs : List KernelInput) :
    List Var → Except GraphError (GraphScope × List KernelInput)
  | [] => .ok (s, inputs)
  | v :: vs => do
    let (b, inputs) ← paramInputs inputs v
    enterParams (s.enter v b) inputs vs

end TensorCompiler
