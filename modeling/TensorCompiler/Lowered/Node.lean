import TensorCompiler.Syntax.Print

/-!
# Lowered programs

The imperative form of a program. Primitive functions have become packed calls of kernels, chains
of bindings have become blocks, applications of constructors carry their tag. Patterns and types
are those of the source.
-/

namespace TensorCompiler.Lowered

/-- How the arguments of a packed call become the inputs of its kernel: each for itself, or the
fields of a single tuple. -/
inductive Convention where
  | flat
  | spread
  | other (code : Int)
deriving DecidableEq, Repr

/-- The printed name of a convention. -/
def Convention.name : Convention → String
  | .flat => "flat"
  | .spread => "spread"
  | .other _ => "unknown"

/-- The convention with a code. -/
def Convention.ofCode (code : Int) : Convention :=
  if code = 0 then .flat else if code = 1 then .spread else .other code

/-- A node of a lowered program. -/
inductive Node where
  | hole
  | var (v : Var)
  | const (c : Constant)
  | global (g : GlobalRef)
  | packed (kernel : String) (arity : Int) (conv : Convention) (args : List Node) (ty : Ty)
  | invoke (callee : Node) (args : List Node) (ty : Ty)
  | decl (bindings : List (Var × Node)) (body : Node)
  | cond (test yes no : Node) (ty : Ty)
  | tuple (fields : List Node) (ty : Ty)
  | proj (node : Node) (index : Int) (ty : Ty)
  | cases (data : Node) (clauses : List (Pattern × Node)) (ty : Ty)
  | fn (params : List Var) (body : Node) (ret : Ty)
  | construct (c : Ctor) (tag : Int) (args : List Node)
deriving Inhabited

/-- A lowered function. -/
structure Routine where
  params : List Var
  body : Node
  ret : Ty
deriving Inhabited

namespace Routine

/-- The routine as a node. -/
def toNode (r : Routine) : Node :=
  .fn r.params r.body r.ret

/-- The type of the routine. -/
def ty (r : Routine) : Ty :=
  .func (r.params.map Var.ty) r.ret

end Routine

/-- A global function after lowering. -/
structure ResolvedGlobal where
  id : Nat
  name : String
  routine : Routine
deriving Inhabited

namespace Node

/-- The type of a node. A block has the type of its body. -/
def ty : Node → Ty
  | .hole => .unknown
  | .var v => v.ty
  | .const c => .tensor c.shape
  | .global g => g.ty
  | .packed _ _ _ _ t => t
  | .invoke _ _ t => t
  | .decl _ body => body.ty
  | .cond _ _ _ t => t
  | .tuple _ t => t
  | .proj _ _ t => t
  | .cases _ _ t => t
  | .fn params _ ret => .func (params.map Var.ty) ret
  | .construct c _ _ => .data c.data

/-- The printed name of the form of a node. -/
def formName : Node → String
  | .hole => "<nil>"
  | .var _ => "Var"
  | .const _ => "Constant"
  | .global _ => "Global"
  | .packed _ _ _ _ _ => "PackedCall"
  | .invoke _ _ _ => "Invoke"
  | .decl _ _ => "Decl"
  | .cond _ _ _ _ => "If"
  | .tuple _ _ => "Tuple"
  | .proj _ _ _ => "TupleGetItem"
  | .cases _ _ _ => "Match"
  | .fn _ _ _ => "Function"
  | .construct _ _ _ => "ConstructorApp"

/-- Puts a binding in front of a block. Any other node becomes the body of a new block. -/
def bindBefore (v : Var) (value : Node) : Node → Node
  | .decl bindings body => .decl ((v, value) :: bindings) body
  | n => .decl [(v, value)] n

mutual

/-- The printed form of a node. -/
def text : Node → String
  | .hole => "<nil>"
  | .var v => v.name
  | .const c => c.text
  | .global g => "@" ++ g.name
  | .packed kernel arity conv args _ =>
    "packed[" ++ kernel ++ "/" ++ Text.ofInt arity ++ "," ++ conv.name ++ "](" ++
      Text.commaList (texts args) ++ ")"
  | .invoke callee args _ => "invoke " ++ text callee ++ "(" ++ Text.commaList (texts args) ++ ")"
  | .decl bindings body =>
    "\x7b\n" ++ bindingsText bindings ++ Text.indent (text body) ++ "\n\x7d"
  | .cond test yes no _ => condText (text test) (text yes) (text no)
  | .tuple fields _ => "(" ++ Text.commaList (texts fields) ++ ")"
  | .proj n index _ => text n ++ "." ++ Text.ofInt index
  | .cases data clauses _ => "match " ++ text data ++ openBlock ++ clausesText clauses ++ "\x7d"
  | .fn params body ret =>
    "func(" ++ Text.commaList (params.map Var.declText) ++ ") " ++ ret.text ++ " " ++ text body
  | .construct c tag args =>
    c.name ++ "#" ++ Text.ofInt tag ++ "(" ++ Text.commaList (texts args) ++ ")"

/-- The printed forms of several nodes. -/
def texts : List Node → List String
  | [] => []
  | n :: ns => text n :: texts ns

/-- The bindings of a block, each with its line break. -/
def bindingsText : List (Var × Node) → String
  | [] => ""
  | (v, n) :: rest => Text.indent (v.name ++ " := " ++ text n) ++ "\n" ++ bindingsText rest

/-- The clauses of a match, each with its line break. -/
def clausesText : List (Pattern × Node) → String
  | [] => ""
  | (p, n) :: rest => Text.indent (p.text ++ " => " ++ text n) ++ "\n" ++ clausesText rest

end

end Node
end TensorCompiler.Lowered
