import TensorCompiler.Syntax.Ty
import TensorCompiler.Tensor.Elements

/-!
# Expressions

The typed source language. Variables and constants carry a key, so that two of them with one name
or one value stay apart. A `hole` stands where an expression or a pattern is missing.
-/

namespace TensorCompiler

/-- A local variable. -/
structure Var where
  key : Nat
  name : String
  ty : Ty
deriving DecidableEq, Repr, Inhabited

/-- A tensor literal. The values may contradict the declared shape. -/
structure Constant where
  key : Nat
  shape : Shape
  values : HostSlice
deriving DecidableEq

/-- A constructor of an algebraic data type. -/
structure Ctor where
  name : String
  tag : Nat
  inputs : List Ty
  data : DataRef
deriving DecidableEq, Repr

/-- An algebraic data type with its constructors. -/
structure DataDecl where
  ref : DataRef
  ctors : List Ctor
deriving DecidableEq, Repr

/-- The data types of a program. -/
abbrev Signature := List DataDecl

/-- The constructors of a data type. -/
def Signature.ctorsOf (sig : Signature) (d : DataRef) : List Ctor :=
  match sig.find? (·.ref == d) with
  | some decl => decl.ctors
  | none => []

/-- What a clause of a match is compared with. -/
inductive Pattern where
  | hole
  | wildcard
  | var (v : Var)
  | ctor (c : Ctor) (fields : List Pattern)
  | tuple (fields : List Pattern)
deriving Inhabited

/-- A reference to a global function. -/
structure GlobalRef where
  name : String
  ty : Ty
deriving DecidableEq, Repr

/-- An expression of the source language. -/
inductive Expr where
  | hole
  | var (v : Var)
  | const (c : Constant)
  | global (g : GlobalRef)
  | op (name : String)
  | ctor (c : Ctor)
  | call (callee : Expr) (args : List Expr) (ty : Ty)
  | bind (v : Var) (value body : Expr)
  | cond (test yes no : Expr) (ty : Ty)
  | tuple (fields : List Expr) (ty : Ty)
  | proj (tuple : Expr) (index : Int) (ty : Ty)
  | cases (data : Expr) (clauses : List (Pattern × Expr)) (ty : Ty)
  | fn (params : List Var) (body : Expr) (ret : Ty) (primitive : Bool)
deriving Inhabited

/-- A function literal or the body of a global. -/
structure Function where
  params : List Var
  body : Expr
  ret : Ty
  primitive : Bool

namespace Function

/-- The function as an expression. -/
def toExpr (f : Function) : Expr :=
  .fn f.params f.body f.ret f.primitive

/-- The type of the function. -/
def ty (f : Function) : Ty :=
  .func (f.params.map Var.ty) f.ret

end Function

/-- The type of a constructor seen as a function. -/
def Ctor.ty (c : Ctor) : Ty :=
  .func c.inputs (.data c.data)

namespace Expr

/-- The type inference gave an expression. A chain of bindings has the type of its body. -/
def ty : Expr → Ty
  | .hole => .unknown
  | .var v => v.ty
  | .const c => .tensor c.shape
  | .global g => g.ty
  | .op _ => .unknown
  | .ctor c => c.ty
  | .call _ _ t => t
  | .bind _ _ body => body.ty
  | .cond _ _ _ t => t
  | .tuple _ t => t
  | .proj _ _ t => t
  | .cases _ _ t => t
  | .fn params _ ret _ => .func (params.map Var.ty) ret

/-- The printed name of the form of an expression. -/
def formName : Expr → String
  | .hole => "<nil>"
  | .var _ => "*ir.Var"
  | .const _ => "*ir.Constant"
  | .global _ => "*ir.GlobalVar"
  | .op _ => "*ir.Op"
  | .ctor _ => "*ir.Constructor"
  | .call _ _ _ => "*ir.Call"
  | .bind _ _ _ => "*ir.Let"
  | .cond _ _ _ _ => "*ir.If"
  | .tuple _ _ => "*ir.Tuple"
  | .proj _ _ _ => "*ir.TupleGetItem"
  | .cases _ _ _ => "*ir.Match"
  | .fn _ _ _ _ => "*ir.Function"

/-- The function an expression is, if it is one. -/
def function? : Expr → Option Function
  | .fn params body ret primitive => some ⟨params, body, ret, primitive⟩
  | _ => none

/-- The primitive function a call applies, if it applies one. -/
def primitiveCallee? : Expr → Option Function
  | .call (.fn params body ret true) _ _ => some ⟨params, body, ret, true⟩
  | _ => none

/-- The variables of a chain of bindings and the first expression that binds none. -/
def bindChain : Expr → List Var × Expr
  | .bind v _ body => (v :: body.bindChain.1, body.bindChain.2)
  | e => ([], e)

end Expr

namespace Pattern

mutual

/-- The variables a pattern binds, from left to right. -/
def vars : Pattern → List Var
  | .hole => []
  | .wildcard => []
  | .var v => [v]
  | .ctor _ fields => varsAll fields
  | .tuple fields => varsAll fields

/-- The variables of several patterns in order. -/
def varsAll : List Pattern → List Var
  | [] => []
  | p :: ps => vars p ++ varsAll ps

end

end Pattern
end TensorCompiler
