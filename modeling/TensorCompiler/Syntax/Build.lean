import TensorCompiler.Syntax.Expr

/-!
# Building expressions

Checked constructions: a literal holds as many values as its shape has elements, a projection
selects a field of a tuple. Types are derived from the parts where the parts determine them.
-/

namespace TensorCompiler

/-- Why a construction is refused. -/
inductive BuildError where
  | notElements (typeName : String)
  | valueCount (count : Nat) (shape : Shape)
  | notTuple (index : Int) (ty : Ty)
  | fieldRange (index : Int) (ty : Ty)

/-- The wording of a refusal. -/
def BuildError.message : BuildError → String
  | .notElements name => "cannot build a constant from " ++ name
  | .valueCount count shape =>
    Text.ofNat count ++ " values for a constant of type " ++ shape.text
  | .notTuple index ty =>
    "cannot project field " ++ Text.ofInt index ++ " of " ++ ty.text ++ ": not a tuple"
  | .fieldRange index ty => "field " ++ Text.ofInt index ++ " out of range for " ++ ty.text

instance : ToString BuildError := ⟨BuildError.message⟩

/-- A refused literal is a defect of the program that builds it, a refused projection is not. -/
def BuildError.isDefect : BuildError → Bool
  | .notElements _ => true
  | .valueCount _ _ => true
  | _ => false

namespace Expr

/-- A literal whose shape has the kind of its elements. -/
def literal (key : Nat) (values : HostSlice) (dims : List Int) : Except BuildError Expr :=
  match values with
  | .elements e =>
    let shape : Shape := ⟨e.kind.dtype, dims⟩
    if shape.size = e.length then .ok (.const ⟨key, shape, values⟩)
    else .error (.valueCount e.length shape)
  | _ => .error (.notElements values.typeName)

/-- A call of an operator. -/
def opCall (name : String) (args : List Expr) (ty : Ty) : Expr :=
  .call (.op name) args ty

/-- A call of an operator with the type of its first argument. -/
def elementwise (name : String) (args : List Expr) : Expr :=
  opCall name args ((args.head?.map Expr.ty).getD .unknown)

/-- A call with the result type of its callee. -/
def apply (callee : Expr) (args : List Expr) : Expr :=
  .call callee args callee.ty.resultOrUnknown

/-- The application of a constructor. -/
def construct (c : Ctor) (args : List Expr) : Expr :=
  .call (.ctor c) args (.data c.data)

/-- A tuple with the types of its fields. -/
def tupleOf (fields : List Expr) : Expr :=
  .tuple fields (.tuple (fields.map Expr.ty))

/-- The projection of a tuple on one of its fields. -/
def field (e : Expr) (index : Int) : Except BuildError Expr :=
  match e.ty with
  | .tuple fields =>
    match (if index < 0 then none else fields[index.toNat]?) with
    | some t => .ok (.proj e index t)
    | none => .error (.fieldRange index e.ty)
  | t => .error (.notTuple index t)

/-- A conditional with the type of its first branch. -/
def condOf (test yes no : Expr) : Expr :=
  .cond test yes no yes.ty

/-- A match with the type of the body of its first clause. -/
def casesOf (data : Expr) (clauses : List (Pattern × Expr)) : Expr :=
  .cases data clauses ((clauses.head?.map fun c => c.2.ty).getD .unknown)

end Expr

/-- Parameters `p0`, `p1`, … of the given types. They share a key and differ in their names. -/
def numberedParams (key : Nat) (stem : String) : Nat → List Ty → List Var
  | _, [] => []
  | i, t :: ts => ⟨key, stem ++ Text.ofNat i, t⟩ :: numberedParams key stem (i + 1) ts

/-- The primitive function that applies one operator to its parameters, with the type of the first
one. -/
def Function.ofOp (key : Nat) (op : String) (types : List Ty) : Function :=
  let params := numberedParams key "p" 0 types
  let ret := types.headD .unknown
  ⟨params, Expr.opCall op (params.map Expr.var) ret, ret, true⟩

end TensorCompiler
