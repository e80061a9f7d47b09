import TensorCompiler.Text.Basic
import TensorCompiler.Text.Quoted
import TensorCompiler.Value.Matcher

/-!
# Statements

The emitted program before it is laid out: blocks of statements over named locals. A call may fail
and then ends its block; every other statement only names a value.
-/

namespace TensorCompiler.Emit

/-- Where a bound local gets its value: another local, an argument of the function, or a sub-value
that a matcher bound. -/
inductive Origin where
  | place (name : String)
  | arg (index : Nat)
  | bound (index : Nat)
deriving DecidableEq, Repr

mutual

/-- A statement. -/
inductive Stmt where
  | call (name : String) (c : Call)
  | tuple (name : String) (fields : List String)
  | func (name : String) (arity : Nat) (body : Block)
  | bind (name : String) (origin : Origin)

/-- A call that may fail. Operands are names of locals. -/
inductive Call where
  | param (index : Nat)
  | global (name : String)
  | packed (kernel : String) (arity : Int) (spread : Bool) (args : List String)
  | invoke (callee : String) (args : List String)
  | cond (test : String) (yes no : Block)
  | field (tuple : String) (index : Int)
  | cases (data : String) (clauses : List (Matcher × Block))
  | construct (ctor : String) (tag : Int) (args : List String)

/-- Statements and the local they return. -/
inductive Block where
  | mk (stmts : List Stmt) (result : String)

end

instance : Inhabited Block := ⟨.mk [] ""⟩
instance : Inhabited Stmt := ⟨.tuple "" []⟩
instance : Inhabited Call := ⟨.param 0⟩

/-- A function at the top of the emitted program. -/
structure Routine where
  name : String
  body : Block

/-!
## Layout

Statements as lines of source text, indented by tabs as the formatter of the emitted language does.
The first clause of a match stands on the line of its call, and later ones are indented once more.
-/

/-- A line at a depth. -/
def line (depth : Nat) (text : String) : String :=
  String.ofList (List.replicate depth '\t') ++ text

namespace Pattern

mutual

/-- The expression that builds a matcher. -/
def source : Matcher → String
  | .any => "aotrt.Wildcard()"
  | .bind => "aotrt.Bind()"
  | .ctor tag fields =>
    "aotrt.Ctor(" ++ Text.commaList (Text.ofNat tag :: sources fields) ++ ")"
  | .tuple fields => "aotrt.TupleOf(" ++ Text.commaList (sources fields) ++ ")"

/-- The expressions that build several matchers. -/
def sources : List Matcher → List String
  | [] => []
  | m :: ms => source m :: sources ms

end

end Pattern

/-- The expression a bound local gets its value from. -/
def Origin.source : Origin → String
  | .place name => name
  | .arg index => "args[" ++ Text.ofNat index ++ "]"
  | .bound index => "binds[" ++ Text.ofNat index ++ "]"

/-- The head of a function that takes the given parameters. -/
def funcHead (params : String) : String :=
  "func(" ++ params ++ ") (values.Value, error) \x7b"

/-- The lines that end a block after a failed call. -/
def guardLines (depth : Nat) : List String :=
  [line depth "if err != nil \x7b", line (depth + 1) "return nil, err", line depth "\x7d"]

mutual

/-- The lines of a statement. -/
def stmtLines (depth : Nat) : Stmt → List String
  | .call name c => callLines depth (name ++ ", err := ") c ++ guardLines depth
  | .tuple name fields => [line depth (name ++ " := r.Tuple(" ++ Text.commaList fields ++ ")")]
  | .func name arity body =>
    [line depth (name ++ " := r.Closure(" ++ Text.ofNat arity ++ ", " ++
      funcHead "args []values.Value")] ++ blockLines (depth + 1) body ++ [line depth "\x7d)"]
  | .bind name origin => [line depth (name ++ " := " ++ origin.source), line depth ("_ = " ++ name)]

/-- The lines of a call behind the text that receives its result. -/
def callLines (depth : Nat) (head : String) : Call → List String
  | .cond test yes no =>
    [line depth (head ++ "r.If(" ++ test ++ ", " ++ funcHead "")] ++ blockLines (depth + 1) yes ++
      [line depth ("\x7d, " ++ funcHead "")] ++ blockLines (depth + 1) no ++ [line depth "\x7d)"]
  | .cases data [] => [line depth (head ++ "r.Match(" ++ data ++ ")")]
  | .cases data ((m, body) :: rest) =>
    [line depth (head ++ "r.Match(" ++ data ++ ", aotrt.Clause\x7b")] ++
      [line (depth + 1) ("Pattern: " ++ Pattern.source m ++ ","),
        line (depth + 1) ("Body: " ++ funcHead "binds []values.Value")] ++
      blockLines (depth + 2) body ++
      [line (depth + 1) "\x7d,", line depth (if rest.isEmpty then "\x7d)" else "\x7d,")] ++
      clauseLines (depth + 1) rest
  | .param index => [line depth (head ++ "r.Param(" ++ Text.ofNat index ++ ")")]
  | .global name => [line depth (head ++ "r.Global(" ++ Text.quoted name ++ ")")]
  | .packed kernel arity spread args =>
    let conv := if spread then "lowered.Spread" else "lowered.Flat"
    let operands := Text.quoted kernel :: Text.ofInt arity :: conv :: args
    [line depth (head ++ "r.PackedCall(" ++ Text.commaList operands ++ ")")]
  | .invoke callee args =>
    [line depth (head ++ "r.Invoke(" ++ Text.commaList (callee :: args) ++ ")")]
  | .field tuple index =>
    [line depth (head ++ "r.Field(" ++ tuple ++ ", " ++ Text.ofInt index ++ ")")]
  | .construct ctor tag args =>
    let operands := Text.quoted ctor :: Text.ofInt tag :: args
    [line depth (head ++ "r.Construct(" ++ Text.commaList operands ++ ")")]

/-- The lines of the clauses behind the first one. -/
def clauseLines (depth : Nat) : List (Matcher × Block) → List String
  | [] => []
  | (m, body) :: rest =>
    [line depth "aotrt.Clause\x7b", line (depth + 1) ("Pattern: " ++ Pattern.source m ++ ","),
      line (depth + 1) ("Body: " ++ funcHead "binds []values.Value")] ++
      blockLines (depth + 2) body ++
      [line (depth + 1) "\x7d,", line depth (if rest.isEmpty then "\x7d)" else "\x7d,")] ++
      clauseLines depth rest

/-- The lines of a block. -/
def blockLines (depth : Nat) : Block → List String
  | .mk stmts result => stmtsLines depth stmts ++ [line depth ("return " ++ result ++ ", nil")]

/-- The lines of several statements. -/
def stmtsLines (depth : Nat) : List Stmt → List String
  | [] => []
  | s :: ss => stmtLines depth s ++ stmtsLines depth ss

end

/-- The lines of a function at the top. -/
def Routine.lines (r : Routine) : List String :=
  ["func " ++ r.name ++ "(r *aotrt.Runtime, args []values.Value) (values.Value, error) \x7b"] ++
    blockLines 1 r.body ++ ["\x7d"]

end TensorCompiler.Emit
