import TensorCompiler.Syntax.Expr

/-!
# Printing expressions

The human-readable form of expressions and patterns. Bodies stand on lines of their own, one tab
further to the right; the clauses of a match do not move what stands inside them.
-/

namespace TensorCompiler

namespace Pattern

mutual

/-- The printed form of a pattern. -/
def text : Pattern → String
  | .hole => "<<nil>>"
  | .wildcard => "_"
  | .var v => v.name
  | .ctor c [] => c.name
  | .ctor c (f :: fields) => c.name ++ "(" ++ Text.commaList (text f :: texts fields) ++ ")"
  | .tuple fields => "(" ++ Text.commaList (texts fields) ++ ")"

/-- The printed forms of several patterns. -/
def texts : List Pattern → List String
  | [] => []
  | p :: ps => text p :: texts ps

end

end Pattern

/-- The printed form of a constant: its type, then its values between parentheses. -/
def Constant.text (c : Constant) : String :=
  c.shape.text ++ "(" ++ c.values.text ++ ")"

/-- Parameters with their types. -/
def Var.declText (v : Var) : String :=
  v.name ++ " " ++ v.ty.text

/-- An opening brace at the end of a line. -/
def openBlock : String := " \x7b\n"

/-- The head of a conditional and its two branches. -/
def condText (test yes no : String) : String :=
  "if " ++ test ++ openBlock ++ Text.indent yes ++ "\n\x7d else \x7b\n" ++ Text.indent no ++
    "\n\x7d"

namespace Expr

mutual

/-- The printed form of an expression. -/
def text : Expr → String
  | .hole => "<nil>"
  | .var v => v.name
  | .const c => c.text
  | .global g => "@" ++ g.name
  | .op name => name
  | .ctor c => c.name
  | .call callee args _ => text callee ++ "(" ++ Text.commaList (texts args) ++ ")"
  | .bind v value body => "let " ++ v.name ++ " = " ++ text value ++ " in\n" ++ text body
  | .cond test yes no _ => condText (text test) (text yes) (text no)
  | .tuple fields _ => "(" ++ Text.commaList (texts fields) ++ ")"
  | .proj e index _ => text e ++ "." ++ Text.ofInt index
  | .cases data clauses _ => "match " ++ text data ++ openBlock ++ clausesText clauses ++ "\x7d"
  | .fn params body ret primitive =>
    (if primitive then "primitive fn(" else "fn(") ++
      Text.commaList (params.map Var.declText) ++ ") " ++ ret.text ++ openBlock ++
      Text.indent (text body) ++ "\n\x7d"

/-- The printed forms of several expressions. -/
def texts : List Expr → List String
  | [] => []
  | e :: es => text e :: texts es

/-- The clauses of a match, each with its line break. -/
def clausesText : List (Pattern × Expr) → String
  | [] => ""
  | (p, e) :: rest => "\t" ++ p.text ++ " => " ++ text e ++ "\n" ++ clausesText rest

end

end Expr
end TensorCompiler
