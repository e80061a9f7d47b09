import TensorCompiler.Build.Awk.Value

/-!
# Reading programs over records

Expressions are read by levels, the weakest operator first. An assignment is read where its target
ends, so that it may stand behind any operator.
-/

namespace TensorCompiler.Awk

/-- How far a program is read. -/
structure Reader where
  rest : List (Token × Nat)
  /-- How many parentheses and how many braces are open. -/
  parens : Nat
  braces : Nat
  /-- How many loops are open. -/
  loops : Nat
  /-- Whether the body of a function is being read. -/
  inFunction : Bool
  /-- Whether the record is known: not before the first and not behind the last. -/
  inRecord : Bool

/-- A step that reads on in a program. -/
abbrev Read := StateT Reader (Except Fault)

/-- The next token. -/
def peek : Read Token := return ((← get).rest.head?.map Prod.fst).getD .eof

/-- The line of the next token. -/
def currentLine : Read Nat := return ((← get).rest.head?.map Prod.snd).getD 1

/-- Passes over the next token, and counts what it opens or closes. -/
def advance : Read Unit :=
  modify fun r => { r with
    rest := r.rest.tail
    parens := match r.rest with
      | (.sign "(", _) :: _ => r.parens + 1
      | (.sign ")", _) :: _ => r.parens - 1
      | _ => r.parens
    braces := match r.rest with
      | (.sign "\x7b", _) :: _ => r.braces + 1
      | (.sign "\x7d", _) :: _ => r.braces - 1
      | _ => r.braces }

/-- Refuses the program at a line. -/
def refuse {α : Type} (text : String) : Read α := do
  let line ← currentLine
  fun _ => .error [complaint line text]

/-- Refuses the next token. What is still open may be missed instead. -/
def unexpected {α : Type} : Read α := do
  let t ← peek
  let line ← currentLine
  let r ← get
  let missing (c : String) : String := complaint line ("missing " ++ c ++ " near " ++ t.shown)
  let atEnd : Fault := match t with
    | .newline => if r.braces > 0 then
        [complaint (line + 1) "missing \x7d near end of file"] else []
    | _ => []
  let closes : Bool := match t with
    | .newline | .eof | .sign ";" | .sign "\x7d" => true
    | _ => false
  if r.parens > 0 && closes then fun _ => .error (missing ")" :: atEnd)
  else match t with
    | .eof =>
      if r.braces > 0 then fun _ => .error [missing "\x7d"]
      else fun _ => .error [complaint line ("syntax error at or near " ++ t.shown)]
    | .sign "\x7d" =>
      if r.braces == 0 then fun _ => .error [complaint line ("extra " ++ Tool.quote "\x7d"),
        complaint line "syntax error at or near end of line"]
      else fun _ => .error [complaint line ("syntax error at or near " ++ t.shown)]
    | _ => fun _ => .error [complaint line ("syntax error at or near " ++ t.shown)]

/-- Whether a sign comes next. -/
def isSign (s : String) : Read Bool := do
  match ← peek with
  | .sign r => return r == s
  | _ => return false

/-- Passes over a sign if it comes next. -/
def accept (s : String) : Read Bool := do
  if ← isSign s then
    advance
    return true
  else return false

/-- Passes over a sign that has to come next. -/
def require (s : String) : Read Unit := do
  if !(← accept s) then unexpected

/-- Whether a keyword comes next. -/
def isKeyword (s : String) : Read Bool := do
  match ← peek with
  | .keyword r => return r == s
  | _ => return false

/-- Passes over a keyword if it comes next. -/
def acceptKeyword (s : String) : Read Bool := do
  if ← isKeyword s then
    advance
    return true
  else return false

/-- Passes over line breaks. -/
def skipBreaks : Read Unit :=
  modify fun r => { r with rest := r.rest.dropWhile fun (t, _) => match t with
    | .newline => true
    | _ => false }

/-- Repeats a step until it has a result. -/
def repeatRead {α β : Type} (step : α → Read (α ⊕ β)) : Nat → α → Read β
  | 0, _ => unexpected
  | fuel + 1, a => do
    match ← step a with
    | .inl a => repeatRead step fuel a
    | .inr b => return b

/-- Repeats a step until it has a result, at most once for every token. -/
def untilDone {α β : Type} (step : α → Read (α ⊕ β)) (a : α) : Read β := do
  repeatRead step ((← get).rest.length + 2) a

/-- Where an expression stands. -/
structure Mode where
  /-- Whether the word for membership ends it. -/
  noIn : Bool
  /-- Whether a sign for greater ends it. -/
  noGreater : Bool

/-- An expression that nothing ends early. -/
def Mode.free : Mode := ⟨false, false⟩

/-- The levels of expressions. -/
inductive Level where
  | choice
  | either
  | both
  | member
  | matching
  | comparison
  | concat
  | sum
  | product
  | unary
  | power
  | postfixed
  | primary
deriving DecidableEq, Repr

/-- The operators that compare. -/
def comparisons : List (String × Operator) :=
  [("<", .less), ("<=", .atMost), ("==", .equal), ("!=", .unequal), (">", .greater),
    (">=", .atLeast)]

/-- The operators that assign. -/
def assignments : List (String × Option Operator) :=
  [("=", none), ("+=", some .add), ("-=", some .sub), ("*=", some .mul), ("/=", some .div),
    ("%=", some .mod), ("^=", some .pow)]

/-- Whether a token may start the second of two values that are put together. -/
def startsValue (t : Token) : Bool :=
  match t with
  | .number _ | .text _ | .regex _ | .name _ | .called _ | .builtin _ => true
  | .sign s => ["$", "!", "(", "++", "--"].contains s
  | _ => false

/-- How expressions inside others are read. -/
abbrev ReadExpr := Mode → Level → Read Expr

/-- Expressions with commas between them, up to what is not one. -/
def exprList (expr : ReadExpr) (mode : Mode) : Read (List Expr) := do
  let first ← expr mode .choice
  untilDone (fun found => do
    if ← accept "," then
      skipBreaks
      return .inl (found ++ [← expr mode .choice])
    else return .inr found) [first]

/-- The arguments between parentheses. -/
def arguments (expr : ReadExpr) : Read (List Expr) := do
  require "("
  if ← accept ")" then return []
  let found ← exprList expr .free
  require ")"
  return found

/-- Applies operators of one level from left to right. -/
def leftward (operators : List (String × Operator)) (next : Read Expr) : Read Expr := do
  let first ← next
  untilDone (fun a => do
    match ← peek with
    | .sign s =>
      match operators.find? (·.1 == s) with
      | some (_, op) =>
        advance
        return .inl (.binary op a (← next))
      | none => return .inr a
    | _ => return .inr a) first

/-- Something that a value can be stored in, if it comes next. -/
def target? (expr : ReadExpr) : Read (Option Expr) := do
  match ← peek with
  | .name name =>
    advance
    if ← accept "[" then
      let keys ← exprList expr .free
      require "]"
      return some (.element name keys)
    else return some (.name name)
  | .sign "$" =>
    advance
    return some (.field (← expr .free .primary))
  | _ => return none

/-- A value that no operator applies to. -/
def primary (expr : ReadExpr) (mode : Mode) : Read Expr := do
  let t ← peek
  match t with
  | .number x =>
    advance
    return .number x
  | .text s =>
    advance
    return .text s
  | .regex s =>
    match readRegex s with
    | .error fault => refuse fault
    | .ok _ =>
      advance
      return .regex s
  | .called name =>
    advance
    return .call name (← arguments expr)
  | .builtin name =>
    advance
    let args ← if ← isSign "(" then arguments expr else pure []
    match builtins.find? (·.1 == name) with
    | some (_, least, most) =>
      if args.isEmpty && least > 0 || args.length < least || args.length > most then
        refuse ("wrong number of arguments in call to " ++ name)
      else return .builtin name args
    | none => return .builtin name args
  | .name _ | .sign "$" =>
    match ← target? expr with
    | some e => return e
    | none => unexpected
  | .sign "(" =>
    advance
    let items ← exprList expr .free
    require ")"
    match items with
    | [e] => return .group [e]
    | items => if (← isKeyword "in") || mode.noGreater then return .group items else unexpected
  | .sign "-" =>
    advance
    return .minus (← expr mode .unary)
  | .sign "+" =>
    advance
    return .plus (← expr mode .unary)
  | .sign "!" =>
    advance
    return .negation (← expr mode .unary)
  | .sign "++" =>
    advance
    return .step true true (← expr mode .primary)
  | .sign "--" =>
    advance
    return .step true false (← expr mode .primary)
  | .keyword "getline" =>
    advance
    let into ← target? expr
    if ← accept "<" then return .readFile (← expr mode .primary) into
    else return .readInput into
  | _ => unexpected

/-- A value with what stands right behind it: an assignment, a step up or down, or the reading of a
command's output. -/
def postfixed (expr : ReadExpr) (mode : Mode) : Read Expr := do
  let e ← expr mode .primary
  let t ← peek
  let e ← match t, e.isTarget with
    | .sign "++", true =>
      advance
      pure (.step false true e)
    | .sign "--", true =>
      advance
      pure (.step false false e)
    | .sign s, true =>
      match assignments.find? (·.1 == s) with
      | some (_, op) =>
        advance
        skipBreaks
        pure (.assign op e (← expr mode .choice))
      | none => pure e
    | _, _ => pure e
  untilDone (fun e => do
    match (← get).rest with
    | (.sign "|", _) :: (.keyword "getline", _) :: _ =>
      advance
      advance
      return .inl (.readCommand e (← target? expr))
    | _ => return .inr e) e

/-- Reads an expression of a level. -/
def expression : Nat → ReadExpr
  | 0, _, _ => unexpected
  | fuel + 1, mode, level => do
    let expr : ReadExpr := expression fuel
    match level with
    | .choice =>
      let test ← expr mode .either
      if ← accept "?" then
        skipBreaks
        let yes ← expr mode .choice
        skipBreaks
        require ":"
        skipBreaks
        return .choice test yes (← expr mode .choice)
      else return test
    | .either =>
      let first ← expr mode .both
      untilDone (fun a => do
        if ← accept "||" then
          skipBreaks
          return .inl (.either a (← expr mode .both))
        else return .inr a) first
    | .both =>
      let first ← expr mode .member
      untilDone (fun a => do
        if ← accept "&&" then
          skipBreaks
          return .inl (.both a (← expr mode .member))
        else return .inr a) first
    | .member =>
      let first ← expr mode .matching
      untilDone (fun a => do
        let isMember ← if mode.noIn then pure false else acceptKeyword "in"
        if isMember then
          match ← peek with
          | .name array =>
            advance
            let keys := match a with
              | .group items => items
              | a => [a]
            return .inl (.member keys array)
          | _ => unexpected
        else return .inr a) first
    | .matching =>
      let first ← expr mode .comparison
      untilDone (fun a => do
        if ← accept "~" then return .inl (.matching false a (← expr mode .comparison))
        else if ← accept "!~" then return .inl (.matching true a (← expr mode .comparison))
        else return .inr a) first
    | .comparison =>
      let operators := comparisons.filter fun p => !(mode.noGreater && p.1 == ">")
      leftward operators (expr mode .concat)
    | .concat =>
      let first ← expr mode .sum
      untilDone (fun a => do
        if startsValue (← peek) then
          return .inl (.binary .concat a (← expr mode .sum))
        else return .inr a) first
    | .sum => leftward [("+", .add), ("-", .sub)] (expr mode .product)
    | .product => leftward [("*", .mul), ("/", .div), ("%", .mod)] (expr mode .unary)
    | .unary => expr mode .power
    | .power =>
      let base ← expr mode .postfixed
      match base with
      | .minus _ | .plus _ | .negation _ => return base
      | base =>
        if ← accept "^" then return .binary .pow base (← expr mode .unary) else return base
    | .postfixed => postfixed expr mode
    | .primary => primary expr mode

/-- More levels than an expression of a program has. -/
def depth : Nat := 2000

/-- An expression. -/
def readExpr (mode : Mode) : Read Expr := expression depth mode .choice

/-- Passes over what ends a statement. -/
def endStmt : Read Unit := do
  match ← peek with
  | .newline | .sign ";" =>
    advance
    skipBreaks
  | .sign "\x7d" | .eof => return
  | _ => unexpected

/-- What is written and where to. -/
def printStmt (formatted : Bool) : Read Stmt := do
  let mode : Mode := ⟨false, true⟩
  let t ← peek
  let none_ : Bool := match t with
    | .newline | .eof => true
    | .sign s => [";", "\x7d", ">", ">>", "|"].contains s
    | _ => false
  let args ← if none_ then pure [] else exprList (expression depth) mode
  if formatted && args.isEmpty then refuse "no arguments in call to printf"
  let args := match args with
    | [.group items] => items
    | args => args
  let toward (outlet : Outlet) : Read Stmt := do
    advance
    return .print formatted args outlet (some (← expression depth mode .concat))
  match ← peek with
  | .sign ">" => toward .write
  | .sign ">>" => toward .append
  | .sign "|" => toward .pipe
  | _ => return .print formatted args .standard none

/-- A statement without what ends it. -/
def simpleStmt : Read Stmt := do
  match ← peek with
  | .keyword "print" =>
    advance
    printStmt false
  | .keyword "printf" =>
    advance
    printStmt true
  | .keyword "delete" =>
    advance
    match ← peek with
    | .name array =>
      advance
      if ← accept "[" then
        let keys ← exprList (expression depth) .free
        require "]"
        return .delete array keys
      else return .delete array []
    | _ => unexpected
  | _ => return .expr (← readExpr .free)

/-- A value if one comes before the end of a statement. -/
def optionalExpr : Read (Option Expr) := do
  match ← peek with
  | .newline | .eof | .sign ";" | .sign "\x7d" => return none
  | _ => return some (← readExpr .free)

/-- Reads the body of a loop. -/
def inLoop (body : Read Stmt) : Read Stmt := do
  modify fun r => { r with loops := r.loops + 1 }
  let s ← body
  modify fun r => { r with loops := r.loops - 1 }
  return s

/-- What follows the word for a counted loop or one over an array. -/
def forStmt (stmt : Read Stmt) : Read Stmt := do
  require "("
  match (← get).rest with
  | (.name name, _) :: (.keyword "in", _) :: (.name array, _) :: (.sign ")", _) :: _ =>
    advance
    advance
    advance
    advance
    skipBreaks
    return .each name array (← inLoop stmt)
  | _ =>
    let start ← if ← isSign ";" then pure .nothing else simpleStmt
    require ";"
    skipBreaks
    let test ← if ← isSign ";" then pure none else some <$> readExpr .free
    require ";"
    skipBreaks
    let step ← if ← isSign ")" then pure .nothing else simpleStmt
    require ")"
    if ← accept ";" then return .count start test step .nothing
    skipBreaks
    return .count start test step (← inLoop stmt)

/-- The statements between braces, the first of which is passed. -/
def block (stmt : Read Stmt) : Read Stmt := do
  skipBreaks
  let found ← untilDone (fun (found : Stmt) => do
    if ← accept "\x7d" then return .inr found
    else if ← accept ";" then
      skipBreaks
      return .inl found
    else
      let s ← stmt
      return .inl (.sequence found s)) .nothing
  return found

/-- Reads a statement together with what ends it. -/
def statement : Nat → Read Stmt
  | 0 => unexpected
  | fuel + 1 => do
    let stmt := statement fuel
    let parenthesized : Read Expr := do
      require "("
      let e ← readExpr .free
      require ")"
      return e
    let ended (s : Stmt) : Read Stmt := do
      endStmt
      return s
    match ← peek with
    | .sign "\x7b" =>
      advance
      let s ← block stmt
      skipBreaks
      return s
    | .sign ";" =>
      advance
      skipBreaks
      return .nothing
    | .keyword "if" =>
      advance
      let test ← parenthesized
      skipBreaks
      let yes ← stmt
      if ← acceptKeyword "else" then
        skipBreaks
        return .conditional test yes (← stmt)
      else return .conditional test yes .nothing
    | .keyword "while" =>
      advance
      let test ← parenthesized
      if ← accept ";" then return .loop test .nothing
      skipBreaks
      return .loop test (← inLoop stmt)
    | .keyword "do" =>
      advance
      skipBreaks
      let body ← inLoop stmt
      if !(← acceptKeyword "while") then unexpected
      ended (.loopOnce body (← parenthesized))
    | .keyword "for" =>
      advance
      forStmt stmt
    | .keyword "break" | .keyword "continue" =>
      let leaves ← isKeyword "break"
      if (← get).loops == 0 then
        refuse ((if leaves then "break" else "continue") ++ " statement outside of loop")
      advance
      ended (if leaves then .leave else .again)
    | .keyword "next" | .keyword "nextfile" =>
      let whole ← isKeyword "nextfile"
      if !(← get).inRecord && !(← get).inFunction then
        refuse ("improper use of " ++ (if whole then "nextfile" else "next"))
      advance
      ended (if whole then .nextFile else .next)
    | .keyword "exit" =>
      advance
      ended (.exit (← optionalExpr))
    | .keyword "return" =>
      if !(← get).inFunction then refuse "return outside function body"
      advance
      ended (.giveBack (← optionalExpr))
    | _ => ended (← simpleStmt)

/-- The action of a rule between braces; without one, the record is printed. -/
def action : Read Stmt := do
  if ← accept "\x7b" then block (statement depth)
  else return .print false [] .standard none

/-- The definition of a function, whose first word is passed. -/
def function (known : List Function) : Read Function := do
  let name ← match ← peek with
    | .name s | .called s =>
      advance
      pure s
    | _ => unexpected
  if known.any (·.name == name) then refuse ("redefinition of " ++ name)
  require "("
  let params ← untilDone (fun (found : List String) => do
    match ← peek with
    | .name s =>
      if found.contains s then refuse (s ++ " is duplicated in argument list")
      advance
      if ← accept "," then skipBreaks
      return .inl (found ++ [s])
    | _ =>
      require ")"
      return .inr found) []
  skipBreaks
  modify fun r => { r with inFunction := true }
  require "\x7b"
  let body ← block (statement depth)
  modify fun r => { r with inFunction := false }
  return ⟨name, params, body⟩

/-- The next rule or function. -/
def item (p : Program) : Read Program := do
  let withRule (pattern : Pattern) (inRecord : Bool) : Read Program := do
    modify fun r => { r with inRecord := inRecord }
    return { p with rules := p.rules ++ [⟨pattern, ← action⟩] }
  match ← peek with
  | .keyword "function" =>
    advance
    return { p with functions := p.functions ++ [← function p.functions] }
  | .keyword "BEGIN" =>
    advance
    if !(← isSign "\x7b") then unexpected
    withRule .atStart false
  | .keyword "END" =>
    advance
    if !(← isSign "\x7b") then unexpected
    withRule .atEnd false
  | .sign "\x7b" => withRule .always true
  | _ =>
    let first ← readExpr .free
    if ← accept "," then
      skipBreaks
      let last ← readExpr .free
      withRule (.between first last) true
    else withRule (.holds first) true

/-- The functions that a program calls. -/
def calls (ts : List (Token × Nat)) : List String :=
  ts.filterMap fun (t, _) => match t with
    | .called s => some s
    | _ => none

/-- A program from its text. -/
def Program.read (text : String) : Except Fault Program := do
  let ts ← tokens (text.length + 1) 1 .newline text.toList
  let all : Read Program := untilDone (fun p => do
    skipBreaks
    match ← peek with
    | .eof => return .inr p
    | _ =>
      let p ← item p
      discard (accept ";")
      return .inl p) ⟨[], []⟩
  let (p, _) ← all ⟨ts, 0, 0, 0, false, false⟩
  let last := (ts.getLast?.map Prod.snd).getD 1
  match (calls ts).find? fun name => !p.functions.any (·.name == name) with
  | some name => .error [complaint last ("function " ++ name ++ " never defined")]
  | none => return p

end TensorCompiler.Awk
