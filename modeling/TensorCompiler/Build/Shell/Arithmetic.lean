import TensorCompiler.Build.Shell.Basic
import TensorCompiler.Build.Shell.Number

/-!
# Expressions over variables

The integer expressions of the larger language. They read and change variables and elements of lists
while they are computed, and the text that a variable holds may be an expression itself. A part that
does not count for the result is read but has no effect.
-/

namespace TensorCompiler.Shell.Arithmetic

/-- A token of an expression. -/
inductive Token where
  | number (n : Int)
  | name (s : String) (subscript : Option String)
  | sign (s : String)
  | done
deriving DecidableEq, Repr

/-- How far an expression is computed. -/
structure State where
  shell : Shell
  /-- The expression as a whole. -/
  whole : String
  /-- The token that comes next. -/
  token : Token
  /-- The expression from its last token on. -/
  shown : List Char
  /-- What follows the next token. -/
  rest : List Char

/-- Why an expression has no value: a complaint, or a shell that has said so itself. -/
inductive Fault where
  | text (s : String)
  | shell (s : Shell)

/-- A step of a computation. -/
abbrev Compute := StateT State (Except Fault)

/-- A character between tokens. -/
def isBlank (c : Char) : Bool := c == ' ' || c == '\t' || c == '\n'

/-- Gives up at the last token. -/
def fail {α : Type} (text : String) : Compute α := fun st =>
  .error (.text (String.ofList (st.whole.toList.dropWhile isBlank) ++ ": " ++ text ++
    " (error token is \"" ++ String.ofList st.shown ++ "\")"))

/-- The value of a digit in a base up to sixty-four. Up to base thirty-six both kinds of letters
have the same values. -/
def digit? (base : Nat) (c : Char) : Option Nat :=
  if c.isDigit then some (c.toNat - 48)
  else if c.isLower then some (c.toNat - 87)
  else if c.isUpper then some (if base ≤ 36 then c.toNat - 55 else c.toNat - 29)
  else if c == '@' then some 62
  else if c == '_' then some 63
  else none

/-- The number of digits in a base. -/
def digits (base : Nat) (cs : List Char) : Compute Int :=
  cs.foldlM (fun (n : Int) c =>
    match digit? base c with
    | some d =>
      if d < base then return Number.wrap (n * base + d) else fail "value too great for base"
    | none => fail "invalid number") 0

/-- The number that a numeral stands for. -/
def numeral (cs : List Char) : Compute Int := do
  let base := cs.takeWhile (· != '#')
  match cs.drop base.length with
  | '#' :: ds =>
    let n ← digits 10 base
    if n < 2 || n > 64 then fail "invalid arithmetic base"
    else if ds.isEmpty then fail "invalid integer constant"
    else digits n.toNat ds
  | _ =>
    match cs with
    | '0' :: x :: ds => if x == 'x' || x == 'X' then digits 16 ds else digits 8 (x :: ds)
    | cs => digits 10 cs

/-- The signs, longer ones before their beginnings. -/
def signs : List String :=
  ["<<=", ">>=", "&&", "||", "<<", ">>", "<=", ">=", "==", "!=", "+=", "-=", "*=", "/=", "%=", "&=",
    "^=", "|=", "**", "+", "-", "*", "/", "%", "&", "|", "^", "~", "!", "<", ">", "=", "?", ":",
    "(", ")", ","]

/-- The length of a subscript up to the bracket that closes it. -/
def subscriptLength : List Char → Nat → Nat → Option Nat
  | [], _, _ => none
  | c :: cs, depth, n =>
    if c == ']' then if depth == 0 then some n else subscriptLength cs (depth - 1) (n + 1)
    else if c == '[' then subscriptLength cs (depth + 1) (n + 1)
    else subscriptLength cs depth (n + 1)

/-- Passes over the next token. -/
def advance : Compute Unit := do
  let st ← get
  let cs := st.rest.dropWhile isBlank
  let next (t : Token) (rest : List Char) : Compute Unit :=
    set { st with token := t, rest := rest, shown := cs }
  match cs with
  | [] => set { st with token := .done, rest := [] }
  | c :: behind =>
    set { st with shown := cs }
    if Script.isNameStart c then
      let name := cs.takeWhile Script.isNameChar
      let rest := cs.drop name.length
      match rest with
      | '[' :: inside =>
        match subscriptLength inside 0 0 with
        | some n =>
          next (.name (String.ofList name) (some (String.ofList (inside.take n))))
            (inside.drop (n + 1))
        | none => fail "bad array subscript"
      | rest => next (.name (String.ofList name) none) rest
    else if c.isDigit then
      let ds := cs.takeWhile fun d => d.isAlphanum || d == '#' || d == '@' || d == '_'
      let rest := cs.drop ds.length
      let cut := String.ofList (st.whole.toList.take (st.whole.length - rest.length))
      set { st with shown := ds, whole := cut }
      let n ← numeral ds
      next (.number n) rest
    else if (c == '+' || c == '-') && behind.head? == some c then
      let isName : Bool := match st.token with
        | .name _ _ => true
        | _ => false
      let sign := String.ofList [c, c]
      if isName then next (.sign ("post" ++ sign)) behind.tail
      else if ((behind.tail.dropWhile isBlank).head?).any Script.isNameStart then
        next (.sign ("pre" ++ sign)) behind.tail
      else next (.sign (String.singleton c)) behind
    else
      match signs.find? fun s => s.toList.isPrefixOf cs with
      | some s => next (.sign s) (cs.drop s.length)
      | none =>
        match st.token with
        | .number _ | .name _ _ | .sign ")" => fail "syntax error: invalid arithmetic operator"
        | _ => fail "syntax error: operand expected"

/-- Passes over a sign if it comes next. -/
def accept (s : String) : Compute Bool := do
  if (← get).token == .sign s then
    advance
    return true
  else return false

/-- The value of an expression inside another, which is computed by `go`. -/
def inside (go : Compute Int) (text : String) : Compute Int := do
  let outer ← get
  set { outer with whole := text, token := .sign "(", shown := text.toList, rest := text.toList }
  advance
  let n ← if (← get).token == .done then pure 0 else go
  if (← get).token != .done then fail "syntax error in expression"
  modify fun st => { outer with shell := st.shell }
  return n

/-- The number of an element. A negative one counts from behind the last. -/
def position (v : Variable) (name subscript : String) (n : Int) : Compute Nat := do
  let n := if n < 0 then n + v.next else n
  if n < 0 then
    fun st => .error (.shell (st.shell.give (name ++ "[" ++ subscript ++ "]: bad array subscript")))
  else return n.toNat

/-- The key of an element. -/
def keyOf (go : Compute Int) (name subscript : String) : Compute String := do
  let v := ((← get).shell.entry? name).getD .bare
  if v.isKeyed then return subscript
  else return Text.ofNat (← position v name subscript (← inside go subscript))

/-- The text that a name stands for. -/
def textOf (go : Compute Int) (name : String) (subscript : Option String) : Compute String := do
  let s := (← get).shell
  let found ← match subscript with
    | none => pure (s.value? name)
    | some i => do
      let key ← keyOf go name i
      pure (((← get).shell.entry? name).bind (·.element? key))
  match found with
  | some text => return text
  | none =>
    if s.has 'u' then fun st => .error (.shell (st.shell.abort (name ++ ": unbound variable")))
    else return ""

/-- The number that a name stands for. -/
def valueOf (go : Compute Int) (name : String) (subscript : Option String) : Compute Int := do
  inside go (← textOf go name subscript)

/-- Sets what a name stands for. -/
def store (go : Compute Int) (name : String) (subscript : Option String) (n : Int) :
    Compute Unit := do
  let value := Text.ofInt n
  match subscript with
  | none => modify fun st => { st with shell := st.shell.assign name value }
  | some i =>
    let key ← keyOf go name i
    modify fun st =>
      let name := st.shell.meant name
      let v := (st.shell.entry? name).getD .bare
      if v.readOnly then { st with shell := st.shell.assign name value }
      else
        let v := if v.isKeyed then v.putKey key value
          else v.putAt ((Text.readNat? key.toList).getD 0) value
        { st with shell := st.shell.putVariable name (some v) }
  if (← get).shell.flow != .going then fun st => .error (.shell st.shell)

/-- What is being computed. -/
inductive Level where
  | list
  | assignment
  | choice
  | either
  | both
  | binary (n : Nat)
  | power
  | unary
  | primary
deriving DecidableEq, Repr

/-- A number to the power of another. -/
def power (a : Int) : Nat → Int
  | 0 => 1
  | n + 1 => Number.wrap (a * power a n)

/-- The value of an operator between numbers. -/
def apply (live : Bool) (operator : String) (a b : Int) : Compute Int :=
  fun st =>
    match Number.apply live operator a b ⟨[], []⟩ with
    | .ok (n, _) => .ok (n, st)
    | .error _ => fail "division by 0" st

/-- Computes an expression of a level. -/
def compute : Nat → Level → Bool → Compute Int
  | 0, _, _ => fail "expression recursion level exceeded"
  | fuel + 1, .list, live => do
    let first ← compute fuel .assignment live
    listTail fuel live first
  | fuel + 1, .assignment, live => do
    let st ← get
    match st.token with
    | .name name subscript =>
      advance
      match (← get).token with
      | .sign s =>
        if Number.assigns.contains s then
          let after := (← get).rest
          advance
          let b ← compute fuel .assignment live
          let go := compute fuel .list true
          if s == "=" then
            if live then store go name subscript b
            return b
          else
            let a ← if live then valueOf go name subscript else pure 0
            let n ← computed (s.dropEnd 1).toString after live a b
            if live then store go name subscript n
            return n
        else
          set st
          checked (← compute fuel .choice live)
      | _ =>
        set st
        checked (← compute fuel .choice live)
    | _ => checked (← compute fuel .choice live)
  | fuel + 1, .choice, live => do
    let test ← compute fuel .either live
    if ← accept "?" then
      if [Token.done, .sign ":"].contains (← get).token then fail "expression expected"
      let a ← compute fuel .list (live && test != 0)
      if !(← accept ":") then fail "`:' expected for conditional expression"
      if (← get).token == .done then fail "expression expected"
      let b ← compute fuel .choice (live && test == 0)
      return if test != 0 then a else b
    else return test
  | fuel + 1, .either, live => do
    let a ← compute fuel .both live
    joined fuel .both "||" live a
  | fuel + 1, .both, live => do
    let a ← compute fuel (.binary 0) live
    joined fuel (.binary 0) "&&" live a
  | fuel + 1, .binary n, live => do
    match Number.levels[n]? with
    | none => compute fuel .power live
    | some operators =>
      let a ← compute fuel (.binary (n + 1)) live
      binaryTail fuel n operators live a
  | fuel + 1, .power, live => do
    let a ← compute fuel .unary live
    if ← accept "**" then
      let b ← compute fuel .power live
      if b < 0 then fail "exponent less than 0" else return power a b.toNat
    else return a
  | fuel + 1, .unary, live => do
    match (← get).token with
    | .sign s =>
      let unary (f : Int → Int) : Compute Int := do
        advance
        return f (← compute fuel .unary live)
      match s with
      | "+" => unary (·)
      | "-" => unary fun n => Number.wrap (-n)
      | "!" => unary fun n => if n == 0 then 1 else 0
      | "~" => unary fun n => -n - 1
      | _ => compute fuel .primary live
    | _ => compute fuel .primary live
  | fuel + 1, .primary, live => do
    let go := compute fuel .list true
    let st ← get
    match st.token with
    | .number n =>
      advance
      return n
    | .name name subscript =>
      let n ← if live then valueOf go name subscript else pure 0
      advance
      match (← get).token with
      | .sign "post++" =>
        if live then store go name subscript (Number.wrap (n + 1))
        advance
      | .sign "post--" =>
        if live then store go name subscript (Number.wrap (n - 1))
        advance
      | _ => pure ()
      return n
    | .sign "(" =>
      advance
      let a ← compute fuel .list live
      if ← accept ")" then return a else fail "missing `)'"
    | .sign s =>
      if s == "pre++" || s == "pre--" then
        advance
        match (← get).token with
        | .name name subscript =>
          let n ← if live then valueOf go name subscript else pure 0
          let n := Number.wrap (if s == "pre++" then n + 1 else n - 1)
          if live then store go name subscript n
          advance
          return n
        | _ => fail "identifier expected after pre-increment or pre-decrement"
      else fail "syntax error: operand expected"
    | .done => fail "syntax error: operand expected"
where
  /-- A value behind which no sign assigns. -/
  checked (n : Int) : Compute Int := do
    match (← get).token with
    | .sign s =>
      if Number.assigns.contains s then fail "attempted assignment to non-variable" else return n
    | _ => return n
  /-- The value of an operator whose second operand stands in a text. -/
  computed (operator : String) (operand : List Char) (live : Bool) (a b : Int) : Compute Int := do
    let shown := (← get).shown
    modify fun st => { st with shown := operand.dropWhile isBlank }
    let n ← apply live operator a b
    modify fun st => { st with shown := shown }
    return n
  /-- The value of the last of expressions between commas. -/
  listTail : Nat → Bool → Int → Compute Int
    | 0, _, a => return a
    | fuel + 1, live, a => do
      if ← accept "," then
        let b ← compute fuel .assignment live
        listTail fuel live b
      else return a
  /-- Conditions joined by a sign. The ones that do not count have no effect. -/
  joined : Nat → Level → String → Bool → Int → Compute Int
    | 0, _, _, _, a => return a
    | fuel + 1, level, sign, live, a => do
      if ← accept sign then
        let counts := if sign == "||" then a == 0 else a != 0
        let b ← compute fuel level (live && counts)
        let n := if sign == "||" then a != 0 || b != 0 else a != 0 && b != 0
        joined fuel level sign live (if n then 1 else 0)
      else return a
  /-- Applies the operators of a level from left to right. -/
  binaryTail : Nat → Nat → List String → Bool → Int → Compute Int
    | 0, _, _, _, a => return a
    | fuel + 1, n, operators, live, a => do
      match (← get).token with
      | .sign s =>
        if operators.contains s then
          let after := (← get).rest
          advance
          let b ← compute fuel (.binary (n + 1)) live
          binaryTail fuel n operators live (← computed s after live a b)
        else return a
      | _ => return a

/-- The value of an expression, and the shell with what it assigns; else why there is none. -/
def eval (s : Shell) (text : String) : Except Fault (Int × Shell) :=
  let start : State := ⟨s, text, .done, [], []⟩
  match inside (compute (30 * text.length + 200) .list true) text start with
  | .ok (n, st) => .ok (n, st.shell)
  | .error fault => .error fault

end TensorCompiler.Shell.Arithmetic
