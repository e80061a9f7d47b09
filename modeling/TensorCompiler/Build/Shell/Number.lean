import TensorCompiler.Text.Basic

/-!
# Numbers in scripts

Integer expressions of a script. They wrap around at sixty-four bits, read variables and assign to
them. A part that does not count for the result is read but has no effect.
-/

namespace TensorCompiler.Shell.Number

/-- Why an expression has no value. -/
inductive Fault where
  /-- What is wrong with the expression itself. -/
  | expression (text : String)
  /-- The value of a variable is no number. -/
  | notNumber (value : String)
deriving DecidableEq, Repr

/-- A token of an expression. -/
inductive Token where
  | number (n : Int)
  | name (s : String)
  | sign (s : String)
deriving DecidableEq, Repr

/-- An integer of sixty-four bits. -/
def wrap (n : Int) : Int := Int.bmod n 18446744073709551616

/-- The value of a digit. -/
def digit? (c : Char) : Option Nat :=
  if c.isDigit then some (c.toNat - 48)
  else if 'a' ≤ c && c ≤ 'f' then some (c.toNat - 87)
  else if 'A' ≤ c && c ≤ 'F' then some (c.toNat - 55)
  else none

/-- The digits of a base at the start of a text. -/
def digits (base : Nat) (cs : List Char) : List Char :=
  cs.takeWhile fun c => (digit? c).any (· < base)

/-- The value of digits. -/
def value (base : Nat) (ds : List Char) : Int :=
  ds.foldl (fun (n : Int) c => (base : Int) * n + ((digit? c).getD 0 : Nat)) 0

/-- The greatest integer of sixty-four bits. -/
def greatest : Int := 9223372036854775807

/-- The numeral at the start of a text, and what follows it. -/
def numeral (cs : List Char) : Int × List Char :=
  let (base, body) := match cs with
    | '0' :: 'x' :: rest => if (rest.head?.bind digit?).isSome then (16, rest) else (8, cs)
    | '0' :: 'X' :: rest => if (rest.head?.bind digit?).isSome then (16, rest) else (8, cs)
    | '0' :: _ => (8, cs)
    | _ => (10, cs)
  let ds := digits base body
  (min (value base ds) greatest, body.drop ds.length)

/-- The signs, longer ones before their beginnings. -/
def signs : List String :=
  ["<<=", ">>=", "&&", "||", "<<", ">>", "<=", ">=", "==", "!=", "+=", "-=", "*=", "/=", "%=", "&=",
    "^=", "|=", "+", "-", "*", "/", "%", "&", "|", "^", "~", "!", "<", ">", "=", "?", ":", "(", ")"]

/-- The tokens of an expression; `none` if there is none for some character. -/
def tokens? : Nat → List Char → Option (List Token)
  | 0, _ => none
  | _, [] => some []
  | fuel + 1, c :: cs =>
    if c == ' ' || c == '\t' || c == '\n' then tokens? fuel cs
    else if c.isDigit then
      let (n, rest) := numeral (c :: cs)
      (tokens? fuel rest).map (.number n :: ·)
    else if c.isAlpha || c == '_' then
      let name := (c :: cs).takeWhile fun d => d.isAlphanum || d == '_'
      (tokens? fuel ((c :: cs).drop name.length)).map (.name (String.ofList name) :: ·)
    else
      match signs.find? fun s => s.toList.isPrefixOf (c :: cs) with
      | some s => (tokens? fuel ((c :: cs).drop s.length)).map (.sign s :: ·)
      | none => none

/-- How far an expression is computed. -/
structure State where
  rest : List Token
  /-- What is assigned, the latest first. -/
  assigned : List (String × String)

/-- A step of a computation. -/
abbrev Compute := StateT State (Except Fault)

/-- Gives up. -/
def fail {α : Type} (text : String) : Compute α := fun _ => .error (.expression text)

/-- Passes over a sign if it comes next. -/
def accept (s : String) : Compute Bool := do
  match (← get).rest with
  | .sign r :: rest =>
    if r == s then
      modify fun st => { st with rest := rest }
      return true
    else return false
  | _ => return false

/-- The number that a text is, as a whole. -/
def readValue? (s : String) : Option Int :=
  let isBlank (c : Char) := c == ' ' || c == '\t' || c == '\n'
  let cs := ((s.toList.dropWhile isBlank).reverse.dropWhile isBlank).reverse
  let (negative, body) := match cs with
    | '-' :: body => (true, body)
    | '+' :: body => (false, body)
    | body => (false, body)
  match cs, body with
  | [], _ => some 0
  | _, c :: _ =>
    if c.isDigit then
      match numeral body with
      | (n, []) => some (if negative then -n else n)
      | _ => none
    else none
  | _, [] => none

/-- The value of a variable. -/
def valueOf (lookup : String → String) (name : String) : Compute Int := do
  let text := (((← get).assigned.find? (·.1 == name)).map Prod.snd).getD (lookup name)
  match readValue? text with
  | some n => return n
  | none => fun _ => .error (.notNumber text)

/-- The operators between two numbers by levels, the weakest first. -/
def levels : List (List String) :=
  [["|"], ["^"], ["&"], ["==", "!="], ["<", ">", "<=", ">="], ["<<", ">>"], ["+", "-"],
    ["*", "/", "%"]]

/-- The bits of a number. -/
def bits (n : Int) : BitVec 64 := BitVec.ofInt 64 n

/-- The value of an operator. It counts only if `live`. -/
def apply (live : Bool) (operator : String) (a b : Int) : Compute Int :=
  let truth (b : Bool) : Compute Int := return if b then 1 else 0
  match operator with
  | "|" => return (bits a ||| bits b).toInt
  | "^" => return (bits a ^^^ bits b).toInt
  | "&" => return (bits a &&& bits b).toInt
  | "==" => truth (a == b)
  | "!=" => truth (a != b)
  | "<" => truth (a < b)
  | ">" => truth (b < a)
  | "<=" => truth (a ≤ b)
  | ">=" => truth (b ≤ a)
  | "<<" => return (bits a <<< (b % 64).toNat).toInt
  | ">>" => return ((bits a).sshiftRight (b % 64).toNat).toInt
  | "+" => return wrap (a + b)
  | "-" => return wrap (a - b)
  | "*" => return wrap (a * b)
  | "/" =>
    if b == 0 then (if live then fail "division by zero" else return 0) else return wrap (a.tdiv b)
  | "%" =>
    if b == 0 then (if live then fail "division by zero" else return 0) else return wrap (a.tmod b)
  | _ => return b

/-- What is being computed. -/
inductive Level where
  | assignment
  | choice
  | either
  | both
  | binary (n : Nat)
  | primary
deriving DecidableEq, Repr

/-- The signs that assign. -/
def assigns : List String :=
  ["=", "+=", "-=", "*=", "/=", "%=", "&=", "^=", "|=", "<<=", ">>="]

/-- Assigns to a variable. -/
def assign (live : Bool) (name : String) (n : Int) : Compute Int := do
  if live then modify fun st => { st with assigned := (name, Text.ofInt n) :: st.assigned }
  return n

/-- The next operator of a level, which is passed. -/
def nextOperator? (operators : List String) : Compute (Option String) := do
  match (← get).rest with
  | .sign s :: rest =>
    if operators.contains s then
      modify fun st => { st with rest := rest }
      return some s
    else return none
  | _ => return none

/-- Computes an expression of a level. -/
def compute (lookup : String → String) : Nat → Level → Bool → Compute Int
  | 0, _, _ => fail "expecting primary"
  | fuel + 1, .assignment, live => do
    match (← get).rest with
    | .name name :: .sign s :: rest =>
      if assigns.contains s then
        modify fun st => { st with rest := rest }
        let b ← compute lookup fuel .assignment live
        if s == "=" then assign live name b
        else
          let a ← if live then valueOf lookup name else pure 0
          assign live name (← apply live (s.dropEnd 1).toString a b)
      else compute lookup fuel .choice live
    | _ => compute lookup fuel .choice live
  | fuel + 1, .choice, live => do
    let test ← compute lookup fuel .either live
    if ← accept "?" then
      let a ← compute lookup fuel .assignment (live && test != 0)
      if !(← accept ":") then fail "expecting ':'"
      let b ← compute lookup fuel .choice (live && test == 0)
      return if test != 0 then a else b
    else return test
  | fuel + 1, .either, live => do
    let a ← compute lookup fuel .both live
    if ← accept "||" then
      let b ← compute lookup fuel .either (live && a == 0)
      return if a != 0 || b != 0 then 1 else 0
    else return a
  | fuel + 1, .both, live => do
    let a ← compute lookup fuel (.binary 0) live
    if ← accept "&&" then
      let b ← compute lookup fuel .both (live && a != 0)
      return if a != 0 && b != 0 then 1 else 0
    else return a
  | fuel + 1, .binary n, live => do
    match levels[n]? with
    | none => compute lookup fuel .primary live
    | some operators =>
      let a ← compute lookup fuel (.binary (n + 1)) live
      binaryTail fuel n operators live a
  | fuel + 1, .primary, live => do
    match (← get).rest with
    | .number n :: rest =>
      modify fun st => { st with rest := rest }
      return n
    | .name name :: rest =>
      modify fun st => { st with rest := rest }
      if live then valueOf lookup name else return 0
    | .sign "(" :: rest =>
      modify fun st => { st with rest := rest }
      let a ← compute lookup fuel .assignment live
      if ← accept ")" then return a else fail "expecting ')'"
    | .sign s :: rest =>
      let unary (f : Int → Int) : Compute Int := do
        modify fun st => { st with rest := rest }
        return f (← compute lookup fuel .primary live)
      match s with
      | "+" => unary (·)
      | "-" => unary fun n => wrap (-n)
      | "!" => unary fun n => if n == 0 then 1 else 0
      | "~" => unary fun n => -n - 1
      | _ => fail "expecting primary"
    | [] => fail "expecting primary"
where
  /-- Applies the operators of a level from left to right. -/
  binaryTail : Nat → Nat → List String → Bool → Int → Compute Int
    | 0, _, _, _, a => return a
    | fuel + 1, n, operators, live, a => do
      match ← nextOperator? operators with
      | none => return a
      | some s =>
        let b ← compute lookup fuel (.binary (n + 1)) live
        binaryTail fuel n operators live (← apply live s a b)

/-- The value of an expression, and what it assigns, the earliest first. -/
def eval (lookup : String → String) (text : String) : Except Fault (Int × List (String × String)) :=
  match tokens? (text.length + 1) text.toList with
  | none => .error (.expression "expecting EOF")
  | some [] => .ok (0, [])
  | some ts =>
    match compute lookup (30 * ts.length + 60) .assignment true ⟨ts, []⟩ with
    | .error fault => .error fault
    | .ok (n, ⟨[], assigned⟩) => .ok (n, assigned.reverse)
    | .ok _ => .error (.expression "expecting EOF")

end TensorCompiler.Shell.Number
