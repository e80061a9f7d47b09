import TensorCompiler.Build.Tool.Basic

/-!
# Conditions

The conditions that scripts test: about texts, numbers and files, joined by `-a` and `-o`, negated
by an exclamation mark and grouped by parentheses.
-/

namespace TensorCompiler.Condition

/-- Why a condition cannot be tested. -/
inductive Fault where
  | argumentExpected (operator : String)
  /-- A word that has no place behind another. -/
  | unexpected (last word : String)
  | number (word : String)
  | parenthesis
  | bracket
deriving DecidableEq, Repr

/-- The operators that stand before one operand. -/
def unary : List String :=
  ["-b", "-c", "-d", "-e", "-f", "-g", "-h", "-k", "-L", "-n", "-O", "-G", "-p", "-r", "-s", "-S",
    "-t", "-u", "-w", "-x", "-z"]

/-- The operators that stand between two operands. -/
def binary : List String :=
  ["=", "==", "!=", "<", ">", "-eq", "-ne", "-gt", "-ge", "-lt", "-le", "-nt", "-ot", "-ef"]

/-- An integer with a sign and blanks around it. -/
def readInt? (s : String) : Option Int :=
  let isBlank (c : Char) := c == ' ' || c == '\t' || c == '\n'
  let cs := ((s.toList.dropWhile isBlank).reverse.dropWhile isBlank).reverse
  match cs with
  | '-' :: ds => (Text.readNat? ds).map fun n => -(n : Int)
  | '+' :: ds => (Text.readNat? ds).map fun n => (n : Int)
  | ds => (Text.readNat? ds).map fun n => (n : Int)

/-- Where a condition is tested. -/
structure Scene where
  here : Place
  disk : Disk
  /-- Whether two equality signs stand for one, and a file is newer than one that is missing. -/
  tolerant : Bool

namespace Scene

/-- Whether a word is an operator between operands. -/
def isBinary (s : Scene) (word : String) : Bool :=
  binary.contains word && (s.tolerant || word != "==")

/-- Whether a condition on one operand holds. -/
def holds (s : Scene) (operator operand : String) : Bool :=
  let entry := s.disk.entryAt? s.here operand
  match operator with
  | "-n" => !operand.isEmpty
  | "-z" => operand.isEmpty
  | "-e" | "-r" | "-w" | "-O" | "-G" => entry.isSome
  | "-f" => entry.any fun
    | .file _ => true
    | _ => false
  | "-d" => entry == some .directory
  | "-c" => entry.any fun
    | .device _ => true
    | _ => false
  | "-s" => entry.any fun
    | .file text => !text.isEmpty
    | .directory => true
    | _ => false
  | "-x" => (s.disk.find s.here operand).toOption.any fun p =>
      s.disk.isDirectory p || s.disk.runs p
  | "-h" | "-L" => ((s.disk.spot s.here operand).toOption.bind s.disk.get?).any fun
    | .link _ => true
    | _ => false
  | _ => false

/-- Whether a file was changed after another. -/
def isNewer (s : Scene) (a b : String) : Bool :=
  let changed (path : String) : Option Int :=
    (s.disk.find s.here path).toOption.map fun p => (s.disk.factsOf p).changed
  match changed a, changed b with
  | some x, some y => decide (y < x)
  | some _, none => s.tolerant
  | none, _ => false

/-- Whether a condition on two operands holds. -/
def compares (s : Scene) (a operator b : String) : Except Fault Bool :=
  let number (w : String) : Except Fault Int :=
    match readInt? w with
    | some n => .ok n
    | none => .error (.number w)
  let numbers (test : Int → Int → Bool) : Except Fault Bool := do
    return test (← number a) (← number b)
  match operator with
  | "=" | "==" => .ok (a == b)
  | "!=" => .ok (a != b)
  | "<" => .ok (decide (a < b))
  | ">" => .ok (decide (b < a))
  | "-eq" => numbers fun x y => x == y
  | "-ne" => numbers fun x y => x != y
  | "-gt" => numbers fun x y => y < x
  | "-ge" => numbers fun x y => y ≤ x
  | "-lt" => numbers fun x y => x < y
  | "-le" => numbers fun x y => x ≤ y
  | "-ef" => .ok ((s.disk.find s.here a).toOption.any fun p =>
      (s.disk.find s.here b).toOption.any fun q => p == q || (s.disk.twinsOf p).contains q)
  | "-nt" => .ok (s.isNewer a b)
  | "-ot" => .ok (s.isNewer b a)
  | _ => .ok false

/-- Whether a unary operator is an operand where it stands, because of the words behind it. -/
def isOperand (s : Scene) : List String → Bool
  | [] => true
  | [_] => false
  | operator :: operand :: _ => s.isBinary operator && operand != ")"

/-- A condition of the strongest kind: a group, a test, or a text that must not be empty. -/
def primary (s : Scene) (group : List String → Except Fault (Bool × List String)) :
    List String → Except Fault (Bool × List String)
  | [] => .ok (false, [])
  | w :: rest =>
    if w == "(" && !rest.isEmpty then
      if rest.head? == some ")" then .ok (false, rest.tail)
      else
        match group rest with
        | .error fault => .error fault
        | .ok (value, ")" :: rest) => .ok (value, rest)
        | .ok _ => .error .parenthesis
    else if unary.contains w && !s.isOperand rest then
      match rest with
      | [] => .error (.argumentExpected w)
      | operand :: rest => .ok (s.holds w operand, rest)
    else
      match rest with
      | operator :: behind =>
        if s.isBinary operator then
          match behind with
          | [] => .error (.argumentExpected operator)
          | b :: rest => (s.compares w operator b).map (·, rest)
        else .ok (!w.isEmpty, rest)
      | [] => .ok (!w.isEmpty, [])

/-- How conditions are joined, the weakest kind first. -/
inductive Level where
  | either
  | both
  | negation
deriving DecidableEq, Repr

/-- A condition of a level, and the words behind it. -/
def level (s : Scene) : Nat → Level → List String → Except Fault (Bool × List String)
  | 0, _, words => .ok (false, words)
  | fuel + 1, .either, words => do
    let (a, rest) ← s.level fuel .both words
    match rest with
    | "-o" :: rest =>
      let (b, rest) ← s.level fuel .either rest
      return (a || b, rest)
    | rest => return (a, rest)
  | fuel + 1, .both, words => do
    let (a, rest) ← s.level fuel .negation words
    match rest with
    | "-a" :: rest =>
      let (b, rest) ← s.level fuel .both rest
      return (a && b, rest)
    | rest => return (a, rest)
  | fuel + 1, .negation, words =>
    match words with
    | "!" :: rest =>
      if rest.isEmpty then .ok (true, [])
      else (s.level fuel .negation rest).map fun (a, rest) => (!a, rest)
    | words => s.primary (s.level fuel .either) words

/-- Tests a whole condition. -/
def expression (s : Scene) (words : List String) : Except Fault Bool := do
  match ← s.level (4 * words.length + 4) .either words with
  | (value, []) => return value
  | (_, word :: rest) => .error (.unexpected (words.getD (words.length - rest.length - 2) "") word)

/-- Tests words, of which three or four may be meant otherwise than they look. -/
def test (s : Scene) (words : List String) : Except Fault Bool :=
  match words with
  | [] => .ok false
  | [w] => .ok (!w.isEmpty)
  | [a, operator, b] =>
    if s.isBinary operator then s.compares a operator b
    else if a == "(" && b == ")" then .ok (!operator.isEmpty)
    else if a == "!" then (s.expression [operator, b]).map (!·)
    else s.expression words
  | [a, b, c, d] =>
    if a == "!" then
      (if s.isBinary c then s.compares b c d else s.expression [b, c, d]).map (!·)
    else if a == "(" && d == ")" then s.expression [b, c]
    else s.expression words
  | words => s.expression words

end Scene

/-- The wording of a fault by the shell. -/
def Fault.text : Fault → String
  | .argumentExpected operator => operator ++ ": argument expected"
  | .unexpected last _ => last ++ ": unexpected operator"
  | .number word => "Illegal number: " ++ word
  | .parenthesis => "closing paren expected"
  | .bracket => "missing ]"

/-- The wording of a fault by the tool, which counts its words. -/
def Fault.sentence (words : List String) : Fault → String
  | .argumentExpected operator => "missing argument after " ++ Tool.quote operator
  | .unexpected _ word =>
    match words with
    | [_, b] => "missing argument after " ++ Tool.quote b
    | [_, b, _] => Tool.quote b ++ ": binary operator expected"
    | _ => "extra argument " ++ Tool.quote word
  | .number word => "invalid integer " ++ Tool.quote word
  | .parenthesis => Tool.quote ")" ++ " expected"
  | .bracket => "missing " ++ Tool.quote "]"

/-- Tests the condition that the arguments are. A bracket is closed by the last of them. -/
def tool (bracket builtin : Bool) : Tool := fun name args => do
  let t ← get
  let words := if bracket then args.dropLast else args
  let failed (fault : Fault) : Work Nat :=
    Tool.fail 2 (name ++ ": " ++ (if builtin then fault.text else fault.sentence words))
  if bracket && args.getLast? != some "]" then failed .bracket
  else
    match Scene.test ⟨t.here, t.disk, !builtin⟩ words with
    | .error fault => failed fault
    | .ok holds => return if holds then 0 else 1

end TensorCompiler.Condition
