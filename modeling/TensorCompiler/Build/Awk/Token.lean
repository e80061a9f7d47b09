import TensorCompiler.Build.Tool.Format
import TensorCompiler.Number.Nearest
import TensorCompiler.Text.Basic

/-!
# Tokens of programs over records

A slash starts a regular expression wherever no value has come before it. Line breaks are tokens,
because they end statements.
-/

/-!
## Programs over records

What a program for the records of a text says once it is read: rules with a pattern and an action
each, and functions. All texts are byte texts.
-/

namespace TensorCompiler.Awk

/-- An operator between two values. -/
inductive Operator where
  | add
  | sub
  | mul
  | div
  | mod
  | pow
  | concat
  | less
  | atMost
  | equal
  | unequal
  | greater
  | atLeast
deriving DecidableEq, Repr

/-- An expression. -/
inductive Expr where
  | number (x : Float)
  | text (s : String)
  /-- A regular expression. Its value says whether the record matches it. -/
  | regex (s : String)
  | name (s : String)
  | element (array : String) (keys : List Expr)
  | field (index : Expr)
  | assign (operator : Option Operator) (target value : Expr)
  | choice (test yes no : Expr)
  | both (a b : Expr)
  | either (a b : Expr)
  | negation (a : Expr)
  | minus (a : Expr)
  | plus (a : Expr)
  | member (keys : List Expr) (array : String)
  | matching (negated : Bool) (subject pattern : Expr)
  | binary (operator : Operator) (a b : Expr)
  /-- Adds one or takes one away; the value is the one before or the one after. -/
  | step (after up : Bool) (target : Expr)
  | call (function : String) (args : List Expr)
  | builtin (function : String) (args : List Expr)
  /-- Reads the next record of the input into a target. -/
  | readInput (target : Option Expr)
  | readFile (path : Expr) (target : Option Expr)
  | readCommand (command : Expr) (target : Option Expr)
  /-- Several expressions between parentheses. -/
  | group (items : List Expr)

instance : Inhabited Expr := ⟨.text ""⟩

/-- Whether a value can be stored in what an expression names. -/
def Expr.isTarget : Expr → Bool
  | .name _ | .element _ _ | .field _ => true
  | _ => false

/-- Where a text is written. -/
inductive Outlet where
  | standard
  | write
  | append
  | pipe
deriving DecidableEq, Repr

/-- A statement. -/
inductive Stmt where
  | nothing
  | expr (e : Expr)
  | print (formatted : Bool) (args : List Expr) (outlet : Outlet) (target : Option Expr)
  | sequence (first second : Stmt)
  | conditional (test : Expr) (yes no : Stmt)
  | loop (test : Expr) (body : Stmt)
  /-- A loop that runs at least once. -/
  | loopOnce (body : Stmt) (test : Expr)
  | count (start : Stmt) (test : Option Expr) (step body : Stmt)
  | each (name array : String) (body : Stmt)
  | next
  | nextFile
  | exit (status : Option Expr)
  | giveBack (value : Option Expr)
  | leave
  | again
  | delete (array : String) (keys : List Expr)

instance : Inhabited Stmt := ⟨.nothing⟩

/-- When a rule applies. -/
inductive Pattern where
  | atStart
  | atEnd
  | always
  | holds (e : Expr)
  /-- From a record where the first holds to one where the second does. -/
  | between (first last : Expr)

/-- A pattern and what is done where it applies. -/
structure Rule where
  pattern : Pattern
  action : Stmt

/-- A function. -/
structure Function where
  name : String
  params : List String
  body : Stmt

/-- A program. -/
structure Program where
  rules : List Rule
  functions : List Function


/-! ## Tokens -/

/-- A token. -/
inductive Token where
  | number (x : Float)
  | text (s : String)
  | regex (s : String)
  | name (s : String)
  /-- A name with a parenthesis right behind it. -/
  | called (s : String)
  | builtin (s : String)
  | keyword (s : String)
  | sign (s : String)
  | newline
  | eof

/-- The words that shape programs. -/
def keywords : List String :=
  ["BEGIN", "END", "break", "continue", "delete", "do", "else", "exit", "for", "func", "function",
    "getline", "if", "in", "next", "nextfile", "print", "printf", "return", "while"]

/-- The functions of the language with the least and the greatest number of their arguments. -/
def builtins : List (String × Nat × Nat) :=
  [("atan2", 2, 2), ("close", 1, 1), ("cos", 1, 1), ("exp", 1, 1), ("fflush", 0, 1), ("gsub", 2, 3),
    ("index", 2, 2), ("int", 1, 1), ("length", 0, 1), ("log", 1, 1), ("match", 2, 2),
    ("rand", 0, 0), ("sin", 1, 1), ("split", 2, 3), ("sprintf", 1, 255), ("sqrt", 1, 1),
    ("srand", 0, 1), ("sub", 2, 3), ("substr", 2, 3), ("system", 1, 1), ("tolower", 1, 1),
    ("toupper", 1, 1)]

/-- The signs, longer ones before their beginnings. -/
def signs : List String :=
  ["&&", "||", "++", "--", "+=", "-=", "*=", "/=", "%=", "^=", "==", "!=", "<=", ">=", "!~", ">>",
    "\x7b", "\x7d", "(", ")", "[", "]", ";", ",", "+", "-", "*", "/", "%", "^", "!", ">",
    "<", "|", "?", ":", "~", "$", "="]

/-- Why a program cannot be read: complaints, each on a line of its own. -/
abbrev Fault := List String

/-- A complaint about a line. -/
def complaint (line : Nat) (text : String) : String :=
  "line " ++ Text.ofNat line ++ ": " ++ text

/-- The digits of a decimal number at the start of a text, as they are written. -/
def numeral (cs : List Char) : List Char :=
  let whole := cs.takeWhile Char.isDigit
  let rest := cs.drop whole.length
  let part := match rest with
    | '.' :: rest => '.' :: rest.takeWhile Char.isDigit
    | _ => []
  let rest := rest.drop part.length
  let power := match rest with
    | e :: rest =>
      if e == 'e' || e == 'E' then
        let (sign, rest) := match rest with
          | '+' :: rest => (['+'], rest)
          | '-' :: rest => (['-'], rest)
          | rest => ([], rest)
        let ds := rest.takeWhile Char.isDigit
        if ds.isEmpty then [] else e :: sign ++ ds
      else []
    | [] => []
  if (whole ++ part.drop 1).isEmpty then [] else whole ++ part ++ power

/-- The number that a numeral stands for. -/
def numeralValue (cs : List Char) : Float :=
  let cs := if cs.head? == some '.' then '0' :: cs else cs
  match Format.decimal? cs with
  | some (negative, n, places) => Number.toFloat negative n places
  | none => 0

/-- The text up to the closing quotation mark, with its escapes read, and what follows it. -/
def quoted : Nat → List Char → Option (List Char × List Char)
  | 0, _ => none
  | _, [] => none
  | _, '\n' :: _ => none
  | _, '"' :: rest => some ([], rest)
  | fuel + 1, '\\' :: c :: rest =>
    let (found, rest) :=
      if c == '\n' then ([], rest)
      else if c == '"' then (['"'], rest)
      else match Format.controls.find? (·.1 == c) with
        | some p => ([Char.ofNat p.2], rest)
        | none =>
          let ds := Format.octalDigits 3 (c :: rest)
          let hex := ((rest.take 2).takeWhile fun c => (Format.hexValue? c).isSome).filterMap
            Format.hexValue?
          if c == 'x' && !hex.isEmpty then
            ([Char.ofNat (hex.foldl (fun n d => 16 * n + d) 0)], rest.drop hex.length)
          else if ds.isEmpty then (['\\', c], rest)
          else ([Char.ofNat (Format.octal ds % 256)], (c :: rest).drop ds.length)
    (quoted fuel rest).map fun (s, rest) => (found ++ s, rest)
  | fuel + 1, c :: rest => (quoted fuel rest).map fun (s, rest) => (c :: s, rest)

/-- The text of a regular expression up to the slash that closes it, and what follows it. A slash
between brackets does not close it. -/
def slashed : Nat → Bool → List Char → Option (List Char × List Char)
  | 0, _, _ => none
  | _, _, [] => none
  | _, _, '\n' :: _ => none
  | fuel + 1, inside, '\\' :: c :: rest =>
    (slashed fuel inside rest).map fun (s, rest) =>
      (if c == '/' then '/' :: s else '\\' :: c :: s, rest)
  | fuel + 1, true, c :: rest =>
    (slashed fuel (c != ']') rest).map fun (s, rest) => (c :: s, rest)
  | fuel + 1, false, c :: rest =>
    if c == '/' then some ([], rest)
    else if c == '[' then
      let (lead, rest) := match rest with
        | '^' :: ']' :: rest => (['^', ']'], rest)
        | ']' :: rest => ([']'], rest)
        | rest => ([], rest)
      (slashed fuel true rest).map fun (s, rest) => ('[' :: lead ++ s, rest)
    else (slashed fuel false rest).map fun (s, rest) => (c :: s, rest)

/-- Whether a value may end with a token, so that a slash behind it divides. -/
def Token.endsValue : Token → Bool
  | .number _ | .text _ | .regex _ | .name _ | .builtin _ => true
  | .sign s => [")", "]", "$", "++", "--"].contains s
  | _ => false

/-- The start of a text for a complaint about its missing end. -/
def runaway (cs : List Char) : String :=
  String.ofList (cs.takeWhile (· != '\n')) ++ " ..."

/-- The token of a word. -/
def wordToken (word : String) (rest : List Char) : Token :=
  if keywords.contains word then .keyword (if word == "func" then "function" else word)
  else if builtins.any (·.1 == word) then .builtin word
  else if rest.head? == some '(' then .called word
  else .name word

/-- The tokens of a program, each with its line. `last` is the token before. -/
def tokens : Nat → Nat → Token → List Char → Except Fault (List (Token × Nat))
  | 0, line, _, _ => .ok [(.eof, line)]
  | _, line, last, [] =>
    .ok (match last with
      | .newline => [(.eof, line)]
      | _ => [(.newline, line), (.eof, line + 1)])
  | fuel + 1, line, last, c :: cs =>
    let go (t : Token) (rest : List Char) : Except Fault (List (Token × Nat)) :=
      (tokens fuel line t rest).map ((t, line) :: ·)
    if c == ' ' || c == '\t' || c == '\r' then tokens fuel line last cs
    else if c == '\n' then (tokens fuel (line + 1) .newline cs).map ((.newline, line) :: ·)
    else if c == '\\' && cs.head? == some '\n' then tokens fuel (line + 1) last cs.tail
    else if c == '#' then tokens fuel line last (cs.dropWhile (· != '\n'))
    else if c == '"' then
      match quoted (cs.length + 1) cs with
      | some (s, rest) => go (.text (String.ofList s)) rest
      | none => .error [complaint line ("runaway string constant \"" ++ runaway cs)]
    else if c == '/' && !last.endsValue then
      match slashed (cs.length + 1) false cs with
      | some (s, rest) => go (.regex (String.ofList s)) rest
      | none => .error [complaint line ("runaway regular expression /" ++ runaway cs)]
    else if c.isDigit || (c == '.' && cs.head?.any Char.isDigit) then
      let digits := numeral (c :: cs)
      let x := numeralValue digits
      if x.isInf then .error [complaint line (String.ofList digits ++ " : decimal overflow")]
      else go (.number x) ((c :: cs).drop digits.length)
    else if c.isAlpha || c == '_' then
      let word := (c :: cs).takeWhile fun d => d.isAlphanum || d == '_'
      let rest := (c :: cs).drop word.length
      go (wordToken (String.ofList word) rest) rest
    else
      match signs.find? fun s => s.toList.isPrefixOf (c :: cs) with
      | some s => go (.sign s) ((c :: cs).drop s.length)
      | none =>
        .error [Text.ofNat line ++ ": unexpected character " ++ Tool.quote (String.singleton c)]

/-- What a token is called in a complaint. -/
def Token.shown : Token → String
  | .number x => if x == x.floor then Text.ofNat x.toUInt64.toNat else Number.ofFloat x
  | .text s => s
  | .regex s => "/" ++ s ++ "/"
  | .name s | .called s | .builtin s | .keyword s | .sign s => s
  | .newline => "end of line"
  | .eof => "end of file"

end TensorCompiler.Awk
