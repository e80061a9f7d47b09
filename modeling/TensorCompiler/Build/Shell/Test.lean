import TensorCompiler.Build.Regex
import TensorCompiler.Build.Shell.Expand
import TensorCompiler.Build.Tool.Condition

/-!
# Conditions of the larger shell

Conditions between double brackets compare words with patterns, regular expressions and numbers
that are expressions. The older form takes its words as they come, and guesses from their number
what they mean.
-/

namespace TensorCompiler.Shell

open Script

/-- The letters of the options with names in the larger shell. Those that no letter sets have digits
and a bar. -/
def extendedOptionNames : List (String × Char) :=
  [("allexport", 'a'), ("braceexpand", 'B'), ("emacs", '1'), ("errexit", 'e'), ("errtrace", 'E'),
    ("functrace", 'T'), ("hashall", 'h'), ("histexpand", 'H'), ("history", '2'),
    ("ignoreeof", '3'), ("interactive-comments", '4'), ("keyword", 'k'), ("monitor", 'm'),
    ("noclobber", 'C'), ("noexec", 'n'), ("noglob", 'f'), ("nolog", '5'), ("notify", 'b'),
    ("nounset", 'u'), ("onecmd", 't'), ("physical", 'P'), ("pipefail", '|'), ("posix", '6'),
    ("privileged", 'p'), ("verbose", 'v'), ("vi", '7'), ("xtrace", 'x')]

/-- Whether a variable, or one of its elements, is set. -/
def isSet (s : Shell) (text : String) : Bool :=
  match namedBy text with
  | (name, .none) => (s.value? name).isSome
  | (name, .all _) => !(s.listOf name).isEmpty
  | (name, .at [.text key _]) => (s.element? name key).2.isSome
  | _ => false

/-- Whether a condition on one operand holds. -/
def holdsOne (s : Shell) (operator operand : String) : Bool :=
  let scene : Condition.Scene := ⟨s.here, s.world.disk, true⟩
  match operator with
  | "-a" => scene.holds "-e" operand
  | "-v" => s.isSet operand
  | "-o" => (extendedOptionNames.find? (·.1 == operand)).any fun o => s.has o.2
  | "-R" => (s.ownEntry? operand).any fun v => v.marks.contains 'n'
  | operator => scene.holds operator operand

/-! ## Words that come as they are -/

/-- The value of a comparison of words. -/
def comparesWords (s : Shell) (a operator b : String) : Except String Bool :=
  match Condition.Scene.compares ⟨s.here, s.world.disk, true⟩ a operator b with
  | .ok holds => .ok holds
  | .error (.number word) => .error (word ++ ": integer expression expected")
  | .error _ => .error (operator ++ ": binary operator expected")

/-- A condition of two words. -/
def testTwo (s : Shell) (a b : String) : Except String Bool :=
  if a == "!" then .ok b.isEmpty
  else if Grammar.unaryTests.contains a then .ok (s.holdsOne a b)
  else .error (a ++ ": unary operator expected")

/-- Whether a word stands between operands. -/
def isBetween (w : String) : Bool := Condition.binary.contains w

/-- A condition of three words. -/
def testThree (s : Shell) (a b c : String) : Except String Bool :=
  if isBetween b then s.comparesWords a b c
  else if b == "-a" then .ok (!a.isEmpty && !c.isEmpty)
  else if b == "-o" then .ok (!a.isEmpty || !c.isEmpty)
  else if a == "!" then (s.testTwo b c).map (!·)
  else if a == "(" && c == ")" then .ok (!b.isEmpty)
  else .error (b ++ ": binary operator expected")

/-- Which conditions are read: joined by the weaker sign, by the stronger one, or none of both. -/
inductive TestLevel where
  | either
  | both
  | term

/-- Reads a condition of many words, and gives what is left. -/
def testMany (s : Shell) :
    Nat → TestLevel → List String → Except String (Bool × List String)
  | 0, _, _ => .error "argument expected"
  | fuel + 1, .either, ws => do
    let (a, rest) ← testMany s fuel .both ws
    match rest with
    | "-o" :: rest =>
      let (b, rest) ← testMany s fuel .either rest
      return (a || b, rest)
    | rest => return (a, rest)
  | fuel + 1, .both, ws => do
    let (a, rest) ← testMany s fuel .term ws
    match rest with
    | "-a" :: rest =>
      let (b, rest) ← testMany s fuel .both rest
      return (a && b, rest)
    | rest => return (a, rest)
  | fuel + 1, .term, ws => do
    match ws with
    | [] => .error "argument expected"
    | "!" :: rest =>
      let (a, rest) ← testMany s fuel .term rest
      return (!a, rest)
    | "(" :: rest =>
      match ← testMany s fuel .either rest with
      | (a, ")" :: rest) => return (a, rest)
      | _ => .error ("`)' expected")
    | a :: op :: rest =>
      match isBetween op, rest with
      | true, b :: rest => return (← s.comparesWords a op b, rest)
      | true, [] => .error "argument expected"
      | false, rest =>
        if Grammar.unaryTests.contains a then return (s.holdsOne a op, rest)
        else return (!a.isEmpty, op :: rest)
    | [a] =>
      if Grammar.unaryTests.contains a then .error "argument expected"
      else return (!a.isEmpty, [])

/-- Tests words. -/
def testWords (s : Shell) (ws : List String) : Except String Bool :=
  let many : Except String Bool := do
    match ← s.testMany (4 * ws.length + 4) .either ws with
    | (holds, []) => return holds
    | _ => .error "too many arguments"
  match ws with
  | [] => .ok false
  | [w] => .ok (!w.isEmpty)
  | [a, b] => s.testTwo a b
  | [a, b, c] => s.testThree a b c
  | [a, b, c, d] =>
    if a == "!" then (s.testThree b c d).map (!·)
    else if a == "(" && d == ")" then s.testTwo b c
    else many
  | _ => many

/-! ## Between double brackets -/

/-- The regular expression of pieces, in which what is quoted stands for itself. -/
def regexText (cs : List PatternChar) : List Char :=
  cs.flatMap fun c =>
    if c.quoted && "\\^$.[]|()*+?\x7b\x7d".toList.contains c.char then ['\\', c.char] else [c.char]

/-- Matches a text with a regular expression, and keeps what its groups match. The status is two for
an expression that cannot be read. -/
def matchRegex (s : Shell) (text : String) (pattern : List PatternChar) : Shell × Nat :=
  match Regex.read ⟨true, true, false⟩ (regexText pattern) with
  | .error _ => (s, 2)
  | .ok r =>
    let cs := text.toList
    match Regex.search? ⟨s.hasLong "nocasematch", false, true⟩ r cs with
    | none => ({ s with bindings := s.bindings.filter (·.1 != "BASH_REMATCH") }, 1)
    | some found =>
      let part (start stop : Nat) : String := String.ofList ((cs.drop start).take (stop - start))
      let count := found.stop.groups.foldl (fun n g => max n g.1) 0
      let groups := (List.range count).map fun i =>
        match found.stop.groups.find? (·.1 == i + 1) with
        | some (_, start, stop) => part start stop
        | none => ""
      let items := (part found.start found.stop.position :: groups).zipIdx.map fun (t, i) => (i, t)
      (s.putVariable "BASH_REMATCH" (some ⟨.indexed items, false, false, []⟩), 0)

/-- Shows a condition before it is tested. -/
def traceTest (s : Shell) (text : String) : Shell :=
  if s.has 'x' then s.emit 2 ((s.value? "PS4").getD "+ " ++ "[[ " ++ text ++ " ]]\n") else s

/-- The status of a truth. -/
def truth (b : Bool) : Nat := if b then 0 else 1

/-- Compares two numbers. -/
def compareNumbers (operator : String) (a b : Int) : Bool :=
  match operator with
  | "-eq" => a == b
  | "-ne" => a != b
  | "-lt" => a < b
  | "-le" => a ≤ b
  | "-gt" => b < a
  | _ => b ≤ a

/-- Tests a condition on two operands. -/
def testPair (take : Taker) (s : Shell) (operator : String) (a b : Word) : Shell × Nat :=
  let (s, x) := single take s a
  let (s, ps) := fillIn take fillBound false s (untilde s b)
  let y := textOf ps
  let shown := String.ofList ((charsOf ps).flatMap fun c =>
    if c.quoted then ['\\', c.char] else [c.char])
  let s := s.traceTest (Quote.ifNeeded x ++ " " ++ operator ++ " " ++
    (if ["=", "==", "!="].contains operator then shown else Quote.ifNeeded y))
  if s.flow != .going then (s, 1)
  else match operator with
    | "=" | "==" | "!=" =>
      (s, truth (s.fits true (charsOf ps) x == (operator != "!=")))
    | "=~" => s.matchRegex x (charsOf ps)
    | "<" => (s, truth (decide (x < y)))
    | ">" => (s, truth (decide (y < x)))
    | "-nt" | "-ot" | "-ef" => (s, truth ((s.comparesWords x operator y).toOption.getD false))
    | operator =>
      match s.compute "[[: " x with
      | (s, none) => (s, 1)
      | (s, some n) =>
        match s.compute "[[: " y with
        | (s, none) => (s, 1)
        | (s, some m) => (s, truth (compareNumbers operator n m))

/-- Tests a condition. The status is zero if it holds. -/
def testStatus (take : Taker) : Shell → Script.Test → Shell × Nat
  | s, .filled w =>
    let (s, text) := single take s w
    (s.traceTest ("-n " ++ Quote.ifNeeded text), truth (!text.isEmpty))
  | s, .one operator w =>
    let (s, text) := single take s w
    (s.traceTest (operator ++ " " ++ Quote.ifNeeded text), truth (s.holdsOne operator text))
  | s, .two operator a b => testPair take s operator a b
  | s, .negation t =>
    let (s, n) := testStatus take s t
    (s, if n == 0 then 1 else 0)
  | s, .both a b =>
    let (s, n) := testStatus take s a
    if n == 0 && s.flow == .going then testStatus take s b else (s, n)
  | s, .either a b =>
    let (s, n) := testStatus take s a
    if n != 0 && s.flow == .going then testStatus take s b else (s, n)

end TensorCompiler.Shell
