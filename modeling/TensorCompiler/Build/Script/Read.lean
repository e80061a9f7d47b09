import TensorCompiler.Build.Script.Token

/-!
# Reading scripts

A script is read one line of commands at a time, so that what stands before a fault can still run.
A command that holds others reads them through a `Grammar`, which is made for any depth.
-/

namespace TensorCompiler.Script

/-- The words that shape commands. -/
def keywords : List String :=
  ["!", "\x7b", "\x7d", "case", "do", "done", "elif", "else", "esac", "fi", "for", "if", "in",
    "then", "until", "while"]

/-- The keyword that a token is. -/
def Token.keyword? : Token → Option String
  | .word w =>
    match w.literal? with
    | some s => if keywords.contains s then some s else none
    | none => none
  | _ => none

/-- Whether a token is a keyword. -/
def Token.isKeyword (t : Token) (s : String) : Bool := t.keyword? == some s

/-- Whether a token is a sign. -/
def Token.isSign (t : Token) (s : String) : Bool :=
  match t with
  | .sign r => r == s
  | _ => false

/-- What a token is called in a refusal. -/
def Token.called (t : Token) : String :=
  match t with
  | .eof => "end of file"
  | .newline => "newline"
  | .redirect _ _ => "redirection"
  | .sign s => "\"" ++ s ++ "\""
  | .word _ | .assign _ =>
    match t.keyword? with
    | some s => "\"" ++ s ++ "\""
    | none => "word"

/-- Refuses the last token in the extended language. -/
def misplaced {α : Type} (t : Token) : Read α :=
  match t with
  | .eof => refuse "syntax error: unexpected end of file"
  | .newline => refuseAtMark fun _ => ["syntax error near unexpected token " ++ cited "newline"]
  | _ => refuseAtMark fun m => ["syntax error near unexpected token " ++ cited m.text]

/-- Refuses a token that has no place here. -/
def unexpected {α : Type} (t : Token) : Read α := do
  if (← get).extended then misplaced t else refuse (t.called ++ " unexpected")

/-- Refuses a token that stands where another has to. -/
def unexpectedFor {α : Type} (t : Token) (wanted : String) : Read α := do
  if (← get).extended then misplaced t
  else refuse (t.called ++ " unexpected (expecting " ++ wanted ++ ")")

/-- The text of a word without quotes. -/
def Token.literal? : Token → Option String
  | .word w => w.literal?
  | _ => none

/-- The line of the command whose first token is read. In the extended language it is the line where
that token starts, else the one where it ends. -/
def commandLine : Read Nat := do
  let r ← get
  return if r.extended then r.mark.line else r.line

/-- What is read for a list of commands. -/
inductive ListKind where
  /-- One line of a script. -/
  | line
  /-- The inside of a command, which holds at least one command. -/
  | inside
  /-- The inside of a command, which may be empty. -/
  | perhaps
deriving DecidableEq, Repr

/-- How commands are read inside others. -/
structure Grammar where
  list : ListKind → Read (Option Command)
  command : Read Command

namespace Grammar

/-- How words read the commands inside them. -/
def commands (g : Grammar) : Inside where
  whole := do return (← g.list .perhaps).getD .nothing
  enclosed := do
    let body ← g.list .perhaps
    let t := (← get).ahead.getD .eof
    modify fun r => { r with ahead := none }
    if t.isSign ")" then return body.getD .nothing
    else match t with
      | .eof => refuseOpen (← get).line ')' "end of file unexpected (expecting \")\")"
      | t => unexpectedFor t "\")\""

/-- The next token. -/
def next (g : Grammar) : Read Token := token g.commands false

/-- The next token that is no line break. -/
def nextOnLine (g : Grammar) : Read Token :=
  untilDone (fun () => do
    match ← g.next with
    | .newline => return .inl ()
    | t => return .inr t) ()

/-- The next token where a command may start. -/
def start (g : Grammar) : Read Token := aliased g.commands true true fun t => t.keyword?.isSome

/-- The next token that is no line break, where a command may start. -/
def startOnLine (g : Grammar) : Read Token :=
  untilDone (fun () => do
    match ← g.start with
    | .newline => return .inl ()
    | t => return .inr t) ()

/-- The next token and whether it is a keyword, which is passed then. -/
def acceptKeyword (g : Grammar) (s : String) : Read Bool := do
  let t ← g.next
  if t.isKeyword s then return true
  putBack t
  return false

/-- Passes a keyword that has to come next. -/
def require (g : Grammar) (s : String) : Read Unit := do
  let t ← g.next
  if t.isKeyword s then return else unexpectedFor t ("\"" ++ s ++ "\"")

/-- The commands inside another, at least one. -/
def body (g : Grammar) : Read Command := do
  return (← g.list .inside).getD .nothing

/-- The word behind a redirection sign. -/
def target (g : Grammar) : Read Word := do
  match ← g.next with
  | .word w => return w
  | t => unexpected t

/-- Whether a part of a word is quoted. -/
def isQuoted : Part → Bool
  | .text _ quoted => quoted
  | .param _ _ _ _ quoted => quoted
  | .output _ quoted => quoted
  | .number _ quoted => quoted
  | .piped _ _ | .assigned _ => false

/-- The text of a word that is taken as it stands. -/
def spelling (w : Word) : String :=
  String.join (w.map fun
    | .text s _ => s
    | .param name _ _ _ _ => "$" ++ name
    | _ => "")

/-- The redirection whose sign is passed, to a word. -/
def redirectTo (w : Word) (fd : Nat) : RedirectKind → Read Redirect
  | .file mode => return .file fd mode w
  | .copy => return .copy fd w
  | .line => return .line fd w
  | .both append => return .both append w
  | .named name kind => return .fresh name (← redirectTo w fd kind)
  | .here stripTabs => do
    let r ← get
    let document := ⟨r.announced, spelling w, stripTabs, w.any isQuoted⟩
    set { r with pending := r.pending ++ [document], announced := r.announced + 1 }
    return .here fd r.announced

/-- The redirection whose sign is passed. -/
def redirect (g : Grammar) (fd : Nat) (kind : RedirectKind) : Read Redirect := do
  redirectTo (← g.target) fd kind

/-- The redirections that come next. -/
def redirects (g : Grammar) : Read (List Redirect) :=
  untilDone (fun found => do
    match ← g.next with
    | .redirect fd kind => return .inl (found ++ [← g.redirect fd kind])
    | t =>
      putBack t
      return .inr found) []

/-- The names that no function may have. -/
def specialNames : List String :=
  [".", ":", "break", "continue", "eval", "exec", "exit", "export", "local", "readonly", "return",
    "set", "shift", "times", "trap", "unset"]

/-- The commands whose arguments may be assignments in the extended language. -/
def declarers : List String := ["declare", "export", "local", "readonly", "typeset"]

/-- Whether a token starts a command that holds others. -/
def isCompound (t : Token) : Bool :=
  t.isSign "(" || t.literal? == some "[[" ||
    t.keyword?.any fun s => ["\x7b", "case", "for", "if", "until", "while"].contains s

/-- The body of a function with a name. -/
def functionBody (g : Grammar) (name : String) : Read Command := do
  let t ← g.startOnLine
  if (← get).extended && !isCompound t then unexpected t
  putBack t
  return .define name (← g.command)

/-- What follows the name of a function and its opening parenthesis. -/
def function (g : Grammar) (w : Word) : Read Command := do
  let extended := (← get).extended
  match ← g.next with
  | .word w =>
    if extended then unexpected (.word w) else refuse "word unexpected (expecting \")\")"
  | t => if !t.isSign ")" then unexpectedFor t "\")\""
  match w.literal? with
  | none => refuse "Bad function name"
  | some name =>
    if !extended && (!isName name || specialNames.contains name) then refuse "Bad function name"
    g.functionBody name

/-- What follows the keyword that starts a function. -/
def keywordFunction (g : Grammar) : Read Command := do
  let t ← g.next
  match t.literal? with
  | none => unexpected t
  | some name =>
    let t ← g.next
    if t.isSign "(" then
      let t ← g.next
      if !t.isSign ")" then unexpected t
    else match t with
      | .newline => pure ()
      | t => putBack t
    g.functionBody name

/-- A command of words, assignments and redirections, or the definition of a function. In the
extended language it has the line where its second word ends. -/
def simple (g : Grammar) : Read Command := do
  let first ← commandLine
  let extended := (← get).extended
  untilDone (fun (found : Nat × List Assign × List Word × List Redirect) => do
    let (line, assigns, words, redirects) := found
    let declares := extended && words.head?.any fun w => w.literal?.any declarers.contains
    let assigning := words.isEmpty || declares
    let take (line : Nat) (a : Assign) : Nat × List Assign × List Word × List Redirect :=
      if words.isEmpty then (line, assigns ++ [a], words, redirects)
      else (line, assigns, words ++ [[.assigned a]], redirects)
    let t ← aliased g.commands words.isEmpty assigning fun _ => false
    let isSecond := extended && words.length == 1 && assigns.isEmpty && redirects.isEmpty
    let reached := (← get).line
    let line := match isSecond, t with
      | true, .word _ | true, .assign _ => reached
      | _, _ => line
    match t with
    | .assign a => return .inl (take line a)
    | .word w =>
      match if assigning then w.assignment? extended else none with
      | some a => return .inl (take line a)
      | none => return .inl (line, assigns, words ++ [w], redirects)
    | .redirect fd kind => return .inl (line, assigns, words, redirects ++ [← g.redirect fd kind])
    | t =>
      match words with
      | [w] =>
        if t.isSign "(" && assigns.isEmpty && redirects.isEmpty then return .inr (← g.function w)
        else
          putBack t
          return .inr (.simple line assigns words redirects)
      | _ =>
        putBack t
        return .inr (.simple line assigns words redirects)) (first, [], [], [])

/-- What follows the first keyword of a condition. -/
def condition (g : Grammar) : Read Command := do
  let test ← g.body
  g.require "then"
  let yes ← g.body
  let arms ← untilDone (fun (arms : List (Command × Command)) => do
    if ← g.acceptKeyword "elif" then
      let test ← g.body
      g.require "then"
      return .inl ((test, ← g.body) :: arms)
    else return .inr arms) [(test, yes)]
  let no ← if ← g.acceptKeyword "else" then g.body else pure .nothing
  g.require "fi"
  return arms.foldl (fun no (test, yes) => .conditional test yes no) no

/-- What follows the first keyword of a loop. -/
def loop (g : Grammar) (whileHolds : Bool) : Read Command := do
  let test ← g.body
  g.require "do"
  let body ← g.body
  g.require "done"
  return .loop whileHolds test body

/-- The commands that a loop repeats, of which the first token is read. In the extended language
they may stand between braces. -/
def repeated (g : Grammar) (t : Token) : Read Command := do
  let braces := (← get).extended && t.isKeyword "\x7b"
  if !t.isKeyword "do" && !braces then unexpectedFor t "\"do\""
  let body ← g.body
  g.require (if braces then "\x7d" else "done")
  return body

/-- What follows the first keyword of a loop that counts, its two parentheses passed. -/
def count (g : Grammar) (line : Nat) : Read Command := do
  let clause := readParts g.commands .clause
  let before := (← get).rest
  let pass (c : Char) : Read Unit := do
    if !(← accept c) then
      let taken := before.take (before.length - (← get).rest.length)
      fun r => .error ⟨r.line, ["syntax error: arithmetic expression required",
        "syntax error: " ++ cited ("((" ++ String.ofList taken ++ "))")], none⟩
  let start ← clause
  pass ';'
  let test ← clause
  pass ';'
  let step ← clause
  pass ')'
  pass ')'
  let t ← g.nextOnLine
  let t ← if t.isSign ";" then g.nextOnLine else pure t
  return .count line start test step (← g.repeated t)

/-- The name, the words and the commands of a loop over words. -/
def overWords (g : Grammar) : Read (String × List Word × Command) := do
  let t ← g.next
  let name := t.literal?.getD ""
  if !isName name then
    if !(← get).extended then refuse "Bad for loop variable"
    else if name.isEmpty then unexpected t
  let t ← g.nextOnLine
  let words ← if t.isKeyword "in" then
      untilDone (fun words => do
        match ← g.next with
        | .word w => return .inl (words ++ [w])
        | .newline => return .inr words
        | t => if t.isSign ";" then return .inr words else unexpected t) []
    else do
      if !t.isSign ";" then putBack t
      pure [[.plainParam "@" true]]
  return (name, words, ← g.repeated (← g.nextOnLine))

/-- What follows the first keyword of a loop over words, or of one that counts. -/
def each (g : Grammar) : Read Command := do
  let line := (← get).line
  if (← get).extended then
    skipBlanks
    match (← get).rest with
    | '(' :: '(' :: _ =>
      skipChars 2
      return ← g.count line
    | _ => pure ()
  let (name, words, body) ← g.overWords
  return .each line name words body

/-- The word that a token is taken for in a list of patterns. -/
def pattern : Token → Word
  | .word w => w
  | _ => []

/-- The patterns of an arm, of which the first token is read. -/
def patterns (g : Grammar) (t : Token) : Read (List Word) := do
  let t ← if t.isSign "(" then g.next else pure t
  untilDone (fun found => do
    let t ← g.next
    if t.isSign "|" then return .inl (found ++ [pattern (← g.next)])
    else if t.isSign ")" then return .inr found
    else unexpectedFor t "\")\"") [pattern t]

/-- What follows the first keyword of a choice. -/
def choice (g : Grammar) : Read Command := do
  let line := (← get).line
  let subject ← match ← g.next with
    | .word w => pure w
    | t => unexpectedFor t "word"
  let t ← g.nextOnLine
  if !t.isKeyword "in" then unexpectedFor t "\"in\""
  let arms ← untilDone (fun (arms : List (List Word × Command × ArmEnd)) => do
    let t ← g.nextOnLine
    if t.isKeyword "esac" then return .inr arms
    let patterns ← g.patterns t
    let body := (← g.list .perhaps).getD .nothing
    let t ← g.nextOnLine
    let ended (e : ArmEnd) := arms ++ [(patterns, body, e)]
    if t.isKeyword "esac" then return .inr (ended .stop)
    else if t.isSign ";;" then return .inl (ended .stop)
    else if t.isSign ";&" then return .inl (ended .fall)
    else if t.isSign ";;&" then return .inl (ended .again)
    else unexpectedFor t "\";;\"") []
  return .choice line subject arms

/-! ## Conditions -/

/-- The operators of conditions that stand before one operand. -/
def unaryTests : List String :=
  ["-a", "-b", "-c", "-d", "-e", "-f", "-g", "-h", "-k", "-n", "-o", "-p", "-r", "-s", "-t", "-u",
    "-v", "-w", "-x", "-z", "-G", "-L", "-N", "-O", "-R", "-S"]

/-- The operators of conditions that stand between two operands. -/
def binaryTests : List String :=
  ["=", "==", "!=", "=~", "-eq", "-ne", "-lt", "-le", "-gt", "-ge", "-nt", "-ot", "-ef"]

/-- Refuses the last token in a condition. -/
def refuseTest {α : Type} (first : List String) : Read α :=
  refuseAtMark fun m => first ++ ["syntax error near " ++ cited (m.text.trimAsciiEnd.toString)]

/-- The operator between operands that a token is. -/
def binaryTest? : Token → Option String
  | .redirect 0 (.file .read) => some "<"
  | .redirect 1 (.file .write) => some ">"
  | t => t.literal?.bind fun s => if binaryTests.contains s then some s else none

/-- The operand behind an operator. That of the one for regular expressions has its own form. -/
def testOperand (g : Grammar) (operator : String) : Read Word := do
  if operator == "=~" then
    skipBlanks
    readParts g.commands .regex
  else
    let groups := (← get).groups
    modify fun r => { r with groups := true }
    let t ← g.next
    modify fun r => { r with groups := groups }
    match t with
    | .word w =>
      if w.literal? == some "]]" then
        refuseTest ["unexpected argument " ++ cited "]]" ++ " to conditional binary operator"]
      else return w
    | _ => refuseTest ["unexpected argument to conditional binary operator"]

/-- A condition that no sign joins. -/
def testTerm (g : Grammar) (inner : Read Test) (term : Read Test) : Read Test := do
  let t ← g.nextOnLine
  if t.isSign "(" then
    let found ← inner
    let t ← g.nextOnLine
    if t.isSign ")" then return found else refuseTest ["expected " ++ cited ")"]
  else match t with
    | .word w =>
      let written := (← get).mark.text
      match w.literal? with
      | some "!" => return .negation (← term)
      | some "]]" => do
        discard g.next
        refuseTest []
      | literal =>
        let operator := literal.getD ""
        let second ← g.next
        if unaryTests.contains operator && (binaryTest? second).isNone then
          match second with
          | .word w =>
            if w.literal? == some "]]" then do
              discard g.next
              refuseTest ["unexpected argument " ++ cited "]]" ++ " to conditional unary operator"]
            else return .one operator w
          | _ => refuseTest ["unexpected argument to conditional unary operator"]
        else match binaryTest? second with
          | some operator => return .two operator w (← g.testOperand operator)
          | none =>
            if second.literal? == some "]]" || second.isSign "&&" || second.isSign "||" ||
                second.isSign ")" then
              putBack second
              return .filled w
            else
              let expected := "conditional binary operator expected"
              match second with
              | .newline => refuseAtMark fun _ =>
                ["unexpected token " ++ cited "newline" ++ ", " ++ expected,
                  "syntax error near " ++ cited written]
              | _ => refuseTest [expected]
    | .eof => unexpected t
    | _ => refuseTest ["syntax error in conditional expression"]

/-- Conditions joined by signs, those of the stronger sign first. -/
def testLevel (g : Grammar) : Nat → Nat → Read Test
  | 0, _ => refuse "syntax error: unexpected end of file"
  | fuel + 1, level => do
    let inner : Read Test := match level with
      | 0 => g.testLevel fuel 1
      | _ => g.testTerm (g.testLevel fuel 0) (g.testLevel fuel 2)
    let first ← inner
    if level ≥ 2 then return first
    let sign := if level == 0 then "||" else "&&"
    untilDone (fun found => do
      let t ← g.nextOnLine
      if t.isSign sign then
        let second ← inner
        return .inl (if level == 0 then .either found second else .both found second)
      else
        putBack t
        return .inr found) first

/-- What follows the brackets that open a condition. -/
def test (g : Grammar) (line : Nat) : Read Command := do
  let found ← g.testLevel 50 0
  let t ← g.nextOnLine
  if t.literal? == some "]]" then return .test line found
  else match t with
    | .eof => unexpected t
    | _ => refuseTest ["syntax error in conditional expression"]

/-! ## Commands -/

/-- A command of the extended language that a word starts. -/
def extendedBare (g : Grammar) (line : Nat) (t : Token) : Read (Option Command) := do
  match t.literal? with
  | some "[[" => return some (← g.test line)
  | some "function" => return some (← g.keywordFunction)
  | some "select" =>
    let (name, words, body) ← g.overWords
    return some (.select line name words body)
  | _ => return none

/-- The expression between double parentheses, of which the first is passed. -/
def expression (g : Grammar) : Read (Option Word) :=
  attemptExpression do
    if ← accept '(' then return some (← readParts g.commands .number) else return none

/-- A command without the redirections behind it, unless it has its own. -/
def bare (g : Grammar) (t : Token) : Read (Option Command) := do
  match t.keyword? with
  | some "if" => return some (← g.condition)
  | some "while" => return some (← g.loop true)
  | some "until" => return some (← g.loop false)
  | some "for" => return some (← g.each)
  | some "case" => return some (← g.choice)
  | some "\x7b" =>
    let body ← g.body
    g.require "\x7d"
    return some body
  | some _ => unexpected t
  | none => return none

/-- A command. -/
def readCommand (g : Grammar) : Read Command := do
  let t ← g.start
  let line ← commandLine
  let extended := (← get).extended
  let behind (c : Command) : Read Command := do
    match ← g.redirects with
    | [] => return c
    | found => return .redirected line c found
  if t.isSign "(" then
    let expr ← if extended then g.expression else pure none
    match expr with
    | some expr => behind (.arithmetic line expr)
    | none =>
      let body ← g.body
      let t ← g.next
      if !t.isSign ")" then unexpectedFor t "\")\""
      return .subshell line body (← g.redirects)
  else
    let found ← if extended then g.extendedBare line t else pure none
    let found ← match found with
      | some c => pure (some c)
      | none => g.bare t
    match found with
    | some c => behind c
    | none =>
      match t with
      | .word _ | .assign _ | .redirect _ _ =>
        putBack t
        g.simple
      | t => unexpected t

/-- What stands before the commands of a pipeline: whether its status is turned round, and in which
form its time is told. -/
structure Lead where
  marked : Bool
  negated : Bool
  timed : Option Bool

/-- Puts what stands before a pipeline into effect. -/
def Lead.apply (l : Lead) (c : Command) : Command :=
  let c := if l.negated then .negation c else c
  match l.timed with
  | some short => .timed short c
  | none => c

/-- Reads what stands before the commands of a pipeline. -/
def lead (g : Grammar) : Read Lead := do
  let extended := (← get).extended
  untilDone (fun (l : Lead) => do
    if l.marked && !extended then return .inr l
    let t ← g.next
    if t.isKeyword "!" then return .inl { l with marked := true, negated := !l.negated }
    else if extended && t.literal? == some "time" then
      let t ← g.next
      let short := t.literal? == some "-p"
      if !short then putBack t
      return .inl { l with marked := true, timed := some short }
    else
      putBack t
      return .inr l) ⟨false, false, none⟩

/-- Whether a token ends a pipeline without commands. -/
def endsPipeline (t : Token) : Bool :=
  match t with
  | .newline | .eof => true
  | t => t.isSign ";" || t.isSign "&" || t.isSign ")"

/-- Commands joined by pipes. In the extended language there may be none behind what stands before
them. -/
def pipeline (g : Grammar) : Read Command := do
  let l ← g.lead
  if l.marked && (← get).extended then
    let t ← g.next
    putBack t
    if endsPipeline t then return l.apply (.simple (← commandLine) [] [] [])
  let first ← g.readCommand
  let stages ← untilDone (fun stages => do
    let t ← g.next
    if t.isSign "|" || t.isSign "|&" then
      let line ← commandLine
      let toOutput (c : Command) : Command := .redirected line c [.copy 2 [.text "1" false]]
      let stages := if t.isSign "|" then stages
        else stages.dropLast ++ stages.getLast?.toList.map toOutput
      putBack (← g.startOnLine)
      return .inl (stages ++ [← g.readCommand])
    else
      putBack t
      return .inr stages) [first]
  return l.apply (match stages with
    | [c] => c
    | stages => .pipeline stages)

/-- Pipelines joined by conditions. -/
def chain (g : Grammar) : Read Command := do
  let first ← g.pipeline
  untilDone (fun c => do
    let t ← g.next
    if t.isSign "&&" || t.isSign "||" then
      putBack (← g.startOnLine)
      let second ← g.pipeline
      return .inl (if t.isSign "&&" then .both c second else .either c second)
    else
      putBack t
      return .inr c) first

/-- Whether a token ends the inside of a command. -/
def endsList (t : Token) : Bool :=
  match t with
  | .eof => true
  | .sign s => s == ")" || s == ";;" || s == ";&" || s == ";;&"
  | _ =>
    match t.keyword? with
    | some s => ["then", "else", "elif", "fi", "do", "done", "esac", "\x7d"].contains s
    | none => false

/-- A list of commands. -/
def readList (g : Grammar) (kind : ListKind) : Read (Option Command) :=
  untilDone (fun (found : Option Command × Bool) => do
    let (c, mayEnd) := found
    let t ← if kind == .line then g.start else g.startOnLine
    match t with
    | .newline => return .inr c
    | .eof =>
      let pending := (← get).pending
      modify fun r => { r with pending := [] }
      readDocuments g.commands pending
      putBack .eof
      return .inr c
    | t =>
      putBack t
      if kind != .line && mayEnd && endsList t then return .inr c
      let line := (← get).line
      let last ← g.chain
      let t ← g.next
      let last := if t.isSign "&" then .background line last else last
      let c := some (match c with
        | none => last
        | some c => .sequence c last)
      match t with
      | .eof =>
        putBack t
        return .inl (c, true)
      | .newline =>
        if kind == .line then return .inr c else return .inl (c, true)
      | t =>
        if t.isSign ";" || t.isSign "&" then return .inl (c, true)
        else if kind == .line then unexpected t
        else
          putBack t
          return .inr c) (none, kind == .perhaps)

end Grammar

/-- The grammar for commands nested to a depth. -/
def grammar : Nat → Grammar
  | 0 => ⟨fun _ => refuse "end of file unexpected", refuse "end of file unexpected"⟩
  | depth + 1 => ⟨(grammar depth).readList, (grammar depth).readCommand⟩

/-- The next line of commands; nothing at the end of the script. -/
def readLine : Read (Option Command) := do
  let c ← (grammar 200).list .line
  match c, (← get).ahead with
  | none, some .eof => return none
  | c, _ => return some (c.getD .nothing)

end TensorCompiler.Script
