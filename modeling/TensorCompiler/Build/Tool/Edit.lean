import TensorCompiler.Build.Regex
import TensorCompiler.Build.Tool.Basic

/-!
# Editing lines

Runs a script of editing commands on every line of texts. The commands stand in a row; a group of
them is entered or left by its number in that row.
-/

namespace TensorCompiler.Tool.Edit

/-- An expression with the options of its search. An empty one stands for the last that was used. -/
structure Pattern where
  regex : Option Regex
  options : Regex.Options

/-- A line that a command is about. -/
inductive Address where
  | line (n : Nat)
  | step (first step : Nat)
  | last
  | pattern (p : Pattern)

/-- The last line of a range. -/
inductive RangeEnd where
  | address (a : Address)
  | count (n : Nat)
  | multiple (n : Nat)

/-- The lines that a command is about. -/
structure Where where
  first : Option Address
  last : Option RangeEnd
  negated : Bool

/-- A piece of a replacement. -/
inductive Piece where
  | char (c : Char)
  | group (n : Nat)
  /-- A change of case: to all that follows or to one character, or the end of such a change. -/
  | case (c : Char)

/-- A replacement of matches. -/
structure Substitution where
  pattern : Pattern
  pieces : List Piece
  every : Bool
  print : Bool
  nth : Nat
  file : Option String

/-- What a command does. -/
inductive Action where
  | simple (letter : Char)
  | quit (silent : Bool) (status : Nat)
  | text (letter : Char) (text : String)
  | substitute (s : Substitution)
  | map (pairs : List (Char × Char))
  | label (name : String)
  | jump (letter : Char) (label : String)
  | file (letter : Char) (path : String)
  /-- A group that ends at a command. -/
  | opening (stop : Nat)

/-- A command. -/
structure Command where
  spot : Where
  action : Action

/-! ## Reading -/

/-- A script that is being read. -/
structure Reader where
  rest : List Char
  size : Nat
  /-- Which part of the script this is. -/
  number : Nat
  extended : Bool
  done : List Command
  /-- The groups that are open, by the numbers of their commands. -/
  openGroups : List Nat

/-- A step that reads on. -/
abbrev Read := StateT Reader (Except String)

/-- Refuses the script where it is read. -/
def refuse {α : Type} (text : String) : Read α := fun r =>
  .error ("-e expression #" ++ Text.ofNat r.number ++ ", char " ++
    Text.ofNat (r.size - r.rest.length) ++ ": " ++ text)

/-- A name between the marks that stand around names here. -/
def named (s : String) : String :=
  String.singleton (Char.ofNat 96) ++ s ++ mark

/-- The next character. -/
def peek? : Read (Option Char) := return (← get).rest.head?

/-- Passes over the next character. -/
def skip : Read Unit := modify fun r => { r with rest := r.rest.tail }

/-- The next characters of a kind. -/
def takeRun (p : Char → Bool) : Read (List Char) := do
  let found := (← get).rest.takeWhile p
  modify fun r => { r with rest := r.rest.drop found.length }
  return found

/-- Passes over characters of a kind. -/
def skipRun (p : Char → Bool) : Read Unit := discard (takeRun p)

/-- A blank within a line. -/
def isBlank (c : Char) : Bool := c == ' ' || c == '\t'

/-- A blank or the end of a line. -/
def isSpace (c : Char) : Bool := isBlank c || c == '\n' || c == '\r'

/-- A number. -/
def number? : Read (Option Nat) := do return Text.readNat? (← takeRun Char.isDigit)

/-- The character that a letter behind a backslash stands for. -/
def control? (c : Char) : Option Char :=
  match c with
  | 'n' => some '\n'
  | 't' => some '\t'
  | 'r' => some '\r'
  | 'f' => some (Char.ofNat 12)
  | 'v' => some (Char.ofNat 11)
  | 'a' => some (Char.ofNat 7)
  | _ => none

/-- The length of a set between brackets at the start of a text, its brackets included. -/
def bracketLength? (cs : List Char) : Option Nat :=
  let inside := match cs with
    | '[' :: '^' :: rest => rest
    | '[' :: rest => rest
    | _ => []
  (Glob.items (inside.length + 1) true (inside.map fun c => ⟨c, false⟩)).map fun (_, rest) =>
    cs.length - rest.length

/-- The text up to a mark. A backslash before the mark is dropped, and other escapes are kept. In an
expression the mark may stand inside brackets. -/
def upTo (mark : Char) (isRegex : Bool) :
    Nat → List Char → List Char → Option (List Char × List Char)
  | 0, _, _ => none
  | _, _, [] => none
  | fuel + 1, taken, c :: cs =>
    if c == mark then some (taken.reverse, cs)
    else if c == '\\' then
      match cs with
      | [] => none
      | d :: ds =>
        if d == mark then upTo mark isRegex fuel (d :: taken) ds
        else if d == '\n' && isRegex then upTo mark isRegex fuel ('\n' :: taken) ds
        else upTo mark isRegex fuel (d :: '\\' :: taken) ds
    else if c == '[' && isRegex then
      match bracketLength? (c :: cs) with
      | some n => upTo mark isRegex fuel (((c :: cs).take n).reverse ++ taken) ((c :: cs).drop n)
      | none => none
    else if c == '\n' && isRegex then none
    else upTo mark isRegex fuel (c :: taken) cs

/-- Reads up to a mark, or refuses. -/
def delimited (mark : Char) (isRegex : Bool) (fault : String) : Read (List Char) := do
  let rest := (← get).rest
  match upTo mark isRegex (rest.length + 1) [] rest with
  | some (found, rest) =>
    modify fun r => { r with rest := rest }
    return found
  | none =>
    modify fun r => { r with rest := [] }
    refuse fault

/-- An expression with its escapes for single characters replaced. -/
def plainEscapes : List Char → List Char
  | '\\' :: c :: cs =>
    match control? c with
    | some d => d :: plainEscapes cs
    | none => '\\' :: c :: plainEscapes cs
  | c :: cs => c :: plainEscapes cs
  | [] => []

/-- The pattern that a text writes. -/
def pattern (ignoreCase multiline : Bool) (text : List Char) : Read Pattern := do
  let extended := (← get).extended
  let o : Regex.Options := ⟨ignoreCase, multiline, extended⟩
  if text.isEmpty then return ⟨none, o⟩
  match Regex.read ⟨extended, true, false⟩ (plainEscapes text) with
  | .ok r => return ⟨some r, o⟩
  | .error .confusing => fun _ => .error Regex.Fault.confusing.text
  | .error fault => refuse fault.text

/-- An address. -/
def address? : Read (Option Address) := do
  match ← peek? with
  | none => return none
  | some c =>
    if c == '$' then
      skip
      return some .last
    else if c == '/' || c == '\\' then
      skip
      let mark ← if c == '/' then pure '/' else do
        let d ← peek?
        skip
        pure (d.getD '/')
      let text ← delimited mark true "unterminated address regex"
      let flags ← takeRun fun c => c == 'I' || c == 'M'
      return some (.pattern (← pattern (flags.contains 'I') (flags.contains 'M') text))
    else if c.isDigit then
      let n := (← number?).getD 0
      skipRun isBlank
      if (← peek?) == some '~' then
        skip
        return some (.step n ((← number?).getD 0))
      else return some (.line n)
    else return none

/-- The lines that a command is about. -/
def readWhere : Read Where := do
  let first ← address?
  skipRun isBlank
  let last ← if first.isSome && (← peek?) == some ',' then do
      skip
      skipRun isBlank
      match ← peek? with
      | some '+' =>
        skip
        pure (some (RangeEnd.count ((← number?).getD 0)))
      | some '~' =>
        skip
        pure (some (RangeEnd.multiple ((← number?).getD 0)))
      | _ =>
        match ← address? with
        | some a => pure (some (RangeEnd.address a))
        | none => do
          skip
          refuse ("unexpected " ++ named ",")
    else pure none
  match first, last with
  | some (.line 0), some (.address (.pattern _)) => pure ()
  | some (.line 0), _ => do
    skip
    refuse "invalid usage of line address 0"
  | _, _ => pure ()
  skipRun isBlank
  let marks ← takeRun fun c => c == '!' || isBlank c
  return ⟨first, last, marks.contains '!'⟩

/-- Passes the end of a command. -/
def endCommand : Read Unit := do
  skipRun isBlank
  match ← peek? with
  | none => return
  | some c =>
    if c == ';' || c == '\n' then skip
    else if c == '#' || c == '\x7d' then return
    else
      skip
      refuse "extra characters after command"

/-- The rest of a line. -/
def restOfLine : Read String := do
  let found ← takeRun (· != '\n')
  skip
  return String.ofList found

/-- A text with the backslashes before its characters dropped, up to a line break without one. -/
def continued : Nat → List Char → List Char → List Char × List Char
  | 0, taken, cs => (taken.reverse, cs)
  | _, taken, [] => (taken.reverse, [])
  | fuel + 1, taken, c :: cs =>
    if c == '\n' then (taken.reverse, cs)
    else if c == '\\' then
      match cs with
      | [] => (taken.reverse, [])
      | d :: ds => continued fuel ((control? d).getD d :: taken) ds
    else continued fuel (c :: taken) cs

/-- The text of a command that adds one. -/
def addedText (letter : Char) : Read Action := do
  skipRun isBlank
  match ← peek? with
  | none => refuse ("expected \\ after " ++ named "a" ++ ", " ++ named "c" ++ " or " ++ named "i")
  | some c =>
    if c == '\\' then
      skip
      if (← peek?) == some '\n' then skip
    let r ← get
    let (text, rest) := continued (r.rest.length + 1) [] r.rest
    set { r with rest := rest }
    return .text letter (String.ofList text ++ "\n")

/-- The pieces of a replacement. -/
def pieces : List Char → List Piece
  | '\\' :: c :: cs =>
    if c.isDigit then .group (c.toNat - 48) :: pieces cs
    else if c == '&' then .char '&' :: pieces cs
    else if "LUElu".toList.contains c then .case c :: pieces cs
    else .char ((control? c).getD c) :: pieces cs
  | '&' :: cs => .group 0 :: pieces cs
  | c :: cs => .char c :: pieces cs
  | [] => []

/-- The flags behind a substitution. -/
structure Flags where
  every : Bool
  print : Bool
  ignoreCase : Bool
  multiline : Bool
  nth : Option Nat
  file : Option String

/-- Reads the flags behind a substitution. -/
def flags : Nat → Flags → Read Flags
  | 0, f => return f
  | fuel + 1, f => do
    match ← peek? with
    | none => return f
    | some c =>
      if c.isDigit then
        if f.nth.isSome then
          skip
          refuse ("multiple number options to " ++ named "s" ++ " command")
        else
          let n := (← number?).getD 0
          if n == 0 then refuse ("number option to " ++ named "s" ++ " command may not be zero")
          else flags fuel { f with nth := some n }
      else if c == '\x7d' || c == '#' || c == ';' || isSpace c then
        endCommand
        return f
      else
        skip
        match c with
        | 'g' =>
          if f.every then
            refuse ("multiple " ++ named "g" ++ " options to " ++ named "s" ++ " command")
          else flags fuel { f with every := true }
        | 'p' =>
          if f.print then
            refuse ("multiple " ++ named "p" ++ " options to " ++ named "s" ++ " command")
          else flags fuel { f with print := true }
        | 'i' | 'I' => flags fuel { f with ignoreCase := true }
        | 'm' | 'M' => flags fuel { f with multiline := true }
        | 'w' =>
          skipRun isBlank
          let path ← restOfLine
          if path.isEmpty then refuse "missing filename in r/R/w/W commands"
          else return { f with file := some path }
        | _ => refuse ("unknown option to " ++ named "s")

/-- A substitution, its letter passed. -/
def substitution : Read Action := do
  let fault := "unterminated " ++ named "s" ++ " command"
  match ← peek? with
  | none => refuse fault
  | some mark =>
    skip
    let text ← delimited mark true fault
    let replacement ← delimited mark false fault
    let f ← flags 100 ⟨false, false, false, false, none, none⟩
    let p ← pattern f.ignoreCase f.multiline text
    let found := pieces replacement
    let groups := (p.regex.map Regex.groupCount).getD 9
    match found.findSome? fun
      | .group n => if n > groups then some n else none
      | _ => none with
    | some n =>
      refuse ("invalid reference \\" ++ Text.ofNat n ++ " on " ++ named "s" ++ " command's RHS")
    | none => return .substitute ⟨p, found, f.every, f.print, f.nth.getD 1, f.file⟩

/-- The characters of a list of those to be replaced. -/
def mapChars : List Char → List Char
  | '\\' :: c :: cs => (if c == '\\' then '\\' else (control? c).getD c) :: mapChars cs
  | c :: cs => c :: mapChars cs
  | [] => []

/-- A replacement of characters, its letter passed. -/
def mapping : Read Action := do
  let fault := "unterminated " ++ named "y" ++ " command"
  match ← peek? with
  | none => refuse fault
  | some mark =>
    skip
    let a := mapChars (← delimited mark false fault)
    let b := mapChars (← delimited mark false fault)
    if a.length != b.length then
      refuse ("strings for " ++ named "y" ++ " command are different lengths")
    else
      endCommand
      return .map (a.zip b)

/-- The commands of one letter that take nothing. -/
def simpleLetters : List Char := "=dDgGhHnNpPxlzF".toList

/-- Adds a command. -/
def addCommand (spot : Where) (a : Action) : Read Unit :=
  modify fun r => { r with done := r.done ++ [⟨spot, a⟩] }

/-- One command, or what stands between two. -/
def readCommand : Read Unit := do
  skipRun fun c => isSpace c || c == ';'
  if (← peek?) == none then return
  let spot ← readWhere
  match ← peek? with
  | none => refuse "missing command"
  | some c =>
    skip
    if simpleLetters.contains c then
      endCommand
      addCommand spot (.simple c)
    else
      match c with
      | '#' => discard restOfLine
      | '\x7b' =>
        modify fun r => { r with openGroups := r.done.length :: r.openGroups }
        addCommand spot (.opening 0)
      | '\x7d' =>
        let r ← get
        match r.openGroups with
        | [] => refuse ("unexpected " ++ named "\x7d")
        | start :: others =>
          if spot.first.isSome then refuse "\x7d doesn't want any addresses"
          let done := r.done.zipIdx.map fun (command, i) =>
            if i == start then { command with action := .opening r.done.length } else command
          set { r with done := done, openGroups := others }
          endCommand
      | 'q' | 'Q' =>
        skipRun isBlank
        let status := (← number?).getD 0
        endCommand
        addCommand spot (.quit (c == 'Q') status)
      | 'a' | 'i' | 'c' => addCommand spot (← addedText c)
      | 's' => addCommand spot (← substitution)
      | 'y' => addCommand spot (← mapping)
      | ':' =>
        skipRun isBlank
        let name ← takeRun fun c => c != '\n' && c != ';'
        let name := (name.reverse.dropWhile isBlank).reverse
        if name.isEmpty then refuse "\":\" lacks a label"
        addCommand spot (.label (String.ofList name))
      | 'b' | 't' | 'T' =>
        skipRun isBlank
        let name ← takeRun fun c => c != '\n' && c != ';' && c != '\x7d'
        let name := (name.reverse.dropWhile isBlank).reverse
        endCommand
        addCommand spot (.jump c (String.ofList name))
      | 'r' | 'w' | 'R' | 'W' =>
        skipRun isBlank
        let path ← restOfLine
        if path.isEmpty then refuse "missing filename in r/R/w/W commands"
        addCommand spot (.file c path)
      | c => refuse ("unknown command: " ++ named (String.singleton c))

/-- The commands of a part of a script. -/
def readPart : Nat → Read Unit
  | 0 => return
  | fuel + 1 => do
    if (← get).rest.isEmpty then return
    readCommand
    readPart fuel

/-- Whether a text ends in a backslash that escapes what comes next. -/
def endsOpen (s : String) : Bool :=
  (s.toList.reverse.takeWhile (· == '\\')).length % 2 == 1

/-- The parts of a script. One that ends in a backslash goes on in the next. -/
def joinOpen : List String → List String
  | [] => []
  | p :: ps =>
    match joinOpen ps with
    | [] => [p]
    | q :: qs => if endsOpen p then (p ++ "\n" ++ q) :: qs else p :: q :: qs

/-- Reads the parts of a script one after the other. -/
def readParts (parts : List String) : Read (List Command) := do
  for p in joinOpen parts do
    modify fun r => { r with rest := p.toList, size := p.length, number := r.number + 1 }
    readPart (p.length + 1)
  let r ← get
  if !r.openGroups.isEmpty then
    fun _ => .error ("-e expression #1, char 0: unmatched " ++ named "\x7b")
  else return r.done

/-- Reads a script. -/
def read (extended : Bool) (parts : List String) : Except String (List Command) := do
  let (commands, _) ← readParts parts ⟨[], 0, 0, extended, [], []⟩
  let labels := commands.filterMap fun c => match c.action with
    | .label name => some name
    | _ => none
  match commands.findSome? fun c => match c.action with
    | .jump _ name => if name.isEmpty || labels.contains name then none else some name
    | _ => none with
  | some name => .error ("can't find label for jump to " ++ named name)
  | none => return commands

/-! ## Running -/

/-- A line of a text: what it says, whether a break ends it, and whether it is the last of its file.
-/
structure Line where
  text : String
  broken : Bool
  lastOfFile : Bool
  file : String

/-- An editor between two commands. -/
structure State where
  space : String
  hold : String
  line : Nat
  rest : List Line
  current : Line
  /-- The ranges that are entered, with the number of their last line if it is known. -/
  active : List (Nat × Option Nat)
  /-- What is printed when the line is done. -/
  queue : List String
  replaced : Bool
  lastPattern : Option Pattern
  /-- Whether the last pattern was asked for before there was one. -/
  orphaned : Bool
  out : String
  /-- Whether the output ends in a line without a break. -/
  unbroken : Bool
  files : List (String × String)
  status : Nat

/-- How an editor goes on. -/
inductive Flow where
  | next
  | jump (command : Nat)
  /-- Ends the commands for this line, printing it or not. -/
  | cycle (print : Bool)
  /-- Starts the commands again without reading a line. -/
  | restart
  | quit (print : Bool)

/-- How an editor works. -/
structure Mode where
  silent : Bool
  separate : Bool
  commands : List Command

/-- Adds a text to the output. -/
def State.emit (s : State) (text : String) (broken : Bool) : State :=
  { s with
    out := s.out ++ (if s.unbroken then "\n" else "") ++ text ++ (if broken then "\n" else "")
    unbroken := !broken }

/-- Prints the line that is being edited. -/
def State.print (s : State) : State := s.emit s.space s.current.broken

/-- Whether this is the last line. -/
def State.isLast (s : State) (m : Mode) : Bool :=
  s.rest.isEmpty || (m.separate && s.current.lastOfFile)

/-- Whether a pattern occurs in the line, and the editor that remembers the pattern. -/
def State.finds (s : State) (p : Pattern) : Bool × State :=
  let used : Pattern := match p.regex, s.lastPattern with
    | none, some q => q
    | _, _ => p
  match used.regex with
  | none => (true, { s with orphaned := true })
  | some r =>
    ((Regex.search? used.options r s.space.toList).isSome, { s with lastPattern := some used })

/-- Whether an address names the line. -/
def State.isAt (s : State) (m : Mode) : Address → Bool × State
  | .line n => (s.line == n, s)
  | .step first step =>
    (if step == 0 then s.line == first else s.line ≥ first && (s.line - first) % step == 0, s)
  | .last => (s.isLast m, s)
  | .pattern p => s.finds p

/-- Enters a range at its first line, or is done with it at once. -/
def State.enter (s : State) (i : Nat) (last : RangeEnd) : State :=
  let until_ (n : Nat) : State :=
    if n > s.line then { s with active := (i, some n) :: s.active } else s
  match last with
  | .address (.line n) => until_ n
  | .count n => until_ (s.line + n)
  | .multiple n => until_ (if n == 0 then s.line else (s.line + n - 1) / n * n)
  | .address _ => { s with active := (i, none) :: s.active }

/-- Leaves a range. -/
def State.leave (s : State) (i : Nat) : State :=
  { s with active := s.active.filter (·.1 != i) }

/-- Whether a command is about the line. -/
def State.concerns (s : State) (m : Mode) (i : Nat) (spot : Where) : Bool × State :=
  let (found, s) := match spot.first, spot.last with
    | none, _ => (true, s)
    | some a, none => s.isAt m a
    | some a, some last =>
      match s.active.find? (·.1 == i), last with
      | some (_, some n), _ =>
        if s.line ≥ n then (s.line == n, s.leave i) else (true, s)
      | some (_, none), .address b =>
        let (ended, s) := s.isAt m b
        (true, if ended then s.leave i else s)
      | some _, _ => (true, s)
      | none, last =>
        match a, last with
        | .line 0, .address b =>
          if s.line == 1 then
            let (ended, s) := s.isAt m b
            (true, if ended then s else { s with active := (i, none) :: s.active })
          else (false, s)
        | a, last =>
          let (starts, s) := s.isAt m a
          if starts then (true, s.enter i last) else (false, s)
  (found != spot.negated, s)

/-- The characters of a replacement with its changes of case. -/
def applyCase : Option Char → Option Char → List (Sum Char Char) → List Char
  | _, _, [] => []
  | lasting, once, .inr c :: rest =>
    if c == 'E' then applyCase none none rest
    else if c == 'U' || c == 'L' then applyCase (some c) once rest
    else applyCase lasting (some c) rest
  | lasting, once, .inl c :: rest =>
    let d := match once, lasting with
      | some 'u', _ => c.toUpper
      | some 'l', _ => c.toLower
      | _, some 'U' => c.toUpper
      | _, some 'L' => c.toLower
      | _, _ => c
    d :: applyCase lasting none rest

/-- What stands for a match. -/
def replacement (ps : List Piece) (text : List Char) (found : Regex.Found) : List Char :=
  applyCase none none (ps.flatMap fun
    | .char c => [.inl c]
    | .case c => [.inr c]
    | .group n =>
      let cs := if n == 0 then (text.drop found.start).take (found.stop.position - found.start)
        else (found.stop.group? text n).getD []
      cs.map .inl)

/-- The text with matches replaced, and whether there was one. `count` matches came before. -/
def replace (o : Regex.Options) (r : Regex) (s : Substitution) (text : List Char) :
    Nat → Nat → Option Char → Nat → List Char → Option Nat → List Char × Bool
  | 0, _, _, _, rest, _ => (rest, false)
  | fuel + 1, count, before, position, rest, lastEnd =>
    match Regex.searchFrom? o r text before position rest with
    | none => (rest, false)
    | some found =>
      let stop := found.stop
      let skipped := (text.drop position).take (found.start - position)
      let isEmpty := stop.position == found.start
      if isEmpty && lastEnd == some found.start then
        match stop.rest with
        | [] => (skipped, false)
        | c :: cs =>
          let (out, any) := replace o r s text fuel count (some c) (stop.position + 1) cs none
          (skipped ++ c :: out, any)
      else
        let chosen := count + 1 == s.nth || (s.every && count + 1 > s.nth)
        let matched := (text.drop found.start).take (stop.position - found.start)
        let shown := if chosen then replacement s.pieces text found else matched
        if chosen && !s.every then (skipped ++ shown ++ stop.rest, true)
        else
          let (step, before, position, rest) := match isEmpty, stop.rest with
            | true, c :: cs => ([c], some c, stop.position + 1, cs)
            | _, rest => ([], stop.before, stop.position, rest)
          if isEmpty && stop.rest.isEmpty then (skipped ++ shown, chosen)
          else
            let (out, any) := replace o r s text fuel (count + 1) before position rest
              (some stop.position)
            (skipped ++ shown ++ step ++ out, any || chosen)

/-- A line in a form without doubt. -/
def unambiguous (s : String) : String :=
  let show_ (c : Char) : List Char :=
    if c == '\\' then ['\\', '\\'] else if isShown c then [c] else (byteEscape c).toList
  let rec wrap (n : Nat) : List (List Char) → List Char
    | [] => ['$']
    | cs :: rest => if n + cs.length > 69 then '\\' :: '\n' :: cs ++ wrap cs.length rest
      else cs ++ wrap (n + cs.length) rest
  String.ofList (wrap 0 (s.toList.map show_))

/-- Reads the next line into the editor. -/
def State.advance (s : State) : Option State :=
  match s.rest with
  | [] => none
  | l :: rest => some { s with space := l.text, current := l, rest := rest, line := s.line + 1 }

/-- Prints what waits for the end of the line. -/
def State.flush (s : State) : State :=
  s.queue.foldl (fun s text =>
    let broken := text.endsWith "\n"
    s.emit (if broken then (text.dropEnd 1).toString else text) broken) { s with queue := [] }

/-- Adds a text to a file that is written. -/
def State.writeFile (s : State) (path text : String) : State :=
  if path == "/dev/stdout" then s.emit text true
  else
    let old := ((s.files.find? (·.1 == path)).map Prod.snd).getD ""
    { s with files := (path, old ++ text ++ "\n") :: s.files.filter (·.1 != path) }

/-- The text up to the first line break, and the text behind it. -/
def splitFirst (s : String) : String × Option String :=
  let cs := s.toList
  let first := cs.takeWhile (· != '\n')
  (String.ofList first, if first.length == cs.length then none
    else some (String.ofList (cs.drop (first.length + 1))))

/-- Runs a command of one letter. -/
def State.simple (s : State) (m : Mode) (letter : Char) : State × Flow :=
  match letter with
  | '=' => (s.emit (Text.ofNat s.line) true, .next)
  | 'd' => (s, .cycle false)
  | 'D' =>
    match splitFirst s.space with
    | (_, none) => (s, .cycle false)
    | (_, some rest) => ({ s with space := rest }, .restart)
  | 'g' => ({ s with space := s.hold }, .next)
  | 'G' => ({ s with space := s.space ++ "\n" ++ s.hold }, .next)
  | 'h' => ({ s with hold := s.space }, .next)
  | 'H' => ({ s with hold := s.hold ++ "\n" ++ s.space }, .next)
  | 'x' => ({ s with hold := s.space, space := s.hold }, .next)
  | 'n' =>
    if s.rest.isEmpty then (s, .quit (!m.silent))
    else
      let s := (if m.silent then s else s.print).flush
      ((s.advance).getD s, .next)
  | 'N' =>
    match { s.flush with queue := [] }.advance with
    | none => (s, .quit (!m.silent))
    | some next => ({ next with space := s.space ++ "\n" ++ next.space }, .next)
  | 'p' => (s.print, .next)
  | 'P' => (s.emit (splitFirst s.space).1 true, .next)
  | 'l' => (s.emit (unambiguous s.space) true, .next)
  | 'z' => ({ s with space := "" }, .next)
  | 'F' => (s.emit s.current.file true, .next)
  | _ => (s, .next)

/-- The number of the command behind a label. -/
def Mode.target (m : Mode) (label : String) : Nat :=
  (m.commands.findIdx? fun c => match c.action with
    | .label name => name == label
    | _ => false).getD m.commands.length

/-- Runs what a command does. -/
def State.act (s : State) (m : Mode) (t : Task) (spot : Where) (i : Nat) : Action → State × Flow
  | .simple letter => s.simple m letter
  | .quit silent status => ({ s with status := status }, .quit (!silent && !m.silent))
  | .text letter text =>
    match letter with
    | 'a' => ({ s with queue := s.queue ++ [text] }, .next)
    | 'i' => ({ s with queue := [text] }.flush |> ({ · with queue := s.queue }), .next)
    | _ =>
      let ended := spot.last.isNone || spot.negated || !s.active.any (·.1 == i)
      (if ended then { s with queue := [text] }.flush |> ({ · with queue := s.queue })
        else s, .cycle false)
  | .map pairs =>
    ({ s with space := String.ofList (s.space.toList.map fun c =>
      ((pairs.find? (·.1 == c)).map Prod.snd).getD c) }, .next)
  | .label _ => (s, .next)
  | .jump letter label =>
    let goes := letter == 'b' || (letter == 't') == s.replaced
    let s := if letter == 'b' then s else { s with replaced := false }
    (s, if goes then .jump (m.target label) else .next)
  | .file letter path =>
    match letter with
    | 'r' => ({ s with queue := s.queue ++ (t.disk.read t.here path).toOption.toList }, .next)
    | 'w' => (s.writeFile path s.space, .next)
    | 'W' => (s.writeFile path (splitFirst s.space).1, .next)
    | _ => (s, .next)
  | .opening _ => (s, .next)
  | .substitute sub =>
    let used : Pattern := match sub.pattern.regex, s.lastPattern with
      | none, some q => q
      | _, _ => sub.pattern
    match used.regex with
    | none => ({ s with orphaned := true }, .quit false)
    | some r =>
      let cs := s.space.toList
      let (out, any) := replace used.options r sub cs (2 * cs.length + 3) 0 none 0 cs none
      let s := { s with lastPattern := some used }
      if !any then (s, .next)
      else
        let s := { s with space := String.ofList out, replaced := true }
        let s := if sub.print then s.print else s
        (match sub.file with
          | some path => s.writeFile path s.space
          | none => s, .next)

/-- Runs commands from one on, until the line is done. -/
def State.runFrom (m : Mode) (t : Task) : Nat → Nat → State → State × Flow
  | 0, _, s => (s, .quit false)
  | fuel + 1, i, s =>
    match m.commands[i]? with
    | none => (s, .cycle (!m.silent))
    | some c =>
      let (concerned, s) := s.concerns m i c.spot
      if s.orphaned then (s, .quit false)
      else if !concerned then
        match c.action with
        | .opening stop => runFrom m t fuel stop s
        | _ => runFrom m t fuel (i + 1) s
      else
        match s.act m t c.spot i c.action with
        | (s, .next) => runFrom m t fuel (i + 1) s
        | (s, .jump j) => runFrom m t fuel j s
        | found => found

/-- Runs the commands for every line that is left. -/
def State.runLines (m : Mode) (t : Task) : Nat → Bool → State → State
  | 0, _, s => s
  | fuel + 1, again, s =>
    match if again then some s else s.advance with
    | none => s
    | some s =>
      match runFrom m t 20000 0 { s with replaced := if again then s.replaced else false } with
      | (s, .quit print) => (if print then s.print else s).flush
      | (s, .restart) => runLines m t fuel true s.flush
      | (s, .cycle print) => runLines m t fuel false (if print then s.print else s).flush
      | (s, _) => runLines m t fuel false s.flush

/-- The lines of a file. -/
def linesOf (file text : String) : List Line :=
  let all := brokenLines text
  all.zipIdx.map fun (l, i) =>
    let broken := l.endsWith "\n"
    ⟨if broken then (l.dropEnd 1).toString else l, broken, i + 1 == all.length, file⟩

/-- An editor before some lines. -/
def State.start (rest : List Line) : State where
  space := ""
  hold := ""
  line := 0
  rest := rest
  current := ⟨"", true, true, "-"⟩
  active := []
  queue := []
  replaced := false
  lastPattern := none
  orphaned := false
  out := ""
  unbroken := false
  files := []
  status := 0

/-- Writes the files that an editor has written. -/
def saveFiles (files : List (String × String)) : Work Unit := do
  let _ ← files.mapM fun (path, text) => do
    let t ← get
    match t.disk.writable t.here path with
    | .ok p => change (·.write p text)
    | .error _ => pure ()

/-- How the tool is used. -/
def usage (name : String) : String :=
  "Usage: " ++ name ++ " [OPTION]... \x7bscript-only-if-no-other-script\x7d [input-file]..."

/-- The part of a script that an option gives; `none` for other options. -/
def scriptPart? (t : Task) : Char × String → Option (Except (String × FileFault) String)
  | ('e', s) => some (.ok s)
  | ('f', path) =>
    match t.disk.read t.here path with
    | .ok text => some (.ok (if text.endsWith "\n" then (text.dropEnd 1).toString else text))
    | .error fault => some (.error (path, fault))
  | _ => none

/-- Edits files. -/
def tool : Tool := fun name args => do
  match Options.read ⟨"nErsuz", "efl", [("quiet", 'n'), ("silent", 'n'), ("expression", 'e'),
      ("file", 'f'), ("regexp-extended", 'E'), ("in-place", 'i'), ("separate", 's'),
      ("unbuffered", 'u'), ("line-length", 'l')]⟩ (args.length + 1)
      (args.map fun a => if a.startsWith "-i" then "--in-place=" ++ (a.drop 2).toString else a) with
  | .error e => fail 1 (name ++ ": " ++ e ++ "\n" ++ usage name)
  | .ok g =>
    let t ← get
    let explicit := g.options.filterMap (scriptPart? t)
    let unread := explicit.findSome? fun
      | .error found => some found
      | .ok _ => none
    let parts := if explicit.isEmpty then g.operands.take 1 else explicit.filterMap (·.toOption)
    let script := parts.headD ""
    let paths := if explicit.isEmpty then g.operands.tail else g.operands
    if explicit.isEmpty && g.operands.isEmpty then fail 1 (usage name)
    else
      match unread, read (g.has 'E' || g.has 'r') parts with
      | some (path, fault), _ =>
        fail 1 (name ++ ": couldn't open file " ++ path ++ ": " ++ fault.sentence)
      | none, .error e => fail (if e.startsWith "-e" then 1 else 4) (name ++ ": " ++ e)
      | none, .ok commands =>
        let silent := g.has 'n' || script.startsWith "#n\n" || script == "#n"
        let inPlace := g.has 'i'
        let m : Mode := ⟨silent, g.has 's' || inPlace, commands⟩
        let paths := if paths.isEmpty then ["-"] else paths
        let (status, texts) ← paths.foldlM (fun (status, texts) path => do
          match ← textOf path with
          | .ok text => return (status, texts ++ [(path, text)])
          | .error .isDirectory =>
            warn (if inPlace then name ++ ": couldn't edit " ++ path ++ ": not a regular file"
              else name ++ ": read error on " ++ path ++ ": Is a directory")
            return (max status (if inPlace then 4 else 2), texts)
          | .error fault =>
            warn (name ++ ": can't read " ++ path ++ ": " ++ fault.sentence)
            return (max status 2, texts)) (0, [])
        let bound (ls : List Line) := 4 * ls.length + 100
        if inPlace then
          let (status, _) ← texts.foldlM (fun (status, line) (path, text) => do
            let ls := linesOf path text
            let s := State.runLines m t (bound ls) false { State.start ls with line := line }
            let t ← get
            match t.disk.writable t.here path with
            | .ok p =>
              let old := (g.value? 'i').getD ""
              if !old.isEmpty then
                change (·.write (p.dropLast ++ [(p.getLast?.getD "") ++ old]) text)
              change (·.write p s.out)
            | .error _ => pure ()
            saveFiles s.files
            return (max status s.status, 0)) (status, 0)
          return status
        else
          let ls := texts.flatMap fun (path, text) => linesOf path text
          let s := State.runLines m t (bound ls) false (State.start ls)
          if s.orphaned then
            warn (name ++ ": -e expression #1, char 0: no previous regular expression")
          say s.out
          saveFiles s.files
          return if s.orphaned then 1 else if s.status > 0 then s.status else status

end TensorCompiler.Tool.Edit
