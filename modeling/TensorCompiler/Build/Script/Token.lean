import TensorCompiler.Build.Script.Parameter

/-!
# Tokens of scripts

The words of a script are cut up into parts here; the commands inside a word are left to the reader
of commands, which is passed along.
-/

namespace TensorCompiler.Script

/-! ## Words -/

/-- Reads commands at another place than where the script goes on. -/
def aside {α : Type} (text : String) (act : Read α) : Read α := do
  let outer ← get
  set { outer with
    rest := text.toList
    ahead := none
    pending := []
    aliases := outer.aliases.filter fun a => !outer.expansions.any (·.name == a.1)
    expansions := [] }
  let a ← act
  modify fun r => { outer with documents := r.documents, announced := r.announced }
  return a

/-- How a word reads the commands inside it: up to the end, or up to a closing parenthesis. -/
structure Inside where
  whole : Read Command
  enclosed : Read Command

/-- The commands up to a closing parenthesis, read in the middle of a word. -/
def Inside.within (commands : Inside) : Read Command := do
  let outer ← get
  set { outer with ahead := none, pending := [] }
  let body ← commands.enclosed
  modify fun r => { r with ahead := outer.ahead, pending := outer.pending }
  return body

/-- The part that a dollar sign starts, which is passed. -/
def dollar (commands : Inside) (quoted : Bool) (inner : Context → Read Word) : Read Part := do
  match ← peekJoined? with
  | none => return .text "$" quoted
  | some c =>
    if c == '(' then
      skipChar
      if (← get).extended then
        let found ← attemptExpression do
          if ← accept '(' then return some (← inner .number) else return none
        match found with
        | some expr => return .number expr quoted
        | none => return .output (← commands.within) quoted
      else if ← accept '(' then return .number (← inner .number) quoted
      else return .output (← commands.within) quoted
    else if c == '\x7b' then
      skipChar
      if (← get).extended then extendedBraced quoted inner else braced quoted inner
    else if isNameStart c then return .plainParam (← takeRun isNameChar) quoted
    else if isSpecial c then
      skipChar
      return .plainParam (String.singleton c) quoted
    else if c == apostrophe && !quoted && (← get).extended then
      skipChar
      return .text (← escapedQuoted) true
    else return .text "$" quoted

/-- The parts of a word up to the end of its context, which starts on a line. The parts that are
read stand in `w`, last one first, and `depth` counts open groups. -/
def parts (commands : Inside) : Nat → Context → Nat → Nat → Word → Read Word
  | 0, ctx, start, _, w => ctx.atEnd start w
  | fuel + 1, ctx, start, depth, w => do
    let quoted := ctx.isQuoted
    let inner (ctx : Context) : Read Word := do parts commands fuel ctx (← get).line 0 []
    let go (p : Part) : Read Word := parts commands fuel ctx start depth (w.push p)
    match ← peek? with
    | none => ctx.atEnd start w
    | some c =>
      let extended := (← get).extended
      let next := (← get).rest.tail.head?
      if extended && ctx == .plain && (c == '<' || c == '>') && next == some '(' then
        skipChars 2
        return ← go (.piped (← commands.within) (c == '>'))
      if (← get).groups && ctx == .plain && "@?*+!".toList.contains c && next == some '(' then
        skipChars 2
        let found ← inner .choices
        skipChar
        let opened := w.push (.text (String.ofList [c, '(']) false)
        let closed := (found.foldl Word.push opened).push (.text ")" false)
        return ← parts commands fuel ctx start depth closed
      if depth == 0 && ctx.endsBefore c then return w.reverse
      skipChar
      let plain (_ : Unit) : Read Word := go (.text (String.singleton c) quoted)
      if c == '\\' then
        match ← peek? with
        | none => go (.text "\\" true)
        | some '\n' =>
          skipChar
          parts commands fuel ctx start depth w
        | some d =>
          skipChar
          if quoted && !ctx.escapes d then go (.text (String.ofList ['\\', d]) true)
          else go (.text (String.singleton d) true)
      else if c == '$' then
        if extended && !quoted && next == some '"' then parts commands fuel ctx start depth w
        else go (← dollar commands quoted inner)
      else if c == backquote then
        go (.output (← aside (← backquoted quoted) commands.whole) quoted)
      else if c == apostrophe && !quoted then go (.text (← singleQuoted) true)
      else
        match ctx, c, ctx.group c with
        | .double, '"', _ => return w.reverse
        | .document, '"', _ => plain ()
        | .number, '"', _ | .clause, '"', _ => parts commands fuel ctx start depth w
        | _, '"', _ =>
          let inside ← inner .double
          if inside.isEmpty then go (.text "" true)
          else parts commands fuel ctx start depth (inside.foldl Word.push w)
        | .brace _, '\x7d', _ => return w.reverse
        | _, _, some true =>
          parts commands fuel ctx start (depth + 1) (w.push (.text (String.singleton c) quoted))
        | .number, _, some false =>
          if depth > 0 then
            parts commands fuel ctx start (depth - 1) (w.push (.text ")" true))
          else if ← accept ')' then return w.reverse
          else if extended then refuse apart
          else plain ()
        | _, _, some false =>
          parts commands fuel ctx start (depth - 1) (w.push (.text (String.singleton c) quoted))
        | _, _, none => plain ()

/-- The parts of a word in a context. -/
def readParts (commands : Inside) (ctx : Context) : Read Word := do
  parts commands (← get).bound ctx (← get).line 0 []

/-- The lines of a here-document up to its delimiter. -/
def documentText (p : Pending) : Read String := do
  let first := (← get).line - 1
  let warn : Read Unit := modify fun r =>
    if r.extended then
      let text := "warning: here-document at line " ++ Text.ofNat first ++
        " delimited by end-of-file (wanted " ++ cited p.delimiter ++ ")"
      { r with warnings := (r.line - (if r.rest.isEmpty then 2 else 1), text) :: r.warnings }
    else r
  let lines ← untilDone (fun (lines : List (List Char)) => do
    let line := (← get).rest.takeWhile (· != '\n')
    let ended := (← get).rest.length == line.length
    skipChars (line.length + 1)
    let line := if p.stripTabs then line.dropWhile (· == '\t') else line
    if String.ofList line == p.delimiter then return .inr lines.reverse
    else if ended then
      warn
      return .inr ((if line.isEmpty then lines else line :: lines).reverse)
    else return .inl ((line ++ ['\n']) :: lines)) []
  return String.ofList lines.flatten

/-- Reads the texts of the here-documents that a line has announced. -/
def readDocuments (commands : Inside) : List Pending → Read Unit
  | [] => return
  | p :: rest => do
    let text ← documentText p
    let w ← if p.verbatim then pure [.text text true]
      else aside text (readParts commands .document)
    modify fun r => { r with documents := (p.number, w) :: r.documents }
    readDocuments commands rest

/-- Passes over blanks, joined lines and a comment. -/
def skipBlanks : Read Unit :=
  untilDone (fun () => do
    match ← peekJoined? with
    | some ' ' | some '\t' =>
      skipChar
      return .inl ()
    | some '#' =>
      modify fun r => { r with rest := r.rest.dropWhile (· != '\n') }
      return .inr ()
    | _ => return .inr ()) ()

/-- The redirection that a sign starts, which is passed. -/
def redirection (fd : Option Nat) (c : Char) : Read Token := do
  if c == '<' then
    let fd := fd.getD 0
    if ← accept '<' then
      let isLine ← if (← get).extended then accept '<' else pure false
      if isLine then return .redirect fd .line else return .redirect fd (.here (← accept '-'))
    else if ← accept '&' then return .redirect fd .copy
    else if ← accept '>' then return .redirect fd (.file .readWrite)
    else return .redirect fd (.file .read)
  else
    let fd := fd.getD 1
    if ← accept '>' then return .redirect fd (.file .append)
    else if ← accept '&' then return .redirect fd .copy
    else if ← accept '|' then return .redirect fd (.file .overwrite)
    else return .redirect fd (.file .write)

/-- The descriptor that a word before a redirection sign stands for. -/
def descriptor? (extended : Bool) (w : Word) : Option Nat :=
  match w.literal? with
  | some s => if extended || s.length == 1 then Text.readNat? s.toList else none
  | none => none

/-- The variable between braces that a word before a redirection sign stands for. -/
def descriptorName? (w : Word) : Option String :=
  match (w.literal?.getD "").toList with
  | '\x7b' :: cs =>
    let name := String.ofList cs.dropLast
    if cs.getLast? == some '\x7d' && isName name then some name else none
  | _ => none

/-- Passes over blanks, line breaks and comments. -/
def skipLines : Read Unit :=
  untilDone (fun () => do
    skipBlanks
    if (← peek?) == some '\n' then
      skipChar
      return .inl ()
    else return .inr ()) ()

/-- The key of an element between brackets, if a sign that assigns comes behind it. -/
def elementKey (commands : Inside) : Read (Option (Word × Bool)) :=
  attempt do
    if !(← accept '[') then return none
    let key ← readParts commands .index
    if !(← accept ']') then return none
    let append ← accept '+'
    if ← accept '=' then return some (key, append) else return none

/-- The elements of a list up to its closing parenthesis. -/
def listItems (commands : Inside) : Read (List (Option Word × Word)) := do
  let line := (← get).line
  untilDone (fun items => do
    skipLines
    match ← peek? with
    | none => refuseOpen line ')' ""
    | some ')' =>
      skipChar
      return .inr items.reverse
    | some c =>
      if endsWord c && !((c == '<' || c == '>') && (← get).rest.tail.head? == some '(') then
        modify fun r => { r with mark := ⟨r.line, r.source, String.singleton c⟩ }
        refuseAtMark fun m => ["syntax error near unexpected token " ++ cited m.text]
      let key ← elementKey commands
      let value ← readParts commands .plain
      return .inl ((key.map Prod.fst, value) :: items)) []

/-- The assignment to an element or of a list that comes next. -/
def assignment? (commands : Inside) : Read (Option Assign) := do
  let cs := (← get).rest
  let name := cs.takeWhile isNameChar
  let nameText := String.ofList name
  let listAt (n : Nat) (append : Bool) : Read (Option Assign) := do
    skipChars n
    return some (.list nameText append (← listItems commands))
  if !isName nameText then return none
  match cs.drop name.length with
  | '=' :: '(' :: _ => listAt (name.length + 2) false
  | '+' :: '=' :: '(' :: _ => listAt (name.length + 3) true
  | '[' :: _ =>
    attempt do
      skipChars name.length
      match ← elementKey commands with
      | some (key, append) =>
        return some (.text nameText (some key) append (← readParts commands .plain))
      | none => return none
  | _ => return none

/-- Reads the next token. Assignments that no word is are read where they may stand. -/
def freshToken (commands : Inside) (assigns : Bool) : Read Token := do
  let extended := (← get).extended
  let double (c : Char) : Read Token := do
    let twice ← accept c
    return .sign (String.ofList (if twice then [c, c] else [c]))
  match ← peek? with
  | none => return .eof
  | some c =>
    let next := (← get).rest.tail.head?
    if c == '\n' then
      skipChar
      let pending := (← get).pending
      modify fun r => { r with pending := [] }
      readDocuments commands pending
      return .newline
    else if extended && c == '&' && next == some '>' then
      skipChars 2
      return .redirect 1 (.both (← accept '>'))
    else if extended && c == '|' && next == some '&' then
      skipChars 2
      return .sign "|&"
    else if extended && c == ';' then
      skipChar
      if ← accept ';' then return .sign (if ← accept '&' then ";;&" else ";;")
      else return .sign (if ← accept '&' then ";&" else ";")
    else if c == ';' || c == '&' || c == '|' then
      skipChar
      double c
    else if c == '(' || c == ')' then
      skipChar
      return .sign (String.singleton c)
    else if (c == '<' || c == '>') && !(extended && next == some '(') then
      skipChar
      redirection none c
    else
      let found ← if extended && assigns then assignment? commands else pure none
      match found with
      | some a => return .assign a
      | none =>
        let w ← readParts commands .plain
        let d := (← peek?).getD ' '
        let name := if extended then descriptorName? w else none
        if d != '<' && d != '>' then return .word w
        else match descriptor? extended w, name with
          | some fd, _ =>
            skipChar
            redirection (some fd) d
          | none, some name =>
            skipChar
            match ← redirection none d with
            | .redirect fd kind => return .redirect fd (.named name kind)
            | t => return t
          | none, none => return .word w

/-- The next token. -/
def token (commands : Inside) (assigns : Bool) : Read Token := do
  match (← get).ahead with
  | some t =>
    modify fun r => { r with ahead := none }
    return t
  | none =>
    skipBlanks
    let before ← get
    let t ← freshToken commands assigns
    modify fun r => { r with
      mark := ⟨before.line, before.source,
        String.ofList (before.rest.take (before.rest.length - r.rest.length))⟩ }
    return t

/-- The text that a word stands for, unless it comes from a text for the same word. -/
def Reader.alias? (r : Reader) (t : Token) : Option (String × String) :=
  match t with
  | .word w =>
    match w.literal? with
    | some s => r.aliases.find? fun a => a.1 == s && !r.expansions.any (·.name == s)
    | none => none
  | _ => none

/-- The next token where a command may start, or behind that if it does not `start` one. A word that
stands for a text gives way to it, unless it is to be kept as it is. Words may be assignments if
`assigns`. -/
def aliased (commands : Inside) (starts assigns : Bool) (kept : Token → Bool) : Read Token := do
  if (← get).ahead.isSome then token commands assigns
  else
    untilDone (fun () => do
      skipBlanks
      let r ← get
      let passed (e : Expansion) : Bool := r.rest.length ≤ e.behind
      let stands := starts || r.expansions.any fun e => passed e && e.goesOn
      set { r with expansions := r.expansions.filter (!passed ·) }
      let t ← token commands assigns
      let r ← get
      match if stands && !(starts && kept t) then r.alias? t else none with
      | none => return .inr t
      | some (name, text) =>
        let goesOn := text.toList.getLast?.any fun c => c == ' ' || c == '\t'
        set { r with
          rest := text.toList ++ r.rest
          expansions := ⟨name, r.rest.length, goesOn⟩ :: r.expansions }
        return .inl ()) ()

/-- Gives a token back. -/
def putBack (t : Token) : Read Unit := modify fun r => { r with ahead := some t }

end TensorCompiler.Script
