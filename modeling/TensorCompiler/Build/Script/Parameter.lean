import TensorCompiler.Build.Script.Reader

/-!
# Quoted texts and parameters

What may stand inside a word: texts between quotes, and parameters with what is done to their
values. Where a word is being read decides which characters end it and which stand for themselves.
-/

namespace TensorCompiler.Script

/-- Where the parts of a word are read. -/
inductive Context where
  | plain
  | double
  /-- Behind the name of a parameter, up to the closing brace. -/
  | brace (quoted : Bool)
  /-- Up to a sign or the closing brace, which are left. -/
  | piece (stop : Char)
  | number
  /-- In an expression up to a semicolon or its end, which are left. -/
  | clause
  /-- Between brackets, of which the closing one is left. -/
  | index
  /-- Between the parentheses of a group, of which the closing one is left. -/
  | choices
  /-- In a regular expression of a condition. -/
  | regex
  /-- In the text of a here-document. -/
  | document
deriving DecidableEq, Repr

/-- Whether characters stand for themselves here. -/
def Context.isQuoted : Context → Bool
  | .plain | .piece _ | .index | .choices | .regex => false
  | .brace quoted => quoted
  | _ => true

/-- Whether a character opens or closes a group of the context. -/
def Context.group (ctx : Context) (c : Char) : Option Bool :=
  match ctx with
  | .number | .clause | .choices | .regex =>
    if c == '(' then some true else if c == ')' then some false else none
  | .index => if c == '[' then some true else if c == ']' then some false else none
  | _ => none

/-- A character that ends a plain word. -/
def endsWord (c : Char) : Bool := " \t\n;&|<>()".toList.contains c

/-- Whether a character ends the context outside its groups, and is left. -/
def Context.endsBefore (ctx : Context) (c : Char) : Bool :=
  match ctx with
  | .plain => endsWord c
  | .piece stop => c == stop || c == '\x7d'
  | .clause => c == ';' || c == ')'
  | .index => c == ']'
  | .choices => c == ')'
  | .regex => c == ' ' || c == '\t' || c == '\n' || c == ')'
  | _ => false

/-- Whether a backslash before a character is dropped in a quoted context. -/
def Context.escapes (ctx : Context) (c : Char) : Bool :=
  c == '\\' || c == backquote || c == '$' ||
    (match ctx with
      | .double => c == '"'
      | .brace _ => c == '"' || c == '\x7d'
      | _ => false)

/-- What the end of a script in a context amounts to, which starts on a line. -/
def Context.atEnd (ctx : Context) (line : Nat) (w : Word) : Read Word :=
  match ctx with
  | .plain | .document | .regex => return w.reverse
  | .double => refuseOpen line '"' "Unterminated quoted string"
  | .brace true => refuseOpen line '\x7d' "Unterminated quoted string"
  | .brace false | .piece _ => refuseOpen line '\x7d' "Missing '\x7d'"
  | .number | .clause => refuseOpen line ')' "Missing '))'"
  | .index => refuseOpen line ']' "Missing ']'"
  | .choices => refuseOpen line ')' "Missing ')'"

/-- The text up to the next apostrophe. -/
def singleQuoted : Read String := do
  let line := (← get).line
  untilDone (fun taken => do
    match ← peek? with
    | none => refuseOpen line apostrophe "Unterminated quoted string"
    | some c =>
      skipChar
      if c == apostrophe then return .inr (String.ofList taken.reverse)
      else return .inl (c :: taken)) []

/-- The text up to the next apostrophe, with its escapes read. -/
def escapedQuoted : Read String := do
  let line := (← get).line
  untilDone (fun taken => do
    match ← peek? with
    | none => refuseOpen line apostrophe ""
    | some c =>
      skipChar
      if c == apostrophe then
        return .inr (String.ofList (taken.reverse.takeWhile (· != Char.ofNat 0)))
      else if c == '\\' then
        let (found, count) := escape (← get).rest
        skipChars count
        return .inl (found.reverse ++ taken)
      else return .inl (c :: taken)) []

/-- The text up to the next backquote, without the backslashes that protect its characters. -/
def backquoted (inQuotes : Bool) : Read String := do
  let line := (← get).line
  untilDone (fun taken => do
    match ← peek? with
    | none => refuseOpen line backquote "EOF in backquote substitution"
    | some c =>
      skipChar
      if c == backquote then return .inr (String.ofList taken.reverse)
      else if c == '\\' then
        match ← peek? with
        | none => return .inl (c :: taken)
        | some d =>
          skipChar
          if d == '\n' then return .inl taken
          else if d == '\\' || d == backquote || d == '$' || (inQuotes && d == '"') then
            return .inl (d :: taken)
          else return .inl (d :: c :: taken)
      else return .inl (c :: taken)) []

/-- The name of a parameter between braces, and whether its length is asked for; no name if there
is none that can be used. -/
def paramName : Read (Option String × Bool) := do
  match ← peekJoined? with
  | none => return (none, false)
  | some c =>
    if isNameStart c then return (some (← takeRun isNameChar), false)
    else if c.isDigit then return (some (← takeRun Char.isDigit), false)
    else if c == '#' then
      skipChar
      let next ← peekJoined?
      match next, (← get).rest.tail.head? with
      | some d, after =>
        if isNameChar d then
          let name ← takeRun (if d.isDigit then Char.isDigit else isNameChar)
          return (if (← peekJoined?) == some '\x7d' then some name else none, true)
        else if d == '\x7d' || after != some '\x7d' then return (some "#", false)
        else if isSpecial d then
          skipChar
          return (some (String.singleton d), true)
        else return (none, false)
      | none, _ => return (some "#", false)
    else if isSpecial c then
      skipChar
      return (some (String.singleton c), false)
    else return (none, false)

/-- What is made of the parameter, read off the signs behind its name. -/
def paramUse : Read ParamUse := do
  let colon ← accept ':'
  match ← peekJoined? with
  | none => return .malformed
  | some c =>
    if c == '-' then skipChar; return .orElse colon
    else if c == '+' then skipChar; return .ifSet colon
    else if c == '?' then skipChar; return .orFail colon
    else if c == '=' then skipChar; return .orAssign colon
    else if colon then return .malformed
    else if c == '\x7d' then return .value
    else if c == '%' then skipChar; return .cutBack (← accept '%')
    else if c == '#' then skipChar; return .cutFront (← accept '#')
    else return .malformed

/-- A parameter between braces, its opening brace passed. -/
def braced (quoted : Bool) (inner : Context → Read Word) : Read Part := do
  let (name, isLength) ← paramName
  let use ← match name with
    | none => pure .malformed
    | some _ => if isLength then pure .length else paramUse
  let arg ← inner (match use with
    | .cutFront _ | .cutBack _ => .brace false
    | _ => .brace quoted)
  return .param (name.getD "") .none use [arg] quoted

/-! ## Parameters of the extended language -/

/-- Passes over a sign that may stand twice, and says whether it does. -/
def doubled (c : Char) : Read Bool := do
  skipChar
  accept c

/-- What is made of a parameter with its arguments, up to the closing brace; nothing if that cannot
be read. -/
def extendedUse (quoted : Bool) (inner : Context → Read Word) :
    Read (Option (ParamUse × List Word)) := do
  let behind (use : ParamUse) (ctx : Context) : Read (Option (ParamUse × List Word)) := do
    return some (use, [← inner ctx])
  let cs := (← get).rest
  let colon := cs.head? == some ':'
  let sign := if colon then cs.tail.head? else cs.head?
  let withColon (use : ParamUse) : Read (Option (ParamUse × List Word)) := do
    skipChars (if colon then 2 else 1)
    behind use (.brace quoted)
  match sign with
  | some '-' => withColon (.orElse colon)
  | some '+' => withColon (.ifSet colon)
  | some '?' => withColon (.orFail colon)
  | some '=' => withColon (.orAssign colon)
  | some c =>
    if colon then
      skipChar
      let start ← inner (.piece ':')
      let length ← if ← accept ':' then do pure [← inner (.piece ':')] else pure []
      return if ← accept '\x7d' then some (.slice, start :: length) else none
    else if c == '\x7d' then
      skipChar
      return some (.value, [])
    else if c == '%' then behind (.cutBack (← doubled c)) (.brace false)
    else if c == '#' then behind (.cutFront (← doubled c)) (.brace false)
    else if c == '^' then behind (.recase .upper (← doubled c)) (.brace false)
    else if c == ',' then behind (.recase .lower (← doubled c)) (.brace false)
    else if c == '~' then behind (.recase .toggle (← doubled c)) (.brace false)
    else if c == '/' then
      skipChar
      let scope ← if ← accept '/' then pure Scope.all
        else if ← accept '#' then pure .front
        else if ← accept '%' then pure .back
        else pure .first
      let pattern ← inner (.piece '/')
      if ← accept '/' then return some (.replace scope, [pattern, ← inner (.brace false)])
      else return if ← accept '\x7d' then some (.replace scope, [pattern]) else none
    else if c == '@' then
      match (← get).rest with
      | _ :: letter :: '\x7d' :: _ =>
        skipChars 3
        return some (.transform letter, [])
      | _ => return none
    else return none
  | none => return none

/-- The elements of a parameter that are meant, read off brackets behind its name. -/
def elements (name : String) (inner : Context → Read Word) : Read Index := do
  if isName name && (← peek?) == some '[' then
    skipChar
    let key ← inner .index
    skipChar
    match key with
    | [.text "@" _] => return .all false
    | [.text "*" _] => return .all true
    | key => return .at key
  else return .none

/-- A parameter between braces in the extended language; nothing if it cannot be read. -/
def extendedParam (quoted : Bool) (inner : Context → Read Word) : Read (Option Part) := do
  let cs := (← get).rest
  let through := match cs with
    | '!' :: c :: rest => isNameChar c || (c == '#' && rest.head? == some '\x7d')
    | _ => false
  let isLength := match cs with
    | '#' :: c :: rest => isNameChar c || (isSpecial c && rest.head? == some '\x7d')
    | _ => false
  if through || isLength then skipChar
  let name ← match ← peek? with
    | some c =>
      if isNameStart c then takeRun isNameChar
      else if c.isDigit then takeRun Char.isDigit
      else if isSpecial c then do
        skipChar
        pure (String.singleton c)
      else pure ""
    | none => pure ""
  if name.isEmpty then return none
  let index ← elements name inner
  let behind := (← get).rest
  let closed := behind.head? == some '\x7d'
  let named := match behind with
    | c :: '\x7d' :: _ => c == '@' || c == '*'
    | _ => false
  let ended (count : Nat) (use : ParamUse) : Read (Option Part) := do
    skipChars count
    return some (.param name index use [] quoted)
  if isLength then if closed then ended 1 .length else return none
  else match through, index, named with
    | true, .none, true =>
      let joined := behind.head? == some '*'
      skipChars 2
      return some (.param name (.all joined) .names [] quoted)
    | true, .all _, _ => if closed then ended 1 .keys else return none
    | _, _, _ =>
      return (← extendedUse quoted inner).map fun (use, args) =>
        .param name index (if through then .through use else use) args quoted

/-- A parameter between braces in the extended language, its opening brace passed. What cannot be
read is kept as it is written. -/
def extendedBraced (quoted : Bool) (inner : Context → Read Word) : Read Part := do
  let before := (← get).rest
  match ← extendedParam quoted inner with
  | some p => return p
  | none =>
    discard (inner (.brace quoted))
    let taken := before.take (before.length - (← get).rest.length)
    return .param "" .none .malformed [[.text ("$\x7b" ++ String.ofList taken) true]] quoted

end TensorCompiler.Script
