import TensorCompiler.Toml.Scan

/-!
# Tokens of documents

A document is scanned in two modes: at the start of a line, where a key or a header is expected, and
behind an equals sign, where a value is. Inside brackets a line break separates values; inside
braces keys are expected again. The brackets of a header are the tokens that the brackets of an
array are, so that empty ones at the start of a line may be a value.
-/

namespace TensorCompiler.Toml

/-- A token. Keys, headers, numbers and moments keep the characters they were written with. -/
inductive Token where
  | key (source : List Char)
  | header (source : List Char)
  | listHeader (source : List Char)
  | equals
  | comma
  | openBracket
  | closeBracket
  | openTable
  | closeTable
  | text (s : String)
  | bool (b : Bool)
  | special
  | integer (source : List Char)
  | decimal (source : List Char)
  | date (source : List Char)
  | time (source : List Char)
  | offset (source : List Char)
deriving DecidableEq, Repr

/-- What is expected next. -/
inductive Mode where
  | line
  | value
deriving DecidableEq, Repr

/-- What is open. -/
inductive Bracket where
  | array
  | table
deriving DecidableEq, Repr

/-- What a step scanned and where it ended. -/
structure ScanStep where
  tokens : List Token
  mode : Mode
  nesting : List Bracket
  rest : List Char

/-- The characters behind a comment, its line break included in the rest. -/
def skipComment : List Char → List Char
  | [] => []
  | '\n' :: cs => '\n' :: cs
  | '\r' :: '\n' :: cs => '\r' :: '\n' :: cs
  | _ :: cs => skipComment cs

/-- The inside of a header up to its first bracket, which must close it. -/
def scanHeader? (close cs : List Char) : Option (List Char × List Char) :=
  let inside := cs.takeWhile fun c => c != '[' && c != ']'
  (strip? close (cs.drop inside.length)).map (inside, ·)

/-- The tokens of a header with the given inside, which is left out if it is empty. -/
def headerTokens (inside : List Char) : List Token :=
  if inside.isEmpty then [.openBracket, .closeBracket]
  else [.openBracket, .header inside, .closeBracket]

/-- Takes characters of the given form: `9` stands for a digit, any other character for itself. -/
def takeForm? : List Char → List Char → Option (List Char × List Char)
  | [], cs => some ([], cs)
  | f :: form, c :: cs =>
    if (f == '9' && isDigit c) || f == c then
      (takeForm? form cs).map fun p => (c :: p.1, p.2)
    else none
  | _ :: _, [] => none

/-- Takes a time of day with an optional fraction. -/
def takeTime? (cs : List Char) : Option (List Char × List Char) :=
  match takeForm? "99:99:99".toList cs with
  | some (time, '.' :: rest) =>
    let places := rest.takeWhile isDigit
    if places.isEmpty then none else some (time ++ '.' :: places, rest.drop places.length)
  | other => other

/-- Takes an offset, if there is one. -/
def takeOffset? (cs : List Char) : Option (List Token × List Char) :=
  match cs with
  | 'Z' :: rest => some ([.offset ['Z']], rest)
  | c :: rest =>
    if c == '+' || c == '-' then
      (takeForm? "99:99".toList rest).map fun p => ([.offset (c :: p.1)], p.2)
    else some ([], cs)
  | [] => some ([], cs)

/-- Takes a date and the time behind it. A blank or the letter T divides them; behind a blank that
no two digits follow there is no time, and nothing else may follow a date. -/
def takeDate? (cs : List Char) : Option (List Token × List Char) := do
  let (date, rest) ← takeForm? "9999-99-99".toList cs
  let withTime (behind : List Char) := do
    let (time, rest) ← takeTime? behind
    let (offset, rest) ← takeOffset? rest
    return (.date date :: .time time :: offset, rest)
  match rest with
  | [] => return ([.date date], [])
  | 'T' :: behind => withTime behind
  | ' ' :: behind =>
    if (takeForm? "99".toList behind).isSome then withTime behind
    else return ([.date date], rest)
  | _ => none

/-- The characters of a decimal number from here on, whether it has a fraction or an exponent, and
the rest. `sign` tells that a sign may come next. -/
def takeDecimal? (point power digit sign : Bool) : List Char → Option (List Char × Bool × List Char)
  | [] => if digit then some ([], point || power, []) else none
  | c :: cs =>
    let go (point power digit sign : Bool) :=
      (takeDecimal? point power digit sign cs).map fun p => (c :: p.1, p.2)
    if c == '.' then
      if point || !digit || !(cs.head?.any isDigit) then none else go true power digit false
    else if c == 'e' || c == 'E' then go point true digit true
    else if sign && (c == '+' || c == '-') then go point power digit false
    else if isDigit c then go point power true false
    else if c == '_' then go point power digit false
    else if digit then some ([], point || power, c :: cs)
    else none

/-- An integer with the mark of a base in front. -/
def takeBased? (mark : Char) (ok : Char → Bool) (cs : List Char) :
    Option (List Token × List Char) :=
  let digits := cs.takeWhile fun c => ok c || c == '_'
  if digits.isEmpty then none
  else some ([.integer ('0' :: mark :: digits)], cs.drop digits.length)

/-- Takes a decimal number behind a sign that may have been read. -/
def takeNumber? (sign cs : List Char) : Option (List Token × List Char) :=
  (takeDecimal? false false false false cs).map fun p =>
    let source := sign ++ p.1
    ([if p.2.1 then .decimal source else .integer source], p.2.2)

/-- Takes what starts with a sign. -/
def takeSigned? (sign : Char) (cs : List Char) : Option (List Token × List Char) :=
  match strip? "inf".toList cs, strip? "nan".toList cs with
  | some rest, _ => some ([.special], rest)
  | _, some rest => some ([.special], rest)
  | none, none => takeNumber? [sign] cs

/-- Takes what starts with a digit: a moment or a number. -/
def takeDigits? (cs : List Char) : Option (List Token × List Char) :=
  let digits := (cs.take 5).takeWhile isDigit
  match digits.length, cs.drop digits.length, cs with
  | 2, ':' :: _, cs => (takeTime? cs).map fun p => ([.time p.1], p.2)
  | 4, '-' :: _, cs => takeDate? cs
  | _, _, '0' :: 'x' :: rest => takeBased? 'x' isHexDigit rest
  | _, _, '0' :: 'o' :: rest => takeBased? 'o' (fun c => '0' ≤ c && c ≤ '7') rest
  | _, _, '0' :: 'b' :: rest => takeBased? 'b' (fun c => c == '0' || c == '1') rest
  | _, _, '0' :: c :: rest =>
    if ('a' ≤ c && c ≤ 'z') || ('A' ≤ c && c ≤ 'Z') then none else takeNumber? [] ('0' :: c :: rest)
  | _, _, cs => takeNumber? [] cs

/-- The words that are values. -/
def wordTokens : List (String × Token) :=
  [("true", .bool true), ("false", .bool false), ("inf", .special), ("nan", .special)]

/-- Takes a word. -/
def takeWord? (cs : List Char) : Option (List Token × List Char) :=
  wordTokens.findSome? fun p => (strip? p.1.toList cs).map ([p.2], ·)

/-- One step at the start of a line or of an entry. -/
def lineStep (nesting : List Bracket) (c : Char) (cs : List Char) : Option ScanStep :=
  if c == '\x7d' then
    match nesting with
    | .table :: outer => some ⟨[.closeTable], .value, outer, cs⟩
    | _ => none
  else if c == '[' then
    match cs with
    | '[' :: cs =>
      (scanHeader? [']', ']'] cs).map fun p => ⟨[.listHeader p.1], .line, nesting, p.2⟩
    | cs => (scanHeader? [']'] cs).map fun p => ⟨headerTokens p.1, .line, nesting, p.2⟩
  else if c == '#' then some ⟨[], .line, nesting, skipComment cs⟩
  else if c == '=' then some ⟨[.equals], .value, nesting, cs⟩
  else if isSpace c || isBreak c then some ⟨[], .line, nesting, cs⟩
  else
    (scanKey? (cs.length + 2) [] (c :: cs)).map fun p => ⟨[.key p.1], .line, nesting, p.2⟩

/-- One step where a value is expected. -/
def valueStep (nesting : List Bracket) (c : Char) (cs : List Char) : Option ScanStep :=
  let found (p : List Token × List Char) : ScanStep := ⟨p.1, .value, nesting, p.2⟩
  if c == '[' then some ⟨[.openBracket], .value, .array :: nesting, cs⟩
  else if c == ']' then
    match nesting with
    | .array :: outer => some ⟨[.closeBracket], .value, outer, cs⟩
    | _ => none
  else if c == '\x7b' then some ⟨[.openTable], .line, .table :: nesting, cs⟩
  else if c == '\x7d' then
    match nesting with
    | .table :: outer => some ⟨[.closeTable], .value, outer, cs⟩
    | _ => none
  else if c == '#' then some ⟨[], .value, nesting, skipComment cs⟩
  else if c == '"' || c == tick then
    (scanString? (c :: cs)).map fun p => found ([.text p.1], p.2)
  else if c == ',' then
    some ⟨[.comma], if nesting.head? == some .table then .line else .value, nesting, cs⟩
  else if isBreak c then
    some ⟨[], if nesting.head? == some .array then .value else .line, nesting, cs⟩
  else if isSpace c then some (found ([], cs))
  else
    match takeWord? (c :: cs) with
    | some p => some (found p)
    | none =>
      if c == '+' || c == '-' then (takeSigned? c cs).map found
      else if isDigit c then (takeDigits? (c :: cs)).map found
      else none

/-- The tokens of a document from a mode on. -/
def scan? : Nat → Mode → List Bracket → List Char → Option (List Token)
  | _, _, _, [] => some []
  | 0, _, _, _ => none
  | fuel + 1, mode, nesting, c :: cs => do
    let step ← match mode with
      | .line => lineStep nesting c cs
      | .value => valueStep nesting c cs
    let tokens ← scan? fuel step.mode step.nesting step.rest
    return step.tokens ++ tokens

/-- The tokens of a document. -/
def tokens? (cs : List Char) : Option (List Token) :=
  scan? cs.length .line [] cs

end TensorCompiler.Toml
