import TensorCompiler.Toml.Value

/-!
# Scanning documents

Texts and keys. A scanner takes what it recognizes from the front of the characters and returns the
rest.
-/

/-!
## Numbers

Integers in four bases that fit a machine word, signed or not, and decimals that do not overflow.
An underscore may stand behind a digit but not at the end.
-/

namespace TensorCompiler.Toml

/-- A decimal digit. -/
def isDigit (c : Char) : Bool :=
  '0' ≤ c && c ≤ '9'

/-- The value of a hexadecimal digit. -/
def hexValue? (c : Char) : Option Nat :=
  if isDigit c then some (c.toNat - '0'.toNat)
  else if 'a' ≤ c && c ≤ 'f' then some (c.toNat - 'a'.toNat + 10)
  else if 'A' ≤ c && c ≤ 'F' then some (c.toNat - 'A'.toNat + 10)
  else none

/-- A hexadecimal digit. -/
def isHexDigit (c : Char) : Bool :=
  (hexValue? c).isSome

/-- The number that digits write in a base. -/
def numberIn? (base : Nat) (cs : List Char) : Option Nat :=
  if cs.isEmpty then none
  else cs.foldlM (fun n c =>
    (hexValue? c).bind fun d => if d < base then some (base * n + d) else none) 0

/-- Whether every underscore stands behind a digit and before something. -/
def spacesDigits (digit : Char → Bool) (behind : Bool) : List Char → Bool
  | [] => true
  | '_' :: cs => behind && !cs.isEmpty && spacesDigits digit false cs
  | c :: cs => spacesDigits digit (digit c) cs

/-- The first number beyond the unsigned words. -/
def wordLimit : Nat := 18446744073709551616

/-- The first number beyond the signed words. -/
def signedLimit : Nat := 9223372036854775808

/-- An unsigned integer that fits a word. -/
def word? (base : Nat) (cs : List Char) : Option Int :=
  (numberIn? base cs).bind fun n => if n < wordLimit then some (n : Int) else none

/-- The integer a text stands for. A decimal of three and more digits may not start with zero; one
with a sign may, and must fit a signed word. -/
def integer? (source : List Char) : Option Int :=
  let plain := spacesDigits isDigit false source
  match source.filter (· != '_') with
  | '0' :: 'x' :: c :: cs =>
    if spacesDigits isHexDigit false source then word? 16 (c :: cs) else none
  | '0' :: 'o' :: c :: cs => if plain then word? 8 (c :: cs) else none
  | '0' :: 'b' :: c :: cs => if plain then word? 2 (c :: cs) else none
  | '0' :: _ :: _ :: _ => none
  | '+' :: cs =>
    if plain then
      (numberIn? 10 cs).bind fun n => if n < signedLimit then some (n : Int) else none
    else none
  | '-' :: cs =>
    if plain then
      (numberIn? 10 cs).bind fun n => if n ≤ signedLimit then some (-n : Int) else none
    else none
  | cs => if plain then word? 10 cs else none

/-- The characters without a leading sign. -/
def unsigned : List Char → List Char
  | '+' :: cs => cs
  | '-' :: cs => cs
  | cs => cs

/-- Whether `m * 10 ^ e` rounds to a finite number of double precision. -/
def isFinite (m : Nat) (e : Int) : Bool :=
  let size := ((Nat.toDigits 10 m).length : Int) + e
  let limit := Nat.pow 2 1024 - Nat.pow 2 970
  if m = 0 || size < 300 then true
  else if 320 < size then false
  else decide (m * Nat.pow 10 e.toNat < limit * Nat.pow 10 (-e).toNat)

/-- Whether a text is a decimal with a fraction or an exponent, of a finite value. -/
def isDecimal (source : List Char) : Bool :=
  let body := unsigned (source.filter (· != '_'))
  let mantissa := body.takeWhile fun c => c != 'e' && c != 'E'
  let power := body.drop mantissa.length
  let whole := mantissa.takeWhile (· != '.')
  let places := mantissa.drop (whole.length + 1)
  let exponent? : Option Int := match power with
    | [] => some 0
    | _ :: '-' :: cs => (numberIn? 10 cs).map fun n => -(n : Int)
    | _ :: cs => (numberIn? 10 (unsigned cs)).map fun n => (n : Int)
  match numberIn? 10 (whole ++ places), exponent? with
  | some m, some e => spacesDigits isDigit false source && isFinite m (e - places.length)
  | _, _ => false

/-!
## Moments

Dates, times of day and offsets from universal time. The scanner has checked their form; what is
left is that every part is in range.
-/

/-- Whether a year has a leap day. -/
def isLeap (year : Nat) : Bool :=
  year % 4 == 0 && (year % 100 != 0 || year % 400 == 0)

/-- The days of a month. -/
def daysOf (year month : Nat) : Nat :=
  if month = 2 then (if isLeap year then 29 else 28)
  else if [4, 6, 9, 11].contains month then 30
  else 31

/-- The number that the digits of a text write from place `i` on, `n` of them. -/
def digitsAt (cs : List Char) (i n : Nat) : Nat :=
  (numberIn? 10 ((cs.drop i).take n)).getD 0

/-- Whether a date such as `1979-05-27` is one of the calendar. -/
def isDate (cs : List Char) : Bool :=
  let month := digitsAt cs 5 2
  let day := digitsAt cs 8 2
  decide (1 ≤ month) && decide (month ≤ 12) && decide (1 ≤ day) &&
    decide (day ≤ daysOf (digitsAt cs 0 4) month)

/-- Whether a time such as `07:32:00` is one of a day. -/
def isTime (cs : List Char) : Bool :=
  decide (digitsAt cs 0 2 < 24) && decide (digitsAt cs 3 2 < 60) && decide (digitsAt cs 6 2 < 60)

/-- Whether an offset is at most a day and its minutes at most an hour. -/
def isOffset (cs : List Char) : Bool :=
  cs == ['Z'] || decide (digitsAt cs 1 2 ≤ 24) && decide (digitsAt cs 4 2 ≤ 60)


/-! ## Scanning -/

/-- A blank inside a line. -/
def isSpace (c : Char) : Bool :=
  c == ' ' || c == '\t'

/-- A character that ends a line. -/
def isBreak (c : Char) : Bool :=
  c == '\n' || c == '\r'

/-- A character of a key without quotes. -/
def isBare (c : Char) : Bool :=
  ('a' ≤ c && c ≤ 'z') || ('A' ≤ c && c ≤ 'Z') || c == '_' || c == '-' || isDigit c

/-- The character with a code, and the replacement character for a code of none. -/
def charOf (n : Nat) : Char :=
  if n.isValidChar then Char.ofNat n else Char.ofNat 0xFFFD

/-- The characters of an escape without a number. -/
def simpleEscapes : List (Char × Char) :=
  [('"', '"'), ('n', '\n'), ('b', Char.ofNat 8), ('f', Char.ofNat 12), ('/', '/'), ('t', '\t'),
    ('r', '\r'), ('\\', '\\')]

/-- A single apostrophe. -/
def tick : Char := Char.ofNat 39

/-- Takes a prefix off. -/
def strip? (start : List Char) (cs : List Char) : Option (List Char) :=
  if start.isPrefixOf cs then some (cs.drop start.length) else none

/-- The state of reading a text: what was read is kept in reverse. -/
inductive TextStep where
  | more (read : List Char) (rest : List Char)
  | closed (read : List Char) (rest : List Char)
  | refused

/-- A character given by its code in `n` hexadecimal digits. -/
def codeStep (n : Nat) (read rest : List Char) : TextStep :=
  match numberIn? 16 (rest.take n) with
  | some code => if rest.length < n then .refused else .more (charOf code :: read) (rest.drop n)
  | none => .refused

/-- One step inside a text with escapes. A backslash also hides the blanks and the line breaks
behind it. -/
def textStep (mark : List Char) (multiline : Bool) (read : List Char) (cs : List Char) : TextStep :=
  match strip? mark cs with
  | some rest => .closed read rest
  | none =>
    match cs with
    | [] => .refused
    | '\\' :: 'u' :: rest => codeStep 4 read rest
    | '\\' :: 'U' :: rest => codeStep 8 read rest
    | '\\' :: c :: rest =>
      match simpleEscapes.find? (·.1 == c) with
      | some p => .more (p.2 :: read) rest
      | none =>
        if isSpace c || isBreak c then .more read (rest.dropWhile fun d => isSpace d || isBreak d)
        else .refused
    | c :: rest =>
      if c == '\\' || (c.toNat < 32 && c != '\t' && !(multiline && isBreak c)) then .refused
      else .more (c :: read) rest

/-- Reads a text with escapes up to its closing mark. -/
def scanText (mark : List Char) (multiline : Bool) :
    Nat → List Char → List Char → Option (String × List Char)
  | 0, _, _ => none
  | fuel + 1, read, cs =>
    match textStep mark multiline read cs with
    | .closed read rest => some (String.ofList read.reverse, rest)
    | .more read rest => scanText mark multiline fuel read rest
    | .refused => none

/-- Reads a text without escapes up to its closing mark. -/
def scanLiteral (mark : List Char) (read : List Char) : List Char → Option (String × List Char)
  | [] => none
  | c :: cs =>
    match strip? mark (c :: cs) with
    | some rest => some (String.ofList read.reverse, rest)
    | none => scanLiteral mark (c :: read) cs

/-- Drops a line break at the start of a text of several lines. -/
def dropBreak : List Char → List Char
  | '\r' :: '\n' :: cs => cs
  | '\n' :: cs => cs
  | cs => cs

/-- Reads a text with its marks. -/
def scanString? (cs : List Char) : Option (String × List Char) :=
  let quotes := ['"', '"', '"']
  let ticks := [tick, tick, tick]
  match strip? quotes cs with
  | some rest => scanText quotes true (rest.length + 1) [] (dropBreak rest)
  | none =>
    match strip? ticks cs with
    | some rest => scanLiteral ticks [] (dropBreak rest)
    | none =>
      match cs with
      | c :: rest =>
        if c == '"' then scanText ['"'] false (rest.length + 1) [] rest
        else if c == tick then scanLiteral [tick] [] rest
        else none
      | [] => none

/-- Reads a key up to an equals sign or to blanks that no dot follows. Its quoted parts keep their
marks but lose their escapes. What was read is kept in reverse. -/
def scanKey? : Nat → List Char → List Char → Option (List Char × List Char)
  | 0, _, _ => none
  | _ + 1, read, [] => some (read.reverse, [])
  | fuel + 1, read, c :: cs =>
    let quotedPart (part : Option (String × List Char)) := do
      let (s, rest) ← part
      scanKey? fuel (c :: s.toList.reverse ++ c :: read) rest
    if c == '=' then some (read.reverse, c :: cs)
    else if c == '"' then quotedPart (scanText ['"'] true (cs.length + 1) [] cs)
    else if c == tick then quotedPart (scanLiteral [tick] [] cs)
    else if isSpace c then
      match cs.dropWhile isSpace with
      | '.' :: rest =>
        let around := ' ' :: cs.takeWhile isSpace ++ '.' :: rest.takeWhile isSpace
        scanKey? fuel (around.reverse ++ read) (rest.dropWhile isSpace)
      | rest => some (read.reverse, rest)
    else if c == '.' || isBare c then scanKey? fuel (c :: read) cs
    else none

/-- Whether a key may go on behind a dot. -/
def followsDot (cs : List Char) : Bool :=
  match cs with
  | c :: _ => isBare c || c == tick || c == '"' || c == ' '
  | [] => false

/-- The parts of a key. A bare part ends at a dot; a quoted one ends at its mark. -/
def keyParts? : Nat → List Char → Option (List String)
  | 0, _ => none
  | fuel + 1, cs =>
    match cs.dropWhile isSpace with
    | [] => some []
    | c :: cs =>
      if isBare c then
        let part := c :: cs.takeWhile isBare
        let rest := cs.dropWhile isBare
        let tail := rest.dropWhile isSpace
        if tail.isEmpty || tail.head? == some '.' then
          (keyParts? fuel tail).map (String.ofList part :: ·)
        else none
      else if c == tick || c == '"' then
        match cs.dropWhile (· != c) with
        | _ :: rest => (keyParts? fuel rest).map (String.ofList (cs.takeWhile (· != c)) :: ·)
        | [] => none
      else if c == '.' && followsDot cs then keyParts? fuel cs
      else none

/-- The path a key stands for. -/
def path? (key : List Char) : Option (List String) :=
  match keyParts? (key.length + 1) key with
  | some (part :: parts) => some (part :: parts)
  | _ => none

end TensorCompiler.Toml
