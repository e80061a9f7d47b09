import TensorCompiler.Text.Basic
import TensorCompiler.Text.Printable

/-!
# Quoted texts

A text between double quotes in which what is not printable is escaped: seven control characters
by a letter, the other ASCII controls by two hexadecimal digits, all else by four or eight.
-/

namespace TensorCompiler.Text

/-- The letter that names a control character after a backslash. -/
def controlLetter? (c : Char) : Option Char :=
  match c.toNat with
  | 7 => some 'a'
  | 8 => some 'b'
  | 9 => some 't'
  | 10 => some 'n'
  | 11 => some 'v'
  | 12 => some 'f'
  | 13 => some 'r'
  | _ => none

/-- The escaped form of one character inside the given quotes. -/
def escapeChar (quote : Char) (c : Char) : List Char :=
  if c = quote || c = '\\' then ['\\', c]
  else if isPrintable c then [c]
  else match controlLetter? c with
    | some letter => ['\\', letter]
    | none =>
      if c.toNat < 0x20 || c.toNat = 0x7F then '\\' :: 'x' :: hexDigits 2 c.toNat
      else if c.toNat < 0x10000 then '\\' :: 'u' :: hexDigits 4 c.toNat
      else '\\' :: 'U' :: hexDigits 8 c.toNat

/-- The escaped characters of a text, without the quotes around them. -/
def escapeChars (quote : Char) (cs : List Char) : List Char :=
  cs.flatMap (escapeChar quote)

/-- A text in double quotes. -/
def quoted (s : String) : String :=
  String.ofList ('"' :: escapeChars '"' s.toList ++ ['"'])

/-- The quote around a single character. -/
def apostrophe : Char :=
  Char.ofNat 39

/-- A single character in single quotes. -/
def quotedChar (c : Char) : String :=
  String.ofList (apostrophe :: escapeChar apostrophe c ++ [apostrophe])

end TensorCompiler.Text

/-!
## Reading quoted texts

The bytes that a text between double quotes stands for. An escape gives a control character, one
byte or one character.
-/

namespace TensorCompiler.Text

/-- The value of a digit in a base up to sixteen. -/
def digitIn? (base : Nat) (c : Char) : Option Nat :=
  let value := if '0' ≤ c && c ≤ '9' then c.toNat - 48
    else if 'a' ≤ c && c ≤ 'f' then c.toNat - 87
    else if 'A' ≤ c && c ≤ 'F' then c.toNat - 55
    else base
  if value < base then some value else none

/-- The number that the first `n` characters write in a base. -/
def codeIn? (base n : Nat) (cs : List Char) : Option Nat :=
  if cs.length < n then none
  else (cs.take n).foldlM (fun m c => (digitIn? base c).map (base * m + ·)) 0

/-- The escapes of one letter. -/
def letterEscapes : List (Char × Nat) :=
  [('a', 7), ('b', 8), ('f', 12), ('n', 10), ('r', 13), ('t', 9), ('v', 11), ('\\', 92), ('"', 34)]

/-- The bytes of an escape, its backslash left out, and the number of characters it takes. -/
def escapeBytes? (c : Char) (cs : List Char) : Option (List Nat × Nat) :=
  let character (n : Nat) := (codeIn? 16 n cs).bind fun code =>
    if code.isValidChar then some (charBytes (Char.ofNat code), n + 1) else none
  match letterEscapes.find? (·.1 == c) with
  | some p => some ([p.2], 1)
  | none =>
    if c == 'x' then (codeIn? 16 2 cs).map fun b => ([b], 3)
    else if c == 'u' then character 4
    else if c == 'U' then character 8
    else (codeIn? 8 3 (c :: cs)).bind fun b => if b < 256 then some ([b], 3) else none

/-- The bytes of the characters between two quotes. -/
def unescape? : Nat → List Char → Option (List Nat)
  | _, [] => some []
  | 0, _ => none
  | fuel + 1, c :: cs =>
    match c, cs with
    | '\\', d :: ds => do
      let (bytes, n) ← escapeBytes? d ds
      let rest ← unescape? fuel (ds.drop (n - 1))
      return bytes ++ rest
    | c, cs =>
      if c == '\\' || c == '"' || c == '\n' then none
      else (unescape? fuel cs).map (charBytes c ++ ·)

/-- The bytes that a text with double quotes around it stands for. -/
def unquoted? (cs : List Char) : Option (List Nat) :=
  match cs, cs.getLast? with
  | '"' :: rest, some '"' => if rest.isEmpty then none else unescape? rest.length rest.dropLast
  | _, _ => none

end TensorCompiler.Text
