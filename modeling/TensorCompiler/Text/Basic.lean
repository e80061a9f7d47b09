/-!
# Texts

Joining, indenting and numerals, the pieces every printer of the project is made of; the bytes that
store a text; templates.
-/

namespace TensorCompiler.Text

/-- The texts in order, with a separator between two neighbours. -/
def joinWith (sep : String) : List String → String
  | [] => ""
  | [s] => s
  | s :: t :: rest => s ++ sep ++ joinWith sep (t :: rest)

@[simp]
theorem joinWith_nil (sep : String) : joinWith sep [] = "" := rfl

@[simp]
theorem joinWith_singleton (sep s : String) : joinWith sep [s] = s := rfl

@[simp]
theorem joinWith_cons_cons (sep s t : String) (rest : List String) :
    joinWith sep (s :: t :: rest) = s ++ sep ++ joinWith sep (t :: rest) := rfl

/-- Items of a list printed between brackets. -/
def commaList (items : List String) : String :=
  joinWith ", " items

/-- Puts a tab where a line starts. A line starts only if it has a character, its own line break
included. -/
def indentChars : Bool → List Char → List Char
  | _, [] => []
  | true, c :: rest => '\t' :: c :: indentChars (c == '\n') rest
  | false, c :: rest => c :: indentChars (c == '\n') rest

/-- The text with every line moved one tab to the right. -/
def indent (s : String) : String :=
  String.ofList (indentChars true s.toList)

/-- The decimal numeral of a natural number. -/
def ofNat (n : Nat) : String :=
  String.ofList (Nat.toDigits 10 n)

/-- The decimal numeral of an integer, a minus sign before the negative ones. -/
def ofInt : Int → String
  | .ofNat n => ofNat n
  | .negSucc n => "-" ++ ofNat (n + 1)

/-- The lower-case hexadecimal digit of a number below sixteen. -/
def hexDigit (n : Nat) : Char :=
  if n < 10 then Char.ofNat ('0'.toNat + n) else Char.ofNat ('a'.toNat + (n - 10))

/-- The last `width` hexadecimal digits of a number, most significant first. -/
def hexDigits : Nat → Nat → List Char
  | 0, _ => []
  | width + 1, n => hexDigits width (n / 16) ++ [hexDigit (n % 16)]

@[simp]
theorem length_hexDigits (width n : Nat) : (hexDigits width n).length = width := by
  induction width generalizing n with
  | zero => rfl
  | succ width ih => simp [hexDigits, ih]

/-- Reads a plain decimal numeral: one or more ASCII digits and nothing else. -/
def readNat? (cs : List Char) : Option Nat :=
  if cs.isEmpty || !cs.all Char.isDigit then none
  else some (cs.foldl (fun n c => 10 * n + (c.toNat - '0'.toNat)) 0)

/-- The parts of a text between the occurrences of a character. -/
def splitChars (sep : Char) : List Char → List (List Char)
  | [] => [[]]
  | c :: rest =>
    if c = sep then [] :: splitChars sep rest
    else match splitChars sep rest with
      | [] => [[c]]
      | part :: parts => (c :: part) :: parts

/-- Splits a text at every occurrence of a character. -/
def split (sep : Char) (s : String) : List String :=
  (splitChars sep s.toList).map String.ofList

/-- The text without its trailing line breaks. -/
def dropTrailingBreaks (cs : List Char) : List Char :=
  (cs.reverse.dropWhile (· == '\n')).reverse

/-! ### Bytes

The bytes that store a text, and the text that bytes store. A byte text is a text with one
character, below 256, for each byte: what files and processes pass on, whether it forms characters
or not. -/

/-- The bytes of a character. -/
def charBytes (c : Char) : List Nat :=
  (String.singleton c).toUTF8.toList.map UInt8.toNat

/-- The length of a character that starts with a byte, the bits of its code in that byte, and the
least code of that length. -/
def leadByte? (b : Nat) : Option (Nat × Nat × Nat) :=
  if b < 0x80 then some (1, b, 0)
  else if 0xC0 ≤ b && b < 0xE0 then some (2, b - 0xC0, 0x80)
  else if 0xE0 ≤ b && b < 0xF0 then some (3, b - 0xE0, 0x800)
  else if 0xF0 ≤ b && b < 0xF8 then some (4, b - 0xF0, 0x10000)
  else none

/-- The code that the bytes behind a first one complete. -/
def continueCode? (code : Nat) : List Nat → Option Nat
  | [] => some code
  | b :: bs => if 0x80 ≤ b && b < 0xC0 then continueCode? (64 * code + (b - 0x80)) bs else none

/-- The first character of some bytes and how many it takes. -/
def decodeFirst? (b : Nat) (bs : List Nat) : Option (Char × Nat) := do
  let (length, code, least) ← leadByte? b
  if bs.length + 1 < length then none
  let code ← continueCode? code (bs.take (length - 1))
  if least ≤ code && code.isValidChar then some (Char.ofNat code, length) else none

/-- The characters of some bytes. A byte that starts no character stands for the replacement
character. -/
def decodeBytes : Nat → List Nat → List Char
  | 0, _ => []
  | _, [] => []
  | fuel + 1, b :: bs =>
    match decodeFirst? b bs with
    | some (c, n) => c :: decodeBytes fuel (bs.drop (n - 1))
    | none => Char.ofNat 0xFFFD :: decodeBytes fuel bs

/-- The byte text that stores a text. -/
def toBytes (s : String) : String :=
  String.ofList ((s.toList.flatMap charBytes).map Char.ofNat)

/-- The text that a byte text stores. -/
def ofBytes (s : String) : String :=
  String.ofList (decodeBytes s.length (s.toList.map Char.toNat))

/-! ### Templates

Texts with holes for the fields of a record, and lists of lines made item by item. -/

/-- A piece of a template. -/
inductive TemplatePart where
  | text (s : String)
  | field (name : String)
deriving DecidableEq, Repr

/-- A template. -/
abbrev Template := List TemplatePart

/-- The template filled with the fields of a record, or nothing if it lacks one. -/
def Template.fill? (t : Template) (fields : List (String × String)) : Option String :=
  match t with
  | [] => some ""
  | .text s :: rest => (Template.fill? rest fields).map (s ++ ·)
  | .field name :: rest => do
    let p ← fields.find? (·.1 == name)
    let tail ← Template.fill? rest fields
    return p.2 ++ tail

/-- Makes a text of each item and its number, counted from `start`. The first failure ends it. -/
def iterateFrom {α ε : Type} (f : Nat → α → Except ε String) (start : Nat) :
    List α → Except ε (List String)
  | [] => .ok []
  | a :: as => do
    let s ← f start a
    let rest ← iterateFrom f (start + 1) as
    return s :: rest

/-- One line for each item. -/
def iterate {α ε : Type} (f : Nat → α → Except ε String) (items : List α) : Except ε String :=
  (iterateFrom f 0 items).map (joinWith "\n")

end TensorCompiler.Text
