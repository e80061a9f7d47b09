import TensorCompiler.Build.Awk.Token
import TensorCompiler.Build.Regex
import TensorCompiler.Number.Float

/-!
# Values of programs over records

A value is a number or a text. A text that comes from outside and looks like a number counts as
both, and what nothing was assigned to counts as both nothing and zero.
-/

namespace TensorCompiler.Awk

/-- A value. -/
inductive Value where
  | unset
  | number (x : Float)
  | text (s : String)
  /-- A text from outside that looks like a number. -/
  | numeric (s : String) (x : Float)

instance : Inhabited Value := ⟨.unset⟩

/-- A character that stands between fields. -/
def isBlank (c : Char) : Bool := c == ' ' || (9 ≤ c.toNat && c.toNat ≤ 13)

/-- The sign of a number and what follows it. -/
def signed (cs : List Char) : Bool × List Char :=
  match cs with
  | '-' :: cs => (true, cs)
  | '+' :: cs => (false, cs)
  | cs => (false, cs)

/-- The number at the start of a text. -/
def leadingNumber (s : String) : Float :=
  let (negative, cs) := signed (s.toList.dropWhile isBlank)
  let x := numeralValue (numeral cs)
  if negative then -x else x

/-- A text from outside. -/
def Value.ofInput (s : String) : Value :=
  let cs := ((s.toList.dropWhile isBlank).reverse.dropWhile isBlank).reverse
  let body := (signed cs).2
  if !body.isEmpty && (numeral body).length == body.length then .numeric s (leadingNumber s)
  else .text s

/-- The number that a value counts as. -/
def Value.toNumber : Value → Float
  | .unset => 0
  | .number x => x
  | .text s => leadingNumber s
  | .numeric _ x => x

/-- Whether a value counts as true. -/
def Value.truth : Value → Bool
  | .unset => false
  | .number x => x != 0
  | .text s => !s.isEmpty
  | .numeric _ x => x != 0

/-- The value of a condition. -/
def Value.ofBool (b : Bool) : Value := .number (if b then 1 else 0)

/-- A number as a whole number, its fraction cut off; nothing if it has no end or is none. -/
def wholePart? (x : Float) : Option Int :=
  match Number.binary64.classify x.toBits.toNat with
  | .notANumber | .infinite _ => none
  | .zero _ => some 0
  | .finite negative d =>
    let n : Nat := if d.exponent ≥ 0 then d.mantissa * Nat.pow 2 d.exponent.toNat
      else d.mantissa / Nat.pow 2 d.exponent.natAbs
    some (if negative then -(n : Int) else n)

/-- A whole number within the range of sixty-four bits, with a sign or without one. -/
def bounded (n : Int) : Int := max (-9223372036854775808) (min 18446744073709551615 n)

/-- A number as a decimal: whether it is negative, its digits and how many stand behind the point;
else its name. -/
def decimalOf (x : Float) : (Bool × Nat × Nat) ⊕ String :=
  match Number.binary64.classify x.toBits.toNat with
  | .notANumber => .inr "-nan"
  | .infinite negative => .inr (if negative then "-inf" else "inf")
  | .zero negative => .inl (negative, 0, 0)
  | .finite negative d =>
    .inl (if d.exponent ≥ 0 then (negative, d.mantissa * Nat.pow 2 d.exponent.toNat, 0)
      else (negative, d.mantissa * Nat.pow 5 d.exponent.natAbs, d.exponent.natAbs))

/-- The whole number that a directive prints. -/
def printedInt (x : Float) : Int :=
  match wholePart? x with
  | some n => bounded n
  | none => if x > 0 then 18446744073709551615 else -9223372036854775808

/-- A number in the form of a directive for numbers with a fraction. -/
def realText (d : Format.Directive) (x : Float) : List Char :=
  match decimalOf x with
  | .inl (negative, n, places) => d.real negative n places
  | .inr name => d.pad false [] name.toList

/-- A number in the form that a format without other characters asks for. -/
def numberText (format : String) (x : Float) : String :=
  let whole := match wholePart? x with
    | some n =>
      let n := bounded n
      if Number.toFloat (n < 0) n.natAbs 0 == x then some n else none
    | none => none
  match whole, format.toList with
  | some n, _ => Text.ofInt n
  | none, '%' :: cs =>
    let flags := cs.takeWhile fun c => "#-+ 0".toList.contains c
    let cs := cs.drop flags.length
    let width := cs.takeWhile Char.isDigit
    let cs := cs.drop width.length
    let (precision, cs) := match cs with
      | '.' :: cs =>
        let ds := cs.takeWhile Char.isDigit
        (some ((Text.readNat? ds).getD 0), cs.drop ds.length)
      | cs => (none, cs)
    let directive : Format.Directive :=
      ⟨flags, (Text.readNat? width).map Int.ofNat, precision.map Int.ofNat, cs.headD 'g'⟩
    if "di".toList.contains directive.letter then String.ofList (directive.integer (printedInt x))
    else String.ofList (realText directive x ++ cs.drop 1)
  | none, _ => format

/-- The text that a value counts as. -/
def Value.toText (format : String) : Value → String
  | .unset => ""
  | .number x => numberText format x
  | .text s | .numeric s _ => s

/-- Whether an order holds between two values: between numbers if both count as such, else between
texts. -/
def compare (format : String) (op : Operator) (a b : Value) : Bool :=
  let order : Option Ordering := match a, b with
    | .text _, _ | _, .text _ => some (Ord.compare (a.toText format) (b.toText format))
    | a, b =>
      let (x, y) := (a.toNumber, b.toNumber)
      if x < y then some .lt else if x > y then some .gt else if x == y then some .eq else none
  match op with
  | .less => order == some .lt
  | .atMost => order == some .lt || order == some .eq
  | .equal => order == some .eq
  | .unequal => order != some .eq
  | .greater => order == some .gt
  | _ => order == some .gt || order == some .eq

/-- The remainder of a division with the sign of the dividend. -/
def remainder (x y : Float) : Float :=
  match decimalOf x, decimalOf y with
  | .inl (negative, n, p), .inl (_, m, q) =>
    if m == 0 then 0.0 / 0.0
    else
      let places := max p q
      Number.toFloat negative (n * Nat.pow 10 (places - p) % (m * Nat.pow 10 (places - q))) places
  | .inl _, .inr name => if name == "-nan" then y else x
  | .inr _, _ => 0.0 / 0.0

/-- The value of an operator between numbers. -/
def arithmetic (op : Operator) (x y : Float) : Float :=
  match op with
  | .add => x + y
  | .sub => x - y
  | .mul => x * y
  | .div => x / y
  | .mod => remainder x y
  | _ => x.pow y

/-! ## Patterns -/

/-- The characters that have a meaning in an expression. -/
def isMeta (c : Char) : Bool := ".[]()*+?\x7b\x7d|^$\\".toList.contains c

/-- What an escape in an expression stands for, and what follows it. -/
def regexEscape (c : Char) (rest : List Char) : Char × List Char :=
  match Format.controls.find? (·.1 == c) with
  | some p => (Char.ofNat p.2, rest)
  | none =>
    let ds := Format.octalDigits 3 (c :: rest)
    if ds.isEmpty then (c, rest)
    else (Char.ofNat (Format.octal ds % 256), (c :: rest).drop ds.length)

/-- A set whose escapes are read: the characters that may stand anywhere in it, and those that have
to stand first and last. -/
def setChars : Nat → Bool → List Char → Option (List Char × List Char × List Char)
  | 0, _, _ => none
  | _, _, [] => none
  | fuel + 1, first, c :: rest =>
    if c == ']' && !first then some ([], [], rest)
    else if c == '\\' && !rest.isEmpty then
      let (d, rest) := regexEscape (rest.headD ' ') rest.tail
      (setChars fuel false rest).map fun (inside, fixed, rest) =>
        if d == ']' || d == '-' || d == '^' then (inside, d :: fixed, rest)
        else (d :: inside, fixed, rest)
    else if c == '[' && rest.head? == some ':' then
      let name := rest.takeWhile (· != ']')
      (setChars fuel false (rest.drop (name.length + 1))).map fun (inside, fixed, rest) =>
        ('[' :: name ++ ']' :: inside, fixed, rest)
    else (setChars fuel false rest).map fun (inside, fixed, rest) => (c :: inside, fixed, rest)

/-- An expression in the extended form, with its escapes read. -/
def plainRegex : Nat → List Char → List Char
  | 0, _ => []
  | _, [] => []
  | fuel + 1, '\\' :: c :: rest =>
    let (d, rest) := regexEscape c rest
    (if isMeta d then ['\\', d] else [d]) ++ plainRegex fuel rest
  | fuel + 1, '[' :: rest =>
    let (lead, body) := match rest with
      | '^' :: rest => (['^'], rest)
      | rest => ([], rest)
    match setChars (body.length + 1) true body with
    | none => '[' :: plainRegex fuel rest
    | some (inside, fixed, rest) =>
      let front := if fixed.contains ']' then [']'] else []
      let back := fixed.filter (· != ']')
      let back := if back.contains '-' then back.filter (· != '-') ++ ['-'] else back
      '[' :: lead ++ front ++ inside ++ back ++ ']' :: plainRegex fuel rest
  | fuel + 1, c :: rest => c :: plainRegex fuel rest

/-- How expressions are matched: against the whole text, whatever lines it has. -/
def regexOptions : Regex.Options := ⟨false, false, true⟩

/-- What is wrong with an expression. -/
def regexFault : Regex.Fault → String
  | .bracket | .openEnd => "bad class -- [], [^] or ["
  | .preceding => "missing operand"
  | _ => "missing " ++ Tool.quote ")"

/-- Reads an expression. -/
def readRegex (s : String) : Except String Regex :=
  match Regex.read ⟨true, true, false⟩ (plainRegex (s.length + 1) s.toList) with
  | .ok r => .ok r
  | .error fault =>
    .error ("regular expression compile failed (" ++ regexFault fault ++ ")\n" ++ s)

/-- The first match of an expression: its start and its length. -/
def firstMatch? (r : Regex) (text : List Char) : Option (Nat × Nat) :=
  (Regex.search? regexOptions r text).map fun f => (f.start, f.stop.position - f.start)

/-- A text cut at the matches of an expression that are not empty. -/
def cutAt (r : Regex) : Nat → List Char → List (List Char)
  | 0, text => [text]
  | fuel + 1, text =>
    match firstMatch? r text with
    | some (start, length) =>
      if length == 0 then [text]
      else text.take start :: cutAt r fuel (text.drop (start + length))
    | none => [text]

/-- The words of a text. -/
def words : Nat → List Char → List (List Char)
  | 0, _ => []
  | fuel + 1, text =>
    match text.dropWhile isBlank with
    | [] => []
    | cs =>
      let word := cs.takeWhile (!isBlank ·)
      word :: words fuel (cs.drop word.length)

/-- What divides a text into fields. -/
inductive Separator where
  | blanks
  | nothing
  | char (c : Char)
  | regex (r : Regex)

/-- The separator that a text describes. -/
def Separator.read (s : String) : Except String Separator :=
  match s.toList with
  | [] => .ok .nothing
  | [' '] => .ok .blanks
  | [c] => .ok (.char c)
  | _ => (readRegex s).map .regex

/-- The fields of a text. -/
def Separator.fields (sep : Separator) (text : List Char) : List String :=
  if text.isEmpty then []
  else (match sep with
    | .blanks => words (text.length + 1) text
    | .nothing => text.map fun c => [c]
    | .char c => Text.splitChars c text
    | .regex r => cutAt r (text.length + 1) text).map String.ofList

/-- The parts that matches are replaced by: characters, and the places of the match itself. -/
def replacement : List Char → List (Option Char)
  | [] => []
  | '\\' :: '&' :: cs => some '&' :: replacement cs
  | '\\' :: '\\' :: cs => some '\\' :: replacement cs
  | '&' :: cs => none :: replacement cs
  | c :: cs => some c :: replacement cs

/-- A match and its parts put together. -/
def replaceBy (parts : List (Option Char)) (found : List Char) : List Char :=
  parts.flatMap fun
    | some c => [c]
    | none => found

/-- Replaces matches, all of them or the first, and counts them. `position` counts the characters
that are passed and `before` is the last of them; `after` says that a match ends right there, where
no empty one counts. -/
def substitute (r : Regex) (all : Bool) (parts : List (Option Char)) (whole : List Char) :
    Nat → Bool → Nat → Option Char → List Char → List Char × Nat
  | 0, _, _, _, text => (text, 0)
  | fuel + 1, after, position, before, text =>
    match Regex.searchFrom? regexOptions r whole before position text with
    | none => (text, 0)
    | some f =>
      let (start, length) := (f.start - position, f.stop.position - f.start)
      if length == 0 && start == 0 && after then
        match text with
        | [] => ([], 0)
        | c :: rest =>
          let (out, n) := substitute r all parts whole fuel false (position + 1) (some c) rest
          (c :: out, n)
      else
        let matched := (text.drop start).take length
        let lead := text.take start ++ replaceBy parts matched
        let rest := text.drop (start + length)
        if !all then (lead ++ rest, 1)
        else if length == 0 then
          match rest with
          | [] => (lead, 1)
          | c :: rest =>
            let (out, n) := substitute r all parts whole fuel false (f.start + 1) (some c) rest
            (lead ++ c :: out, n + 1)
        else
          let (out, n) :=
            substitute r all parts whole fuel true f.stop.position matched.getLast? rest
          (lead ++ out, n + 1)

end TensorCompiler.Awk
