import TensorCompiler.Number.Nearest
import TensorCompiler.Text.Basic

/-!
# Durations

Spans of time in nanoseconds and their printed form: hours, minutes and seconds from one second on,
and the largest unit that fits below. Fractions end with their last digit that is not zero.
-/

namespace TensorCompiler

/-- A span of time. -/
structure Duration where
  nanoseconds : Int
deriving DecidableEq, Repr

namespace Duration

/-- The digits of a fraction in front of its trailing zeros, `width` places in all. -/
def fractionDigits : Nat → Nat → List Char
  | 0, _ => []
  | width + 1, n =>
    if n % 10 = 0 then fractionDigits width (n / 10)
    else (List.replicate (width + 1 - (Nat.toDigits 10 n).length) '0') ++ Nat.toDigits 10 n

/-- A number of units of `10 ^ places` parts each. -/
def decimal (places n : Nat) : String :=
  let digits := fractionDigits places (n % Nat.pow 10 places)
  Text.ofNat (n / Nat.pow 10 places) ++
    (if digits.isEmpty then "" else "." ++ String.ofList digits)

/-- The printed form of a number of nanoseconds. -/
def magnitudeText (n : Nat) : String :=
  if n = 0 then "0s"
  else if n < 1000 then Text.ofNat n ++ "ns"
  else if n < 1000000 then decimal 3 n ++ "µs"
  else if n < 1000000000 then decimal 6 n ++ "ms"
  else
    let minutes := n / 60000000000
    let hours := minutes / 60
    (if hours = 0 then "" else Text.ofNat hours ++ "h") ++
      (if minutes = 0 then "" else Text.ofNat (minutes % 60) ++ "m") ++
      decimal 9 (n % 60000000000) ++ "s"

/-- The printed form of a duration. -/
def text (d : Duration) : String :=
  (if d.nanoseconds < 0 then "-" else "") ++ magnitudeText d.nanoseconds.natAbs

end Duration
end TensorCompiler

/-!
## Reading durations

A duration is a sequence of decimal numbers, each with a unit behind it, and an optional sign in
front. It must fit into 63 bits of nanoseconds. The sum of its numbers is counted in 64 bits, so
that twice the limit counts as nothing.
-/

namespace TensorCompiler.Duration

/-- Why a text is no duration. -/
inductive ReadError where
  | invalid (text : String)
  | missingUnit (text : String)
  | unknownUnit (unit text : String)
deriving DecidableEq, Repr

/-- A byte of an unusual character. -/
def escapedByte (b : UInt8) : List Char :=
  '\\' :: 'x' :: Text.hexDigits 2 b.toNat

/-- A text between quotes: bytes of characters that are not plain are written as numbers. -/
def quote (s : String) : String :=
  let chars := s.toList.flatMap fun c =>
    if c.toNat ≥ 128 || c.toNat < 32 then (String.singleton c).toUTF8.toList.flatMap escapedByte
    else if c == '"' || c == '\\' then ['\\', c]
    else [c]
  "\"" ++ String.ofList chars ++ "\""

/-- The wording of a refusal. -/
def ReadError.message : ReadError → String
  | .invalid text => "time: invalid duration " ++ quote text
  | .missingUnit text => "time: missing unit in duration " ++ quote text
  | .unknownUnit unit text => "time: unknown unit " ++ quote unit ++ " in duration " ++ quote text

/-- The nanoseconds of each unit. -/
def units : List (String × Nat) :=
  [("ns", 1), ("us", 1000), ("µs", 1000), ("μs", 1000), ("ms", 1000000), ("s", 1000000000),
    ("m", 60000000000), ("h", 3600000000000)]

/-- No duration reaches this number of nanoseconds. -/
def limit : Nat := 9223372036854775808

/-- A decimal digit. -/
def isDigitChar (c : Char) : Bool :=
  '0' ≤ c && c ≤ '9'

/-- The value of a decimal digit. -/
def digitValue (c : Char) : Nat :=
  c.toNat - '0'.toNat

/-- The number some digits write, unless it passes the limit. -/
def whole? (digits : List Char) : Option Nat :=
  digits.foldlM (fun n c =>
    if n > limit / 10 then none
    else
      let n := 10 * n + digitValue c
      if n > limit then none else some n) 0

/-- The number one. -/
def one : Number.Rounded := .ofQuotient 1 1

/-- The number ten. -/
def ten : Number.Rounded := .ofQuotient 10 1

/-- The part of a fraction that is kept: its digits as one number, and the power of ten they are
divided by, rounded at each digit. Digits beyond the limit are dropped. -/
def fraction (value : Nat) (power : Number.Rounded) : List Char → Nat × Number.Rounded
  | [] => (value, power)
  | c :: cs =>
    let next := 10 * value + digitValue c
    if value > (limit - 1) / 10 || next > limit then (value, power)
    else fraction next (power.mul ten) cs

/-- The whole nanoseconds in a fraction of a unit. -/
def fractionOf (value : Nat) (power : Number.Rounded) (unit : Nat) : Nat :=
  if value = 0 then 0
  else
    let step := (Number.Rounded.ofQuotient unit 1).div power
    ((Number.Rounded.ofQuotient value 1).mul step).floor

/-- The digits behind a point, if there is one, and the rest. -/
def takePointed : List Char → List Char × List Char
  | '.' :: r => (r.takeWhile isDigitChar, r.dropWhile isDigitChar)
  | r => ([], r)

/-- A character that a unit may have. -/
def isUnitChar (c : Char) : Bool :=
  !(c == '.' || isDigitChar c)

/-- One number with its unit: its nanoseconds and the rest of the text. -/
def readPart (text : String) (cs : List Char) : Except ReadError (Nat × List Char) :=
  let digits := cs.takeWhile isDigitChar
  let (decimals, rest) := takePointed (cs.dropWhile isDigitChar)
  let unit := rest.takeWhile isUnitChar
  match whole? digits with
  | none => .error (.invalid text)
  | some n =>
    if digits.isEmpty && decimals.isEmpty then .error (.invalid text)
    else if unit.isEmpty then .error (.missingUnit text)
    else
      match units.find? (·.1 == String.ofList unit) with
      | none => .error (.unknownUnit (String.ofList unit) text)
      | some (_, size) =>
        let (value, power) := fraction 0 one decimals
        let total := n * size + fractionOf value power size
        if n > limit / size || total > limit then .error (.invalid text)
        else .ok (total, rest.drop unit.length)

/-- The sum of all numbers of a text, at most `parts` of them. -/
def readParts (text : String) (sum : Nat) : Nat → List Char → Except ReadError Nat
  | _, [] => .ok sum
  | 0, _ => .error (.invalid text)
  | parts + 1, c :: cs =>
    if !(c == '.' || isDigitChar c) then .error (.invalid text)
    else
      match readPart text (c :: cs) with
      | .error e => .error e
      | .ok (n, rest) =>
        let sum := (sum + n) % (2 * limit)
        if sum > limit then .error (.invalid text)
        else readParts text sum parts rest

/-- Reads a duration. -/
def read (text : String) : Except ReadError Duration :=
  let (negative, cs) := match text.toList with
    | '-' :: cs => (true, cs)
    | '+' :: cs => (false, cs)
    | cs => (false, cs)
  match cs with
  | ['0'] => .ok ⟨0⟩
  | [] => .error (.invalid text)
  | cs =>
    match readParts text 0 cs.length cs with
    | .error e => .error e
    | .ok n =>
      if negative then .ok ⟨-n⟩
      else if n = limit then .error (.invalid text)
      else .ok ⟨n⟩

end TensorCompiler.Duration
