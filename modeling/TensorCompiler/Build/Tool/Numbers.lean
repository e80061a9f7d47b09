import TensorCompiler.Build.Tool.Basic

/-!
# Numbers and orders

The tools that take numbers apart, write them with units, put words in an order, and print bytes as
digits of five or six bits each.
-/

namespace TensorCompiler.Tool

/-! ## Factors -/

/-- The prime factors of a number from a divisor on. -/
def factorsFrom : Nat → Nat → Nat → List Nat
  | 0, _, n => if n > 1 then [n] else []
  | fuel + 1, divisor, n =>
    if n ≤ 1 then []
    else if divisor * divisor > n then [n]
    else if n % divisor == 0 then divisor :: factorsFrom fuel divisor (n / divisor)
    else factorsFrom fuel (if divisor == 2 then 3 else divisor + 2) n

/-- The prime factors of a number, as far as they are not too large. -/
def factors (n : Nat) : List Nat := factorsFrom 3000000 2 n

/-- Prints the prime factors of numbers. -/
def factor : Tool := withOptions ⟨"h", "", [("exponents", 'h')]⟩ 1 fun name g => do
  let words ← if g.operands.isEmpty then do
      let text ← takeInput
      pure ((Text.split ' ' (text.map fun c => if c == '\n' || c == '\t' then ' ' else c)).filter
        (!·.isEmpty))
    else pure g.operands
  let shown (n : Nat) : String := String.join ((factors n).map fun f => " " ++ Text.ofNat f)
  let wrong := words.filter fun w => (Text.readNat? w.toList).isNone
  wrong.forM fun w => warn (name ++ ": " ++ quote w ++ " is not a valid positive integer")
  say (unlines (words.filterMap fun w => (Text.readNat? w.toList).map fun n =>
    Text.ofNat n ++ ":" ++ shown n))
  return if wrong.isEmpty then 0 else 1

/-! ## Units -/

/-- A system of units. -/
inductive Units where
  | none
  | thousand
  /-- By powers of 1024, with a letter behind each unit or not. -/
  | binary (letter : Bool)
  /-- Whichever a number is written in. -/
  | auto
deriving DecidableEq, Repr

namespace Units

/-- The system with a name. -/
def ofName? (isSource : Bool) : String → Option Units
  | "none" => some .none
  | "si" => some .thousand
  | "iec" => some (.binary false)
  | "iec-i" => some (.binary true)
  | "auto" => if isSource then some .auto else Option.none
  | _ => Option.none

/-- The letters of the units, from the first on. -/
def letters : List Char := "KMGTPEZY".toList

/-- The step from one unit to the next. -/
def base : Units → Nat
  | .binary _ => 1024
  | _ => 1000

/-- The quotient of two numbers, rounded away from zero or down. -/
def divide (down : Bool) (a b : Nat) : Nat := if down then a / b else (a + b - 1) / b

/-- A number of the form `n / 10 ^ places` in the largest unit that is not greater: the number of
tenths or of ones, and the letter. -/
def scaled (u : Units) (down : Bool) (n places : Nat) : String :=
  let unit := Nat.pow 10 places
  let power := ((List.range 9).filter fun i => n ≥ unit * Nat.pow u.base i).getLast?.getD 0
  let shown (power : Nat) : String × Bool :=
    let size := unit * Nat.pow u.base power
    let tenths := divide down (10 * n) size
    let (text, whole) := if power > 0 && tenths < 100 then
        (Text.ofNat (tenths / 10) ++ "." ++ Text.ofNat (tenths % 10), tenths / 10)
      else (Text.ofNat (divide down n size), divide down n size)
    (text, whole ≥ u.base)
  let (text, exceeds) := shown power
  let (text, power) := if exceeds then ((shown (power + 1)).1, power + 1) else (text, power)
  text ++ (if power == 0 then "" else
    String.ofList (letters.getD (power - 1) 'Y' :: (if u == .binary true then ['i'] else [])))

end Units

/-- A number that is read: its digits, how many of them are behind the point, and what it is
multiplied by. -/
structure UnitNumber where
  negative : Bool
  value : Nat
  places : Nat
  factor : Nat

/-- Reads a number with a unit. -/
def UnitNumber.read (u : Units) (suffix : String) (word : String) : Except String UnitNumber :=
  let body := if !suffix.isEmpty && word.endsWith suffix then
      (word.dropEnd suffix.length).toString else word
  let (negative, cs) := match body.toList with
    | '-' :: cs => (true, cs)
    | cs => (false, cs)
  let whole := cs.takeWhile Char.isDigit
  let rest := cs.drop whole.length
  let (part, rest) := match rest with
    | '.' :: rest => (rest.takeWhile Char.isDigit, rest.dropWhile Char.isDigit)
    | rest => ([], rest)
  let invalid : Except String UnitNumber := .error ("invalid number: " ++ quote word)
  if whole.isEmpty && part.isEmpty then invalid
  else
    let value := (Text.readNat? (whole ++ part)).getD 0
    let made (factor : Nat) : Except String UnitNumber := .ok ⟨negative, value, part.length, factor⟩
    match rest with
    | [] => made 1
    | c :: rest =>
      match Units.letters.idxOf? c.toUpper with
      | none => .error ("invalid suffix in input: " ++ quote word)
      | some i =>
        let power (base : Nat) := Nat.pow base (i + 1)
        match u, rest with
        | .none, _ =>
          .error ("rejecting suffix in input: " ++ quote word ++ " (consider using --from)")
        | .thousand, [] => made (power 1000)
        | .binary false, [] => made (power 1024)
        | .binary true, ['i'] => made (power 1024)
        | .binary true, [] =>
          .error ("missing " ++ quote "i" ++ " suffix in input: " ++ quote word ++
            " (e.g Ki/Mi/Gi)")
        | .auto, [] => made (power 1000)
        | .auto, ['i'] => made (power 1024)
        | _, _ => .error ("invalid suffix in input " ++ quote word ++ ": " ++
            quote (String.ofList rest))

/-- The text of a number in a system of units. -/
def UnitNumber.text (n : UnitNumber) (u : Units) (down : Bool) : String :=
  let sign := if n.negative then "-" else ""
  let value := n.value * n.factor
  match u with
  | .none =>
    let unit := Nat.pow 10 n.places
    if n.factor == 1 && n.places > 0 then
      let part := Text.ofNat (value % unit)
      sign ++ Text.ofNat (value / unit) ++ "." ++
        String.ofList (List.replicate (n.places - part.length) '0') ++ part
    else sign ++ Text.ofNat (Units.divide down value unit)
  | u => sign ++ u.scaled down value n.places

/-- The complaint about a system of units that there is not. -/
def wrongUnits (option value : String) (isSource : Bool) : String :=
  let known := if isSource then ["none", "auto", "si", "iec", "iec-i"]
    else ["none", "si", "iec", "iec-i"]
  "invalid argument " ++ quote value ++ " for " ++ quote option ++ "\nValid arguments are:\n" ++
    Text.joinWith "\n" (known.map fun k => "  - " ++ quote k)

/-- Writes numbers with units. -/
def numfmt : Tool := withOptions ⟨"zD", "TFSdPfHRUIO", [("to", 'T'), ("from", 'F'), ("suffix", 'S'),
    ("delimiter", 'd'), ("padding", 'P'), ("field", 'f'), ("header", 'H'), ("round", 'R'),
    ("grouping", 'D'), ("invalid", 'I')]⟩ 1 fun name g => do
  let target := (g.value? 'T').elim (some .none) (Units.ofName? false)
  let source := (g.value? 'F').elim (some .none) (Units.ofName? true)
  match target, source with
  | none, _ => misuse 1 name (wrongUnits "--to" ((g.value? 'T').getD "") false)
  | _, none => misuse 1 name (wrongUnits "--from" ((g.value? 'F').getD "") true)
  | some target, some source =>
    let field := ((g.value? 'f').bind fun v => Text.readNat? v.toList).getD 1
    let down := g.value? 'R' == some "down" || g.value? 'R' == some "towards-zero"
    let suffix := (g.value? 'S').getD ""
    let padded (t : String) : String := match ((g.value? 'P').getD "").toList with
      | '-' :: cs => padRight ((Text.readNat? cs).getD 0) t
      | cs => padLeft ((Text.readNat? cs).getD 0) t
    let one (line : String) : Work Nat := do
      let separator := ((g.value? 'd').bind fun v => v.toList.head?).getD ' '
      let parts := Text.split separator line
      let word := parts.getD (field - 1) ""
      match UnitNumber.read source suffix word with
      | .error e => fail 2 (name ++ ": " ++ e)
      | .ok n =>
        let text := padded (n.text target down ++ suffix)
        say (Text.joinWith (String.singleton separator) (parts.set (field - 1) text) ++ "\n")
        return 0
    let words ← if g.operands.isEmpty then do pure (lines (← takeInput)) else pure g.operands
    words.foldlM (fun status w => if status != 0 then return status else one w) 0

/-! ## Orders -/

/-- A word with the number of words that have to come before it, and those that come behind it, the
latest pair first. -/
structure Ranked where
  word : String
  before : Nat
  behind : List String

/-- The words of pairs, each with what has to come before and behind. -/
def ranked : List String → List Ranked → List Ranked
  | a :: b :: rest, found =>
    let add (found : List Ranked) (w : String) : List Ranked :=
      if found.any (·.word == w) then found else found ++ [⟨w, 0, []⟩]
    let found := add (add found a) b
    let found := if a == b then found else found.map fun r =>
      let r := if r.word == b then { r with before := r.before + 1 } else r
      if r.word == a then { r with behind := b :: r.behind } else r
    ranked rest found
  | _, found => found

/-- Takes a word out, and lets those behind it come closer. -/
def release (found : List Ranked) (w : String) : List Ranked × List String :=
  let behind := ((found.find? (·.word == w)).map Ranked.behind).getD []
  behind.foldl (fun (found, free) b =>
    let found := found.map fun r => if r.word == b then { r with before := r.before - 1 } else r
    (found, if found.any fun r => r.word == b && r.before == 0 then free ++ [b] else free))
    (found.filter (·.word != w), [])

/-- A loop among words, from one of them on, by the first word behind each that comes round again.
-/
def loopFrom (found : List Ranked) : Nat → List String → String → List String
  | 0, seen, _ => seen
  | fuel + 1, seen, w =>
    if seen.contains w then (seen.dropWhile (· != w))
    else
      let before := (found.find? fun r => r.behind.contains w).map Ranked.word
      match before with
      | some b => loopFrom found fuel (seen ++ [w]) b
      | none => seen ++ [w]

/-- Prints words in order, those that are free first. A loop is complained about and broken. -/
def orderWords (name path : String) : Nat → List Ranked → List String → Nat → Work Nat
  | 0, _, _, status => return status
  | fuel + 1, found, w :: queue, status => do
    say (w ++ "\n")
    let (found, free) := release found w
    orderWords name path fuel found (queue ++ free) status
  | fuel + 1, found, [], status => do
    let sorted := found.mergeSort fun a b => decide (a.word ≤ b.word)
    let free := (sorted.filter (·.before == 0)).map Ranked.word
    if !free.isEmpty then orderWords name path fuel found free status
    else match sorted with
      | [] => return status
      | r :: _ =>
        let round := loopFrom found (found.length + 1) [] r.word
        let round := match round with
          | [] => []
          | first :: rest => first :: rest.reverse
        warn (name ++ ": " ++ path ++ ": input contains a loop:")
        round.forM fun w => warn (name ++ ": " ++ w)
        let first := round.headD r.word
        let last := round.getLast?.getD first
        let found := found.map fun r =>
          if r.word == last then { r with behind := r.behind.erase first }
          else if r.word == first then { r with before := r.before - 1 } else r
        orderWords name path fuel found [] 1

/-- Puts words in an order that pairs of them ask for. -/
def tsort : Tool := withOptions ⟨"w", "", []⟩ 1 fun name g => do
  match g.operands with
  | _ :: b :: _ => misuse 1 name ("extra operand " ++ quote b)
  | operands =>
    let path := operands.headD "-"
    match ← textOf path with
    | .error fault => fail 1 (about name path fault)
    | .ok text =>
      let spaced := text.map fun c => if c == '\n' || c == '\t' then ' ' else c
      let words := (Text.split ' ' spaced).filter (!·.isEmpty)
      if words.length % 2 == 1 then
        fail 1 (name ++ ": " ++ path ++ ": input contains an odd number of tokens")
      else
        let found := ranked words []
        orderWords name path (4 * words.length + 4) found [] 0

/-- Prints lines in any order; here it is the one they have. -/
def shuf : Tool := withOptions ⟨"erz", "inos", [("echo", 'e'), ("input-range", 'i'),
    ("head-count", 'n'), ("repeat", 'r')]⟩ 1 fun name g => do
  let given : Except String (List String) := match g.value? 'i' with
    | some range =>
      match (Text.split '-' range).map fun t => Text.readNat? t.toList with
      | [some a, some b] => .ok ((List.range (b + 1 - a)).map fun i => Text.ofNat (a + i))
      | _ => .error ("invalid input range: " ++ quote range)
    | none => .ok g.operands
  match given with
  | .error e => fail 1 (name ++ ": " ++ e)
  | .ok words =>
    let put (found : List String) : Work Nat := do
      let count := (g.value? 'n').bind fun v => Text.readNat? v.toList
      say (unlines ((count.map found.take).getD found))
      return 0
    if g.has 'i' || g.has 'e' then put words
    else
      let path := g.operands.headD "-"
      match ← textOf path with
      | .error fault => fail 1 (about name path fault)
      | .ok text => put (lines text)

/-! ## Bytes as digits -/

/-- An alphabet of digits: how many bits each stands for, and how many of them make up a group of
bytes. -/
structure Alphabet where
  bits : Nat
  group : Nat
  digits : List Char

namespace Alphabet

/-- The alphabet of sixty-four digits. -/
def sixtyFour : Alphabet :=
  ⟨6, 4, "ABCDEFGHIJKLMNOPQRSTUVWXYZabcdefghijklmnopqrstuvwxyz0123456789+/".toList⟩

/-- The alphabet of thirty-two digits. -/
def thirtyTwo : Alphabet := ⟨5, 8, "ABCDEFGHIJKLMNOPQRSTUVWXYZ234567".toList⟩

/-- The number of bytes in a group. -/
def bytes (a : Alphabet) : Nat := a.bits * a.group / 8

/-- The digits of up to one group of bytes, filled up with signs of equality. -/
def encodeGroup (a : Alphabet) (found : List Nat) : List Char :=
  let missing := a.bytes - found.length
  let n := (found ++ List.replicate missing 0).foldl (fun n b => 256 * n + b) 0
  let used := (8 * found.length + a.bits - 1) / a.bits
  (List.range a.group).map fun i =>
    if i < used then
      a.digits.getD (n / Nat.pow 2 (a.bits * (a.group - 1 - i)) % Nat.pow 2 a.bits) '='
    else '='

/-- The digits of bytes. -/
def encode (a : Alphabet) : Nat → List Nat → List Char
  | 0, _ => []
  | _, [] => []
  | fuel + 1, found => a.encodeGroup (found.take a.bytes) ++ a.encode fuel (found.drop a.bytes)

/-- The bytes that one group of digits stands for; nothing if it is no group. -/
def decodeGroup? (a : Alphabet) (cs : List Char) : Option (List Nat) :=
  let used := cs.takeWhile (· != '=')
  let count := a.bits * used.length / 8
  let n := (used ++ List.replicate (a.group - used.length) 'A').foldl (fun n c =>
    Nat.pow 2 a.bits * n + a.digits.idxOf c) 0
  let whole := a.encodeGroup
  let found := (List.range count).map fun i => n / Nat.pow 256 (a.bytes - 1 - i) % 256
  let fits := (cs.drop used.length).all (· == '=') && used.all a.digits.contains &&
    cs.length == a.group && count > 0 && ((whole found).filter (· != '=')).length == used.length
  if fits then some found else none

/-- The bytes at the start of a group that is not one, as far as they are known. -/
def partialGroup (a : Alphabet) (cs : List Char) : List Nat :=
  let used := cs.takeWhile a.digits.contains
  let n := (used ++ List.replicate (a.group - used.length) 'A').foldl (fun n c =>
    Nat.pow 2 a.bits * n + a.digits.idxOf c) 0
  (List.range (a.bits * used.length / 8)).map fun i => n / Nat.pow 256 (a.bytes - 1 - i) % 256

/-- The bytes of digits, and whether all of them could be read. -/
def decode (a : Alphabet) : Nat → List Char → List Nat × Bool
  | 0, _ => ([], true)
  | _, [] => ([], true)
  | fuel + 1, cs =>
    let group := cs.take a.group
    match a.decodeGroup? group with
    | some found =>
      let (others, good) := a.decode fuel (cs.drop a.group)
      (found ++ others, good)
    | none => (a.partialGroup group, false)

/-- Lines of a width. -/
def wrapped (width : Nat) : Nat → List Char → List (List Char)
  | 0, _ => []
  | _, [] => []
  | fuel + 1, cs => cs.take width :: wrapped width fuel (cs.drop width)

/-- The tool that prints texts in digits of an alphabet, or reads them back. -/
def tool (a : Alphabet) : Tool := withOptions ⟨"di", "w", [("decode", 'd'), ("wrap", 'w'),
    ("ignore-garbage", 'i')]⟩ 1 fun name g => do
  let width := (g.value? 'w').elim (some 76) fun v => Text.readNat? v.toList
  match g.operands, width with
  | _ :: b :: _, _ => misuse 1 name ("extra operand " ++ quote b)
  | _, none => fail 1 (name ++ ": invalid wrap size: " ++ quote ((g.value? 'w').getD ""))
  | operands, some width =>
    let path := operands.headD "-"
    match ← textOf path with
    | .error fault => fail 1 (about name path fault)
    | .ok text =>
      let cs := text.toList
      if g.has 'd' then
        let kept := cs.filter fun c =>
          if g.has 'i' then a.digits.contains c || c == '=' else c != '\n'
        let (found, good) := a.decode (kept.length + 1) kept
        say (String.ofList (found.map Char.ofNat))
        if good then return 0 else fail 1 (name ++ ": invalid input")
      else
        let out := a.encode (cs.length + 1) (cs.map Char.toNat)
        say (if width == 0 then String.ofList out
          else unlines ((wrapped width out.length out).map String.ofList))
        return 0

end Alphabet
end TensorCompiler.Tool
