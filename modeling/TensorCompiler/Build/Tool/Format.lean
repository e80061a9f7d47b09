import TensorCompiler.Build.Script.Quote
import TensorCompiler.Build.Tool.Basic

/-!
# Formats

Printing arguments, as they are or filled into a format.
-/

namespace TensorCompiler.Format

/-- The letters that stand for control characters behind a backslash. -/
def controls : List (Char × Nat) :=
  [('a', 7), ('b', 8), ('f', 12), ('n', 10), ('r', 13), ('t', 9), ('v', 11), ('\\', 92)]

/-- The value of octal digits. -/
def octal (cs : List Char) : Nat := cs.foldl (fun n c => 8 * n + (c.toNat - 48)) 0

/-- The octal digits at the start of a text, up to a number of them. -/
def octalDigits (most : Nat) (cs : List Char) : List Char :=
  (cs.take most).takeWhile fun c => '0' ≤ c && c ≤ '7'

/-- The value of a hexadecimal digit. -/
def hexValue? (c : Char) : Option Nat :=
  if c.isDigit then some (c.toNat - 48)
  else if 'a' ≤ c && c ≤ 'f' then some (c.toNat - 87)
  else if 'A' ≤ c && c ≤ 'F' then some (c.toNat - 55)
  else none

/-- Which escapes are read. -/
structure Escapes where
  /-- Whether an octal number needs a zero first. -/
  zero : Bool
  /-- Whether hexadecimal numbers and the escape character are known. -/
  more : Bool
  /-- Whether the letter c ends the output. -/
  stop : Bool

/-- What an escape stands for and what follows it; `none` for the end of the output. -/
def Escapes.read (e : Escapes) (cs : List Char) : Option (List Char) × List Char :=
  match cs with
  | [] => (some ['\\'], [])
  | c :: rest =>
    match controls.find? (·.1 == c) with
    | some p => (some [Char.ofNat p.2], rest)
    | none =>
      if c == 'c' && e.stop then (none, [])
      else if c == 'x' && e.more && (rest.head?.bind hexValue?).isSome then
        let digits := (rest.take 2).takeWhile fun d => (hexValue? d).isSome
        (some [Char.ofNat (digits.foldl (fun n d => 16 * n + (hexValue? d).getD 0) 0)],
          rest.drop digits.length)
      else if c == 'e' && e.more then (some [Char.ofNat 27], rest)
      else if c == '"' && e.more && !e.zero then (some ['"'], rest)
      else
        let digits := if c == '0' && e.zero then octalDigits 3 rest else octalDigits 3 cs
        let behind := if c == '0' && e.zero then rest else cs
        if c == '0' && e.zero || (!digits.isEmpty && !(e.zero && e.more)) then
          (some [Char.ofNat (octal digits % 256)], behind.drop digits.length)
        else (some ['\\'], cs)

/-- A text with its escapes read, and whether one of them ends the output. -/
def unescape (e : Escapes) : Nat → List Char → List Char × Bool
  | 0, _ => ([], false)
  | _, [] => ([], false)
  | fuel + 1, c :: cs =>
    if c != '\\' then
      let (out, stop) := unescape e fuel cs
      (c :: out, stop)
    else
      match e.read cs with
      | (none, _) => ([], true)
      | (some found, rest) =>
        let (out, stop) := unescape e fuel rest
        (found ++ out, stop)

/-- The escapes of arguments. -/
def argumentEscapes (more : Bool) : Escapes := ⟨true, more, true⟩

/-- Who prints: a tool, the smaller shell or the larger one. -/
inductive Speaker where
  | tool
  | small
  | large
deriving DecidableEq, Repr

/-- An escape of the larger shell in an argument: what it stands for, none if it ends the output,
and what follows it. An octal number may need a zero first. -/
def extendedEscape (zero : Bool) (cs : List Char) : Option (List Char) × List Char :=
  let digits (cs : List Char) : Option (List Char) × List Char :=
    let ds := octalDigits 3 cs
    (some [Char.ofNat (octal ds % 256)], cs.drop ds.length)
  match cs with
  | 'c' :: _ => (none, [])
  | '0' :: rest => digits rest
  | c :: rest =>
    if c == '"' || c == '?' || c == Script.apostrophe then (some ['\\', c], rest)
    else if c.isDigit then
      if zero || (octalDigits 3 cs).isEmpty then (some ['\\', c], rest) else digits cs
    else
      let (found, count) := Script.escape cs
      (some found, cs.drop count)
  | [] => (some ['\\'], [])

/-- A text of the larger shell with its escapes read, and whether one of them ends the output. -/
def extendedUnescape (zero : Bool) : Nat → List Char → List Char × Bool
  | 0, _ => ([], false)
  | _, [] => ([], false)
  | fuel + 1, c :: cs =>
    if c != '\\' then
      let (out, stop) := extendedUnescape zero fuel cs
      (c :: out, stop)
    else
      match extendedEscape zero cs with
      | (none, _) => ([], true)
      | (some found, rest) =>
        let (out, stop) := extendedUnescape zero fuel rest
        (found ++ out, stop)

/-- An argument with its escapes read. -/
def Speaker.unescape (s : Speaker) (zero : Bool) (cs : List Char) : List Char × Bool :=
  match s with
  | .large => extendedUnescape zero (cs.length + 1) cs
  | s => Format.unescape (argumentEscapes (s == .tool)) (cs.length + 1) cs

/-- Prints its arguments. The smaller shell reads escapes in them; others do so only if they are
told to. -/
def echo (speaker : Speaker) : Tool := fun _ args => do
  let builtin := speaker == .small
  let isFlag (a : String) := a.length > 1 && a.startsWith "-" &&
    (a.toList.drop 1).all fun c => "neE".toList.contains c
  let (flags, words) := if builtin then
      (if args.head? == some "-n" then (['n'], args.tail) else ([], args))
    else ((args.takeWhile isFlag).flatMap fun a => a.toList.drop 1, args.dropWhile isFlag)
  let escapes := builtin || (flags.filter (· != 'n')).getLast? == some 'e'
  let text := Text.joinWith " " words
  let (out, stop) :=
    if escapes then speaker.unescape true text.toList else (text.toList, false)
  Tool.say (String.ofList out ++ (if stop || flags.contains 'n' then "" else "\n"))
  return 0

/-- A directive of a format: its flags, its width, its precision and its letter. -/
structure Directive where
  flags : List Char
  width : Option Int
  precision : Option Int
  letter : Char

/-- Fills a text up to the width of a directive. -/
def Directive.pad (d : Directive) (zeros : Bool) (sign body : List Char) : List Char :=
  let w := d.width.getD 0
  let left := d.flags.contains '-' || w < 0
  let missing := w.natAbs - (sign.length + body.length)
  if left then sign ++ body ++ List.replicate missing ' '
  else if zeros && d.flags.contains '0' then sign ++ List.replicate missing '0' ++ body
  else List.replicate missing ' ' ++ sign ++ body

/-- A text in the form of a directive. -/
def Directive.text (d : Directive) (s : List Char) : List Char :=
  d.pad false [] (match d.precision with
    | some n => if n < 0 then s else s.take n.toNat
    | none => s)

/-- The digits of a number in a base up to sixteen. -/
def digits (base : Nat) (upper : Bool) (n : Nat) : List Char :=
  let ds := Nat.toDigits base n
  if upper then ds.map Char.toUpper else ds

/-- The sign that a directive writes before a number. -/
def Directive.sign (d : Directive) (negative : Bool) : List Char :=
  if negative then ['-'] else if d.flags.contains '+' then ['+']
  else if d.flags.contains ' ' then [' '] else []

/-- An integer in the form of a directive. Letters without a sign write it modulo two to the power
of sixty-four. -/
def Directive.integer (d : Directive) (n : Int) : List Char :=
  let signed := d.letter == 'd' || d.letter == 'i'
  let size : Nat := if signed then n.natAbs else (n % (18446744073709551616 : Int)).toNat
  let body := match d.letter with
    | 'o' => digits 8 false size
    | 'x' => digits 16 false size
    | 'X' => digits 16 true size
    | _ => digits 10 false size
  let body := match d.precision with
    | some p =>
      if p == 0 && size == 0 then [] else List.replicate (p.toNat - body.length) '0' ++ body
    | none => body
  let lead := if !d.flags.contains '#' || size == 0 then []
    else match d.letter with
      | 'o' => ['0']
      | 'x' => ['0', 'x']
      | 'X' => ['0', 'X']
      | _ => []
  d.pad d.precision.isNone ((if signed then d.sign (n < 0) else []) ++ lead) body

/-- A decimal number as an integer and the number of its digits behind the point. It may end in a
power of ten. -/
def decimal? (cs : List Char) : Option (Bool × Nat × Nat) :=
  let signed (cs : List Char) : Bool × List Char := match cs with
    | '-' :: cs => (true, cs)
    | '+' :: cs => (false, cs)
    | cs => (false, cs)
  let (negative, cs) := signed cs
  let mantissa := cs.takeWhile fun c => c != 'e' && c != 'E'
  let (down, power) := match cs.drop mantissa.length with
    | [] => (false, some 0)
    | _ :: rest =>
      let (down, ds) := signed rest
      (down, Text.readNat? ds)
  match Text.splitChars '.' mantissa, power with
  | [whole], some e =>
    (Text.readNat? whole).map fun n =>
      if down then (negative, n, e) else (negative, n * Nat.pow 10 e, 0)
  | [whole, part], some e =>
    (Text.readNat? (whole ++ part)).map fun n =>
      if down then (negative, n, part.length + e)
      else (negative, n * Nat.pow 10 (e - part.length), part.length - e)
  | _, _ => none

/-- A number with a fixed number of places, a half going to the even neighbour. -/
def Directive.fixed (d : Directive) (negative : Bool) (n places : Nat) : List Char :=
  let precision := ((d.precision.getD 6).toNat)
  let scaled := n * Nat.pow 10 precision
  let unit := Nat.pow 10 places
  let q := scaled / unit
  let r := scaled % unit
  let q := if 2 * r > unit || (2 * r == unit && q % 2 == 1) then q + 1 else q
  let ds := Nat.toDigits 10 q
  let ds := List.replicate (precision + 1 - ds.length) '0' ++ ds
  let whole := ds.take (ds.length - precision)
  let body := if precision == 0 then whole else whole ++ '.' :: ds.drop (ds.length - precision)
  d.pad true (d.sign negative) body

/-- The first digits of a number and its power of ten, a half going to the even neighbour. -/
def significant (count n places : Nat) : List Char × Int :=
  let ds := Nat.toDigits 10 n
  let exponent : Int := (ds.length : Int) - 1 - places
  let unit := Nat.pow 10 (ds.length - count)
  let q := n * Nat.pow 10 (count - ds.length) / unit
  let r := n % unit
  let q := if 2 * r > unit || (2 * r == unit && unit > 1 && q % 2 == 1) then q + 1 else q
  let qs := Nat.toDigits 10 q
  if n == 0 then (List.replicate count '0', 0)
  else if qs.length > count then (qs.take count, exponent + 1)
  else (qs, exponent)

/-- An exponent with at least two digits. -/
def exponentText (letter : Char) (e : Int) : List Char :=
  let ds := Nat.toDigits 10 e.natAbs
  letter :: (if e < 0 then '-' else '+') :: (List.replicate (2 - ds.length) '0' ++ ds)

/-- Digits with a point behind the first. -/
def pointed (ds : List Char) : List Char :=
  if ds.length > 1 then ds.take 1 ++ '.' :: ds.drop 1 else ds

/-- A number with a power of ten. -/
def Directive.scientific (d : Directive) (negative : Bool) (n places : Nat) : List Char :=
  let (ds, e) := significant ((d.precision.getD 6).toNat + 1) n places
  d.pad true (d.sign negative) (pointed ds ++ exponentText d.letter e)

/-- A number in the shorter of both forms, without zeros at its end. -/
def Directive.general (d : Directive) (negative : Bool) (n places : Nat) : List Char :=
  let count := max 1 (d.precision.getD 6).toNat
  let (ds, e) := significant count n places
  let trim (cs : List Char) :=
    if d.flags.contains '#' then cs else (cs.reverse.dropWhile (· == '0')).reverse
  let body := if e < -4 || e ≥ count then
      pointed (match trim ds with
        | [] => ['0']
        | ds => ds) ++ exponentText (if d.letter == 'G' then 'E' else 'e') e
    else if e < 0 then '0' :: '.' :: (List.replicate (e.natAbs - 1) '0' ++ trim ds)
    else
      let whole := ds.take (e.toNat + 1)
      let part := trim (ds.drop (e.toNat + 1))
      if part.isEmpty then whole else whole ++ '.' :: part
  d.pad true (d.sign negative) body

/-- A number in the form that the letter of a directive asks for. -/
def Directive.real (d : Directive) (negative : Bool) (n places : Nat) : List Char :=
  match d.letter with
  | 'e' | 'E' => d.scientific negative n places
  | 'g' | 'G' => d.general negative n places
  | _ => d.fixed negative n places

/-- The integer at the start of a text, and what follows it. -/
def leadingInt (cs : List Char) : Option Int × List Char :=
  let cs := cs.dropWhile fun c => c == ' ' || c == '\t' || c == '\n'
  let (negative, body) := match cs with
    | '-' :: body => (true, body)
    | '+' :: body => (false, body)
    | body => (false, body)
  let inBase (base : Nat) (body : List Char) : Option Int × List Char :=
    let ds := body.takeWhile fun c => (hexValue? c).any (· < base)
    if ds.isEmpty then (none, cs)
    else
      let n := ds.foldl (fun n c => base * n + (hexValue? c).getD 0) 0
      (some (if negative then -(n : Int) else n), body.drop ds.length)
  match body with
  | '0' :: 'x' :: rest =>
    if (rest.head?.bind hexValue?).isSome then inBase 16 rest else (some 0, 'x' :: rest)
  | '0' :: rest => inBase 8 ('0' :: rest)
  | body => inBase 10 body

/-- How a printing tool speaks about its arguments. -/
structure Voice where
  name : String
  speaker : Speaker

/-- Complains about an argument that is no number, or not altogether. -/
def Voice.complain (v : Voice) (arg : String) (partly : Bool) : Work Unit :=
  let shown := if v.speaker == .tool then Tool.shellQuote arg else arg
  Tool.warn (v.name ++ ": " ++ shown ++ ": " ++ (match v.speaker, partly with
    | .tool, true => "value not completely converted"
    | .tool, false => "expected a numeric value"
    | .small, true => "not completely converted"
    | .small, false => "expected numeric value"
    | .large, _ => "invalid number"))

/-- The number an argument stands for, and whether all is well with it. -/
def Voice.number (v : Voice) (arg : String) : Work (Int × Bool) := do
  match arg.toList with
  | [] => return (0, true)
  | q :: c :: _ =>
    if q == '"' || q == Char.ofNat 39 then return ((c.toNat : Int), true)
  | _ => pure ()
  match leadingInt arg.toList with
  | (some n, []) => return (n, true)
  | (some n, _) =>
    v.complain arg true
    return (n, false)
  | (none, _) =>
    v.complain arg false
    return (0, false)

/-- The number an argument stands for, cut to what sixty-four bits hold. -/
def Voice.bounded (v : Voice) (signed : Bool) (arg : String) : Work (Int × Bool) := do
  let (n, good) ← v.number arg
  let (low, high) : Int × Int := if signed then (-9223372036854775808, 9223372036854775807)
    else (-18446744073709551615, 18446744073709551615)
  if low ≤ n && n ≤ high then return (n, good)
  else
    let shown := match v.speaker with
      | .tool => Tool.shellQuote arg
      | .small => arg
      | .large => "warning: " ++ arg
    Tool.warn (v.name ++ ": " ++ shown ++ ": Numerical result out of range")
    return (if n < low then low else high, good && v.speaker == .large)

/-- How far a format is printed. -/
structure Progress where
  args : List String
  status : Nat
  stopped : Bool
  out : List Char

/-- Takes the next argument; an empty one if there is none. -/
def Progress.take (p : Progress) : String × Progress :=
  (p.args.headD "", { p with args := p.args.tail })

/-- Adds characters to the output. -/
def Progress.add (p : Progress) (cs : List Char) : Progress := { p with out := p.out ++ cs }

/-- The number that a width or a precision is, which may be an argument. -/
def measure (v : Voice) (cs : List Char) (p : Progress) :
    Work (Option Int × List Char × Progress) := do
  match cs with
  | '*' :: rest =>
    let (arg, p) := p.take
    let (n, good) ← v.number arg
    return (some n, rest, { p with status := if good then p.status else 1 })
  | cs =>
    let ds := cs.takeWhile Char.isDigit
    return ((Text.readNat? ds).map fun n => (n : Int), cs.drop ds.length, p)

/-- Prints what a directive asks for. `none` if its letter is unknown. -/
def Directive.print (v : Voice) (d : Directive) (p : Progress) : Work (Option Progress) := do
  let (arg, q) := p.take
  if "diouxX".toList.contains d.letter then
    let (n, good) ← v.bounded (d.letter == 'd' || d.letter == 'i') arg
    return some ({ q with status := if good then q.status else 1 }.add (d.integer n))
  else if "eEfFgG".toList.contains d.letter then
    match decimal? (if arg.isEmpty then ['0'] else arg.toList) with
    | some (negative, n, places) => return some (q.add (d.real negative n places))
    | none =>
      v.complain arg false
      return some ({ q with status := 1 }.add (d.real false 0 0))
  else if d.letter == 's' then return some (q.add (d.text arg.toList))
  else if d.letter == 'c' then return some (q.add (d.text [arg.toList.headD (Char.ofNat 0)]))
  else if d.letter == 'b' then
    let (text, stop) := v.speaker.unescape false arg.toList
    return some ({ q with stopped := stop }.add (d.text text))
  else if v.speaker == .large && (d.letter == 'q' || d.letter == 'Q') then
    return some (q.add (d.text (Script.Quote.backslashed arg).toList))
  else if v.speaker == .large && d.letter == 'n' then return some q
  else return none

/-- What an escape of a format stands for and what follows it; `none` for the end of the output. -/
def Voice.formatEscape (v : Voice) (cs : List Char) : Option (List Char) × List Char :=
  let isTool := v.speaker == .tool
  if v.speaker == .large && cs.head? != some 'c' then
    let (found, count) := Script.escape cs
    (some found, cs.drop count)
  else if v.speaker == .large then (some ['\\'], cs)
  else Escapes.read ⟨false, isTool, isTool⟩ cs

/-- The letters that stand for sizes before the letter of a directive of the larger shell. -/
def sizeLetters : List Char := "hjlLtz".toList

/-- Goes through a format once. -/
def pass (v : Voice) : Nat → List Char → Progress → Work Progress
  | 0, _, p => return p
  | _, [], p => return p
  | fuel + 1, c :: cs, p => do
    if p.stopped then return p
    if c == '\\' then
      match v.formatEscape cs with
      | (none, _) => return { p with stopped := true }
      | (some found, rest) => pass v fuel rest (p.add found)
    else if c != '%' then pass v fuel cs (p.add [c])
    else if cs.head? == some '%' then pass v fuel cs.tail (p.add ['%'])
    else
      let flags := cs.takeWhile fun d => "#-+ 0".toList.contains d
      let (width, rest, p) ← measure v (cs.drop flags.length) p
      let (precision, rest, p) ← match rest with
        | '.' :: rest => do
          let (n, rest, p) ← measure v rest p
          pure (some (n.getD 0), rest, p)
        | rest => pure (none, rest, p)
      let failed (text : String) : Work Progress := do
        Tool.say (String.ofList p.out)
        Tool.warn (v.name ++ ": " ++ text)
        return { p with
          status := if v.speaker == .small then 2 else 1, stopped := true, out := [] }
      let rest := if v.speaker == .large then rest.dropWhile sizeLetters.contains else rest
      match rest with
      | [] =>
        let spec := String.ofList ('%' :: cs)
        failed (match v.speaker with
          | .small => "missing format character"
          | .large => Script.cited spec ++ ": missing format character"
          | .tool => spec ++ ": invalid conversion specification")
      | letter :: rest =>
        match ← Directive.print v ⟨flags, width, precision, letter⟩ p with
        | some p => pass v fuel rest p
        | none =>
          let spec := String.ofList ('%' :: cs.take (cs.length - rest.length))
          failed (match v.speaker with
            | .small => spec ++ ": invalid directive"
            | .large => Script.cited (String.singleton letter) ++ ": invalid format character"
            | .tool => spec ++ ": invalid conversion specification")

/-- Goes through a format until all arguments are used. -/
def passes (v : Voice) (format : List Char) : Nat → Progress → Work Progress
  | 0, p => return p
  | fuel + 1, p => do
    let q ← pass v (format.length + 1) format p
    if q.stopped || q.args.isEmpty || q.args.length == p.args.length then return q
    passes v format fuel q

/-- Prints its arguments in a format. -/
def printf (speaker : Speaker) : Tool := fun name args => do
  let args := if args.head? == some "--" then args.tail else args
  match args with
  | [] =>
    match speaker with
    | .tool => Tool.misuse 1 name "missing operand"
    | .small => Tool.fail 2 (name ++ ": usage: printf format [arg ...]")
    | .large => Tool.fail 2 "printf: usage: printf [-v var] format [arguments]"
  | format :: args =>
    let p ← passes ⟨name, speaker⟩ format.toList (args.length + 1) ⟨args, 0, false, []⟩
    Tool.say (String.ofList p.out)
    return p.status

end TensorCompiler.Format
