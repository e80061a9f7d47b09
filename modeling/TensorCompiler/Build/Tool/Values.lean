import TensorCompiler.Build.Regex
import TensorCompiler.Build.Tool.Files

/-!
# Tools on values

The tools that print numbers, names and digests, and those that only end or wait.
-/

namespace TensorCompiler.Tool

/-! ## Waiting -/

/-- The nanoseconds that a number with at most nine places and a unit stands for. -/
def interval? (s : String) : Option Nat :=
  let cs := s.toList
  let body := cs.takeWhile fun c => c.isDigit || c == '.'
  let unit := match cs.drop body.length with
    | [] | ['s'] => some 1
    | ['m'] => some 60
    | ['h'] => some 3600
    | ['d'] => some 86400
    | _ => none
  let places (part : List Char) := (Text.readNat? ((part ++ List.replicate 9 '0').take 9)).getD 0
  let number := match Text.splitChars '.' body with
    | [whole] => (Text.readNat? whole).map (· * 1000000000)
    | [whole, part] =>
      if whole.isEmpty && part.isEmpty then none
      else some ((Text.readNat? whole).getD 0 * 1000000000 + places part)
    | _ => none
  match number, unit with
  | some n, some u => some (n * u)
  | _, _ => none

/-- Longer than any time limit. -/
def forever : Nat := 1000000000000000000000

/-- Lets time pass. -/
def sleep : Tool := withOptions ⟨"", "", []⟩ 1 fun name g => do
  let read (a : String) := if a == "infinity" || a == "inf" then some forever else interval? a
  if g.operands.isEmpty then misuse 1 name "missing operand"
  else
    match g.operands.filter fun a => (read a).isNone with
    | [] =>
      modify fun t => { t with time := g.operands.foldl (fun n a => n + (read a).getD 0) t.time }
      return 0
    | wrong =>
      fail 1 (Text.joinWith "\n" (wrong.map fun a =>
        name ++ ": invalid time interval " ++ quote a) ++ "\n" ++ hint name)

/-! ## Names -/

/-- The last part of a path, without an ending. -/
def basename : Tool :=
  withOptions ⟨"az", "s", [("multiple", 'a'), ("suffix", 's')]⟩ 1 fun name g => do
  let cut (path ending : String) :=
    let base := baseName path
    if base != ending && base.endsWith ending then (base.dropEnd ending.length).toString else base
  match g.operands with
  | [] => misuse 1 name "missing operand"
  | paths =>
    if g.has 'a' || g.has 's' then
      say (unlines (paths.map fun p => cut p ((g.value? 's').getD "")))
      return 0
    else
      match paths with
      | _ :: _ :: c :: _ => misuse 1 name ("extra operand " ++ quote c)
      | path :: rest =>
        say (cut path (rest.headD "") ++ "\n")
        return 0
      | [] => return 0

/-- A path without its last part. -/
def dirOf (path : String) : String :=
  match (Disk.trimmedParts path).reverse with
  | [] => if path.startsWith "/" then "/" else "."
  | [_] => "."
  | _ :: above =>
    match above.dropWhile (·.isEmpty) with
    | [] => "/"
    | above => Text.joinWith "/" above.reverse

/-- Prints paths without their last parts. -/
def dirname : Tool := withOptions ⟨"z", "", []⟩ 1 fun name g => do
  if g.operands.isEmpty then misuse 1 name "missing operand"
  else
    say (unlines (g.operands.map dirOf))
    return 0

/-- Prints the directory it runs in. -/
def pwd : Tool := withOptions ⟨"LP", "", [("logical", 'L'), ("physical", 'P')]⟩ 1 fun name g => do
  if !g.operands.isEmpty then warn (name ++ ": ignoring non-option arguments")
  say ((← get).here.text ++ "\n")
  return 0

/-! ## Numbers -/

/-- A decimal number: an integer in units of the last of some places. -/
structure Decimal where
  value : Int
  places : Nat

/-- Reads a decimal number. -/
def Decimal.read? (s : String) : Option Decimal :=
  let (negative, cs) := match s.toList with
    | '-' :: cs => (true, cs)
    | '+' :: cs => (false, cs)
    | cs => (false, cs)
  let sign (n : Nat) : Int := if negative then -(n : Int) else n
  match Text.splitChars '.' cs with
  | [whole] => (Text.readNat? whole).map fun n => ⟨sign n, 0⟩
  | [whole, part] => (Text.readNat? (whole ++ part)).map fun n => ⟨sign n, part.length⟩
  | _ => none

/-- A number in units of the last of some more places. -/
def Decimal.scale (d : Decimal) (places : Nat) : Int :=
  d.value * (Nat.pow 10 (places - d.places) : Nat)

/-- The text of an integer in units of the last of some places, filled with zeros to a width. -/
def decimalText (n : Int) (places width : Nat) : String :=
  let ds := Nat.toDigits 10 n.natAbs
  let ds := List.replicate (places + 1 - ds.length) '0' ++ ds
  let body :=
    if places == 0 then ds else ds.take (ds.length - places) ++ '.' :: ds.drop (ds.length - places)
  let sign := if n < 0 then ['-'] else []
  String.ofList (sign ++ List.replicate (width - (sign.length + body.length)) '0' ++ body)

/-- The numbers from one to another. -/
def steps (step last : Int) : Nat → Int → List Int
  | 0, _ => []
  | fuel + 1, n =>
    if (0 < step && last < n) || (step < 0 && n < last) then []
    else n :: steps step last fuel (n + step)

/-- Prints numbers in equal steps. -/
def seq : Tool := fun name args => do
  let isNumber (a : String) := (Decimal.read? a).isSome
  let flags := args.takeWhile fun a => a.startsWith "-" && !isNumber a
  let (options, operands) :=
    match Options.read ⟨"w", "sf", [("separator", 's'), ("equal-width", 'w'),
      ("format", 'f')]⟩ (args.length + 1) (args.filter fun a => !isNumber a) with
    | .ok g => (g, g.operands ++ args.filter isNumber)
    | .error _ => (⟨[], []⟩, args.drop flags.length)
  let taken := (options.options.filter fun o => o.1 == 's' || o.1 == 'f').map Prod.snd
  let operands := operands.filter fun a => !taken.contains a || isNumber a
  match operands.find? (!isNumber ·), operands with
  | some wrong, _ => misuse 1 name ("invalid floating point argument: " ++ quote wrong)
  | none, [] => misuse 1 name "missing operand"
  | none, _ :: _ :: _ :: d :: _ => misuse 1 name ("extra operand " ++ quote d)
  | none, operands =>
    let numbers := operands.filterMap Decimal.read?
    let (first, step, last) : Decimal × Decimal × Decimal := match numbers with
      | [a, b, c] => (a, b, c)
      | [a, c] => (a, ⟨1, 0⟩, c)
      | [c] => (⟨1, 0⟩, ⟨1, 0⟩, c)
      | _ => (⟨1, 0⟩, ⟨1, 0⟩, ⟨0, 0⟩)
    if step.value == 0 then
      misuse 1 name ("invalid Zero increment value: " ++ quote (operands.getD 1 ""))
    else
      let places := max first.places step.places
      let all := max places last.places
      let unit : Int := (Nat.pow 10 (all - places) : Nat)
      let bound := last.scale all
      let bound := if 0 < step.value then bound.fdiv unit else -((-bound).fdiv unit)
      let found := steps (step.scale places) bound 100000 (first.scale places)
      let width := if options.has 'w' then
          max (decimalText (first.scale places) places 0).length
            (decimalText ((found.getLast?).getD (first.scale places)) places 0).length
        else 0
      let text := Text.joinWith ((options.value? 's').getD "\n")
        (found.map fun n => decimalText n places width)
      if !found.isEmpty then say (text ++ "\n")
      return 0

/-- A value of an expression. -/
inductive ExprValue where
  | number (n : Int)
  | text (s : String)

/-- The text of a value. -/
def ExprValue.show : ExprValue → String
  | .number n => Text.ofInt n
  | .text s => s

/-- The number that a value is. -/
def ExprValue.number? : ExprValue → Option Int
  | .number n => some n
  | .text s =>
    match s.toList with
    | '-' :: ds => (Text.readNat? ds).map fun n => -(n : Int)
    | ds => (Text.readNat? ds).map fun n => (n : Int)

/-- Whether a value is nothing: empty or zero. -/
def ExprValue.isNull : ExprValue → Bool
  | .number n => n == 0
  | .text s =>
    s.isEmpty || (s.toList.all (fun c => c == '0' || c == '-') && s.toList.contains '0' &&
      (s.toList.filter (· == '-')).length ≤ 1 && (s.startsWith "-" || !s.toList.contains '-'))

/-- Why an expression has no value. -/
inductive ExprFault where
  | missingAfter (word : String)
  | unexpected (word : String)
  | expectsClosing (word : String)
  | notInteger
  | zero

/-- The wording of a fault. -/
def ExprFault.text : ExprFault → String
  | .missingAfter word => "syntax error: missing argument after " ++ quote word
  | .unexpected word => "syntax error: unexpected argument " ++ quote word
  | .expectsClosing word => "syntax error: expecting " ++ quote ")" ++ " after " ++ quote word
  | .notInteger => "non-integer argument"
  | .zero => "division by zero"

/-- Matches a text against an expression from its start on. -/
def exprMatch (text pattern : String) : ExprValue :=
  match Regex.read ⟨false, false, false⟩ pattern.toList with
  | .error _ => .number 0
  | .ok r =>
    let cs := text.toList
    match Regex.matchAt? ⟨false, false, false⟩ r cs ⟨0, none, cs, []⟩ with
    | none => if r.groupCount > 0 then .text "" else .number 0
    | some found =>
      if r.groupCount > 0 then .text (String.ofList ((found.stop.group? cs 1).getD []))
      else .number (found.stop.position - found.start : Nat)

/-- The operators of each level, the weakest first. -/
def exprLevels : List (List String) :=
  [["|"], ["&"], ["<", "<=", "=", "==", "!=", ">=", ">"], ["+", "-"], ["*", "/", "%"], [":"]]

/-- The value that an operator makes of two others. -/
def exprApply (operator : String) (a b : ExprValue) : Except ExprFault ExprValue :=
  let numbers (f : Int → Int → Except ExprFault ExprValue) : Except ExprFault ExprValue :=
    match a.number?, b.number? with
    | some x, some y => f x y
    | _, _ => .error .notInteger
  let truth (b : Bool) : ExprValue := .number (if b then 1 else 0)
  let compared (test : Ordering → Bool) : Except ExprFault ExprValue :=
    match a.number?, b.number? with
    | some x, some y => .ok (truth (test (compare x y)))
    | _, _ => .ok (truth (test (compare a.show b.show)))
  match operator with
  | "|" => .ok (if !a.isNull then a else if !b.isNull then b else .number 0)
  | "&" => .ok (if a.isNull || b.isNull then .number 0 else a)
  | "<" => compared (· == .lt)
  | "<=" => compared (· != .gt)
  | "=" | "==" => compared (· == .eq)
  | "!=" => compared (· != .eq)
  | ">=" => compared (· != .lt)
  | ">" => compared (· == .gt)
  | "+" => numbers fun x y => .ok (.number (x + y))
  | "-" => numbers fun x y => .ok (.number (x - y))
  | "*" => numbers fun x y => .ok (.number (x * y))
  | "/" => numbers fun x y => if y == 0 then .error .zero else .ok (.number (x.tdiv y))
  | "%" => numbers fun x y => if y == 0 then .error .zero else .ok (.number (x.tmod y))
  | _ => .ok (exprMatch a.show b.show)

/-- The value of words from a level on, and the words behind it. `last` is the word before. -/
def exprLevel :
    Nat → Nat → String → List String → Except ExprFault (ExprValue × String × List String)
  | 0, _, last, _ => .error (.missingAfter last)
  | fuel + 1, level, last, words =>
    match exprLevels[level]? with
    | some operators => do
      let (a, last, rest) ← exprLevel fuel (level + 1) last words
      exprTail fuel level operators a last rest
    | none =>
      match words with
      | [] => .error (.missingAfter last)
      | "(" :: rest => do
        let (a, last, rest) ← exprLevel fuel 0 "(" rest
        match rest with
        | ")" :: rest => return (a, ")", rest)
        | [] => .error (.expectsClosing last)
        | w :: _ => .error (.unexpected w)
      | ")" :: _ => .error (.unexpected ")")
      | "length" :: rest => do
        let (a, last, rest) ← exprLevel fuel exprLevels.length "length" rest
        return (.number a.show.length, last, rest)
      | "match" :: rest => do
        let (a, last, rest) ← exprLevel fuel exprLevels.length "match" rest
        let (b, last, rest) ← exprLevel fuel exprLevels.length last rest
        return (exprMatch a.show b.show, last, rest)
      | "index" :: rest => do
        let (a, last, rest) ← exprLevel fuel exprLevels.length "index" rest
        let (b, last, rest) ← exprLevel fuel exprLevels.length last rest
        let found := a.show.toList.findIdx? fun c => b.show.toList.contains c
        return (.number ((found.map (· + 1)).getD 0 : Nat), last, rest)
      | "substr" :: rest => do
        let (a, last, rest) ← exprLevel fuel exprLevels.length "substr" rest
        let (b, last, rest) ← exprLevel fuel exprLevels.length last rest
        let (c, last, rest) ← exprLevel fuel exprLevels.length last rest
        let text := match b.number?, c.number? with
          | some i, some n => if 0 < i && 0 < n then
              String.ofList ((a.show.toList.drop (i.toNat - 1)).take n.toNat) else ""
          | _, _ => ""
        return (.text text, last, rest)
      | "+" :: w :: rest => return (.text w, w, rest)
      | w :: rest => return (.text w, w, rest)
where
  /-- Applies the operators of a level from left to right. -/
  exprTail : Nat → Nat → List String → ExprValue → String → List String →
      Except ExprFault (ExprValue × String × List String)
    | 0, _, _, a, last, rest => .ok (a, last, rest)
    | fuel + 1, level, operators, a, last, rest =>
      match rest with
      | operator :: behind =>
        if operators.contains operator then do
          let (b, last, rest) ← exprLevel fuel (level + 1) operator behind
          let value ← exprApply operator a b
          exprTail fuel level operators value last rest
        else .ok (a, last, rest)
      | [] => .ok (a, last, [])

/-- Prints the value of the expression that its arguments are. -/
def expr : Tool := fun name args => do
  let args := if args.head? == some "--" then args.tail else args
  if args.isEmpty then misuse 2 name "missing operand"
  else
    match exprLevel (20 * args.length + 40) 0 "" args with
    | .error fault => fail 2 (name ++ ": " ++ fault.text)
    | .ok (_, _, w :: _) => fail 2 (name ++ ": " ++ (ExprFault.unexpected w).text)
    | .ok (value, _, []) =>
      say (value.show ++ "\n")
      return if value.isNull then 1 else 0

/-! ## Repetition and who runs it -/

/-- Prints a line over and over, more often than a reader looks at. -/
def yes : Tool := fun name args => do
  match Options.readLeading ⟨"", "", []⟩ (args.length + 1) args with
  | .error e => misuse 1 name e
  | .ok g =>
    let line := (if g.operands.isEmpty then "y" else Text.joinWith " " g.operands) ++ "\n"
    say (String.join (List.replicate 5000 line))
    goOn

/-- Prints the name of the system and of its kind of machine. -/
def uname : Tool := withOptions ⟨"asnrvmpio", "", [("all", 'a'), ("kernel-name", 's'),
    ("machine", 'm'), ("operating-system", 'o'), ("nodename", 'n')]⟩ 1 fun name g => do
  match g.operands with
  | a :: _ => misuse 1 name ("extra operand " ++ quote a)
  | [] =>
    let has (c : Char) : Bool := g.has c || g.has 'a'
    let shown := (if has 's' || g.options.isEmpty then ["Linux"] else []) ++
      (if has 'n' then ["localhost"] else []) ++ (if has 'r' then ["6.1.0"] else []) ++
      (if has 'v' then ["#1 SMP"] else []) ++ (if has 'm' then ["x86_64"] else []) ++
      (if g.has 'p' then ["unknown"] else []) ++ (if g.has 'i' then ["unknown"] else []) ++
      (if has 'o' then ["GNU/Linux"] else [])
    say (Text.joinWith " " shown ++ "\n")
    return 0

/-- Prints the kind of machine. -/
def arch : Tool := withOptions ⟨"", "", []⟩ 1 fun name g => do
  match g.operands with
  | a :: _ => misuse 1 name ("extra operand " ++ quote a)
  | [] =>
    say "x86_64\n"
    return 0

/-- Prints the terminal of its input; there is none. -/
def tty : Tool := withOptions ⟨"s", "", [("silent", 's'), ("quiet", 's')]⟩ 2 fun name g => do
  match g.operands with
  | a :: _ => misuse 2 name ("extra operand " ++ quote a)
  | [] =>
    if !g.has 's' then say "not a tty\n"
    return 1

/-- Prints the groups of users. -/
def groups : Tool := withOptions ⟨"", "", []⟩ 1 fun name g => do
  if g.operands.isEmpty then
    say "root\n"
    return 0
  else forAll g.operands fun user =>
    if user == "root" then do
      say "root : root\n"
      return 0
    else fail 1 (name ++ ": " ++ shellQuote user ++ ": no such user")

/-- Prints who has logged in; nobody has. -/
def logname : Tool := withOptions ⟨"", "", []⟩ 1 fun name _ =>
  fail 1 (name ++ ": no login name")

/-- Prints who runs it. -/
def whoami : Tool := withOptions ⟨"", "", []⟩ 1 fun name g => do
  match g.operands with
  | a :: _ => misuse 1 name ("extra operand " ++ quote a)
  | [] =>
    say "root\n"
    return 0

/-- The options of the tool that prints who runs it. -/
def idOptions : Options :=
  ⟨"agGnruz", "",
    [("group", 'g'), ("groups", 'G'), ("name", 'n'), ("real", 'r'), ("user", 'u'), ("zero", 'z')]⟩

/-- Prints the number or the name of who runs it, or both. -/
def id : Tool := withOptions idOptions 1 fun name g => do
  let kinds := ['u', 'g', 'G'].filter g.has
  if kinds.length > 1 then fail 1 (name ++ ": cannot print \"only\" of more than one choice")
  else if kinds.isEmpty && (g.has 'n' || g.has 'r') then
    fail 1 (name ++ ": printing only names or real IDs requires -u, -g, or -G")
  else forAll (if g.operands.isEmpty then ["root"] else g.operands) fun user =>
    if user != "root" && user != "0" then
      fail 1 (name ++ ": " ++ shellQuote user ++ ": no such user")
    else do
      say (if kinds.isEmpty then "uid=0(root) gid=0(root) groups=0(root)\n"
        else if g.has 'n' then "root\n" else "0\n")
      return 0

end TensorCompiler.Tool
