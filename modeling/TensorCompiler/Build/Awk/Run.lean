import TensorCompiler.Build.Awk.Machine

/-!
# Running programs over records

Expressions and statements run one inside the other through an `Evaluator`, which is made for any
depth. A program that takes too many rounds counts as one that never ends.
-/

namespace TensorCompiler.Awk

variable {σ : Type}

/-- How the parts of expressions and statements are run. -/
structure Evaluator (σ : Type) where
  value : Expr → Act σ Value
  perform : Stmt → Act σ Unit

/-- Stops the program with a complaint about the record where it stands. -/
def failAtRecord {α : Type} (text : String) : Act σ α := do
  let file ← textVar "FILENAME"
  let number (name : String) : Act σ String := return numberText "%d" (← plainValue name).toNumber
  fatal ("run time error: " ++ text ++ "\n\tFILENAME=\"" ++ file ++ "\" FNR=" ++ (← number "FNR") ++
    " NR=" ++ (← number "NR"))

/-! ## Formats -/

/-- The characters between a percent sign and the letter of a directive. -/
structure Spec where
  flags : List Char
  width : Option Int
  precision : Option Int

/-- The number that a width or a precision is, which may be an argument. -/
def measure (cs : List Char) (args : List Value) : Option Int × List Char × List Value :=
  match cs with
  | '*' :: rest =>
    (some ((args.head?.bind fun v => wholePart? v.toNumber).getD 0), rest, args.tail)
  | cs =>
    let ds := cs.takeWhile Char.isDigit
    ((Text.readNat? ds).map Int.ofNat, cs.drop ds.length, args)

/-- The directive behind a percent sign, what follows it and the arguments that are left. -/
def directive (cs : List Char) (args : List Value) : Spec × List Char × List Value :=
  let flags := cs.takeWhile fun c => "#-+ 0".toList.contains c
  let (width, cs, args) := measure (cs.drop flags.length) args
  let (precision, cs, args) := match cs with
    | '.' :: cs =>
      let (n, cs, args) := measure cs args
      (some (n.getD 0), cs, args)
    | cs => (none, cs, args)
  (⟨flags, width, precision⟩, cs.dropWhile fun c => c == 'l' || c == 'h', args)

/-- A value in the form that a directive asks for. -/
def formatValue (spec : Spec) (letter : Char) (v : Value) : Act σ (Option (List Char)) := do
  let d : Format.Directive := ⟨spec.flags, spec.width, spec.precision, letter⟩
  if "diouxX".toList.contains letter then
    let d := if letter == 'u' || letter == 'i' then { d with letter := 'd' } else d
    let n := printedInt v.toNumber
    let n := if letter == 'u' then n % 18446744073709551616 else n
    return some (d.integer n)
  else if "eEfFgG".toList.contains letter then return some (realText d v.toNumber)
  else if letter == 's' then return some (d.text (← textOf v).toList)
  else if letter == 'c' then
    match v with
    | .number x | .numeric _ x => return some (d.text [Char.ofNat ((printedInt x) % 256).toNat])
    | v => return some (d.text [((← textOf v).toList.head?).getD (Char.ofNat 0)])
  else return none

/-- Fills values into a format. What is made before a fault is passed on to `partly`. -/
def fillFormat (function format : String) (partly : List Char → Act σ Unit) :
    Nat → List Char → List Value → List Char → Nat → Act σ (List Char)
  | 0, out, _, _, _ => return out
  | _, out, _, [], _ => return out
  | fuel + 1, out, args, c :: cs, number => do
    if c != '%' then fillFormat function format partly fuel (out ++ [c]) args cs number
    else if cs.head? == some '%' then
      fillFormat function format partly fuel (out ++ ['%']) args cs.tail number
    else
      let shown := function ++ "(\"" ++ format ++ "\")"
      let (spec, rest, left) := directive cs args
      match rest with
      | [] =>
        partly out
        failAtRecord ("improper conversion(number " ++ Text.ofNat number ++ ") in " ++ shown)
      | letter :: rest =>
        if !"diouxXeEfFgGsc".toList.contains letter then
          partly out
          failAtRecord ("improper conversion(number " ++ Text.ofNat number ++ ") in " ++ shown)
        match left with
        | [] =>
          partly out
          failAtRecord ("not enough arguments passed to " ++ shown)
        | v :: left =>
          let text ← formatValue spec letter v
          fillFormat function format partly fuel (out ++ text.getD []) left rest (number + 1)

/-- The text of a format with its values. -/
def sprintf (function : String) (partly : List Char → Act σ Unit) : List Value → Act σ String
  | [] => return ""
  | format :: args => do
    let format ← textOf format
    let cs := format.toList
    return String.ofList (← fillFormat function format partly (cs.length + 1) [] args cs 1)

/-! ## Expressions -/

namespace Evaluator

/-- The text of an expression. -/
def text (e : Evaluator σ) (x : Expr) : Act σ String := do textOf (← e.value x)

/-- The number of an expression. -/
def num (e : Evaluator σ) (x : Expr) : Act σ Float := do return (← e.value x).toNumber

/-- The key that expressions make up. -/
def key (e : Evaluator σ) (keys : List Expr) : Act σ String := do
  let texts ← keys.mapM fun k => do
    match ← e.value k with
    | .number x => textOf (.number x)
    | v => textOf v
  return Text.joinWith (← textVar "SUBSEP") texts

/-- The pattern of an expression: a regular expression stands for itself. -/
def regex (e : Evaluator σ) : Expr → Act σ Regex
  | .regex s => regexOf s
  | .group [.regex s] => regexOf s
  | x => do regexOf (← e.text x)

/-- Stores a value in what an expression names. -/
def store (e : Evaluator σ) (target : Expr) (v : Value) : Act σ Unit := do
  match target with
  | .name s => setVariable s v
  | .element array keys =>
    let key ← e.key keys
    setElement (← arrayOf array) key v
  | .field index => setField (← fieldNumber (← e.num index)) v
  | _ => return

/-- A place where a value is stored, its keys being known. -/
inductive Spot where
  | variable_ (name : String)
  | element (array : Nat) (key : String)
  | field (number : Nat)

/-- The place that an expression names. -/
def spot (e : Evaluator σ) : Expr → Act σ Spot
  | .element array keys => do
    let key ← e.key keys
    return .element (← arrayOf array) key
  | .field index => do return .field (← fieldNumber (← e.num index))
  | .name s => return .variable_ s
  | _ => return .variable_ ""

/-- The value at a place. -/
def Spot.value : Spot → Act σ Value
  | .variable_ name => variableValue name
  | .element array key => Awk.element array key
  | .field n => fieldValue n

/-- Stores a value at a place. -/
def Spot.store (v : Value) : Spot → Act σ Unit
  | .variable_ name => setVariable name v
  | .element array key => setElement array key v
  | .field n => setField n v

/-- Calls a function of the program. -/
def call (e : Evaluator σ) (name : String) (args : List Expr) : Act σ Value := do
  match (← get).functions.find? (·.name == name) with
  | none => fatal ("function " ++ name ++ " never defined")
  | some f =>
    let slots ← args.mapM fun arg => do
      match arg with
      | .name s =>
        match ← slot s with
        | .value .unset =>
          if s == "NF" then return .value (← variableValue s)
          let n ← newArray
          setSlot s (.either n)
          return .either n
        | .value _ => return .value (← variableValue s)
        | other => return other
      | arg => return .value (← e.value arg)
    let outer := (← get).locals
    let frame := f.params.zipIdx.map fun (p, i) => (p, slots.getD i (.value .unset))
    modify fun m => { m with locals := frame }
    let restore : Act σ Unit := modify fun m => { m with locals := outer }
    let result ← tryCatch (do
      e.perform f.body
      return Value.unset) fun
      | .giveBack v => return v
      | stop => do
        restore
        throw stop
    restore
    return result

/-- Takes a part of a text, its start and its length being numbers that are rounded. -/
def substring (s : String) (start : Float) (length : Option Float) : String :=
  let cs := s.toList
  let first := start.round
  let behind := match length with
    | some n => first + n.round
    | none => cs.length.toFloat + 1
  let near := max first 1
  let far := min behind (cs.length.toFloat + 1)
  if !(near < far) then ""
  else
    let i := (wholePart? near).getD 1
    let j := (wholePart? far).getD 1
    String.ofList ((cs.drop (i - 1).toNat).take (j - i).toNat)

/-- The place of a text in another, counted from one. -/
def indexOf (part : List Char) : Nat → List Char → Nat
  | n, [] => if part.isEmpty then n else 0
  | n, c :: cs => if part.isPrefixOf (c :: cs) then n else indexOf part (n + 1) cs

/-- Replaces matches in a target, and counts them. -/
def replace (e : Evaluator σ) (all : Bool) (pattern by_ target : Expr) : Act σ Value := do
  let r ← e.regex pattern
  let parts := replacement (← e.text by_).toList
  let place ← e.spot target
  let text := (← textOf (← if target.isTarget then place.value else e.value target)).toList
  let (out, n) := substitute r all parts text (2 * text.length + 2) false 0 none text
  if n > 0 && target.isTarget then place.store (.text (String.ofList out))
  return .number n.toFloat

/-- Divides a text into the elements of an array. -/
def split (e : Evaluator σ) (subject : Expr) (array : String) (by_ : Option Expr) :
    Act σ Value := do
  let text ← e.text subject
  let sep ← match by_ with
    | none => fieldSeparator (← textVar "FS")
    | some (.regex s) => do pure (.regex (← regexOf s))
    | some x => fieldSeparator (← e.text x)
  let parts := sep.fields text.toList
  let n ← arrayOf array
  setElements n (parts.zipIdx.map fun (p, i) => (Text.ofNat (i + 1), Value.ofInput p)).reverse
  return .number parts.length.toFloat

/-- Calls a function of the language. -/
def builtin (e : Evaluator σ) (function : String) (args : List Expr) : Act σ Value := do
  let real (f : Float → Float) : Act σ Value := do
    match args with
    | a :: _ => return .number (f (← e.num a))
    | [] => return .number (f 0)
  match function, args with
  | "length", [] => return .number (← textOf (← get).record).length.toFloat
  | "length", [.name s] =>
    match ← slot s with
    | .array n | .either n => return .number (← elements n).length.toFloat
    | _ => return .number (← textOf (← variableValue s)).length.toFloat
  | "length", a :: _ => return .number (← e.text a).length.toFloat
  | "substr", a :: start :: rest =>
    let s ← e.text a
    let start ← e.num start
    let length ← rest.head?.mapM e.num
    return .text (substring s start length)
  | "index", a :: b :: _ =>
    let s ← e.text a
    return .number (indexOf (← e.text b).toList 1 s.toList).toFloat
  | "split", a :: .name array :: rest => e.split a array rest.head?
  | "sub", [p, r] => e.replace false p r (.field (.number 0))
  | "sub", [p, r, t] => e.replace false p r t
  | "gsub", [p, r] => e.replace true p r (.field (.number 0))
  | "gsub", [p, r, t] => e.replace true p r t
  | "match", a :: p :: _ =>
    let text ← e.text a
    let r ← e.regex p
    let (start, length) : Float × Float := match firstMatch? r text.toList with
      | some (start, length) => (start.toFloat + 1, length.toFloat)
      | none => (0, -1)
    setSlot "RSTART" (.value (.number start))
    setSlot "RLENGTH" (.value (.number length))
    return .number start
  | "sprintf", args =>
    let values ← args.mapM e.value
    return .text (← sprintf "sprintf" (fun _ => pure ()) values)
  | "tolower", a :: _ => return .text (← e.text a).toLower
  | "toupper", a :: _ => return .text (← e.text a).toUpper
  | "int", a :: _ =>
    let x ← e.num a
    return .number (if x < 0 then x.ceil else x.floor)
  | "sqrt", _ => real Float.sqrt
  | "exp", _ => real Float.exp
  | "log", _ => real Float.log
  | "sin", _ => real Float.sin
  | "cos", _ => real Float.cos
  | "atan2", a :: b :: _ =>
    let y ← e.num a
    return .number (Float.atan2 y (← e.num b))
  | "rand", _ =>
    modify fun m => { m with seed := (m.seed * 1103515245 + 12345) % 2147483648 }
    return .number ((← get).seed.toFloat / 2147483648)
  | "srand", args =>
    let x ← match args with
      | a :: _ => e.num a
      | [] => pure 0
    let old := (← get).seed
    modify fun m => { m with seed := ((wholePart? x).getD 0).natAbs }
    return .number old.toFloat
  | "system", a :: _ =>
    let command ← e.text a
    flush
    return .number (← runCommand command none false).1.toFloat
  | "close", a :: _ => return .number (← close (← e.text a))
  | "fflush", _ =>
    flush
    return .number 0
  | _, _ => return .unset

/-- Stores a record that was read, in a target or as the record. -/
def receive (e : Evaluator σ) (target : Option Expr) (found : String) : Act σ Value := do
  match target with
  | some t => e.store t (Value.ofInput found)
  | none => setRecord (Value.ofInput found)
  return .number 1

/-- Reads a record of a file or of the output of a command. -/
def readFrom (e : Evaluator σ) (isCommand : Bool) (name : String) (target : Option Expr) :
    Act σ Value := do
  match ← readBeside isCommand name with
  | .error n => return .number n
  | .ok found => e.receive target found

/-- The value of an expression by the evaluator for its parts. -/
def valueOf (e : Evaluator σ) (x : Expr) : Act σ Value := do
  match x with
  | .number x => return .number x
  | .text s => return .text s
  | .regex s =>
    let r ← regexOf s
    return .ofBool (firstMatch? r (← textOf (← get).record).toList).isSome
  | .name s => variableValue s
  | .element array keys =>
    let key ← e.key keys
    Awk.element (← arrayOf array) key
  | .field index => fieldValue (← fieldNumber (← e.num index))
  | .assign none target value =>
    let v ← e.value value
    let v := match v with
      | .unset => .unset
      | v => v
    e.store target v
    return v
  | .assign (some op) target value =>
    let b ← e.num value
    let place ← e.spot target
    let a := (← place.value).toNumber
    let v : Value := .number (arithmetic op a b)
    place.store v
    return v
  | .choice test yes no => if (← e.value test).truth then e.value yes else e.value no
  | .both a b => if (← e.value a).truth then return .ofBool (← b? b) else return .ofBool false
  | .either a b => if (← e.value a).truth then return .ofBool true else return .ofBool (← b? b)
  | .negation a => return .ofBool (!(← e.value a).truth)
  | .minus a => return .number (0 - (← e.num a))
  | .plus a => return .number (← e.num a)
  | .member keys array =>
    let key ← e.key keys
    return .ofBool ((← elements (← arrayOf array)).any (·.1 == key))
  | .matching negated subject pattern =>
    let text ← e.text subject
    let r ← e.regex pattern
    return .ofBool ((firstMatch? r text.toList).isSome != negated)
  | .binary .concat a b =>
    let s ← e.text a
    return .text (s ++ (← e.text b))
  | .binary op a b =>
    let x ← e.value a
    let y ← e.value b
    match op with
    | .less | .atMost | .equal | .unequal | .greater | .atLeast =>
      return .ofBool (compare (← convertFormat) op x y)
    | op => return .number (arithmetic op x.toNumber y.toNumber)
  | .step after up target =>
    let place ← e.spot target
    let old := (← place.value).toNumber
    let new := if up then old + 1 else old - 1
    place.store (.number new)
    return .number (if after then new else old)
  | .call function args => e.call function args
  | .builtin function args => e.builtin function args
  | .readInput target =>
    match ← nextRecord manyFiles with
    | none => return .number 0
    | some found => e.receive target found
  | .readFile path target => e.readFrom false (← e.text path) target
  | .readCommand command target => e.readFrom true (← e.text command) target
  | .group [x] => e.value x
  | .group items => return .text (← e.key items)
where
  /-- Whether an expression holds. -/
  b? (x : Expr) : Act σ Bool := do return (← e.value x).truth

/-! ## Statements -/

/-- Repeats a step as long as it says so. -/
def rounds (step : Act σ Bool) : Nat → Act σ Unit
  | 0 => throw .endless
  | fuel + 1 => do
    if ← step then rounds step fuel else return

/-- Runs the body of a loop once. Gives whether the loop goes on. -/
def round (e : Evaluator σ) (body : Stmt) : Act σ Bool := do
  let m ← get
  if m.patience == 0 then throw .endless
  set { m with patience := m.patience - 1 }
  tryCatch (do
    e.perform body
    return true) fun
    | .leave => return false
    | .again => return true
    | stop => throw stop

/-- Writes a text where a statement asks for. -/
def deliver (e : Evaluator σ) (outlet : Outlet) (target : Option Expr) (text : String) :
    Act σ Unit := do
  let name ← match target with
    | some t => e.text t
    | none => pure ""
  match outlet with
  | .standard => say text
  | .write => writeFile name false text
  | .append => writeFile name true text
  | .pipe => writePipe name text

/-- Runs a statement by the evaluator for its parts. -/
def run (e : Evaluator σ) (s : Stmt) : Act σ Unit := do
  match s with
  | .nothing => return
  | .expr x => discard (e.value x)
  | .print false args outlet target =>
    let texts ← match args with
      | [] => do pure [← textOf (← get).record]
      | args => args.mapM fun a => do
        match ← e.value a with
        | .number x => return numberText (← textVar "OFMT") x
        | v => textOf v
    let line := Text.joinWith (← textVar "OFS") texts ++ (← textVar "ORS")
    e.deliver outlet target line
  | .print true args outlet target =>
    let values ← args.mapM e.value
    let text ← sprintf "printf" (fun out => say (String.ofList out)) values
    e.deliver outlet target text
  | .sequence a b =>
    e.perform a
    e.perform b
  | .conditional test yes no =>
    if (← e.value test).truth then e.perform yes else e.perform no
  | .loop test body =>
    rounds (do
      if (← e.value test).truth then e.round body else return false) ((← get).patience + 1)
  | .loopOnce body test =>
    rounds (do
      if ← e.round body then return (← e.value test).truth else return false)
      ((← get).patience + 1)
  | .count start test step body =>
    e.perform start
    rounds (do
      let holds ← match test with
        | some t => do pure (← e.value t).truth
        | none => pure true
      if !holds then return false
      if ← e.round body then
        e.perform step
        return true
      else return false) ((← get).patience + 1)
  | .each name array body =>
    let keys := loopKeys (← elements (← arrayOf array))
    let _ ← keys.foldlM (fun going key => do
      if !going then return false
      setVariable name (Value.text key)
      e.round body) true
  | .next => throw .next
  | .nextFile => throw .nextFile
  | .exit status =>
    match status with
    | some x =>
      let n := (wholePart? (← e.num x)).getD 0
      modify fun m => { m with status := (n % 256).toNat }
    | none => pure ()
    throw .exit
  | .giveBack value =>
    match value with
    | some x => throw (.giveBack (← e.value x))
    | none => throw (.giveBack .unset)
  | .leave => throw .leave
  | .again => throw .again
  | .delete array [] => do setElements (← arrayOf array) []
  | .delete array keys =>
    let key ← e.key keys
    let n ← arrayOf array
    setElements n ((← elements n).filter (·.1 != key))

end Evaluator

/-- The evaluator for parts nested to a depth. -/
def evaluator : Nat → Evaluator σ
  | 0 => ⟨fun _ => throw .endless, fun _ => throw .endless⟩
  | depth + 1 => ⟨(evaluator depth).valueOf, (evaluator depth).run⟩

/-! ## Programs -/

/-- Whether a rule applies to the record. -/
def Rule.applies (e : Evaluator σ) (number : Nat) (r : Rule) : Act σ Bool := do
  match r.pattern with
  | .atStart | .atEnd => return false
  | .always => return true
  | .holds x => return (← e.value x).truth
  | .between first last =>
    let starts ← if (← get).within.contains number then pure true
      else do pure (← e.value first).truth
    if !starts then return false
    let ends := (← e.value last).truth
    modify fun m => { m with
      within := if ends then m.within.filter (· != number) else number :: m.within }
    return true

/-- Applies rules to the record. -/
def applyRules (e : Evaluator σ) : List (Rule × Nat) → Act σ Unit
  | [] => return
  | (r, number) :: rest => do
    if ← r.applies e number then e.perform r.action
    applyRules e rest

/-- Applies rules to all records, at most to `patience` of them. -/
def overRecords (e : Evaluator σ) (rules : List (Rule × Nat)) : Nat → Act σ Unit
  | 0 => throw .endless
  | fuel + 1 => do
    match ← nextRecord manyFiles with
    | none => return
    | some found =>
      setRecord (Value.ofInput found)
      tryCatch (applyRules e rules) fun
        | .next => return
        | .nextFile => modify fun m => { m with input := none }
        | stop => throw stop
      overRecords e rules fuel

/-- Runs the rules for the start or for the end. -/
def edgeRules (e : Evaluator σ) (p : Program) (atStart : Bool) : Act σ Unit :=
  p.rules.foldlM (fun () r => do
    match r.pattern, atStart with
    | .atStart, true | .atEnd, false => e.perform r.action
    | _, _ => return) ()

/-- Whether a program has a rule for the end. -/
def Program.hasEnd (p : Program) : Bool :=
  p.rules.any fun r => match r.pattern with
    | .atEnd => true
    | _ => false

/-- Whether a program has a rule for records. -/
def Program.hasMain (p : Program) : Bool :=
  p.rules.any fun r => match r.pattern with
    | .atStart | .atEnd => false
    | _ => true

/-- Lets an exit end a part of the program. Gives whether there was none. -/
def untilExit (act : Act σ Unit) : Act σ Bool :=
  tryCatch (do
    act
    return true) fun
    | .exit => return false
    | stop => throw stop

/-- Runs a program from its start to its end. An exit at the start passes over the records. -/
def Program.whole (p : Program) (e : Evaluator σ) : Act σ Unit := do
  let going ← untilExit do
    edgeRules e p true
    if p.hasMain || p.hasEnd then
      overRecords e p.rules.zipIdx (← get).patience
  let _ := going
  if p.hasEnd then
    let _ ← untilExit (edgeRules e p false)

/-- The variables of a program at its start. -/
def startingGlobals : List (String × Slot) :=
  let text (name s : String) : String × Slot := (name, .value (.text s))
  let zero (name : String) : String × Slot := (name, .value (.number 0))
  [text "FS" " ", text "OFS" " ", text "ORS" "\n", text "RS" "\n", text "FILENAME" "",
    text "SUBSEP" (String.singleton (Char.ofNat 28)), text "CONVFMT" "%.6g", text "OFMT" "%.6g",
    zero "NR", zero "FNR", zero "RSTART", ("RLENGTH", .value (.number (-1)))]

/-- What a program is started with. -/
structure Start where
  program : Program
  /-- The variables that are given. -/
  given : List (String × String)
  args : List String
  environment : List (String × String)

/-- Sets the variables that are known at the start. -/
def Start.prepare (s : Start) : Act σ Unit := do
  let fill (name : String) (values : List (String × Value)) : Act σ Unit := do
    setElements (← arrayOf name) values
  fill "ENVIRON" (s.environment.map fun (n, v) => (n, Value.ofInput v))
  fill "ARGV" (s.args.zipIdx.map fun (a, i) => (Text.ofNat i, Value.ofInput a))
  setSlot "ARGC" (.value (.number s.args.length.toFloat))
  s.given.foldlM (fun () (name, value) => setVariable name (givenValue value)) ()

/-- The most rounds that the loops of a program may take. -/
def manyRounds : Nat := 3000000

/-- Ends what is written to commands, and shows what is held back. -/
def finish : Act σ Unit := do
  (← get).pipes.foldlM (fun () p => discard (closeQuietly p.1)) ()
  flush
where
  /-- Ends what is written to a command without showing what is held back before. -/
  closeQuietly (command : String) : Act σ Nat := do
    match (← get).pipes.find? (·.1 == command) with
    | none => return 0
    | some (_, text) =>
      modify fun m => { m with pipes := m.pipes.filter (·.1 != command) }
      return (← runCommand command (some text) false).1

/-- How a program has ended: its status, and whether it never ends. -/
structure Ending where
  status : Nat
  endless : Bool

/-- Runs a program by the name of its tool. -/
def Start.run (s : Start) (host : Host σ) (name : String) (outside : σ) : Ending × σ :=
  let m : Machine σ :=
    { host := host, outside := outside, functions := s.program.functions,
      globals := startingGlobals, locals := [], arrays := #[], record := .unset, fields := #[],
      input := none, argument := 1, hasFile := false, readings := [], writings := [], pipes := [],
      held := [], regexes := [], within := [], status := 0, seed := 1, patience := manyRounds }
  let all : Act σ Unit := do
    s.prepare
    s.program.whole (evaluator 3000)
  let (result, m) := all.run.run m
  let (_, closed) := finish.run.run m
  match result with
  | .ok () => (⟨m.status, false⟩, closed.outside)
  | .error (.fatal text) =>
    let warned := { m with outside := host.say true (name ++ ": " ++ text ++ "\n") m.outside }
    (⟨2, false⟩, (finish.run.run warned).2.outside)
  | .error .endless => (⟨0, true⟩, closed.outside)
  | .error _ => (⟨m.status, false⟩, closed.outside)

end TensorCompiler.Awk
