import TensorCompiler.Build.Awk.Read
import TensorCompiler.Build.Awk.Value
import TensorCompiler.Build.Disk

/-!
# The state of a program over records

The variables, arrays and records of a program that runs, and the files and commands that it is
connected to. What lies outside is reached through a `Host`.
-/

namespace TensorCompiler.Awk

/-- How a program reaches what lies outside. -/
structure Host (σ : Type) where
  /-- Writes to the output, or to the error output. -/
  say : (isError : Bool) → String → σ → σ
  /-- The text of a file. A dash names the input. -/
  read : String → σ → Except FileFault String × σ
  /-- Writes to a file, behind what it holds or in its place. -/
  write : String → (append : Bool) → String → σ → Except FileFault σ
  /-- Runs a command with an input of its own or with the same one, and takes its output or not.
  Gives its status and the output that was taken. -/
  command : String → (input : Option String) → (taken : Bool) → σ → Nat × String × σ

/-- What a variable holds. -/
inductive Slot where
  | value (v : Value)
  /-- An array by its number. -/
  | array (number : Nat)
  /-- Nothing yet; as an array it would be the one with this number. -/
  | either (number : Nat)

/-- How a program stops what it is doing. -/
inductive Stop where
  | next
  | nextFile
  | exit
  | giveBack (v : Value)
  | leave
  | again
  | fatal (text : String)
  | endless

/-- A program that runs. -/
structure Machine (σ : Type) where
  host : Host σ
  outside : σ
  functions : List Function
  globals : List (String × Slot)
  /-- The variables of the function that runs. -/
  locals : List (String × Slot)
  /-- The arrays by number. The element that was used last comes first. -/
  arrays : Array (List (String × Value))
  record : Value
  fields : Array Value
  /-- What is left of the file that is being read. -/
  input : Option (List Char)
  /-- The number of the next argument to be read. -/
  argument : Nat
  /-- Whether some argument has named a file. -/
  hasFile : Bool
  /-- What is left of the files and the outputs of commands that are read beside. -/
  readings : List ((Bool × String) × List Char)
  /-- The files that are being written. -/
  writings : List String
  /-- The texts for commands that are being written, the earliest first. -/
  pipes : List (String × String)
  /-- What is written to the output and not yet seen there, the latest first. -/
  held : List String
  regexes : List (String × Regex)
  /-- The rules between whose two records the current one lies. -/
  within : List Nat
  status : Nat
  seed : Nat
  /-- How many rounds loops may still take. -/
  patience : Nat

/-- A step of a program. -/
abbrev Act (σ : Type) := ExceptT Stop (StateM (Machine σ))

variable {σ : Type}

/-- Stops the program for good. -/
def fatal {α : Type} (text : String) : Act σ α := throw (.fatal text)

/-! ## Variables -/

/-- What a name stands for. -/
def slot (name : String) : Act σ Slot := do
  let m ← get
  match m.locals.find? (·.1 == name) with
  | some (_, s) => return s
  | none => return ((m.globals.find? (·.1 == name)).map Prod.snd).getD (.value .unset)

/-- Lets a name stand for something else. -/
def setSlot (name : String) (s : Slot) : Act σ Unit :=
  modify fun m =>
    let replace (xs : List (String × Slot)) :=
      xs.map fun x => if x.1 == name then (name, s) else x
    if m.locals.any (·.1 == name) then { m with locals := replace m.locals }
    else if m.globals.any (·.1 == name) then { m with globals := replace m.globals }
    else { m with globals := (name, s) :: m.globals }

/-- The value of a variable that is no field count. -/
def plainValue (name : String) : Act σ Value := do
  match ← slot name with
  | .value v => return v
  | .either _ => return .unset
  | .array _ => fatal ("illegal reference to array " ++ name)

/-- The text of a variable. -/
def textVar (name : String) : Act σ String := do
  return (← plainValue name).toText "%.6g"

/-- The form in which numbers become texts. -/
def convertFormat : Act σ String := textVar "CONVFMT"

/-- The text of a value. -/
def textOf (v : Value) : Act σ String := do
  match v with
  | .number x => return numberText (← convertFormat) x
  | v => return v.toText ""

/-! ## Arrays -/

/-- A new array. -/
def newArray : Act σ Nat :=
  modifyGet fun m => (m.arrays.size, { m with arrays := m.arrays.push [] })

/-- The number of the array that a name stands for. -/
def arrayOf (name : String) : Act σ Nat := do
  match ← slot name with
  | .array n => return n
  | .either n =>
    setSlot name (.array n)
    return n
  | .value .unset =>
    let n ← newArray
    setSlot name (.array n)
    return n
  | .value _ => fatal ("illegal reference to variable " ++ name)

/-- The elements of an array. -/
def elements (n : Nat) : Act σ (List (String × Value)) := return ((← get).arrays[n]?).getD []

/-- Changes the elements of an array. -/
def setElements (n : Nat) (es : List (String × Value)) : Act σ Unit :=
  modify fun m => { m with arrays := m.arrays.setIfInBounds n es }

/-- The value of an element, which is there from now on. -/
def element (n : Nat) (key : String) : Act σ Value := do
  let es ← elements n
  match es.find? (·.1 == key) with
  | some (_, v) =>
    if es.head?.any (·.1 == key) then return v
    setElements n ((key, v) :: es.filter (·.1 != key))
    return v
  | none =>
    setElements n ((key, .unset) :: es)
    return .unset

/-- Assigns to an element. -/
def setElement (n : Nat) (key : String) (v : Value) : Act σ Unit := do
  let es ← elements n
  if es.head?.any (·.1 == key) then setElements n ((key, v) :: es.tail)
  else setElements n ((key, v) :: es.filter (·.1 != key))

/-- The list that a key of an array belongs to. -/
def bucket (key : String) : Nat :=
  key.toList.foldl (fun h c => (Nat.xor h c.toNat) * 16777619 % 4294967296) 2166136261 % 64

/-- The keys of an array in the order in which a loop takes them: by their lists, and in each of
these the one that was used last first. -/
def loopKeys (es : List (String × Value)) : List String :=
  (es.map Prod.fst).mergeSort fun a b => decide (bucket a ≤ bucket b)

/-! ## Records -/

/-- The separator of fields. -/
def fieldSeparator (s : String) : Act σ Separator := do
  match Separator.read s with
  | .ok sep => return sep
  | .error e => fatal e

/-- Divides the record into its fields. Where records are paragraphs, a line break divides too. -/
def splitRecord : Act σ Unit := do
  let text ← textOf (← get).record
  let sep ← fieldSeparator (← textVar "FS")
  let paragraphs := (← textVar "RS").isEmpty
  let parts := match sep with
    | .blanks => sep.fields text.toList
    | sep =>
      if paragraphs && !text.isEmpty then
        (Text.splitChars '\n' text.toList).flatMap fun (line : List Char) =>
          if line.isEmpty then [""] else sep.fields line
      else sep.fields text.toList
  modify fun m => { m with fields := (parts.map Value.ofInput).toArray }

/-- Makes a value the record. -/
def setRecord (v : Value) : Act σ Unit := do
  modify fun m => { m with record := v }
  splitRecord

/-- Puts the record together from its fields. -/
def joinRecord : Act σ Unit := do
  let m ← get
  let texts ← m.fields.toList.mapM textOf
  let text := Text.joinWith (← textVar "OFS") texts
  modify fun m => { m with record := .text text }

/-- The number of a field. -/
def fieldNumber (x : Float) : Act σ Nat := do
  match wholePart? x with
  | some n =>
    if n < 0 then fatal ("negative field index $" ++ Text.ofInt n)
    else return n.toNat
  | none => fatal "field index too large"

/-- The value of a field. -/
def fieldValue (n : Nat) : Act σ Value := do
  let m ← get
  return if n == 0 then m.record else (m.fields[n - 1]?).getD .unset

/-- Sets the number of fields. -/
def setFieldCount (n : Nat) : Act σ Unit := do
  modify fun m => { m with
    fields := (m.fields.toList.take n ++
      List.replicate (n - m.fields.size) (Value.text "")).toArray }
  joinRecord

/-- Assigns to a field. -/
def setField (n : Nat) (v : Value) : Act σ Unit := do
  if n == 0 then setRecord v
  else
    modify fun m =>
      let fields := m.fields.toList ++ List.replicate (n - m.fields.size) (Value.text "")
      { m with fields := (fields.set (n - 1) v).toArray }
    joinRecord

/-- The value of a variable. -/
def variableValue (name : String) : Act σ Value := do
  if name == "NF" then return .number ((← get).fields.size.toFloat) else plainValue name

/-- Assigns to a variable. -/
def setVariable (name : String) (v : Value) : Act σ Unit := do
  if name == "NF" then setFieldCount (← fieldNumber v.toNumber)
  else
    match ← slot name with
    | .array _ => fatal ("illegal reference to array " ++ name)
    | _ => setSlot name (.value v)

/-! ## Patterns -/

/-- The expression that a text is. -/
def regexOf (s : String) : Act σ Regex := do
  match (← get).regexes.find? (·.1 == s) with
  | some (_, r) => return r
  | none =>
    match readRegex s with
    | .error e => fatal e
    | .ok r =>
      modify fun m => { m with regexes := (s, r) :: m.regexes }
      return r

/-! ## What lies outside -/

/-- Shows what is held back of the output. -/
def flush : Act σ Unit :=
  modify fun m =>
    if m.held.isEmpty then m
    else { m with held := [], outside := m.host.say false (String.join m.held.reverse) m.outside }

/-- Writes to the output. -/
def say (text : String) : Act σ Unit := modify fun m => { m with held := text :: m.held }

/-- Writes to a file. -/
def writeFile (path : String) (append : Bool) (text : String) : Act σ Unit := do
  let m ← get
  if path == "/dev/stdout" || path == "-" then say text
  else if path == "/dev/stderr" then
    set { m with outside := m.host.say true text m.outside }
  else
    let isOpen := m.writings.contains path
    match m.host.write path (append || isOpen) text m.outside with
    | .ok outside =>
      let writings := if isOpen then m.writings else path :: m.writings
      set { m with outside := outside, writings := writings }
    | .error fault =>
      fatal ("cannot open \"" ++ path ++ "\" for output (" ++ fault.sentence ++ ")")

/-- Runs a command. -/
def runCommand (command : String) (input : Option String) (taken : Bool) :
    Act σ (Nat × String) := do
  let m ← get
  let (status, text, outside) := m.host.command command input taken m.outside
  set { m with outside := outside }
  return (status, text)

/-- Writes to a command. -/
def writePipe (command text : String) : Act σ Unit := do
  if (← get).pipes.any (·.1 == command) then
    modify fun m => { m with
      pipes := m.pipes.map fun p => if p.1 == command then (p.1, p.2 ++ text) else p }
  else
    flush
    modify fun m => { m with pipes := m.pipes ++ [(command, text)] }

/-- Ends what is written to a command. -/
def closePipe (command : String) : Act σ Nat := do
  match (← get).pipes.find? (·.1 == command) with
  | none => return 0
  | some (_, text) =>
    modify fun m => { m with pipes := m.pipes.filter (·.1 != command) }
    flush
    return (← runCommand command (some text) false).1

/-- Closes a file or a command. Gives its status, or less than nothing if it was not open. -/
def close (name : String) : Act σ Float := do
  let m ← get
  let read := m.readings.any (·.1.2 == name)
  let written := m.writings.contains name
  let piped := m.pipes.any (·.1 == name)
  modify fun m => { m with
    readings := m.readings.filter (·.1.2 != name)
    writings := m.writings.filter (· != name) }
  if piped then return (← closePipe name).toFloat
  else return if read || written then 0 else -1

/-! ## Reading -/

/-- The next record of a text, and what follows it. -/
def cutRecord (separator : String) (r : Option Regex) (text : List Char) :
    Option (List Char × List Char) :=
  let upTo (c : Char) (cs : List Char) : List Char × List Char :=
    let found := cs.takeWhile (· != c)
    (found, cs.drop (found.length + 1))
  match separator.toList, r with
  | [], _ =>
    match text.dropWhile (· == '\n') with
    | [] => none
    | cs => some (paragraph cs)
  | [c], _ => if text.isEmpty then none else some (upTo c text)
  | _, some r =>
    if text.isEmpty then none
    else
      match firstMatch? r text with
      | some (start, length) =>
        if length == 0 then some (text, []) else some (text.take start, text.drop (start + length))
      | none => some (text, [])
  | _, none => none
where
  /-- The lines before the first empty one. -/
  paragraph : List Char → List Char × List Char
    | [] => ([], [])
    | '\n' :: '\n' :: cs => ([], cs.dropWhile (· == '\n'))
    | ['\n'] => ([], [])
    | c :: cs =>
      let (found, rest) := paragraph cs
      (c :: found, rest)

/-- Takes the next record off a text. -/
def takeRecord (text : List Char) : Act σ (Option (String × List Char)) := do
  let separator ← textVar "RS"
  let r ← if separator.length > 1 then some <$> regexOf separator else pure none
  return (cutRecord separator r text).map fun (found, rest) => (String.ofList found, rest)

/-- The name and the value of an argument that assigns to a variable. -/
def assignment? (arg : String) : Option (String × String) :=
  let cs := arg.toList
  let name := cs.takeWhile fun c => c.isAlphanum || c == '_'
  match name, cs.drop name.length with
  | c :: _, '=' :: value =>
    if c.isDigit then none else some (String.ofList name, String.ofList value)
  | _, _ => none

/-- The value of a text that is given outside a program, with its escapes read. -/
def givenValue (text : String) : Value :=
  let cs := text.toList
  let inner := cs.flatMap fun c => if c == '"' then ['\\', '"'] else [c]
  match quoted (inner.length + 2) (inner ++ ['"']) with
  | some (s, _) => Value.ofInput (String.ofList s)
  | none => Value.ofInput text

/-- Opens the next file that the arguments name, or the input if they name none. Gives whether there
is one. -/
def openNext : Nat → Act σ Bool
  | 0 => return false
  | fuel + 1 => do
    let m ← get
    let count := (wholePart? (← plainValue "ARGC").toNumber).getD 0
    let openFile (path : String) : Act σ Bool := do
      let m ← get
      let (text, outside) := m.host.read path m.outside
      set { m with outside := outside, hasFile := true }
      match text with
      | .error fault => fatal ("cannot open \"" ++ path ++ "\" (" ++ fault.sentence ++ ")")
      | .ok text =>
        modify fun m => { m with input := some text.toList }
        setSlot "FILENAME" (.value (.text path))
        setSlot "FNR" (.value (.number 0))
        return true
    if (m.argument : Int) < count then
      set { m with argument := m.argument + 1 }
      let args ← elements (← arrayOf "ARGV")
      let arg ← textOf (((args.find? (·.1 == Text.ofNat m.argument)).map Prod.snd).getD .unset)
      match assignment? arg with
      | some (name, value) =>
        setVariable name (givenValue value)
        openNext fuel
      | none => if arg.isEmpty then openNext fuel else openFile arg
    else if m.hasFile then return false
    else
      let found ← openFile "-"
      setSlot "FILENAME" (.value (.text ""))
      return found

/-- Adds one to a variable. -/
def increment (name : String) : Act σ Unit := do
  setSlot name (.value (.number ((← plainValue name).toNumber + 1)))

/-- The next record of the input. -/
def nextRecord : Nat → Act σ (Option String)
  | 0 => return none
  | fuel + 1 => do
    match (← get).input with
    | none => if ← openNext 1000 then nextRecord fuel else return none
    | some text =>
      match ← takeRecord text with
      | none =>
        modify fun m => { m with input := none }
        nextRecord fuel
      | some (found, rest) =>
        modify fun m => { m with input := some rest }
        increment "NR"
        increment "FNR"
        return some found

/-- More files than a program reads. -/
def manyFiles : Nat := 1000

/-- The next record of a file or of the output of a command. Gives a number less than nothing if it
cannot be opened. -/
def readBeside (isCommand : Bool) (name : String) : Act σ (Except Float String) := do
  let key := (isCommand, name)
  if !(← get).readings.any (·.1 == key) then
    if isCommand then
      flush
      let (_, text) ← runCommand name none true
      modify fun m => { m with readings := (key, text.toList) :: m.readings }
    else
      let m ← get
      let (text, outside) := m.host.read name m.outside
      set { m with outside := outside }
      match text with
      | .error _ => return .error (-1)
      | .ok text => modify fun m => { m with readings := (key, text.toList) :: m.readings }
  let text := (((← get).readings.find? (·.1 == key)).map Prod.snd).getD []
  match ← takeRecord text with
  | none => return .error 0
  | some (found, rest) =>
    modify fun m => { m with readings := (key, rest) :: m.readings.filter (·.1 != key) }
    return .ok found

end TensorCompiler.Awk
