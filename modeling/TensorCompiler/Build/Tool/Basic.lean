import TensorCompiler.Build.Disk

/-!
# Command-line tools

A tool reads its arguments, its input and the disk. It writes texts to its output and to its error
output, and the order of these is kept. All its texts are byte texts.
-/

namespace TensorCompiler

/-- A tool at work. -/
structure Task where
  here : Place
  disk : Disk
  /-- What is left of the input. -/
  input : String
  /-- Whether the input is a file. -/
  fromFile : Bool
  environment : List (String × String)
  /-- What is written, to the error output where that is said, the latest first. -/
  writes : List (Bool × String)
  /-- The nanoseconds that have passed. -/
  time : Nat
  /-- Whether the tool works on until it is stopped or nobody reads what it writes. -/
  endless : Bool

/-- A step of a tool. -/
abbrev Work := StateM Task

/-- A tool. It is given the name it is started by and its arguments, and gives a status. -/
abbrev Tool := String → List String → Work Nat

namespace Tool

/-- Writes to the output. -/
def say (text : String) : Work Unit :=
  modify fun t => { t with writes := (false, text) :: t.writes }

/-- Writes to the error output. -/
def warn (text : String) : Work Unit :=
  modify fun t => { t with writes := (true, text ++ "\n") :: t.writes }

/-- Ends with a complaint. -/
def fail (status : Nat) (text : String) : Work Nat := do
  warn text
  return status

/-- Works on without an end. -/
def goOn : Work Nat := do
  modify fun t => { t with endless := true }
  return 0

/-- Takes all that is left of the input. -/
def takeInput : Work String := do
  let text := (← get).input
  modify fun t => { t with input := "" }
  return text

/-- Changes the disk. -/
def change (f : Disk → Disk) : Work Unit :=
  modify fun t => { t with disk := f t.disk }

/-- The text of a file. A dash names the input. -/
def textOf (path : String) : Work (Except FileFault String) := do
  if path == "-" || path == "/dev/stdin" then return .ok (← takeInput)
  else
    let t ← get
    return t.disk.read t.here path

/-- The lines of a text, each with its line break if it has one. -/
def splitLines : List Char → List (List Char)
  | [] => []
  | '\n' :: cs => ['\n'] :: splitLines cs
  | c :: cs =>
    match splitLines cs with
    | [] => [[c]]
    | line :: lines => if cs.head? == some '\n' then [c, '\n'] :: lines else (c :: line) :: lines

/-- The lines of a text, each with its line break if it has one. -/
def brokenLines (s : String) : List String :=
  (splitLines s.toList).map String.ofList

/-- The lines of a text without their breaks. -/
def lines (s : String) : List String :=
  let parts := Text.split '\n' s
  if parts.getLast? == some "" then parts.dropLast else parts

/-- The text made of lines. -/
def unlines (ls : List String) : String :=
  String.join (ls.map (· ++ "\n"))

/-- A numeral to the right of a column. -/
def padLeft (width : Nat) (s : String) : String :=
  String.ofList (List.replicate (width - s.length) ' ') ++ s

/-- A text to the left of a column. -/
def padRight (width : Nat) (s : String) : String :=
  s ++ String.ofList (List.replicate (width - s.length) ' ')

/-- A single quotation mark. -/
def mark : String := String.singleton (Char.ofNat 39)

/-- A text between single quotation marks. -/
def quote (s : String) : String := mark ++ s ++ mark

/-- Whether a character may stand in a shell word that is not quoted. -/
def isShellPlain (c : Char) : Bool :=
  c.isAlphanum || "%+,-./:@_]\x7b\x7d".toList.contains c

/-- Whether a byte is printed as it is. -/
def isShown (c : Char) : Bool := 32 ≤ c.toNat && c.toNat < 127

/-- The escape of a byte that is not printed as it is. -/
def byteEscape (c : Char) : String :=
  match c.toNat with
  | 7 => "\\a"
  | 8 => "\\b"
  | 9 => "\\t"
  | 10 => "\\n"
  | 11 => "\\v"
  | 12 => "\\f"
  | 13 => "\\r"
  | n => String.ofList ['\\', Char.ofNat (48 + n / 64), Char.ofNat (48 + n / 8 % 8),
      Char.ofNat (48 + n % 8)]

/-- A text inside single quotation marks. Bytes that cannot be shown stand in marks of their own,
and `special` says that the last byte was one of those. -/
def shellEscapes : Bool → List Char → String
  | special, [] => if special then "" else mark
  | special, c :: cs =>
    if !isShown c then
      (if special then "" else mark ++ "$" ++ mark) ++ byteEscape c ++
        (if cs.head?.any (!isShown ·) then shellEscapes true cs
        else mark ++ (if cs.isEmpty then "" else mark ++ shellEscapes false cs))
    else if c == Char.ofNat 39 then mark ++ "\\" ++ mark ++ mark ++ shellEscapes false cs
    else String.singleton c ++ shellEscapes false cs

/-- A text that the shell reads back, always between marks. -/
def shellQuote (s : String) : String :=
  let cs := s.toList
  let isTame (c : Char) := isShown c && !"\"$\\!".toList.contains c && c != Char.ofNat 96
  if cs.contains (Char.ofNat 39) && cs.all isTame then
    "\"" ++ s ++ "\""
  else mark ++ shellEscapes false cs

/-- A text that the shell reads back, between marks if it needs them. -/
def shellWord (s : String) : String :=
  let cs := s.toList
  let plain := !cs.isEmpty && cs.all (fun c => isShellPlain c || c == '#' || c == '~') &&
    cs.head? != some '#' && cs.head? != some '~'
  if plain then s else shellQuote s

/-- Where a user is told to look. -/
def hint (name : String) : String :=
  "Try " ++ quote (name ++ " --help") ++ " for more information."

/-- Ends with a complaint about the arguments. -/
def misuse (status : Nat) (name text : String) : Work Nat :=
  fail status (name ++ ": " ++ text ++ "\n" ++ hint name)

/-- The options of a tool: single letters, those of them that take a value, and the letters that
long names stand for. -/
structure Options where
  flags : String
  valued : String
  long : List (String × Char)

/-- The options and the other arguments that a tool was given. -/
structure Given where
  options : List (Char × String)
  operands : List String

namespace Given

/-- Whether an option is given. -/
def has (g : Given) (c : Char) : Bool := g.options.any (·.1 == c)

/-- The last value of an option. -/
def value? (g : Given) (c : Char) : Option String :=
  (g.options.reverse.find? (·.1 == c)).map Prod.snd

end Given

namespace Options

/-- Reads the letters of one argument. The value of an option is the rest of the argument, or else
the next one. -/
def letters (o : Options) :
    List Char → List String → Except String (List (Char × String) × List String)
  | [], rest => .ok ([], rest)
  | c :: cs, rest =>
    if o.valued.toList.contains c then
      match cs, rest with
      | [], [] => .error ("option requires an argument -- " ++ quote (String.singleton c))
      | [], value :: rest => .ok ([(c, value)], rest)
      | cs, rest => .ok ([(c, String.ofList cs)], rest)
    else if o.flags.toList.contains c then
      match o.letters cs rest with
      | .error e => .error e
      | .ok (found, rest) => .ok ((c, "") :: found, rest)
    else .error ("invalid option -- " ++ quote (String.singleton c))

/-- Reads a long option, which may be cut short. -/
def longOption (o : Options) (arg : String) (rest : List String) :
    Except String (List (Char × String) × List String) :=
  let (name, value) := match Text.split '=' arg with
    | [name] => (name, none)
    | name :: values => (name, some (Text.joinWith "=" values))
    | [] => (arg, none)
  let whole := o.long.filter (·.1 == name)
  let found := if whole.isEmpty then o.long.filter (·.1.startsWith name) else whole
  match found, value with
  | (full, c) :: _, value =>
    if o.valued.toList.contains c then
      match value, rest with
      | some value, rest => .ok ([(c, value)], rest)
      | none, value :: rest => .ok ([(c, value)], rest)
      | none, [] => .error ("option " ++ quote ("--" ++ full) ++ " requires an argument")
    else .ok ([(c, value.getD "")], rest)
  | [], _ => .error ("unrecognized option " ++ quote ("--" ++ arg))

/-- The options that one argument starts with, and the arguments behind them; `none` if it is no
option. -/
def one? (o : Options) (arg : String) (rest : List String) :
    Option (Except String (List (Char × String) × List String)) :=
  match arg.toList with
  | '-' :: '-' :: cs => some (o.longOption (String.ofList cs) rest)
  | '-' :: c :: cs => some (o.letters (c :: cs) rest)
  | _ => none

/-- Reads arguments. Options may stand anywhere before two dashes, or only before the first argument
that is none if `leading` says so. -/
def readWith (o : Options) (leading : Bool) : Nat → List String → Except String Given
  | 0, rest => .ok ⟨[], rest⟩
  | _, [] => .ok ⟨[], []⟩
  | fuel + 1, arg :: rest =>
    if arg == "--" then .ok ⟨[], rest⟩
    else
      match o.one? arg rest with
      | some (.error e) => .error e
      | some (.ok (options, rest)) =>
        (o.readWith leading fuel rest).map fun g => ⟨options ++ g.options, g.operands⟩
      | none =>
        if leading then .ok ⟨[], arg :: rest⟩
        else (o.readWith leading fuel rest).map fun g => ⟨g.options, arg :: g.operands⟩

/-- Reads arguments with options anywhere. -/
def read (o : Options) : Nat → List String → Except String Given := o.readWith false

/-- Reads arguments with options only before the others. -/
def readLeading (o : Options) : Nat → List String → Except String Given := o.readWith true

end Options

/-- A tool with options. Arguments it does not know end it with a status. -/
def withOptions (o : Options) (status : Nat) (act : String → Given → Work Nat) : Tool :=
  fun name args =>
  match o.read (args.length + 1) args with
  | .error e => misuse status name e
  | .ok g => act name g

/-- Does something for every operand, and ends with the greatest status of all. -/
def forAll (operands : List String) (act : String → Work Nat) : Work Nat :=
  operands.foldlM (fun status a => do return max status (← act a)) 0

/-- Does something with the text of every operand, or of the input if there is none. -/
def forTexts (operands : List String) (report : String → FileFault → String)
    (act : String → String → Work Unit) (status : Nat) : Work Nat :=
  forAll (if operands.isEmpty then ["-"] else operands) fun path => do
    match ← textOf path with
    | .error fault => fail status (report path fault)
    | .ok text =>
      act path text
      return 0

/-- The usual complaint about a file. -/
def about (name path : String) (fault : FileFault) : String :=
  name ++ ": " ++ shellWord path ++ ": " ++ fault.sentence

end Tool
end TensorCompiler
