import TensorCompiler.Build.Script.Read
import TensorCompiler.Build.Shell.Basic
import TensorCompiler.Build.Shell.Expand
import TensorCompiler.Build.Tool.Table

/-!
# Commands of the shell itself

The commands that change or show the state of the shell and start no others. Those marked special
end the shell when they fail.
-/

namespace TensorCompiler.Shell

/-- The commands whose failure ends the shell. -/
def specialBuiltins : List String :=
  [".", ":", "break", "continue", "eval", "exec", "exit", "export", "local", "readonly", "return",
    "set", "shift", "times", "trap", "unset"]

/-- The other commands of the shell. -/
def regularBuiltins : List String :=
  ["[", "alias", "bg", "cd", "chdir", "command", "echo", "false", "fg", "getopts", "hash", "jobs",
    "kill", "printf", "pwd", "read", "test", "true", "type", "ulimit", "umask", "unalias", "wait"]

/-- Complains in the name of a command of the shell, and fails. A special command ends the shell. -/
def failBuiltin (s : Shell) (command text : String) : Shell :=
  let context := s.context
  let s := { { s with context := command }.complain text with context := context }
  if specialBuiltins.contains command then s.leave 2 else s.finish 2

/-- The number that an argument is, if it is small enough to count. -/
def count? (arg : String) : Option Nat :=
  (Text.readNat? arg.toList).bind fun n => if n ≤ 2147483647 then some n else none

/-- Lets a tool work for the shell, and takes over what it leaves behind. Complaints of the shell's
own tools come before what they print. -/
def work (s : Shell) (tool : Work Nat) (complaintsFirst : Bool) : Shell :=
  let input := (s.descriptors.find? (·.1 == 0)).map Prod.snd
  let isFile := match input.bind s.world.stream? with
    | some (.file _ _ _) => true
    | _ => false
  let text := (input.map s.world.unread).getD ""
  let (status, t) := tool ⟨s.here, s.ownDisk, text, isFile, s.environment, [], 0, false⟩
  let s := { s with world := { s.world with disk := t.disk } }
  let s := match input with
    | some n => { s with world := s.world.consume n t.input }
    | none => s
  let writes := t.writes.reverse
  let writes := if complaintsFirst then writes.filter (·.1) ++ writes.filter (!·.1) else writes
  let s := writes.foldl (fun s (isError, text) => s.emit (if isError then 2 else 1) text) s
  let s := { s with world := { s.world with clock := s.world.clock + t.time } }
  let showing := [1, 2].any fun fd =>
    ((s.descriptors.find? (·.1 == fd)).bind fun d => s.world.stream? d.2) == some .report
  let s :=
    if t.time > 0 && showing then
      { s with world := { s.world with held := max s.world.held s.world.clock } }
    else s
  if t.endless then { s with flow := .endless } else s.finish status

/-- Lets a tool of the shell itself work. -/
def workBuiltin (s : Shell) (command : String) (tool : Tool) (args : List String) : Shell :=
  s.work (tool ({ s with context := "" }.label ++ command) args) true

/-! ## Directories -/

/-- Where a directory is by the places that `CDPATH` gives, and whether its path is shown. -/
def alongPath (s : Shell) (target : String) : String × Bool :=
  let first := String.ofList (target.toList.takeWhile (· != '/'))
  if target.isEmpty || first.isEmpty || first == "." || first == ".." then (target, false)
  else
    let tried := (Text.split ':' ((s.value? "CDPATH").getD "")).map fun dir =>
      if dir.isEmpty then (target, false)
      else (if dir.endsWith "/" then dir ++ target else dir ++ "/" ++ target, true)
    (tried.find? fun (path, _) =>
      (s.world.disk.find s.here path).toOption.any s.world.disk.isDirectory).getD (target, false)

/-- Goes to another directory. -/
def changeDirectory (s : Shell) (args : List String) : Shell :=
  let args := args.filter fun a => a != "-P" && a != "-L" && a != "--"
  let (target, shown) := match args with
    | [] => ((s.value? "HOME").getD "", false)
    | "-" :: _ => ((s.value? "OLDPWD").getD "", true)
    | a :: _ => s.alongPath a
  let failed := s.failBuiltin "cd" ("can't cd to " ++ target)
  match s.world.disk.find s.here target with
  | .error _ => if target.isEmpty then s.finish 0 else failed
  | .ok p =>
    if !s.world.disk.isDirectory p then failed
    else
      let s := (s.assign "OLDPWD" s.here.text).assign "PWD" p.text
      let s := { s with here := p }
      (if shown then s.emit 1 (p.text ++ "\n") else s).finish 0

/-! ## Variables -/

/-- A value in the form in which variables are listed. -/
def listed (value : String) : String :=
  let parts := Text.splitChars (Char.ofNat 39) value.toList
  Text.joinWith "\"'\"" (parts.map fun cs => "'" ++ String.ofList cs ++ "'")

/-- Lists variables behind a word. -/
def listVariables (s : Shell) (command : String) (chosen : Variable → Bool) : Shell :=
  let names := (s.bindings.filter fun v => chosen v.2).mergeSort fun a b => decide (a.1 ≤ b.1)
  let lines := names.map fun (name, v) =>
    command ++ " " ++ name ++ (match v.value with
      | some value => "=" ++ listed value
      | none => "")
  (s.emit 1 (Tool.unlines lines)).finish 0

/-- Declares variables, with a change to each of them. -/
def declare (command : String) (change : Variable → Variable) : Shell → List String → Shell
  | s, [] => s.finish 0
  | s, arg :: rest =>
    let name := String.ofList (arg.toList.takeWhile (· != '='))
    if !Script.isName name then s.failBuiltin command (arg ++ ": bad variable name")
    else
      let s := if name.length == arg.length then s
        else s.assign name (arg.drop (name.length + 1)).toString
      if s.flow != .going then s
      else
        let v := (s.entry? name).getD .bare
        declare command change (s.putVariable name (some (change v))) rest

/-- Makes variables belong to the function that runs. -/
def declareLocal : Shell → List String → Shell
  | s, [] => s.finish 0
  | s, arg :: rest =>
    let name := String.ofList (arg.toList.takeWhile (· != '='))
    match s.locals with
    | [] => s.failBuiltin "local" "not in a function"
    | frame :: outer =>
      if !Script.isName name then s.failBuiltin "local" (arg ++ ": bad variable name")
      else
        let s := if frame.any (·.1 == name) then s
          else { s with locals := ((name, s.entry? name) :: frame) :: outer }
        let s := if name.length == arg.length then s
          else s.assign name (arg.drop (name.length + 1)).toString
        if s.flow != .going then s else declareLocal s rest

/-- Takes variables or functions away. -/
def unset (s : Shell) (args : List String) : Shell :=
  let functions := args.head? == some "-f"
  let names := if functions || args.head? == some "-v" then args.tail else args
  names.foldl (fun s name =>
    if s.flow != .going then s
    else if functions then { s with functions := s.functions.filter (·.1 != name) }
    else if !Script.isName name then s.failBuiltin "unset" (name ++ ": bad variable name")
    else
      match s.entry? name with
      | some v => if v.readOnly then s.failBuiltin "unset" (name ++ ": is read only")
          else s.putVariable name none
      | none => s) (s.finish 0)

/-! ## Words that stand for texts -/

/-- The line that shows what a word stands for. -/
def aliasLine (a : String × String) : String := a.1 ++ "=" ++ listed a.2 ++ "\n"

/-- The place of a word in the list of all that stand for texts. -/
def aliasPlace (name : String) : Nat :=
  Tracked.nameSum name % 39

/-- Lets words stand for texts, or shows what they stand for. -/
def setAliases (s : Shell) (args : List String) : Shell :=
  if args.isEmpty then
    let sorted := s.aliases.mergeSort fun a b => decide (aliasPlace a.1 ≤ aliasPlace b.1)
    (s.emit 1 (String.join (sorted.map aliasLine))).finish 0
  else args.foldl (fun s arg =>
    let cs := arg.toList
    let name := String.ofList (cs.take 1 ++ cs.tail.takeWhile (· != '='))
    if name.length == arg.length then
      match s.aliases.find? (·.1 == arg) with
      | some a => s.emit 1 (aliasLine a)
      | none => (s.emit 2 ("alias: " ++ arg ++ " not found\n")).finish 1
    else
      let text := String.ofList (cs.drop (name.length + 1))
      let known := s.aliases.any (·.1 == name)
      { s with aliases := if known then
          s.aliases.map fun a => if a.1 == name then (name, text) else a
        else s.aliases ++ [(name, text)] }) (s.finish 0)

/-- Lets words stand for themselves again. -/
def unsetAliases (s : Shell) (args : List String) : Shell :=
  if args.head? == some "-a" then { s with aliases := [] }.finish 0
  else args.foldl (fun s name =>
    if s.aliases.any (·.1 == name) then
      { s with aliases := s.aliases.filter (·.1 != name) }
    else (s.emit 2 ("unalias: " ++ name ++ " not found\n")).finish 1) (s.finish 0)

/-! ## Options -/

/-- The letters of the options with names. -/
def optionNames : List (String × Char) :=
  [("errexit", 'e'), ("noglob", 'f'), ("ignoreeof", 'I'), ("interactive", 'i'), ("monitor", 'm'),
    ("noexec", 'n'), ("stdin", 's'), ("xtrace", 'x'), ("verbose", 'v'), ("vi", 'V'), ("emacs", 'E'),
    ("noclobber", 'C'), ("allexport", 'a'), ("notify", 'b'), ("nounset", 'u'), ("privileged", 'p'),
    ("nolog", 'L'), ("debug", 'D')]

/-- Sets an option or takes it back. -/
def setOption (s : Shell) (on : Bool) (c : Char) : Shell :=
  let others := s.options.filter (· != c)
  { s with options := if on then others ++ [c] else others }

/-- Sets the options that the letters of an argument name. A long name is the next argument. -/
def setLetters (on : Bool) : Shell → List Char → List String → Except String (Shell × List String)
  | s, [], rest => .ok (s, rest)
  | s, 'o' :: cs, rest =>
    match rest with
    | [] => .ok (s, [])
    | name :: rest =>
      match optionNames.find? (·.1 == name) with
      | some (_, c) => setLetters on (s.setOption on c) cs rest
      | none => .error ("Illegal option " ++ (if on then "-o " else "+o ") ++ name)
  | s, c :: cs, rest =>
    if optionNames.any (·.2 == c) && !c.isUpper || "CVEI".toList.contains c then
      setLetters on (s.setOption on c) cs rest
    else .error ("Illegal option " ++ String.ofList [if on then '-' else '+', c])

/-- Lists the options with their states. -/
def listOptions (s : Shell) : Shell :=
  let lines := optionNames.map fun (name, c) =>
    Tool.padRight 16 name ++ (if s.has c then "on" else "off")
  (s.emit 1 (Tool.unlines ("Current option settings" :: lines))).finish 0

/-- Sets options and arguments. -/
def setAll : Nat → Shell → List String → Shell
  | 0, s, _ => s
  | _, s, [] => s.finish 0
  | fuel + 1, s, arg :: rest =>
    let letters (on : Bool) (cs : List Char) : Shell :=
      match setLetters on s cs rest with
      | .error e => s.failBuiltin "set" e
      | .ok (s, rest) => setAll fuel s rest
    match arg.toList with
    | ['-', '-'] => { s with arguments := rest }.finish 0
    | ['-', 'o'] => if rest.isEmpty then s.listOptions else letters true ['o']
    | ['-'] => if rest.isEmpty then s.finish 0 else { s with arguments := rest }.finish 0
    | '-' :: c :: cs => letters true (c :: cs)
    | '+' :: c :: cs => letters false (c :: cs)
    | _ => { s with arguments := arg :: rest }.finish 0

/-! ## Reading -/

/-- The next line of a text: its characters, those behind a backslash marked; what follows it; and
whether it ends in a line break. -/
def takeLine (raw : Bool) : List Char → List (Char × Bool) × List Char × Bool
  | [] => ([], [], false)
  | '\n' :: cs => ([], cs, true)
  | '\\' :: c :: cs =>
    if raw then
      let (line, rest, ended) := takeLine raw (c :: cs)
      (('\\', false) :: line, rest, ended)
    else
      let (line, rest, ended) := takeLine raw cs
      (if c == '\n' then line else (c, true) :: line, rest, ended)
  | c :: cs =>
    let (line, rest, ended) := takeLine raw cs
    if c == '\\' && !raw then (line, rest, ended) else ((c, false) :: line, rest, ended)

/-- The fields of a line, of which the last takes all that is left. -/
def readFields (separators : List Char) : Nat → List (Char × Bool) → List String
  | 0, _ => []
  | n + 1, cs =>
    let isBlank (c : Char × Bool) :=
      !c.2 && separators.contains c.1 && (c.1 == ' ' || c.1 == '\t' || c.1 == '\n')
    let divides (c : Char × Bool) := !c.2 && separators.contains c.1
    let text (cs : List (Char × Bool)) := String.ofList (cs.map Prod.fst)
    let cs := cs.dropWhile isBlank
    if n == 0 then
      let trimmed := (cs.reverse.dropWhile isBlank).reverse
      let body := trimmed.dropLast
      let lone := trimmed.getLast?.any divides && !body.any divides
      [text (if lone then (body.reverse.dropWhile isBlank).reverse else trimmed)]
    else
      let field := cs.takeWhile (!divides ·)
      let rest := (cs.drop field.length).dropWhile isBlank
      let rest := match rest with
        | c :: others => if divides c then others else rest
        | [] => []
      text field :: readFields separators n rest

/-- Reads a line into variables. -/
def readLine (s : Shell) (args : List String) : Shell :=
  let given := Tool.Options.readLeading ⟨"r", "p", []⟩ (args.length + 1) args
  let names := (given.toOption.map (·.operands)).getD []
  match given, names.find? (!Script.isName ·) with
  | .error _, _ =>
    let letters := (args.filter (·.startsWith "-")).flatMap fun a => a.toList.drop 1
    let wrong := (letters.find? fun c => c != 'r' && c != 'p').getD 'p'
    s.failBuiltin "read" (if wrong == 'p' then "No arg for -p option"
      else "Illegal option -" ++ String.singleton wrong)
  | .ok _, some name => s.failBuiltin "read" (name ++ ": bad variable name")
  | .ok g, none =>
    if names.isEmpty then s.failBuiltin "read" "arg count"
    else
      let input := (s.descriptors.find? (·.1 == 0)).map Prod.snd
      let text := (input.map s.world.unread).getD ""
      let raw := g.has 'r'
      let (line, rest, ended) := takeLine raw text.toList
      let s := match input with
        | some n => { s with world := s.world.consume n (String.ofList rest) }
        | none => s
      let values := readFields s.separators names.length line
      let s := (names.zipIdx).foldl (fun s (name, i) =>
        if s.flow != .going then s else s.assign name (values.getD i "")) s
      if s.flow != .going then s else s.finish (if ended then 0 else 1)

/-- Reads the options of a script one at a time. -/
def getOptions (s : Shell) (args : List String) : Shell :=
  match args with
  | spec :: name :: operands =>
    let operands := if operands.isEmpty then s.arguments else operands
    let reached := ((s.value? "OPTIND").bind fun v => Text.readNat? v.toList).getD 1
    let isPast := reached > operands.length + 1 && !s.isBash
    let index := if isPast then 1 else reached
    let offset := if isPast then 1
      else ((s.value? "OPTOFF").bind fun v => Text.readNat? v.toList).getD 1
    let silent := spec.startsWith ":"
    let stop (s : Shell) : Shell := (s.assign name "?").finish 1
    match (operands[index - 1]?).map String.toList with
    | none => stop s
    | some ['-', '-'] => stop (s.assign "OPTIND" (Text.ofNat (index + 1)))
    | some ('-' :: c :: cs) =>
      let letters := c :: cs
      match letters[offset - 1]? with
      | none => stop s
      | some letter =>
        let isLast := offset ≥ letters.length
        let advance (s : Shell) (extra : Nat) : Shell :=
          if isLast || extra > 0 then
            (s.assign "OPTIND" (Text.ofNat (index + 1 + (extra - 1)))).putVariable "OPTOFF" none
          else s.assign "OPTOFF" (Text.ofNat (offset + 1))
        let letterText := String.singleton letter
        match spec.toList.idxOf? letter with
        | none =>
          let s := advance s 0
          if silent then ((s.assign name "?").assign "OPTARG" letterText).finish 0
          else
            let text := if s.isBash then s.name ++ ": illegal option -- " ++ letterText
              else "Illegal option -" ++ letterText
            ((s.emit 2 (text ++ "\n")).assign name "?").finish 0
        | some i =>
          if (spec.toList)[i + 1]? == some ':' then
            let rest := letters.drop offset
            if !rest.isEmpty then
              (((advance s 1).assign name letterText).assign "OPTARG" (String.ofList rest)).finish 0
            else
              match operands[index]? with
              | some value =>
                (((advance s 2).assign name letterText).assign "OPTARG" value).finish 0
              | none =>
                let s := advance s 1
                if silent then ((s.assign name ":").assign "OPTARG" letterText).finish 0
                else
                  let text := if s.isBash then
                      s.name ++ ": option requires an argument -- " ++ letterText
                    else "No arg for -" ++ letterText ++ " option"
                  ((s.emit 2 (text ++ "\n")).assign name "?").finish 0
          else ((advance s 0).assign name letterText).finish 0
    | some _ => stop s
  | _ => s.failBuiltin "getopts" "Usage: getopts optstring var [arg]"

/-! ## Signals and jobs -/

/-- The jobs with one more. Its number is the least that no job has, where those are left out that
have ended and were waited for. -/
def addJob (s : Shell) (process ending status : Nat) : List Job :=
  let kept := s.jobs.filter fun j => !j.waited
  let number := ((List.range (kept.length + 1)).map (· + 1)).find? fun n =>
    !kept.any (·.number == n)
  ⟨number.getD 1, process, ending, status, false⟩ :: kept

/-- The job that a word stands for, which is a number of a job, the current one, or a process. -/
def job? (s : Shell) (word : String) : Option Job :=
  match word.toList with
  | ['%'] | ['%', '%'] | ['%', '+'] => s.jobs.head?
  | ['%', '-'] => s.jobs[1]?
  | '%' :: cs => (Text.readNat? cs).bind fun n => s.jobs.find? (·.number == n)
  | _ => s.jobs.find? fun j => Text.ofNat j.process == word

/-- How a job stands. -/
def jobState (s : Shell) (j : Job) : String :=
  if j.ending > s.world.clock then "Running"
  else if j.status == 0 then "Done"
  else if j.status > 128 then (Signal.epitaph (j.status - 128)).dropEnd 1 |>.toString
  else "Done(" ++ Text.ofNat j.status ++ ")"

/-- Shows the jobs, the latest first. Those that have ended are forgotten. -/
def listJobs (s : Shell) (args : List String) : Shell :=
  let names := args.filter fun a => !a.startsWith "-"
  match names.find? fun n => (s.job? n).isNone with
  | some name => s.failBuiltin "jobs" ("No such job: " ++ name)
  | none =>
    let isDone (j : Job) : Bool := j.ending ≤ s.world.clock
    let chosen (j : Job) : Bool :=
      names.isEmpty || names.any fun n => (s.job? n).any (·.number == j.number)
    let (text, left) := s.jobs.foldl (fun (text, left) j =>
      let mark := match left with
        | [] => "+"
        | [_] => "-"
        | _ => " "
      let state := s.jobState j
      let line := if args.contains "-p" then Text.ofNat j.process
        else "[" ++ Text.ofNat j.number ++ "] " ++ mark ++ " " ++
          (if args.contains "-l" then Text.ofNat j.process ++ " " else "") ++
          Tool.padRight 27 state
      (if chosen j then text ++ line ++ "\n" else text,
        if chosen j && isDone j then left else left ++ [j])) ("", ([] : List Job))
    { s.emit 1 text with jobs := left }.finish 0

/-- Refuses to go on with a job in the front or at the back. -/
def resumeJob (s : Shell) (command : String) (args : List String) : Shell :=
  let name := args.headD "%%"
  if (s.job? name).isSome then
    s.failBuiltin command ("job " ++ args.headD "(null)" ++ " not created under job control")
  else s.failBuiltin command (if args.isEmpty then "No current job" else "No such job: " ++ name)

/-- Lets a signal come to the shell at a moment, which may be past if it was waiting for something
else. What it was waiting for goes on then. -/
def meet (s : Shell) (signal moment : Nat) : Shell :=
  match s.traps.find? (·.1 == signal) with
  | some (_, "") => s
  | some _ => { s with pending := s.pending ++ [signal] }
  | none =>
    if Signal.effect signal == .going then s
    else
      let w := s.world
      { s with
        flow := Signal.effect signal
        world := if moment < w.clock then { w with clock := moment, held := max w.held w.clock }
          else { w with clock := moment } }

/-- Lets the signals come to the shell that have arrived, in the order of their moments. -/
def receive (s : Shell) : Shell :=
  let isOwn (m : Mail) : Bool := m.target == s.self && m.moment ≤ s.world.clock
  let own := (s.world.mail.filter isOwn).mergeSort fun a b => decide (a.moment ≤ b.moment)
  if own.isEmpty then s
  else
    let s := { s with world := { s.world with mail := s.world.mail.filter (!isOwn ·) } }
    own.foldl (fun s m => if s.flow matches .killed _ then s else s.meet m.signal m.moment) s

/-- Goes on without an end, up to a signal that ends the shell. -/
def goOn (s : Shell) (flow : Flow) : Shell :=
  let endsIt (m : Mail) : Bool := m.target == s.self &&
    !s.traps.any (·.1 == m.signal) && Signal.effect m.signal != .going
  match (s.world.mail.filter endsIt).mergeSort fun a b => decide (a.moment ≤ b.moment) with
  | [] => { s with flow := flow }
  | m :: _ => s.meet m.signal (max m.moment s.world.clock)

/-- Sends a signal to a process. -/
def send (s : Shell) (signal target : Nat) : Shell :=
  if target == s.self then s.meet signal s.world.clock
  else if s.ancestors.contains target then
    let mail := ⟨s.world.clock, target, signal, 0⟩ :: s.world.mail
    { s with world := { s.world with mail := mail } }
  else
    match s.jobs.find? (·.process == target) with
    | some job =>
      if job.ending > s.world.clock && signal != 0 then
        let others := s.jobs.filter (·.process != target)
        { s with
          jobs := { job with ending := s.world.clock, status := 128 + signal } :: others
          world := { s.world with
            held := s.world.clock
            mail := s.world.mail.filter fun m => m.sender != target || m.moment < s.world.clock } }
      else s
    | none => { s.failBuiltin "kill" "No such process\n" with status := 1 }

/-- Sends signals. -/
def kill (s : Shell) (args : List String) : Shell :=
  let usage := s.failBuiltin "kill"
    "Usage: kill [-s sigspec | -signum | -sigspec] [pid | job]... or\nkill -l [exitstatus]"
  let go (signal : Nat) (targets : List String) : Shell :=
    if targets.isEmpty then usage
    else targets.foldl (fun s target =>
      if s.flow != .going then s
      else
        match Text.readNat? target.toList with
        | some n => s.send signal n
        | none =>
          if !target.startsWith "%" then s.failBuiltin "kill" ("Illegal number: " ++ target)
          else if (s.job? target).isNone then s.failBuiltin "kill" ("No such job: " ++ target)
          else { s.failBuiltin "kill" "No such process\n" with status := 1 }) (s.finish 0)
  match args with
  | [] => usage
  | "-s" :: name :: targets =>
    match Signal.number? name with
    | some n => go n targets
    | none => s.failBuiltin "kill" ("invalid signal number or name: " ++ name)
  | "-l" :: codes =>
    match codes with
    | [] => (s.emit 1 (Tool.unlines Signal.names)).finish 0
    | code :: _ =>
      match Text.readNat? code.toList with
      | some n => (s.emit 1 (Signal.name (if n > 128 then n - 128 else n) ++ "\n")).finish 0
      | none => s.failBuiltin "kill" ("Illegal number: " ++ code)
  | first :: targets =>
    match first.toList with
    | ['-', '-'] => go 15 targets
    | '-' :: c :: cs =>
      match Signal.number? (String.ofList (c :: cs)) with
      | some n => go n targets
      | none => s.failBuiltin "kill" ("Illegal option -" ++ String.singleton c)
    | _ => go 15 args

/-- Sets what is done at signals, or lists it. -/
def trap (s : Shell) (args : List String) : Shell :=
  let args := if args.head? == some "--" then args.tail else args
  let set (action : Option String) (signals : List String) : Shell :=
    signals.foldl (fun s name =>
      match Signal.number? name with
      | none => (s.emit 2 ("trap: " ++ name ++ ": bad trap\n")).finish 1
      | some n =>
        let others := s.traps.filter (·.1 != n)
        { s with traps := match action with
            | some a => (n, a) :: others
            | none => others }) (s.finish 0)
  match args with
  | [] =>
    let sorted := s.traps.mergeSort fun a b => decide (a.1 ≤ b.1)
    (s.emit 1 (Tool.unlines (sorted.map fun (n, a) =>
      "trap -- " ++ listed a ++ " " ++ Signal.name n))).finish 0
  | [name] => set none [name]
  | "-" :: signals => set none signals
  | action :: signals =>
    if (Text.readNat? action.toList).isSome then set none args else set (some action) signals

/-- Waits for jobs. -/
def wait (s : Shell) (args : List String) : Shell :=
  let until_ (s : Shell) (moment : Nat) : Shell :=
    { s with world := { s.world with clock := max s.world.clock moment } }
  match args with
  | [] =>
    let waited := s.jobs.map fun j => { j with waited := true }
    { s.jobs.foldl (fun s (job : Job) => until_ s job.ending) s with
      jobs := if s.isBash then [] else waited }.finish 0
  | targets => targets.foldl (fun s target =>
    if s.flow != .going then s
    else match s.job? target with
    | some job =>
      let s := until_ s job.ending
      let mark (j : Job) : Job := if j.number == job.number then { j with waited := true } else j
      let s := { s with jobs := s.jobs.map mark }
      (if job.status > 128 then s.emit 2 (Signal.epitaph (job.status - 128))
        else s).finish job.status
    | none =>
      if target.startsWith "%" then s.failBuiltin "wait" ("No such job: " ++ target)
      else if (Text.readNat? target.toList).isNone then
        s.failBuiltin "wait" ("Illegal number: " ++ target)
      else s.finish 127) s

/-! ## Programs -/

/-- Why a program is not found. -/
inductive LookFault where
  | unknown
  | fault (f : FileFault)
deriving DecidableEq, Repr

/-- The place of a program that may be run. -/
def runnable (d : Disk) (here : Place) (path : String) : Except FileFault Place :=
  match d.find here path with
  | .error fault => .error fault
  | .ok p =>
    if d.runs p then .ok p else .error .denied

/-- The directories in which programs are looked for. -/
def searchPath (s : Shell) : List String :=
  (Text.split ':' ((s.value? "PATH").getD "")).map fun d => if d.isEmpty then "." else d

/-- The path of a program and its place. A name with a slash is a path. -/
def lookUp (s : Shell) (name : String) : Except LookFault (String × Place) :=
  let d := s.world.disk
  if name.toList.contains '/' then
    match runnable d s.here name with
    | .ok p => .ok (name, p)
    | .error fault => .error (.fault fault)
  else
    let tried := s.searchPath.map fun dir =>
      (dir ++ "/" ++ name, runnable d s.here (dir ++ "/" ++ name))
    match tried.findSome? fun (path, found) => found.toOption.map (path, ·) with
    | some found => .ok found
    | none => if tried.any fun (_, found) => match found with
        | .error .denied => true
        | _ => false
      then .error (.fault .denied) else .error .unknown

/-- The wording of a fault in the complaint of another program. -/
def LookFault.sentence : LookFault → String
  | .unknown => FileFault.missing.sentence
  | .fault f => f.sentence

/-- The wording of a program that is not found, in the larger shell. -/
def LookFault.bashText : LookFault → String
  | .unknown => "command not found"
  | .fault f => f.sentence

/-- The wording and the status of a program that is not found. -/
def LookFault.report : LookFault → String × Nat
  | .unknown => ("not found", 127)
  | .fault f =>
    if f == .missing || f == .notDirectory then ("not found", 127)
    else (f.sentence, if f == .tooLong || f == .loop then 127 else 126)

/-- Keeps where a program is that is asked for by its name. -/
def track (s : Shell) (name : String) : Shell :=
  if name.toList.contains '/' || (s.isBash && !s.has 'h') then s
  else if s.tracked.any (·.name == name) then { s with tracked := Tracked.use name s.tracked }
  else
    match s.lookUp name with
    | .ok (path, _) => { s with tracked := Tracked.put ⟨name, path, 1⟩ s.tracked }
    | .error _ => s

/-- Shows the programs that were found, or looks for some again. -/
def rehash (s : Shell) (args : List String) : Shell :=
  match args.head?.map String.toList with
  | none =>
    let shown := (Tracked.inOrder false s.tracked).map fun t => t.path ++ "\n"
    (s.emit 1 (String.join shown)).finish 0
  | some ['-', 'r'] => { s with tracked := [] }.finish 0
  | some ('-' :: c :: _) => s.failBuiltin "hash" ("Illegal option -" ++ String.singleton c)
  | some _ => args.foldl (fun s name =>
      let s := { s with tracked := s.tracked.filter (·.name != name) }
      if name.toList.contains '/' || specialBuiltins.contains name ||
        regularBuiltins.contains name || s.functions.any (·.1 == name) then s
      else
        match s.lookUp name with
        | .ok _ => s.track name
        | .error fault =>
          let context := s.context
          { { s with context := "hash" }.complain (name ++ ": " ++ fault.report.1) with
            context := context }.finish 1) (s.finish 0)

/-- Says what a name stands for. -/
def describe (s : Shell) (verbose : Bool) (name : String) : Shell :=
  let say (text short : String) : Shell :=
    (s.emit 1 ((if verbose then name ++ " is " ++ text else short) ++ "\n")).finish 0
  if Script.keywords.contains name then say "a shell keyword" name
  else if let some a := s.aliases.find? (·.1 == name) then
    say ("an alias for " ++ a.2) ("alias " ++ (aliasLine a).dropEnd 1)
  else if specialBuiltins.contains name then say "a special shell builtin" name
  else if s.functions.any (·.1 == name) then say "a shell function" name
  else if regularBuiltins.contains name then say "a shell builtin" name
  else
    match s.lookUp name with
    | .ok (path, _) =>
      let isTracked := s.tracked.any (·.name == name)
      (say ((if isTracked then "a tracked alias for " else "") ++ path) path).track name
    | .error _ => (if verbose then s.emit 1 (name ++ ": not found\n") else s).finish 127

/-- A mask in letters: what everybody may do. -/
def maskLetters (mask : Nat) : String :=
  let one (shift : Nat) : String :=
    let bits := mask / shift % 8
    String.ofList ((if bits / 4 % 2 == 0 then ['r'] else []) ++
      (if bits / 2 % 2 == 0 then ['w'] else []) ++ (if bits % 2 == 0 then ['x'] else []))
  "u=" ++ one 64 ++ ",g=" ++ one 8 ++ ",o=" ++ one 1

/-- The mask that a text asks for, which may say in letters what everybody may do. -/
def readMask? (mask : Nat) (text : String) : Option Nat :=
  match Tool.ModeChange.read? text with
  | some (.number n) => some (n % 512)
  | some c => some (Mode.without 511 (c.apply 0 false (Mode.without 511 mask)))
  | none => none

/-- Shows or sets what files that are made may not be used for. -/
def setMask (s : Shell) (args : List String) : Shell :=
  match args with
  | [] => (s.emit 1 (Tool.modeDigits 4 s.mask ++ "\n")).finish 0
  | ["-S"] => (s.emit 1 (maskLetters s.mask ++ "\n")).finish 0
  | "-S" :: a :: _ | a :: _ =>
    match a.toList, readMask? s.mask a with
    | '-' :: c :: _, _ => s.failBuiltin "umask" ("Illegal option -" ++ String.singleton c)
    | _, some mask => { s with mask := mask }.finish 0
    | cs, none =>
      if cs.isEmpty then s.finish 0
      else s.failBuiltin "umask" ((if cs.all Char.isDigit then "Illegal number: "
        else "Illegal mode: ") ++ a)

/-- The time that the shell and what it has started have worked, with a number of decimal places. No
work takes time. -/
def timesText (places : Nat) : String :=
  let none := "0m0." ++ String.ofList (List.replicate places '0') ++ "s"
  let line := none ++ " " ++ none ++ "\n"
  line ++ line

/-- Runs a command that only looks at the shell or changes its state. -/
def simpleBuiltin (s : Shell) (command : String) (args : List String) : Shell :=
  let counted (use : Nat → Shell) : Shell :=
    match args with
    | [] => use 1
    | a :: _ =>
      match count? a with
      | some n => if n == 0 then s.failBuiltin command ("Illegal number: " ++ a) else use n
      | none => s.failBuiltin command ("Illegal number: " ++ a)
  match command with
  | ":" | "true" => s.finish 0
  | "jobs" => s.listJobs args
  | "times" => (s.emit 1 (timesText 6)).finish 0
  | "hash" => s.rehash args
  | "alias" => s.setAliases args
  | "unalias" => s.unsetAliases args
  | "ulimit" =>
    let letters := (args.filter (·.startsWith "-")).flatMap fun a => a.toList.drop 1
    match letters.find? fun c => !"HSatfdscmlpnvwr".toList.contains c with
    | some c => s.failBuiltin "ulimit" ("Illegal option -" ++ String.singleton c)
    | none => s.finish 0
  | "false" => s.finish 1
  | "echo" => s.workBuiltin "echo" (Format.echo .small) args
  | "printf" => s.workBuiltin "printf" (Format.printf .small) args
  | "test" => s.workBuiltin "test" (Condition.tool false true) args
  | "[" => s.workBuiltin "[" (Condition.tool true true) args
  | "pwd" => (s.emit 1 (s.here.text ++ "\n")).finish 0
  | "cd" | "chdir" => s.changeDirectory args
  | "exit" =>
    match args with
    | [] => s.leave s.status
    | a :: _ =>
      match count? a with
      | some n => s.leave (n % 256)
      | none => s.failBuiltin "exit" ("Illegal number: " ++ a)
  | "return" =>
    match args with
    | [] => { s with flow := .returning }
    | a :: _ =>
      match count? a with
      | some n => { s with flow := .returning, status := n % 256 }
      | none => s.failBuiltin "return" ("Illegal number: " ++ a)
  | "break" => counted fun n =>
    if s.loops == 0 then s.finish 0 else { s with flow := .breaking (min n s.loops), status := 0 }
  | "continue" => counted fun n =>
    if s.loops == 0 then s.finish 0 else { s with flow := .continuing (min n s.loops), status := 0 }
  | "shift" =>
    match args.head?.map count? with
    | some none => s.failBuiltin "shift" ("Illegal number: " ++ args.headD "")
    | n =>
      let n := (n.getD (some 1)).getD 1
      if n > s.arguments.length then s.failBuiltin "shift" "can't shift that many"
      else { s with arguments := s.arguments.drop n }.finish 0
  | "export" =>
    if args.isEmpty || args == ["-p"] then s.listVariables "export" (·.exported)
    else declare "export" (fun v => { v with exported := true }) s args
  | "readonly" =>
    if args.isEmpty || args == ["-p"] then s.listVariables "readonly" (·.readOnly)
    else declare "readonly" (fun v => { v with readOnly := true }) s args
  | "local" => declareLocal s args
  | "unset" => s.unset args
  | "set" => setAll (args.length + 1) s args
  | "read" => s.readLine args
  | "getopts" => s.getOptions args
  | "kill" => s.kill args
  | "trap" => s.trap args
  | "wait" => s.wait args
  | "umask" => s.setMask args
  | "type" => args.foldl (fun s name =>
      let status := s.status
      let s := s.describe true name
      s.finish (max status s.status)) (s.finish 0)
  | "fg" | "bg" => s.resumeJob command args
  | _ => s.finish 0

end TensorCompiler.Shell
