import TensorCompiler.Build.Awk.Run
import TensorCompiler.Build.Shell.Extended
import TensorCompiler.Build.Shell.Input
import TensorCompiler.Build.Shell.Wrapper

/-!
# Running scripts

Commands run one inside the other through a `Runner`, which is made for any depth. A loop that goes
on beyond its bound counts as one that never ends.
-/

namespace TensorCompiler.Shell

open Script

/-- How the commands inside a command are run. A command that is `tested` may fail without ending a
shell that stops at failures. -/
structure Runner where
  run : Shell → Command → (tested : Bool) → Shell
  /-- The number of rounds that a loop may take. -/
  patience : Nat

namespace Runner

/-! ## Scripts -/

/-- What a script is for the shell that reads it. -/
inductive Source where
  /-- The script that the shell is started for, as an argument. -/
  | argument
  /-- The script that the shell is started for. -/
  | file
  /-- A text that a command has the shell read. -/
  | text
  /-- Anything else. -/
  | other
deriving DecidableEq, Repr

/-- Whether the shell is started for a script. -/
def Source.isMain (source : Source) : Bool := source == .argument || source == .file

/-- Complains about a script that cannot be read. -/
def misread (s : Shell) (source : Source) (fault : ReadFault) : Shell :=
  if s.isBash then
    let name := if s.extras.origin.isEmpty then s.name else s.extras.origin
    let lead := name ++ ": " ++ (match source with
      | .argument => "-c: "
      | .text => "eval: "
      | _ => "") ++ "line " ++ Text.ofNat fault.line ++ ": "
    let texts := fault.texts ++ fault.source.toList.map cited
    let s := s.emit 2 (String.join (texts.map fun t => lead ++ t ++ "\n"))
    if source.isMain then s.leave 2 else s.finish 2
  else { s with line := fault.line }.abort ("Syntax error: " ++ fault.texts.headD "")

/-- The words that stand for texts in a script. The larger shell has to be told to use them. -/
def usedAliases (s : Shell) : List (String × String) :=
  if s.isBash && !s.hasLong "expand_aliases" then [] else s.aliases

/-- Runs the lines of a script one after the other. The larger shell goes on behind a line that it
has passed over. -/
def lines (r : Runner) (source : Source) (tested : Bool) : Nat → Reader → Shell → Shell
  | 0, _, s => s
  | fuel + 1, reader, s =>
    if !s.isGoing then s
    else
      let reader := { reader with aliases := usedAliases s, groups := s.hasLong "extglob" }
      match Script.readLine reader with
      | .error fault => misread s source fault
      | .ok (none, _) => s
      | .ok (some c, reader) =>
        let line := s.line
        let s := reader.warnings.reverse.foldl (fun (s : Shell) (line, text) =>
          { s with line := line }.complain text) s
        let s := { s with documents := reader.documents, line := line }
        let s := r.run s c tested
        let s := if source.isMain && s.flow == .discarding then { s with flow := .going } else s
        r.lines source tested fuel { reader with warnings := [] } s

/-- Runs a script. -/
def script (r : Runner) (s : Shell) (source : Source) (line : Nat) (text : String)
    (tested : Bool) : Shell :=
  r.lines source tested (text.length + 2) (Reader.start s.isBash line s.documents text) s

/-- Does what is set for an exit. Another exit there has the last word. -/
def atExit (r : Runner) (s : Shell) : Shell :=
  match s.flow, s.traps.find? (·.1 == 0) with
  | .killed _, _ | .stopped, _ | .endless, _ => s
  | _, none => s
  | _, some (_, action) =>
    let status := s.status
    let s := { s with flow := .going, traps := s.traps.filter (·.1 != 0) }
    let s := r.script s .other 1 action false
    match s.flow with
    | .going => { s with status := status, flow := .exiting }
    | _ => s

/-- Does what is set for the signals that have come. -/
def onSignals (r : Runner) (s : Shell) : Shell :=
  let s := s.receive
  let signals := s.pending
  signals.foldl (fun s n =>
    match s.traps.find? (·.1 == n) with
    | some (_, action) =>
      if !s.isGoing then s
      else
        let status := s.status
        let s := r.script s .other s.line action false
        if s.flow == .going then s.finish status else s
    | none => s) { s with pending := [] }

/-! ## Processes -/

/-- Takes over what a process leaves behind. One that a signal has ended is spoken of. -/
def join (s inner : Shell) : Shell :=
  let s := { s with world := inner.world, status := inner.status }
  match inner.flow with
  | .killed n => (s.emit 2 (Signal.epitaph n)).finish (128 + n)
  | .stopped => s.goOn .stopped
  | .endless => s.goOn .endless
  | _ => s

/-- A copy of a shell to run commands on the side. -/
def aside (s : Shell) : Shell :=
  let self := s.world.processes + 1
  { s with
    world := { s.world with processes := self }
    self := self
    ancestors := s.self :: s.ancestors
    traps := s.traps.filter (·.2.isEmpty)
    pending := []
    jobs := []
    loops := 0
    extras := { s.extras with depth := s.extras.depth + 1 }
    flow := .going }

/-- Runs something in a subshell. -/
def fork (r : Runner) (s : Shell) (act : Shell → Shell) : Shell :=
  join s (r.atExit (act (aside s)))

/-- Runs a command for its output. -/
def take (r : Runner) : Taker := fun s body =>
  let (n, world) := s.world.openStream (.gather "")
  let inner := (aside { s with world := world }).connect 1 (some n)
  let inner := { inner with extras := { inner.extras with level := inner.extras.level + 1 } }
  let inner := if s.isBash && !s.hasLong "inherit_errexit" then
      inner.setOption false 'e'
    else inner
  let inner := r.atExit (r.run inner body false)
  let text := inner.gathered n
  let status := s.status
  let s := join s inner
  let s := { s with world := { s.world with streams := s.world.streams.filter (·.1 != n) } }
  ({ s with taken := s.status, status := status }, text)

/-- Keeps the statuses of the commands that ran last at the same time. -/
def keepStatuses (s : Shell) (found : List Nat) : Shell :=
  if s.isBash then
    let items := found.zipIdx.map fun (n, i) => (i, Text.ofNat n)
    s.putVariable "PIPESTATUS" (some ⟨.indexed items, false, false, []⟩)
  else s

/-- Runs commands at the same time, each on the output of the one before. `done` are the statuses of
those that have run. -/
def stages (r : Runner) (tested : Bool) (s : Shell) (start : Nat) (input : Option String)
    (done : List Nat) : List Command → Shell
  | [] => s
  | c :: rest =>
    let clock := s.world.clock
    let outer := s.descriptors
    let s := { s with world := { s.world with clock := start } }
    let (n, world) := s.world.openStream (.gather "")
    let s := { s with world := world }
    let inner := r.fork s fun s =>
      let s := match input with
        | some text => s.connectTo 0 (.text text)
        | none => s
      r.run (if rest.isEmpty then s else s.connect 1 (some n)) c tested
    let text := inner.gathered n
    let world := { inner.world with
      clock := max clock inner.world.clock
      streams := inner.world.streams.filter (·.1 != n) }
    let s := { inner with world := world, descriptors := outer }
    let done := done ++ [s.status]
    if rest.isEmpty then
      let failed := ((done.filter (· != 0)).getLast?).getD 0
      keepStatuses (if s.has '|' then s.finish failed else s) done
    else
      let s := if s.flow == .endless then { s with flow := .going } else s
      if s.flow != .going then s else r.stages tested s start (some text) done rest

/-- Whether a command sends its output elsewhere itself. -/
def redirects : Command → Bool
  | .simple _ _ _ found => !found.isEmpty
  | .subshell _ _ found => !found.isEmpty
  | .redirected _ _ found => !found.isEmpty
  | _ => false

/-- Starts a command beside the shell. -/
def background (r : Runner) (s : Shell) (c : Command) : Shell :=
  let start := s.world.clock
  let held := s.world.held
  let inner := (aside s).connectTo 0 .sink
  let process := inner.self
  let inner := r.atExit (r.run inner c false)
  let sent := inner.world.mail.map fun m =>
    if s.world.mail.contains m then m else { m with sender := process }
  let ending := match inner.flow with
    | .endless | .stopped => s.world.limit + Tool.forever
    | _ => inner.world.clock
  let showing := !redirects c && [1, 2].any fun fd =>
    ((s.descriptors.find? (·.1 == fd)).bind fun d => s.world.stream? d.2) == some .report
  let held := if showing then max held ending
    else if inner.world.held > start then max held inner.world.held else held
  { s with
    world := { inner.world with clock := start, held := held, mail := sent }
    jobs := s.addJob process ending inner.status
    lastJob := some process }.finish 0

/-! ## Other programs -/

/-- Variables with the directories where a shell looks for programs. -/
def withPath (bindings : List (String × Variable)) : List (String × Variable) :=
  if bindings.any (·.1 == "PATH") then bindings
  else bindings ++
    [("PATH", .ofText "/usr/local/sbin:/usr/local/bin:/usr/sbin:/usr/bin:/sbin:/bin" false)]

/-- Variables that the larger shell starts with. -/
def extendedVariables (bindings : List (String × Variable)) : List (String × Variable) :=
  let version := ["5", "2", "15", "1", "release", "x86_64-pc-linux-gnu"]
  let own : List (String × Variable) :=
    [("BASH", .ofText "/usr/bin/bash" false),
      ("BASH_VERSION", .ofText "5.2.15(1)-release" false),
      ("BASH_VERSINFO", ⟨.indexed (version.zipIdx.map fun (t, i) => (i, t)), false, true, []⟩),
      ("EUID", ⟨.text "0", false, true, ['i']⟩), ("HOSTTYPE", .ofText "x86_64" false),
      ("IFS", .ofText " \t\n" false), ("MACHTYPE", .ofText "x86_64-pc-linux-gnu" false),
      ("OPTIND", .ofText "1" false), ("OSTYPE", .ofText "linux-gnu" false),
      ("PS4", .ofText "+ " false), ("UID", ⟨.text "0", false, true, ['i']⟩)]
  bindings ++ own.filter fun (name, _) => !bindings.any (·.1 == name)

/-- A shell that another one starts. Of its variables it has those that programs see. -/
def newShell (s : Shell) (name : String) : Shell :=
  let process := s.world.processes + 1
  let isBash := Tool.baseName name == "bash"
  let bindings := withPath (s.bindings.filter (·.2.exported))
  let bindings := if bindings.any (·.1 == "PWD") then bindings
    else bindings ++ [("PWD", .ofText s.here.text true)]
  { s with
    world := { s.world with processes := process }
    name := name
    isBash := isBash
    context := ""
    line := 1
    bindings := if isBash then extendedVariables bindings else bindings
    arguments := []
    functions := if isBash then s.functions.filter (·.2.exported) else []
    aliases := []
    tracked := []
    options := if isBash then ['h', 'B', '4'] else []
    traps := s.traps.filter (·.2.isEmpty)
    pending := []
    jobs := []
    process := process
    self := process
    parent := s.self
    ancestors := s.self :: s.ancestors
    lastJob := none
    loops := 0
    locals := []
    extras := { Extras.start with options := if isBash then startingOptions else [] }
    flow := .going }

/-- Reads the options that a shell is started with. -/
def shellOptions : Nat → Shell → Bool → List String → Except String (Shell × Bool × List String)
  | 0, s, commands, args => .ok (s, commands, args)
  | _, s, commands, [] => .ok (s, commands, [])
  | fuel + 1, s, commands, arg :: rest =>
    match arg.toList with
    | ['-', '-'] | ['-'] => .ok (s, commands, rest)
    | '-' :: c :: cs =>
      let letters := c :: cs
      match setLetters true s (letters.filter fun c => c != 'c' && c != 'l') rest with
      | .error e => .error e
      | .ok (s, rest) => shellOptions fuel s (commands || letters.contains 'c') rest
    | '+' :: c :: cs =>
      match setLetters false s (c :: cs) rest with
      | .error e => .error e
      | .ok (s, rest) => shellOptions fuel s commands rest
    | _ => .ok (s, commands, arg :: rest)

/-- Runs the script that the input is. -/
def fromInput (r : Runner) (s : Shell) : Shell :=
  let input := (s.descriptors.find? (·.1 == 0)).map Prod.snd
  let text := (input.map s.world.unread).getD ""
  let s := match input with
    | some n => { s with world := s.world.consume n "" }
    | none => s
  r.atExit (r.script s .file 1 text false)

/-- The long options that the larger shell is started with. -/
def longStartOptions : List String :=
  ["debug", "debugger", "dump-po-strings", "dump-strings", "help", "init-file", "login",
    "noediting", "noprofile", "norc", "posix", "pretty-print", "rcfile", "restricted", "verbose",
    "version"]

/-- How the larger shell is started. -/
def startUsage (name : String) : List String :=
  ["Usage:\t" ++ name ++ " [GNU long option] [option] ...",
    "\t" ++ name ++ " [GNU long option] [option] script-file ...", "GNU long options:"] ++
    longStartOptions.map ("\t--" ++ ·) ++
    ["Shell options:", "\t-ilrsD or -c command or -O shopt_option\t\t(invocation only)",
      "\t-abefhkmnptuvxBCEHPT or -o option"]

/-- Reads the options that the larger shell is started with. A fault says whether it is about the
name of an option. -/
def extendedShellOptions :
    Nat → Shell → Bool → List String → Except (String × Bool) (Shell × Bool × List String)
  | 0, s, commands, args => .ok (s, commands, args)
  | _, s, commands, [] => .ok (s, commands, [])
  | fuel + 1, s, commands, arg :: rest =>
    let long (on : Bool) (name : String) : Shell :=
      let others := s.extras.options.filter (· != name)
      { s with extras := { s.extras with options := if on then others ++ [name] else others } }
    match arg.toList, rest with
    | ['-', '-'], _ | ['-'], _ => .ok (s, commands, rest)
    | ['-', 'O'], name :: rest => extendedShellOptions fuel (long true name) commands rest
    | ['+', 'O'], name :: rest => extendedShellOptions fuel (long false name) commands rest
    | '-' :: '-' :: name, _ =>
      if longStartOptions.contains (String.ofList name) then
        extendedShellOptions fuel s commands rest
      else .error (arg ++ ": invalid option", false)
    | sign :: c :: cs, _ =>
      if sign != '-' && sign != '+' then .ok (s, commands, arg :: rest)
      else
        let letters := c :: cs
        let plain := letters.filter fun c => !"clisr".toList.contains c
        match extendedLetters (sign == '-') s plain rest with
        | .error (name, true) => .error (name ++ ": invalid option name", true)
        | .error (option, false) => .error (option ++ ": invalid option", false)
        | .ok (s, rest) =>
          let s := if letters.contains 's' then s.setOption true 's' else s
          let commands := commands || letters.contains 'c'
          extendedShellOptions fuel (if commands then s.setOption true 'c' else s) commands rest
    | _, _ => .ok (s, commands, arg :: rest)

/-- Runs the larger shell with arguments to its end. -/
def extendedShell (r : Runner) (s : Shell) (name : String) (args : List String) : Shell :=
  let fail (s : Shell) (text : String) (status : Nat) : Shell :=
    (s.emit 2 (name ++ ": " ++ text ++ "\n")).leave status
  match extendedShellOptions (args.length + 1) s false args with
  | .error (e, isName) =>
    if isName then fail s ("line 0: " ++ name ++ ": " ++ e) 2
    else fail s (e ++ "\n" ++ Text.joinWith "\n" (startUsage name)) 2
  | .ok (s, true, []) => fail s "-c: option requires an argument" 2
  | .ok (s, true, text :: rest) =>
    let s := { s with
      name := rest.headD name
      arguments := rest.tail
      extras := { s.extras with isArgument := true } }
    r.atExit (r.script s .argument 1 text false)
  | .ok (s, false, args) =>
    match args with
    | [] => r.fromInput s
    | path :: rest =>
      if s.has 's' then r.fromInput { s with arguments := args }
      else
        match s.world.disk.read s.here path with
        | .error .isDirectory => fail s (path ++ ": Is a directory") 126
        | .error fault => fail s (path ++ ": " ++ fault.sentence) 127
        | .ok text =>
          r.atExit (r.script { s with name := path, arguments := rest } .file 1 text false)

/-- Runs a shell with arguments to its end. It reads a script that is an argument, a file or its
input. -/
def shell (r : Runner) (s : Shell) (name : String) (args : List String) : Shell :=
  let s := newShell s name
  let fail (text : String) : Shell := { s with line := 0 }.abort text
  if s.isBash then r.extendedShell s name args
  else match shellOptions (args.length + 1) s false args with
  | .error e => fail e
  | .ok (s, true, []) => { s with line := 0 }.abort "-c requires an argument"
  | .ok (s, true, text :: rest) =>
    let s := { s with name := rest.headD name, arguments := rest.tail }
    r.atExit (r.script s .argument 1 text false)
  | .ok (s, false, args) =>
    match args with
    | [] => r.fromInput s
    | path :: rest =>
      if s.has 's' then r.fromInput { s with arguments := args }
      else
        match s.world.disk.read s.here path with
        | .error .isDirectory => s.finish 0
        | .error fault => fail (s.openFault "open" path "No such file" fault)
        | .ok text =>
          r.atExit (r.script { s with name := path, arguments := rest } .file 1 text false)

/-- Runs a file as a script. Its first line may name what runs it, and one argument for that. -/
def scriptFile (r : Runner) (launch : Launch) (s : Shell) (path text : String)
    (args : List String) : Shell :=
  let isBlank (c : Char) := c == ' ' || c == '\t'
  let interpreter : List String := match text.toList.takeWhile (· != '\n') with
    | '#' :: '!' :: rest =>
      let rest := ((rest.dropWhile isBlank).reverse.dropWhile isBlank).reverse
      let program := rest.takeWhile (!isBlank ·)
      let behind := (rest.drop program.length).dropWhile isBlank
      String.ofList program :: (if behind.isEmpty then [] else [String.ofList behind])
    | _ => []
  match interpreter with
  | [] => r.shell s "/bin/sh" (path :: args)
  | program :: _ =>
    match runnable s.world.disk s.here program with
    | .ok _ => launch s (interpreter ++ path :: args)
    | .error fault =>
      let (text, status) := (LookFault.fault fault).report
      (s.complain (path ++ ": " ++ text)).finish status

/-- How a program over records reaches the shell that starts it. -/
def recordHost (r : Runner) : Awk.Host Shell where
  say isError text s := s.emit (if isError then 2 else 1) text
  read path s :=
    if path == "-" || path == "/dev/stdin" then
      match (s.descriptors.find? (·.1 == 0)).map Prod.snd with
      | some n => (.ok (s.world.unread n), { s with world := s.world.consume n "" })
      | none => (.ok "", s)
    else (s.world.disk.read s.here path, s)
  write path append text s :=
    let disk := s.world.disk
    match disk.writable s.here path with
    | .error fault => .error fault
    | .ok p =>
      if disk.isDevice p then .ok s
      else
        let old := if append then (disk.file? p).getD "" else ""
        .ok { s with world := { s.world with disk := disk.write p (old ++ text) } }
  command text input taken s :=
    let outer := s.descriptors
    let (n, world) := s.world.openStream (.gather "")
    let inner := { s with world := world }
    let inner := match input with
      | some given => inner.connectTo 0 (.text given)
      | none => inner
    let inner := if taken then inner.connect 1 (some n) else inner
    let inner := r.shell { inner with flow := .going } "sh" ["-c", text]
    let found := inner.gathered n
    let joined := join s inner
    let world := { joined.world with streams := joined.world.streams.filter (·.1 != n) }
    (joined.status, found, { joined with world := world, descriptors := outer })

/-- What a tool for programs over records is told on its command line. -/
structure RecordArgs where
  separator : Option String
  given : List (String × String)
  files : List String
  operands : List String

/-- Reads the options of a tool for programs over records. -/
def RecordArgs.read : Nat → RecordArgs → List String → Except String RecordArgs
  | 0, a, rest => .ok { a with operands := rest }
  | _, a, [] => .ok a
  | fuel + 1, a, arg :: rest =>
    let valued (cs : List Char) (use : String → Except String RecordArgs) (letter : Char) :=
      match cs, rest with
      | [], [] => .error ("option requires an argument -- " ++ String.singleton letter)
      | [], value :: rest => (use value).bind fun a => RecordArgs.read fuel a rest
      | cs, rest => (use (String.ofList cs)).bind fun a => RecordArgs.read fuel a rest
    match arg.toList with
    | ['-', '-'] => .ok { a with operands := rest }
    | '-' :: 'F' :: cs => valued cs (fun s => .ok { a with separator := some s }) 'F'
    | '-' :: 'f' :: cs => valued cs (fun s => .ok { a with files := a.files ++ [s] }) 'f'
    | '-' :: 'v' :: cs => valued cs (fun s =>
        match Awk.assignment? s with
        | some g => .ok { a with given := a.given ++ [g] }
        | none => .error ("improper assignment: -v " ++ s)) 'v'
    | '-' :: 'W' :: cs => valued cs (fun _ => .ok a) 'W'
    | '-' :: c :: _ => .error ("not an option: -" ++ String.singleton c)
    | _ => .ok { a with operands := arg :: rest }

/-- Runs a program over records. -/
def records (r : Runner) (s : Shell) (name : String) (args : List String) : Shell :=
  let name := Tool.baseName name
  let fail (text : String) : Shell := (s.emit 2 (name ++ ": " ++ text ++ "\n")).finish 2
  match RecordArgs.read (args.length + 1) ⟨none, [], [], []⟩ args with
  | .error e => fail e
  | .ok a =>
    let texts := a.files.map fun path => (path, (recordHost r).read path s)
    let missing := texts.findSome? fun (path, found, _) => match found with
      | .error fault => some ("cannot open \"" ++ path ++ "\" (" ++ fault.sentence ++ ")")
      | .ok _ => none
    let text := Text.joinWith "\n" (texts.map fun (_, found, _) => found.toOption.getD "")
    let (text, operands) := if a.files.isEmpty then (a.operands.headD "", a.operands.tail)
      else (text, a.operands)
    match missing with
    | some e => fail e
    | none =>
      if a.files.isEmpty && a.operands.isEmpty then
        (s.emit 2 ("Usage: mawk [Options] [Program] [file ...]\n")).finish 2
      else
        match Awk.Program.read text with
        | .error faults =>
          (s.emit 2 (Tool.unlines (faults.map fun f => name ++ ": " ++ f))).finish 2
        | .ok p =>
          let given := (a.separator.map fun v => ("FS", v)).toList ++ a.given
          let (ending, s) :=
            (⟨p, given, name :: operands, s.environment⟩ : Awk.Start).run (recordHost r) name s
          if ending.endless then { s with flow := .endless } else s.finish ending.status

/-- Runs a program that is found at a place. -/
def program (r : Runner) (launch : Launch) (s : Shell) (path : String) (p : Place) (name : String)
    (args : List String) : Shell :=
  if p.dropLast == Disk.programs then
    match p.getLast?.getD "" with
    | "sh" | "dash" | "bash" => r.shell s name args
    | "env" => Wrapper.env launch s name args
    | "xargs" => Wrapper.xargs launch s name args
    | "find" => Wrapper.find launch s name args
    | "timeout" => Wrapper.timeout launch s name args
    | "nice" => Wrapper.nice launch s name args
    | "nohup" => Wrapper.nohup launch s name args
    | "stdbuf" => Wrapper.stdbuf launch s name args
    | "awk" | "mawk" => r.records s name args
    | base =>
      match Tool.named? base with
      | some tool => s.work (tool name args) false
      | none => s.finish 0
  else
    match s.world.disk.file? p with
    | some text => r.scriptFile launch s path text args
    | none => s.finish 126

/-- Runs a program with its arguments in a process of its own. -/
def launch (r : Runner) : Nat → Launch
  | 0, s, _ => { s with flow := .endless }
  | _, s, [] => s.finish 0
  | fuel + 1, s, name :: args =>
    match s.lookUp name with
    | .error fault =>
      let isDirectory := s.isBash && name.toList.contains '/' &&
        (s.world.disk.find s.here name).toOption.any s.world.disk.isDirectory
      let text := if isDirectory then FileFault.isDirectory.sentence
        else if s.isBash then fault.bashText else fault.report.1
      (s.complain (name ++ ": " ++ text)).finish fault.report.2
    | .ok (path, p) => join s (r.program (r.launch fuel) { s with flow := .going } path p name args)

/-! ## Commands -/

/-- Does what is set for failures, and ends a shell that stops at them, if one has come that is not
tested. -/
def check (r : Runner) (s : Shell) (tested : Bool) : Shell :=
  if tested || s.status == 0 || s.flow != .going then s
  else
    let heard := s.isBash && (s.locals.isEmpty || s.has 'E')
    let s := match if heard then s.traps.find? (·.1 == 1001) else none with
      | some (_, action) =>
        let status := s.status
        let s := r.script s .other s.line action true
        if s.flow == .going then s.finish status else s
      | none => s
    if s.has 'e' && s.flow == .going then s.leave s.status else s

/-- Fills in and makes assignments. -/
def assignAll (r : Runner) (s : Shell) : List Assign → Shell × List Given
  | [] => (s, [])
  | a :: rest =>
    let (s, g) := given r.take s a
    if s.flow != .going then (s, [])
    else
      let s := s.store g
      if s.flow != .going then (s, [])
      else
        let (s, others) := r.assignAll s rest
        (s, g :: others)

/-- Calls a function. -/
def call (r : Runner) (s : Shell) (name : String) (f : ScriptFunction) (args : List String)
    (tested : Bool) : Shell :=
  let arguments := s.arguments
  let loops := s.loops
  let extras := s.extras
  let origin := if f.origin.isEmpty && extras.isArgument then "environment" else f.origin
  let inner := { s with
    arguments := args
    locals := [] :: s.locals
    loops := 0
    extras := { extras with calls := name :: extras.calls, origin := origin } }
  let s := r.run inner f.body tested
  let frame := s.locals.headD []
  let s := frame.foldl (fun s (name, v) => s.putVariable name v) { s with locals := s.locals.tail }
  { s with
    arguments := arguments
    loops := loops
    extras := { s.extras with calls := extras.calls, origin := extras.origin }
    flow := if s.flow == .returning then .going else s.flow }

/-- Changes how deep commands stand in others. -/
def atLevel (s : Shell) (level : Nat) : Shell :=
  { s with extras := { s.extras with level := level } }

/-- Runs the commands that a text is, in the name of a command. -/
def evaluate (r : Runner) (s : Shell) (command text : String) (tested : Bool) : Shell :=
  let context := s.context
  let level := s.extras.level
  let inner := { s with context := if s.isBash then context else command }
  let s := r.script (atLevel inner (level + 1)) .text s.line text tested
  atLevel { s with context := context } level

/-- Runs the commands of a file in this shell. -/
def runFile (r : Runner) (s : Shell) (path text : String) (rest : List String) : Shell :=
  let arguments := s.arguments
  let context := s.context
  let extras := s.extras
  let line := s.line
  let s := if rest.isEmpty then s else { s with arguments := rest }
  let s := { s with
    line := 1
    status := 0
    context := if s.isBash then context else path
    extras := { extras with origin := path, level := extras.level + 1 } }
  let s := r.script s .other 1 text false
  { s with
    arguments := if rest.isEmpty then s.arguments else arguments
    context := context
    line := if s.isBash then line else s.line
    extras := { s.extras with origin := extras.origin, level := extras.level }
    flow := if s.flow == .returning then .going else s.flow }

/-- Runs the commands of a file that is looked for. -/
def source (r : Runner) (s : Shell) (command : String) (args : List String) : Shell :=
  match args with
  | [] =>
    if s.isBash then
      (s.fault command "filename argument required" 2).usage command " filename [arguments]"
    else s.finish 0
  | path :: rest =>
    let tried := if path.toList.contains '/' then [path]
      else s.searchPath.map (fun dir => dir ++ "/" ++ path) ++ (if s.isBash then [path] else [])
    let isFile (p : String) : Bool := (s.world.disk.read s.here p).toOption.isSome
    match (tried.find? isFile).getD path, s.isBash with
    | found, true =>
      match s.world.disk.read s.here found with
      | .error .isDirectory => s.fault command (path ++ ": is a directory") 1
      | .error fault => (s.complain (path ++ ": " ++ fault.sentence)).finish 1
      | .ok text => r.runFile s found text rest
    | found, false =>
      if !path.toList.contains '/' && !tried.any isFile then
        s.failBuiltin "." (path ++ ": not found")
      else
        match s.world.disk.read s.here found with
        | .error fault => s.failBuiltin "." (s.openFault "open" found "No such file" fault)
        | .ok text => r.runFile s found text rest

/-- More programs than start one another. -/
def launchDepth : Nat := 20

/-- Runs a program as the last thing that the shell does. -/
def replace (r : Runner) (s : Shell) : List String → Shell
  | [] => s.finish 0
  | name :: args =>
    match s.lookUp name with
    | .error fault =>
      let s := if !s.isBash then s.failBuiltin "exec" (name ++ ": " ++ fault.report.1)
        else if name.toList.contains '/' then
          s.complain ((Place.resolve s.here name).text ++ ": " ++ fault.bashText)
        else s.fault "exec" (name ++ ": not found") 127
      { s with status := fault.report.2, flow := .exiting }
    | .ok (path, p) =>
      let inner := r.program (r.launch launchDepth) s path p name args
      let s := { s with world := inner.world, status := inner.status, traps := [] }
      match inner.flow with
      | .killed n => { s with flow := .killed n }
      | .stopped => s.goOn .stopped
      | .endless => s.goOn .endless
      | _ => { s with flow := .exiting }

/-- Whether a command belongs to the shell itself. -/
def isBuiltin (s : Shell) (command : String) : Bool :=
  if s.isBash then extendedBuiltins.contains command
  else specialBuiltins.contains command || regularBuiltins.contains command

/-- Runs a command of the shell itself. -/
def builtin (r : Runner) (s : Shell) (command : String) (args : List String) (tested : Bool) :
    Shell :=
  match command, s.isBash with
  | "eval", _ => r.evaluate (s.finish 0) "eval" (Text.joinWith " " args) tested
  | ".", _ | "source", true => r.source s command args
  | "exec", _ => r.replace s args
  | "builtin", true =>
    match args with
    | [] => s.finish 0
    | name :: rest =>
      if isBuiltin s name then s.extendedBuiltin name rest
      else s.fault "builtin" (name ++ ": not a shell builtin") 1
  | command, true => s.extendedBuiltin command args
  | command, false => s.simpleBuiltin command args

/-- The command that words ask for behind the word that passes over functions: whether only a
description is wanted, and in which form. -/
def plainCommand : List String → Option Bool × List String
  | "-v" :: rest => (some false, rest)
  | "-V" :: rest => (some true, rest)
  | "-p" :: rest => plainCommand rest
  | "--" :: rest => (none, rest)
  | rest => (none, rest)

/-- The assignments before a command that it can have. The larger shell only complains about a
variable that is read only. -/
def possible (s : Shell) (assigns : List Assign) : Shell × List Assign :=
  if !s.isBash then (s, assigns)
  else
    let isFixed (a : Assign) : Bool := (s.entry? a.name).any (·.readOnly)
    ((assigns.filter isFixed).foldl (fun s a => s.complain (a.name ++ ": readonly variable")) s,
      assigns.filter (!isFixed ·))

/-- Runs words. Variables that are assigned for this command alone are restored. -/
def words (r : Runner) (s : Shell) (assigns : List Assign) (command : String)
    (args : List String) (plain tested : Bool) : Shell :=
  let isSpecial := specialBuiltins.contains command && !plain && !s.isBash
  let f := if plain || isSpecial then none else (s.functions.find? (·.1 == command)).map Prod.snd
  let (s, assigns) := possible s assigns
  let kept := assigns.map fun a => (a.name, s.entry? a.name)
  let (s, values) := r.assignAll s assigns
  if s.flow != .going then s
  else
    let s := if isSpecial then s
      else values.foldl (fun s g =>
        match s.ownEntry? g.name with
        | some v => s.putVariable g.name (some { v with exported := true, readOnly := false })
        | none => s) s
    let s := match f with
      | some f => r.call s command f args tested
      | none =>
        if isBuiltin s command then r.builtin s command args tested
        else r.launch launchDepth (s.track command) (command :: args)
    if isSpecial then s
    else kept.foldl (fun s (name, v) => s.putVariable name v) s

/-- What stands before a command that is shown. The larger shell repeats the first sign for each
level. -/
def traceMark (s : Shell) : String :=
  let mark := (s.value? "PS4").getD "+ "
  if s.isBash then
    String.ofList (List.replicate s.extras.level (mark.toList.headD '+')) ++ mark
  else mark

/-- Shows a line before a command runs. -/
def traceLine (s : Shell) (text : String) : Shell :=
  if s.has 'x' then s.emit 2 (traceMark s ++ text ++ "\n") else s

/-- An assignment in the form in which it is shown. -/
def shownGiven (s : Shell) (g : Given) : String :=
  let head := g.name ++ (match g.index with
    | some i => "[" ++ i ++ "]"
    | none => "") ++ (if g.append then "+=" else "=")
  match g.value with
  | .inl text =>
    head ++ (if s.isBash && !text.isEmpty then Quote.ifNeeded text else text)
  | .inr items =>
    head ++ "(" ++ Text.joinWith " " (items.map fun (key, text) =>
      (match key with
        | some key => "[" ++ key ++ "]="
        | none => "") ++ Quote.ifNeeded text) ++ ")"

/-- Shows a command before it runs. -/
def trace (s : Shell) (assigns : List Given) (args : List String)
    (descriptors : List (Nat × Nat)) : Shell :=
  if !s.has 'x' then s
  else
    let now := s.descriptors
    let s := { s with descriptors := descriptors }
    let shown := assigns.map (shownGiven s)
    let s := if s.isBash then
        let s := shown.foldl traceLine s
        if args.isEmpty then s
        else traceLine s (Text.joinWith " " (args.map Quote.ifNeeded))
      else traceLine s (Text.joinWith " " (shown ++ args))
    { s with descriptors := now }

/-- Takes away the files that stand for commands, of which some are still to read theirs. -/
def closePipes (r : Runner) (s : Shell) (kept : Nat) : Shell :=
  let pipes := s.extras.pipes.take (s.extras.pipes.length - kept)
  let s := pipes.foldl (fun (s : Shell) (p, reader) =>
    let text := (s.world.disk.file? p).getD ""
    let s := { s with world := { s.world with disk := s.world.disk.remove p } }
    match reader with
    | none => s
    | some body =>
      let status := s.status
      let s := r.fork s fun s => r.run (s.connectTo 0 (.text text)) body false
      s.finish status) s
  { s with extras := { s.extras with pipes := s.extras.pipes.drop pipes.length } }

/-- Runs a declaration, whose arguments may be assignments. -/
def declaration (r : Runner) (s : Shell) (assigns : List Assign) (command : String)
    (ws : List Word) (redirects : List Redirect) : Shell :=
  let (s, items) := ws.foldl (fun (s, items) w =>
    if s.flow != .going then (s, items)
    else match w with
      | [.assigned a] =>
        let (s, g) := given r.take s a
        (s, items ++ [Sum.inr g])
      | w =>
        let (s, texts) := allFields r.take s [w]
        (s, items ++ texts.map Sum.inl)) (s, ([] : List Declared))
  if s.flow != .going then s
  else
    let outer := s.descriptors
    let (s, opened) := redirectAll r.take s redirects
    let s := if !opened then s
      else
        let shown := command :: items.map fun
          | .inl w => w
          | .inr g => shownGiven s g
        let s := traceLine s (Text.joinWith " " shown)
        let (s, assigns) := possible s assigns
        let kept := assigns.map fun a => (a.name, s.entry? a.name)
        let (s, _) := r.assignAll s assigns
        let s := if s.flow == .going then s.declareAll command items else s
        kept.foldl (fun s (name, v) => s.putVariable name v) s
    { s with descriptors := outer }

/-- Runs a command of words. -/
def plainSimple (r : Runner) (s : Shell) (assigns : List Assign) (ws : List Word)
    (redirects : List Redirect) (tested : Bool) : Shell :=
  let (s, args) := allFields r.take { s with taken := 0 } ws
  if s.flow != .going then s
  else
    let outer := s.descriptors
    let (s, opened) := redirectAll r.take s redirects
    if !opened then
      let s := { s with descriptors := outer }
      let ends := !s.isBash && specialBuiltins.contains (args.headD "")
      if s.flow == .going && ends then s.leave 2 else s
    else
      match args with
      | [] =>
        let (s, values) := r.assignAll s assigns
        let s := trace s values [] outer
        let s := { s with descriptors := outer }
        if s.flow == .going then s.finish s.taken else s
      | command :: rest =>
        let shown := if s.isBash && s.has 'x' then
            let values := assigns.map fun a => (given r.take s a).2
            trace s values args outer
          else trace s [] args outer
        let describe (s : Shell) (verbose : Bool) (name : String) : Shell :=
          if s.isBash then s.describeOne verbose name else s.describe verbose name
        let s := match command, plainCommand rest with
          | "command", (some verbose, names) =>
            if s.isBash then names.foldl (fun s name => describe s verbose name) (shown.finish 0)
            else (names.take 1).foldl (fun s name => describe s verbose name) (shown.finish 0)
          | "command", (none, []) => shown.finish 0
          | "command", (none, command :: rest) => r.words shown assigns command rest true tested
          | command, _ => r.words shown assigns command rest false tested
        let keeps := command == "exec" && rest.isEmpty
        let s := if keeps then s else { s with descriptors := outer }
        if s.isBash && s.flow == .going then
          s.putVariable "_" (some (.ofText (args.getLast?.getD "") false))
        else s

/-- Runs a simple command. -/
def simple (r : Runner) (s : Shell) (assigns : List Assign) (ws : List Word)
    (redirects : List Redirect) (tested : Bool) : Shell :=
  let open_ := s.extras.pipes.length
  let declares := if s.isBash then
      (ws.head?.bind Word.literal?).filter Grammar.declarers.contains
    else none
  let s := match declares with
    | some command =>
      if s.functions.any (·.1 == command) then r.plainSimple s assigns ws redirects tested
      else r.declaration s assigns command ws.tail redirects
    | none => r.plainSimple s assigns ws redirects tested
  let s := if s.extras.pipes.length > open_ then r.closePipes s open_ else s
  if s.isBash then keepStatuses s [s.status] else s

/-- Takes one loop off what leaves or skips loops. -/
def afterRound (s : Shell) : Shell × Bool :=
  match s.flow with
  | .breaking n => ({ s with flow := if n ≤ 1 then .going else .breaking (n - 1) }, false)
  | .continuing n =>
    if n ≤ 1 then ({ s with flow := .going }, true)
    else ({ s with flow := .continuing (n - 1) }, false)
  | _ => (s, s.isGoing)

/-- Repeats commands as long as a test has the outcome that is wanted. -/
def cycle (r : Runner) (whileHolds : Bool) (test body : Command) (tested : Bool) :
    Nat → Nat → Shell → Shell
  | 0, _, s => s.goOn .endless
  | fuel + 1, status, s =>
    let s := r.run s test true
    if s.flow != .going || s.world.isOver then
      let (s, again) := afterRound s
      if again then r.cycle whileHolds test body tested fuel status s else s
    else if (s.status == 0) != whileHolds then s.finish status
    else
      let s := r.run s body tested
      let status := s.status
      let (s, again) := afterRound s
      if again then r.cycle whileHolds test body tested fuel status s else s

/-- Runs commands for each of some words. -/
def forEach (r : Runner) (name : String) (body : Command) (tested : Bool) (shown : String) :
    Shell → List String → Shell
  | s, [] => s
  | s, w :: rest =>
    let s := if s.isBash then traceLine s shown else s
    let isFixed := s.isBash && (s.entry? name).any (·.readOnly)
    let s := if isFixed then (s.complain (name ++ ": readonly variable")).finish 1
      else s.assign name w
    if s.flow != .going || isFixed then s
    else
      let (s, again) := afterRound (r.run s body tested)
      if again then r.forEach name body tested shown s rest else s

/-- Runs commands for each text that words stand for. -/
def overWords (r : Runner) (s : Shell) (name : String) (ws : List Word) (body : Command)
    (tested : Bool) : Shell :=
  if !isName name then (s.complain (cited name ++ ": not a valid identifier")).finish 1
  else
    let (s, values) := allFields r.take s ws
    if s.flow != .going then s
    else
      let shown := "for " ++ name ++ " in " ++ Text.joinWith " " (values.map Quote.ifNeeded)
      let s := r.forEach name body tested shown ({ s with loops := s.loops + 1 }.finish 0) values
      { s with loops := s.loops - 1 }

/-- The choice that the input makes among some texts, after it is asked for; nothing at the end of
the input. Empty lines have the choices shown again. -/
def chosen (prompt menu : String) (values : List String) :
    Nat → Bool → Shell → Shell × Option String
  | 0, _, s => ({ s with flow := .endless }, none)
  | fuel + 1, shows, s =>
    let s := s.emit 2 ((if shows then menu else "") ++ prompt)
    let s := s.readInput []
    let reply := (s.value? "REPLY").getD ""
    if s.status != 0 then (s.emit 1 "\n", none)
    else if reply.isEmpty then chosen prompt menu values fuel true s
    else match integer? reply with
      | some n => (s, some (if 0 < n then values.getD (n.toNat - 1) "" else ""))
      | none => (s, some "")

/-- Runs commands for each choice that the input makes. -/
def choosing (r : Runner) (name menu : String) (values : List String) (body : Command)
    (tested : Bool) : Nat → Bool → Shell → Shell
  | 0, _, s => { s with flow := .endless }
  | fuel + 1, shows, s =>
    match chosen ((s.value? "PS3").getD "#? ") menu values r.patience shows s with
    | (s, none) => if s.flow == .going then s.finish 1 else s
    | (s, some value) =>
      let s := s.assign name value
      if s.flow != .going then s
      else
        let (s, again) := afterRound (r.run s body tested)
        let shows := ((s.value? "REPLY").getD "").isEmpty
        if again then r.choosing name menu values body tested fuel shows s else s

/-- Runs commands for choices among the texts that words stand for. -/
def selectAmong (r : Runner) (s : Shell) (name : String) (ws : List Word) (body : Command)
    (tested : Bool) : Shell :=
  if !isName name then (s.complain (cited name ++ ": not a valid identifier")).finish 1
  else
    let (s, values) := allFields r.take s ws
    if s.flow != .going then s
    else if values.isEmpty then s.finish 0
    else
      let s := { s with loops := s.loops + 1 }.finish 0
      let s := r.choosing name (Menu.text values) values body tested r.patience true s
      { s with loops := s.loops - 1 }

/-- Whether one of some patterns stands for a text. -/
def matchesAny (r : Runner) (text : String) : Shell → List Word → Shell × Bool
  | s, [] => (s, false)
  | s, w :: rest =>
    let (s, pattern) := patternOf r.take s w
    if s.flow != .going then (s, false)
    else if s.fits (s.hasLong "extglob") pattern text then (s, true)
    else r.matchesAny text s rest

/-- Runs the first arm that fits a text. The end of an arm may have the next one run too, or its
patterns tried. -/
def arms (r : Runner) (text : String) (tested : Bool) :
    (fits : Option Bool) → Shell → List (List Word × Command × ArmEnd) → Shell
  | fits, s, [] => if fits.isSome then s else s.finish 0
  | fits, s, (patterns, body, ending) :: rest =>
    let (s, chosen) := if fits == some true then (s, true) else r.matchesAny text s patterns
    if s.flow != .going then s
    else if chosen then
      let s := match body with
        | .nothing => s.finish 0
        | body => r.run s body tested
      match ending with
      | .stop => s
      | .fall => if s.isGoing then r.arms text tested (some true) s rest else s
      | .again => if s.isGoing then r.arms text tested (some false) s rest else s
    else r.arms text tested fits s rest

/-- The text of an expression with its words filled in. -/
def expressionText (r : Runner) (s : Shell) (w : Word) : Shell × String :=
  let (s, ps) := fillIn r.take fillBound false s w
  (s, textOf ps)

/-- Computes an expression of a command. Gives nothing if it has no value. -/
def expression (r : Runner) (s : Shell) (w : Word) : Shell × Option Int :=
  let (s, text) := r.expressionText s w
  if s.flow != .going then (s, none)
  else (traceLine s ("(( " ++ text ++ " ))")).compute "((: " text

/-- Runs commands as long as an expression is not zero, and computes another after each round. -/
def rounds (r : Runner) (test step : Word) (body : Command) (tested : Bool) : Nat → Shell → Shell
  | 0, s => s.goOn .endless
  | fuel + 1, s =>
    let (s, n) := if test.isEmpty then (s, some 1) else r.expression s test
    match n with
    | none => if s.flow == .going then s.finish 1 else s
    | some 0 => s
    | some _ =>
      let (s, again) := afterRound (r.run s body tested)
      if !again then s
      else
        let (s, n) := if step.isEmpty then (s, some 1) else r.expression s step
        match n with
        | none => if s.flow == .going then s.finish 1 else s
        | some _ => r.rounds test step body tested fuel s

/-- Keeps where the program is that a command of a pipeline asks for. -/
def trackFirst (s : Shell) (c : Command) : Shell :=
  match c with
  | .simple _ _ (w :: _) _ =>
    match Word.literal? w with
    | some name =>
      if !Script.isName name || isBuiltin s name || s.functions.any (·.1 == name) then s
      else s.track name
    | none => s
  | _ => s

/-- Runs a command by the runner for the commands inside it. -/
def step (r : Runner) (s : Shell) (c : Command) (tested : Bool) : Shell :=
  if !s.isGoing || s.has 'n' then s
  else
    match c with
    | .nothing => s
    | .simple line assigns ws redirects =>
      r.check (r.onSignals (r.simple { s with line := line } assigns ws redirects tested)) tested
    | .pipeline cs =>
      let s := if s.isBash then s else cs.foldl trackFirst s
      r.check (r.onSignals (r.stages tested s s.world.clock none [] cs)) tested
    | .both a b =>
      let s := r.run s a true
      if !s.isGoing || s.status != 0 then s else r.run s b tested
    | .either a b =>
      let s := r.run s a true
      if !s.isGoing || s.status == 0 then s else r.run s b tested
    | .sequence a b =>
      let s := r.run s a tested
      if !s.isGoing then s else r.run s b tested
    | .negation a =>
      let s := r.run s a true
      if s.flow == .going then s.finish (if s.status == 0 then 1 else 0) else s
    | .background line a => r.background { s with line := line } a
    | .subshell line a redirects =>
      let s := r.fork { s with line := line } fun s =>
        let (s, opened) := redirectAll r.take s redirects
        if opened then r.run s a tested else s
      r.check (r.onSignals s) tested
    | .redirected line a redirects =>
      let outer := s.descriptors
      let (s, opened) := redirectAll r.take { s with line := line } redirects
      if !opened then r.check { s with descriptors := outer } tested
      else { r.run s a tested with descriptors := outer }
    | .conditional test yes no =>
      let s := r.run s test true
      if !s.isGoing then s
      else if s.status == 0 then r.run s yes tested
      else match no with
        | .nothing => s.finish 0
        | no => r.run s no tested
    | .loop whileHolds test body =>
      let s := r.cycle whileHolds test body tested r.patience 0 { s with loops := s.loops + 1 }
      { s with loops := s.loops - 1 }
    | .each line name ws body => r.overWords { s with line := line } name ws body tested
    | .select line name ws body => r.selectAmong { s with line := line } name ws body tested
    | .timed short body =>
      let start := s.world.clock
      let s := r.run s body tested
      s.emit 2 (timeText short (s.world.clock - start))
    | .choice line subject found =>
      let (s, text) := single r.take { s with line := line } subject
      let s := if s.isBash then traceLine s ("case " ++ Quote.ifNeeded text ++ " in") else s
      if s.flow != .going then s else r.arms text tested none s found
    | .define name body =>
      let f : ScriptFunction := ⟨body, s.extras.origin, false⟩
      { s with functions := (name, f) :: s.functions.filter (·.1 != name) }.finish 0
    | .arithmetic line expr =>
      match r.expression { s with line := line } expr with
      | (s, some n) => r.check (s.finish (if n == 0 then 1 else 0)) tested
      | (s, none) => if s.flow == .going then r.check (s.finish 1) tested else s
    | .count line start test after body =>
      let (s, n) := if start.isEmpty then (s, some 0)
        else r.expression { s with line := line } start
      match n with
      | none => if s.flow == .going then s.finish 1 else s
      | some _ =>
        let s := { s with loops := s.loops + 1 }.finish 0
        let s := r.rounds test after body tested r.patience s
        { s with loops := s.loops - 1 }
    | .test line t =>
      let (s, status) := testStatus r.take { s with line := line } t
      if s.flow == .going then r.check (s.finish status) tested else s

end Runner

/-- The runner for commands nested to a depth. -/
def runner : Nat → Runner
  | 0 => ⟨fun s _ _ => { s with flow := .endless }, 0⟩
  | depth + 1 => ⟨(runner depth).step, 20000⟩

end TensorCompiler.Shell
