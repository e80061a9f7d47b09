import TensorCompiler.Build.Shell.Extended

/-!
# Programs that run programs

Tools that are given a command and run it: with the words of the input as arguments, with other
variables, for a limited time, or for what a search finds. How a program is run is handed to them.
-/

namespace TensorCompiler.Shell

/-- Runs a program with its arguments. -/
abbrev Launch := Shell → List String → Shell

namespace Wrapper

/-! ## Words of the input -/

/-- Runs a command with the words of the input as its arguments. -/
def xargs (launch : Launch) (s : Shell) (name : String) (args : List String) : Shell :=
  match Tool.Handing.read args with
  | .error e => (s.emit 2 (name ++ ": " ++ e ++ "\n" ++ Tool.hint name ++ "\n")).finish 1
  | .ok h =>
    let input := (s.descriptors.find? (·.1 == 0)).map Prod.snd
    let text := ((input.map s.world.unread).getD "").toList
    let s := match input with
      | some n => { s with world := s.world.consume n "" }
      | none => s
    let (calls, fault) := h.calls text
    let outer := s.descriptors
    let s := s.connectTo 0 .sink
    let stops (s : Shell) := [124, 126, 127].contains s.status
    let s := calls.foldl (fun (s : Shell) call =>
      if !s.isGoing || stops s then s
      else
        let before := s.status
        let said := Text.joinWith " " (call.map Tool.shellWord) ++ "\n"
        let s := if h.announced then s.emit 2 said else s
        match s.lookUp (call.headD "") with
        | .error fault =>
          (s.emit 2 (name ++ ": " ++ call.headD "" ++ ": " ++ fault.sentence ++
            "\n")).finish fault.report.2
        | .ok _ =>
          let s := launch s call
          if s.status == 255 then
            (s.emit 2 (name ++ ": " ++ call.headD "" ++
              ": exited with status 255; aborting\n")).finish 124
          else s.finish (if s.status == 0 then before else 123)) (s.finish 0)
    let s := match fault with
      | some c => if stops s then s
          else (s.emit 2 (name ++ ": " ++ Tool.Handing.unmatched c ++ "\n")).finish 1
      | none => s
    { s with descriptors := outer }

/-- Complains about the way a program is used. -/
def misuse (s : Shell) (name text : String) (status : Nat) : Shell :=
  (s.emit 2 (name ++ ": " ++ text ++ "\n" ++ Tool.hint name ++ "\n")).finish status

/-- Runs a command if its program is found. `wording` is what comes before its name otherwise. -/
def handOn (launch : Launch) (s : Shell) (name wording : String) (command : List String) : Shell :=
  let program := command.headD ""
  match s.lookUp program with
  | .ok _ => launch s command
  | .error fault =>
    (s.emit 2 (name ++ ": " ++ wording ++ Tool.shellQuote program ++ ": " ++ fault.sentence ++
      "\n")).finish fault.report.2

/-! ## Variables and places -/

/-- The options of a tool that changes variables for a command. -/
def envOptions : Tool.Options :=
  ⟨"i0v", "uCS",
    [("ignore-environment", 'i'), ("unset", 'u'), ("null", '0'), ("chdir", 'C'), ("debug", 'v'),
      ("split-string", 'S')]⟩

/-- Where programs are looked for if nothing says where. -/
def defaultPath : Variable := .ofText "/bin:/usr/bin" false

/-- Makes the assignments that stand before a command. -/
def envAssign (s : Shell) : List String → Shell × List String
  | [] => (s, [])
  | arg :: rest =>
    let key := String.ofList (arg.toList.takeWhile (· != '='))
    if key.length < arg.length then
      let v : Variable := .ofText (arg.drop (key.length + 1)).toString true
      envAssign (s.putVariable key (some v)) rest
    else (s, arg :: rest)

/-- Runs a command with other variables, or in another place. -/
def env (launch : Launch) (s : Shell) (name : String) (args : List String) : Shell :=
  let args := args.map fun a => if a == "-" then "-i" else a
  match envOptions.readLeading (args.length + 1) args with
  | .error e => misuse s name e 125
  | .ok g =>
    let s := if g.has 'i' then { s with bindings := [] } else s
    let s := g.options.foldl (fun s o => if o.1 == 'u' then s.putVariable o.2 none else s) s
    let spaced (text : String) : String := text.map fun c => if c == '\t' then ' ' else c
    let parts := (g.value? 'S').map fun text =>
      (Text.split ' ' (spaced text)).filter (!·.isEmpty)
    let (s, command) := envAssign s (parts.getD [] ++ g.operands)
    let s := if (s.entry? "PATH").isNone then s.putVariable "PATH" (some defaultPath) else s
    match command, g.value? 'C' with
    | [], some _ => misuse s name "must specify command with --chdir (-C)" 125
    | [], none =>
      let ending := if g.has '0' then String.singleton (Char.ofNat 0) else "\n"
      let shown := s.environment.reverse.map fun (n, v) => n ++ "=" ++ v ++ ending
      (s.emit 1 (String.join shown)).finish 0
    | command, none => handOn launch s name "" command
    | command, some directory =>
      let fault? : Option FileFault := match s.world.disk.find s.here directory with
        | .ok p => if s.world.disk.isDirectory p then none else some .notDirectory
        | .error fault => some fault
      match fault?, s.world.disk.find s.here directory with
      | none, .ok p => { handOn launch { s with here := p } name "" command with here := s.here }
      | fault?, _ =>
        (s.emit 2 (name ++ ": cannot change directory to " ++ Tool.shellQuote directory ++ ": " ++
          (fault?.getD .missing).sentence ++ "\n")).finish 125

/-! ## Time and rank -/

/-- The options of a tool that runs a command for a limited time. -/
def timeoutOptions : Tool.Options :=
  ⟨"vpf", "sk",
    [("signal", 's'), ("kill-after", 'k'), ("verbose", 'v'), ("preserve-status", 'p'),
      ("foreground", 'f')]⟩

/-- Runs a command for a limited time. A signal that no process can expect ends the tool too. -/
def timeout (launch : Launch) (s : Shell) (name : String) (args : List String) : Shell :=
  match timeoutOptions.readLeading (args.length + 1) args with
  | .error e => misuse s name e 125
  | .ok g =>
    let signal := (g.value? 's').getD "TERM"
    let bare := if signal.startsWith "SIG" then (signal.drop 3).toString else signal
    let later := ((g.value? 'k').filter fun k => (Tool.interval? k).isNone)
    match Signal.number? bare, later, g.operands with
    | none, _, _ => misuse s name (Tool.quote signal ++ ": invalid signal") 125
    | some _, some k, _ => misuse s name ("invalid time interval " ++ Tool.quote k) 125
    | some signal, none, duration :: command :: rest =>
      match Tool.interval? duration with
      | none => misuse s name ("invalid time interval " ++ Tool.quote duration) 125
      | some time =>
        let limit := s.world.limit
        let stop := if time == 0 then limit else min limit (s.world.clock + time)
        let inner := handOn launch { s with world := { s.world with limit := stop } } name
          "failed to run command " (command :: rest)
        let late := inner.world.isOver || inner.flow == .endless || inner.flow == .stopped
        let world :=
          { inner.world with limit := limit, clock := if late then stop else inner.world.clock }
        let s := { inner with world := world }
        if late then
          let s := if g.has 'v' then
              s.emit 2 (name ++ ": sending signal " ++ Signal.name signal ++ " to command " ++
                Tool.quote command ++ "\n")
            else s
          if signal == 9 then { s with flow := .killed 9 }
          else { s with flow := .going }.finish (if g.has 'p' then 128 + signal else 124)
        else s
    | _, _, _ => (s.emit 2 (Tool.hint name ++ "\n")).finish 125

/-- Whether a word is a change of rank: a whole number. -/
def isAdjustment (text : String) : Bool :=
  let digits := match text.toList with
    | '-' :: cs | '+' :: cs => cs
    | cs => cs
  !digits.isEmpty && digits.all Char.isDigit

/-- Reads how a tool is to change the rank of a command. A number may be an option itself. -/
def adjustments : Nat → Option String → List String →
    Except String (Option String × List String)
  | 0, found, rest => .ok (found, rest)
  | _, found, [] => .ok (found, [])
  | fuel + 1, found, arg :: rest =>
    match arg.toList, rest with
    | ['-', '-'], rest => .ok (found, rest)
    | ['-', 'n'], [] => .error "option requires an argument -- 'n'"
    | ['-', 'n'], value :: rest => adjustments fuel (some value) rest
    | '-' :: 'n' :: cs, rest => adjustments fuel (some (String.ofList cs)) rest
    | '-' :: c :: cs, rest =>
      let value := String.ofList (c :: cs)
      if isAdjustment value then adjustments fuel (some value) rest
      else if arg.startsWith "--adjustment=" then
        adjustments fuel (some (arg.drop 13).toString) rest
      else if c == '-' then .error ("unrecognized option " ++ Tool.quote arg)
      else .error ("invalid option -- " ++ Tool.quote (String.singleton c))
    | _, rest => .ok (found, arg :: rest)

/-- Runs a command with another rank among the processes, which nothing depends on. -/
def nice (launch : Launch) (s : Shell) (name : String) (args : List String) : Shell :=
  match adjustments (args.length + 1) none args with
  | .error e => misuse s name e 125
  | .ok (some change, command) =>
    if !isAdjustment change then
      (s.emit 2 (name ++ ": invalid adjustment " ++ Tool.quote change ++ "\n")).finish 125
    else if command.isEmpty then
      misuse s name "a command must be given with an adjustment" 125
    else handOn launch s name "" command
  | .ok (none, []) => (s.emit 1 "0\n").finish 0
  | .ok (none, command) => handOn launch s name "" command

/-- Runs a command that the end of a session does not end. -/
def nohup (launch : Launch) (s : Shell) (name : String) (args : List String) : Shell :=
  match (⟨"", "", []⟩ : Tool.Options).readLeading (args.length + 1) args with
  | .error e => misuse s name e 125
  | .ok ⟨_, []⟩ => misuse s name "missing operand" 125
  | .ok ⟨_, command⟩ => handOn launch s name "failed to run command " command

/-- Runs a command whose output is handed on sooner or later. -/
def stdbuf (launch : Launch) (s : Shell) (name : String) (args : List String) : Shell :=
  let options : Tool.Options := ⟨"", "ioe", [("input", 'i'), ("output", 'o'), ("error", 'e')]⟩
  match options.readLeading (args.length + 1) args with
  | .error e => misuse s name e 125
  | .ok g =>
    let isMode (o : Char × String) : Bool :=
      o.2 == "L" || (o.2.toList.head?.map Char.isDigit).getD false
    match g.options.find? (!isMode ·), g.operands with
    | some o, _ =>
      (s.emit 2 (name ++ ": invalid mode " ++ Tool.quote o.2 ++ "\n")).finish 125
    | none, [] => misuse s name "missing operand" 125
    | none, command =>
      if g.options.isEmpty then misuse s name "you must specify a buffering mode option" 125
      else handOn launch s name "failed to run command " command

/-! ## Searches -/

/-- A search through directories: the shell it runs in, and the paths that wait for commands. -/
structure Search where
  shell : Shell
  kept : List (List String × List String)
  failed : Bool

/-- Runs a command for a search. -/
def Search.run (launch : Launch) (name : String) (words : List String) (f : Search) :
    Bool × Search :=
  match f.shell.lookUp (words.headD "") with
  | .error fault =>
    let text := name ++ ": " ++ Tool.shellQuote (words.headD "") ++ ": " ++ fault.sentence ++ "\n"
    (false, { f with shell := f.shell.emit 2 text })
  | .ok _ =>
    let s := launch f.shell words
    (s.status == 0, { f with shell := s })

/-- How a search works on a shell. -/
def Search.host (launch : Launch) (name : String) : Tool.Find.Host Search where
  disk f := f.shell.ownDisk
  print text f := { f with shell := f.shell.emit 1 text }
  delete p f :=
    let w := f.shell.world
    if p == f.shell.here then f
    else { f with shell := { f.shell with world := { w with disk := w.disk.remove p } } }
  run := Search.run launch name
  keep words path f :=
    let old := ((f.kept.find? (·.1 == words)).map Prod.snd).getD []
    { f with kept := f.kept.filter (·.1 != words) ++ [(words, old ++ [path])] }

/-- Searches directories. -/
def find (launch : Launch) (s : Shell) (name : String) (args : List String) : Shell :=
  let args := args.dropWhile fun a => ["-L", "-P", "-H"].contains a
  let paths := args.takeWhile (!Tool.Find.startsExpr ·)
  match Tool.Find.Plan.read (s.world.disk.find s.here) (args.drop paths.length) with
  | .error e => (s.emit 2 (name ++ ": " ++ e ++ "\n")).finish 1
  | .ok plan =>
    let host := Search.host launch name
    let start : Search := ⟨s, [], false⟩
    let found := (if paths.isEmpty then ["."] else paths).foldl (fun (f : Search) path =>
      let here := f.shell.here
      match f.shell.world.disk.spot here path with
      | .ok p =>
        if (f.shell.world.disk.get? p).isSome then
          (Tool.Find.visit host plan path 64 0 path p ⟨f, false, false⟩).state
        else
          let text :=
            name ++ ": " ++ Tool.shellQuote path ++ ": " ++ FileFault.missing.sentence ++ "\n"
          { f with shell := f.shell.emit 2 text, failed := true }
      | .error fault =>
        let text := name ++ ": " ++ Tool.shellQuote path ++ ": " ++ fault.sentence ++ "\n"
        { f with shell := f.shell.emit 2 text, failed := true }) start
    let found := found.kept.foldl (fun f (words, paths) =>
      let (good, f) := Search.run launch name (words.dropLast ++ paths) f
      { f with failed := f.failed || !good }) found
    found.shell.finish (if found.failed then 1 else 0)

end Wrapper
end TensorCompiler.Shell
