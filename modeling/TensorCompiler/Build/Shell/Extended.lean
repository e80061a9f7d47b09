import TensorCompiler.Build.Shell.Input
import TensorCompiler.Build.Shell.Test

/-!
# Commands of the larger shell itself

What the commands of the shell do there that they do not do in the smaller one, and those that only
the larger one has. None of them ends the shell when it fails.
-/

namespace TensorCompiler.Shell

open Script

/-- The commands of the larger shell. -/
def extendedBuiltins : List String :=
  [".", ":", "[", "alias", "bg", "bind", "break", "builtin", "caller", "cd", "command", "compgen",
    "complete", "compopt", "continue", "declare", "dirs", "disown", "echo", "enable", "eval",
    "exec", "exit", "export", "false", "fc", "fg", "getopts", "hash", "help", "history", "jobs",
    "kill", "let", "local", "logout", "mapfile", "popd", "printf", "pushd", "pwd", "read",
    "readarray", "readonly", "return", "set", "shift", "shopt", "source", "suspend", "test",
    "times", "trap", "true", "type", "typeset", "ulimit", "umask", "unalias", "unset", "wait"]

/-- The words that shape commands in the larger shell. -/
def extendedKeywords : List String :=
  ["!", "[[", "]]", "\x7b", "\x7d", "case", "coproc", "do", "done", "elif", "else", "esac", "fi",
    "for", "function", "if", "in", "select", "then", "time", "until", "while"]

/-- The integer that an argument is. -/
def integer? (arg : String) : Option Int := Condition.readInt? arg

/-! ## Directories -/

/-- A path in which the home directory is a tilde. -/
def withTilde (s : Shell) (p : Place) : String :=
  let text := p.text
  match s.value? "HOME" with
  | some home =>
    if home.isEmpty || home == "/" then text
    else if text == home then "~"
    else if text.startsWith (home ++ "/") then "~" ++ (text.drop home.length).toString
    else text
  | none => text

/-- Goes to a directory in the name of a command. -/
def goTo (s : Shell) (command target : String) : Shell × Bool :=
  match s.world.disk.find s.here target with
  | .error fault => (s.fault command (target ++ ": " ++ fault.sentence) 1, false)
  | .ok p =>
    if !s.world.disk.isDirectory p then
      (s.fault command (target ++ ": Not a directory") 1, false)
    else
      let s := (s.assign "OLDPWD" s.here.text).assign "PWD" p.text
      ({ s with here := p }.finish 0, true)

/-- Goes to another directory. -/
def changePlace (s : Shell) (args : List String) : Shell :=
  let args := args.filter fun a => !(["-P", "-L", "-e", "--"].contains a)
  match args with
  | _ :: _ :: _ => s.fault "cd" "too many arguments" 1
  | [] =>
    match s.value? "HOME" with
    | some home => (s.goTo "cd" home).1
    | none => s.fault "cd" "HOME not set" 1
  | ["-"] =>
    match s.value? "OLDPWD" with
    | some old =>
      let (s, good) := s.goTo "cd" old
      if good then (s.emit 1 (s.here.text ++ "\n")).finish 0 else s
    | none => s.fault "cd" "OLDPWD not set" 1
  | [""] => s.finish 0
  | target :: _ =>
    let (path, shown) := s.alongPath target
    let (s, good) := s.goTo "cd" path
    if good && shown then (s.emit 1 (s.here.text ++ "\n")).finish 0 else s

/-- Shows the directories to come back to, this one first. -/
def showPlaces (s : Shell) (args : List String) : Shell :=
  let places := s.here :: s.extras.directories
  let shown := places.map s.withTilde
  match args with
  | ["-c"] => { s with extras := { s.extras with directories := [] } }.finish 0
  | ["-v"] =>
    (s.emit 1 (String.join (shown.zipIdx.map fun (t, i) =>
      Tool.padLeft 2 (Text.ofNat i) ++ "  " ++ t ++ "\n"))).finish 0
  | ["-p"] => (s.emit 1 (Tool.unlines shown)).finish 0
  | ["-l"] => (s.emit 1 (Text.joinWith " " (places.map Place.text) ++ "\n")).finish 0
  | _ => (s.emit 1 (Text.joinWith " " shown ++ "\n")).finish 0

/-- Goes to a directory and keeps this one to come back to; without one, changes the two latest. -/
def pushPlace (s : Shell) (args : List String) : Shell :=
  let keep (s : Shell) (places : List Place) : Shell :=
    { s with extras := { s.extras with directories := places } }
  match args.filter (· != "--") with
  | [] =>
    match s.extras.directories with
    | [] => s.fault "pushd" "no other directory" 1
    | p :: rest =>
      let here := s.here
      let (s, good) := s.goTo "pushd" p.text
      if good then (keep s (here :: rest)).showPlaces [] else s
  | target :: _ =>
    let here := s.here
    let (s, good) := s.goTo "pushd" target
    if good then (keep s (here :: s.extras.directories)).showPlaces [] else s

/-- Goes back to the latest directory that is kept. -/
def popPlace (s : Shell) : Shell :=
  match s.extras.directories with
  | [] => s.fault "popd" "directory stack empty" 1
  | p :: rest =>
    let (s, good) := s.goTo "popd" p.text
    if good then { s with extras := { s.extras with directories := rest } }.showPlaces [] else s

/-! ## Options -/

/-- The options that have long names only. -/
def longOptions : List String :=
  ["autocd", "assoc_expand_once", "cdable_vars", "cdspell", "checkhash", "checkjobs",
    "checkwinsize", "cmdhist", "compat31", "compat32", "compat40", "compat41", "compat42",
    "compat43", "compat44", "complete_fullquote", "direxpand", "dirspell", "dotglob", "execfail",
    "expand_aliases", "extdebug", "extglob", "extquote", "failglob", "force_fignore",
    "globasciiranges", "globskipdots", "globstar", "gnu_errfmt", "histappend", "histreedit",
    "histverify", "hostcomplete", "huponexit", "inherit_errexit", "interactive_comments",
    "lastpipe", "lithist", "localvar_inherit", "localvar_unset", "login_shell", "mailwarn",
    "no_empty_cmd_completion", "nocaseglob", "nocasematch", "noexpand_translation", "nullglob",
    "patsub_replacement", "progcomp", "progcomp_alias", "promptvars", "restricted_shell",
    "shift_verbose", "sourcepath", "syslog_history", "varredir_close", "xpg_echo"]

/-- The options with long names that are set from the start. -/
def startingOptions : List String :=
  ["checkwinsize", "cmdhist", "complete_fullquote", "extquote", "force_fignore", "globasciiranges",
    "globskipdots", "hostcomplete", "interactive_comments", "patsub_replacement", "progcomp",
    "promptvars", "sourcepath"]

/-- A line that shows an option with its state. -/
def optionLine (name : String) (on : Bool) : String :=
  Tool.padRight 15 name ++ "\t" ++ (if on then "on" else "off") ++ "\n"

/-- Sets, takes back or shows options with long names. -/
def setLongOptions (s : Shell) (args : List String) : Shell :=
  let flags := args.takeWhile fun a => a.startsWith "-" && a.length > 1
  let letters := flags.flatMap fun a => a.toList.drop 1
  let names := args.drop flags.length
  let isOn (name : String) : Bool := s.extras.options.contains name
  let shown (name : String) : String :=
    if letters.contains 'p' then "shopt " ++ (if isOn name then "-s " else "-u ") ++ name ++ "\n"
    else optionLine name (isOn name)
  match letters.find? fun c => !"psuoq".toList.contains c with
  | some c => s.wrongOption "shopt" (String.ofList ['-', c]) " [-pqsu] [-o] [optname ...]"
  | none =>
    if letters.contains 'o' then
      names.foldl (fun s name =>
        match extendedOptionNames.find? (·.1 == name) with
        | some (_, c) =>
          if letters.contains 's' then s.setOption true c
          else if letters.contains 'u' then s.setOption false c
          else
            let s := if letters.contains 'q' then s else s.emit 1 (optionLine name (s.has c))
            s.finish (if s.has c then s.status else 1)
        | none => s.fault "shopt" (name ++ ": invalid option name") 1) (s.finish 0)
    else if letters.contains 's' || letters.contains 'u' then
      if names.isEmpty then
        let found := longOptions.filter fun n => isOn n == letters.contains 's'
        (s.emit 1 (String.join (found.map shown))).finish 0
      else names.foldl (fun s name =>
        if !longOptions.contains name then
          s.fault "shopt" (name ++ ": invalid shell option name") 1
        else
          let others := s.extras.options.filter (· != name)
          { s with extras := { s.extras with
            options := if letters.contains 's' then others ++ [name] else others } }) (s.finish 0)
    else if names.isEmpty then
      (s.emit 1 (String.join (longOptions.map shown))).finish 0
    else names.foldl (fun s name =>
      if !longOptions.contains name then
        s.fault "shopt" (name ++ ": invalid shell option name") 1
      else
        let s := if letters.contains 'q' then s else s.emit 1 (shown name)
        s.finish (if isOn name then s.status else 1)) (s.finish 0)

/-- The letters of options. -/
def optionLetters : List Char := "abefhkmnptuvxBCEHPT".toList

/-- Sets the options that the letters of an argument name. A long name is the next argument. -/
def extendedLetters (on : Bool) :
    Shell → List Char → List String → Except (String × Bool) (Shell × List String)
  | s, [], rest => .ok (s, rest)
  | s, 'o' :: cs, rest =>
    match rest with
    | [] => .ok (s, [])
    | name :: rest =>
      match extendedOptionNames.find? (·.1 == name) with
      | some (_, c) => extendedLetters on (s.setOption on c) cs rest
      | none => .error (name, true)
  | s, c :: cs, rest =>
    if optionLetters.contains c then extendedLetters on (s.setOption on c) cs rest
    else .error (String.ofList [if on then '-' else '+', c], false)

/-- The variables in the form of assignments. -/
def showAssignments (s : Shell) : Shell :=
  let found := s.bindings.mergeSort fun a b => decide (a.1 ≤ b.1)
  (s.emit 1 (String.join (found.filterMap fun (name, v) =>
    match v.content with
    | .unset => none
    | .text t => some (name ++ "=" ++ (if t.isEmpty then "" else Quote.ifNeeded t) ++ "\n")
    | _ => some (name ++ "=" ++ itemList v ++ "\n")))).finish 0

/-- Sets options and arguments. -/
def setExtended : Nat → Shell → List String → Shell
  | 0, s, _ => s
  | _, s, [] => s.finish 0
  | fuel + 1, s, arg :: rest =>
    let letters (on : Bool) (cs : List Char) : Shell :=
      match extendedLetters on s cs rest with
      | .error (name, true) => s.fault "set" (name ++ ": invalid option name") 2
      | .error (option, false) =>
        s.wrongOption "set" option " [-abefhkmnptuvxBCEHPT] [-o option-name] [--] [-] [arg ...]"
      | .ok (s, rest) => setExtended fuel s rest
    let shown (line : String → Bool → String) : Shell :=
      let lines := extendedOptionNames.map fun (name, c) => line name (s.has c)
      (s.emit 1 (String.join lines)).finish 0
    match arg.toList with
    | ['-', '-'] => { s with arguments := rest }.finish 0
    | ['-', 'o'] => if rest.isEmpty then shown optionLine else letters true ['o']
    | ['+', 'o'] =>
      if rest.isEmpty then
        shown fun name on => "set " ++ (if on then "-o " else "+o ") ++ name ++ "\n"
      else letters false ['o']
    | ['-'] =>
      let s := (s.setOption false 'x').setOption false 'v'
      if rest.isEmpty then s.finish 0 else { s with arguments := rest }.finish 0
    | '-' :: c :: cs => letters true (c :: cs)
    | '+' :: c :: cs => letters false (c :: cs)
    | _ => { s with arguments := arg :: rest }.finish 0

/-! ## Names -/

/-- The kind of thing that a name stands for, and how it is described and given. -/
def kindOf (s : Shell) (name : String) : Option (String × String × String) :=
  let isAlias := s.hasLong "expand_aliases"
  if let some a := if isAlias then s.aliases.find? (·.1 == name) else none then
    some ("alias", name ++ " is aliased to " ++ cited a.2,
      "alias " ++ a.1 ++ "=" ++ Quote.single a.2)
  else if extendedKeywords.contains name then
    some ("keyword", name ++ " is a shell keyword", name)
  else if s.functions.any (·.1 == name) then some ("function", name ++ " is a function", name)
  else if extendedBuiltins.contains name then
    some ("builtin", name ++ " is a shell builtin", name)
  else match s.tracked.find? (·.name == name) with
    | some t => some ("file", name ++ " is hashed (" ++ t.path ++ ")", t.path)
    | none =>
      match s.lookUp name with
      | .ok (path, _) => some ("file", name ++ " is " ++ path, path)
      | .error _ => none

/-- The paths of all programs with a name. -/
def allPaths (s : Shell) (name : String) : List String :=
  (s.searchPath.map fun dir => dir ++ "/" ++ name).filter fun path =>
    (runnable s.world.disk s.here path).isOk

/-- All that a name stands for, as `kindOf` gives what comes first. -/
def kindsOf (s : Shell) (name : String) : List (String × String × String) :=
  let first := ((s.kindOf name).filter (·.1 != "file")).toList
  let second := if extendedBuiltins.contains name && !first.any (·.1 == "builtin") then
      [("builtin", name ++ " is a shell builtin", name)]
    else []
  first ++ second ++ (s.allPaths name).map fun path => ("file", name ++ " is " ++ path, path)

/-- Says what names stand for. -/
def describeNames (s : Shell) (args : List String) : Shell :=
  let flags := args.takeWhile fun a => a.startsWith "-" && a.length > 1
  let letters := flags.flatMap fun a => a.toList.drop 1
  (args.drop flags.length).foldl (fun s name =>
    let say (text : String) : Shell := s.emit 1 (text ++ "\n")
    let tell (s : Shell) (found : String × String × String) : Shell :=
      let (kind, described, given) := found
      if letters.contains 't' then s.emit 1 (kind ++ "\n")
      else if letters.contains 'p' then if kind == "file" then s.emit 1 (given ++ "\n") else s
      else s.emit 1 (described ++ "\n")
    if letters.contains 'P' then
      match s.tracked.find? (·.name == name) with
      | some t => { say t.path with tracked := Tracked.use name s.tracked }
      | none =>
        match s.lookUp name with
        | .ok (path, _) => say path
        | .error _ => s.finish 1
    else if letters.contains 'a' && !(s.kindsOf name).isEmpty then
      (s.kindsOf name).foldl tell s
    else match s.kindOf name with
      | some found =>
        let s := tell s found
        if found.1 == "file" then { s with tracked := Tracked.use name s.tracked } else s
      | none =>
        if letters.contains 't' || letters.contains 'p' then s.finish 1
        else s.fault "type" (name ++ ": not found") 1) (s.finish 0)

/-- Says what a name stands for, to be used in a command or in words. -/
def describeOne (s : Shell) (verbose : Bool) (name : String) : Shell :=
  match s.kindOf name with
  | some (kind, described, given) =>
    let s := if kind == "file" then { s with tracked := Tracked.use name s.tracked } else s
    (s.emit 1 ((if verbose then described else given) ++ "\n")).finish 0
  | none => if verbose then s.fault "command" (name ++ ": not found") 1 else s.finish 1

/-- The options of the command for programs that were found, and what is behind them. -/
def trackedOptions : List Char → List String → Except Char (List Char × List String)
  | found, [] => .ok (found, [])
  | found, arg :: rest =>
    match arg.toList with
    | ['-', '-'] => .ok (found, rest)
    | '-' :: c :: cs =>
      match (c :: cs).find? fun c => !(['l', 'r', 'p', 'd', 't'].contains c) with
      | some wrong => .error wrong
      | none => if cs.isEmpty && c == 'p' then .ok (found ++ ['p'], rest)
        else trackedOptions (found ++ c :: cs) rest
    | _ => .ok (found, arg :: rest)

/-- Shows the programs that were found, or changes which they are. -/
def changeTracked (s : Shell) (args : List String) : Shell :=
  let usage := " [-lr] [-p pathname] [-dt] [name ...]"
  let missing (name : String) (s : Shell) : Shell := s.fault "hash" (name ++ ": not found") 1
  let needs (c : Char) : Shell :=
    s.fault "hash" ("-" ++ String.singleton c ++ ": option requires an argument") 1
  if !s.has 'h' then s.fault "hash" "hashing disabled" 1
  else
    match trackedOptions [] args with
    | .error c => s.wrongOption "hash" ("-" ++ String.singleton c) usage
    | .ok (options, names) =>
      let inOrder := Tracked.inOrder true s.tracked
      if options.contains 'p' then
        match names with
        | [] => (needs 'p').usage "hash" usage
        | [_] =>
          (if inOrder.isEmpty then s.emit 1 "hash: hash table empty\n" else s).finish 0
        | path :: names =>
          let add (found : List Tracked) (name : String) : List Tracked :=
            Tracked.put ⟨name, path, 0⟩ found
          { s with tracked := names.foldl add s.tracked }.finish 0
      else if options.contains 't' then
        if names.isEmpty then needs 't'
        else names.foldl (fun s name =>
          match s.tracked.find? (·.name == name) with
          | some t =>
            let label := if names.length > 1 then name ++ "\t" else ""
            { s.emit 1 (label ++ t.path ++ "\n") with tracked := Tracked.use name s.tracked }
          | none => missing name s) (s.finish 0)
      else if options.contains 'd' then
        if names.isEmpty then needs 'd'
        else names.foldl (fun s name =>
          if s.tracked.any (·.name == name) then
            { s with tracked := s.tracked.filter (·.name != name) }
          else missing name s) (s.finish 0)
      else
        let s := if options.contains 'r' then { s with tracked := [] } else s
        if names.isEmpty then
          if options.contains 'r' then s.finish 0
          else if inOrder.isEmpty then (s.emit 1 "hash: hash table empty\n").finish 0
          else if options.contains 'l' then
            (s.emit 1 (String.join (inOrder.map fun t =>
              "builtin hash -p " ++ t.path ++ " " ++ t.name ++ "\n"))).finish 0
          else
            (s.emit 1 ("hits\tcommand\n" ++ String.join (inOrder.map fun t =>
              Tool.padLeft 4 (Text.ofNat t.uses) ++ "\t" ++ t.path ++ "\n"))).finish 0
        else names.foldl (fun s name =>
          let s := { s with tracked := s.tracked.filter (·.name != name) }
          if name.toList.contains '/' || extendedBuiltins.contains name ||
            s.functions.any (·.1 == name) then s
          else
            match s.lookUp name with
            | .ok (path, _) => { s with tracked := Tracked.put ⟨name, path, 0⟩ s.tracked }
            | .error _ => missing name s) (s.finish 0)

/-- Lets words stand for texts, or shows what they stand for. -/
def extendedAliases (s : Shell) (args : List String) : Shell :=
  let shown (a : String × String) : String := "alias " ++ a.1 ++ "=" ++ Quote.single a.2 ++ "\n"
  let args := args.filter (· != "-p")
  if args.isEmpty then
    let sorted := s.aliases.mergeSort fun a b => decide (a.1 ≤ b.1)
    (s.emit 1 (String.join (sorted.map shown))).finish 0
  else args.foldl (fun s arg =>
    let name := String.ofList (arg.toList.takeWhile (· != '='))
    if name.length == arg.length then
      match s.aliases.find? (·.1 == arg) with
      | some a => s.emit 1 (shown a)
      | none => s.fault "alias" (arg ++ ": not found") 1
    else
      let text := (arg.drop (name.length + 1)).toString
      { s with aliases := s.aliases.filter (·.1 != name) ++ [(name, text)] }) (s.finish 0)

/-- Lets words stand for themselves again. -/
def dropAliases (s : Shell) (args : List String) : Shell :=
  if args.head? == some "-a" then { s with aliases := [] }.finish 0
  else if args.isEmpty then s.usage "unalias" " [-a] name [name ...]"
  else args.foldl (fun s name =>
    if s.aliases.any (·.1 == name) then { s with aliases := s.aliases.filter (·.1 != name) }
    else s.fault "unalias" (name ++ ": not found") 1) (s.finish 0)

/-! ## Signals and jobs -/

/-- The number of a signal, whose name may have three letters before it. Failures and ends of
functions have numbers that no signal has. -/
def signalNumber? (text : String) : Option Nat :=
  let upper := text.toUpper
  match upper with
  | "ERR" => some 1001
  | "DEBUG" => some 1002
  | "RETURN" => some 1003
  | upper =>
    Signal.number? (if upper.startsWith "SIG" then (upper.drop 3).toString else text)

/-- The name of a signal in a list of what is done at signals. -/
def signalName (n : Nat) : String :=
  match n with
  | 0 => "EXIT"
  | 1001 => "ERR"
  | 1002 => "DEBUG"
  | 1003 => "RETURN"
  | n => "SIG" ++ Signal.name n

/-- The numbers and the names of all signals, five to a line. -/
def signalTable : String :=
  let realTime (n : Nat) : String :=
    if n < 50 then "RTMIN" ++ (if n == 34 then "" else "+" ++ Text.ofNat (n - 34))
    else "RTMAX" ++ (if n == 64 then "" else "-" ++ Text.ofNat (64 - n))
  let known := ((List.range 31).map (· + 1)) ++ ((List.range 31).map (· + 34))
  String.join (known.zipIdx.map fun (n, i) =>
    Tool.padLeft 2 (Text.ofNat n) ++ ") SIG" ++ (if n < 32 then Signal.name n else realTime n) ++
      (if i % 5 == 4 || i == 61 then "\n" else "\t"))

/-- Sets what is done at signals, or lists it. -/
def setTraps (s : Shell) (args : List String) : Shell :=
  let args := if args.head? == some "--" then args.tail else args
  let set (action : Option String) (signals : List String) : Shell :=
    signals.foldl (fun s name =>
      match signalNumber? name with
      | none => s.fault "trap" (name ++ ": invalid signal specification") 1
      | some n =>
        let others := s.traps.filter (·.1 != n)
        { s with traps := match action with
            | some a => (n, a) :: others
            | none => others }) (s.finish 0)
  let show_ (chosen : Nat → Bool) : Shell :=
    let sorted := (s.traps.filter fun t => chosen t.1).mergeSort fun a b => decide (a.1 ≤ b.1)
    (s.emit 1 (Tool.unlines (sorted.map fun (n, a) =>
      "trap -- " ++ Quote.single a ++ " " ++ signalName n))).finish 0
  match args with
  | [] => show_ fun _ => true
  | "-l" :: _ => (s.emit 1 signalTable).finish 0
  | "-p" :: [] => show_ fun _ => true
  | "-p" :: names => show_ fun n => names.any fun name => signalNumber? name == some n
  | [name] =>
    if (signalNumber? name).isSome then set none [name]
    else s.usage "trap" " [-lp] [[arg] signal_spec ...]"
  | "-" :: signals => set none signals
  | action :: signals =>
    if (Text.readNat? action.toList).isSome then set none args else set (some action) signals

/-- Sends signals. -/
def sendAll (s : Shell) (args : List String) : Shell :=
  let help (s : Shell) : Shell :=
    s.usage "kill" " [-s sigspec | -n signum | -sigspec] pid | jobspec ... or kill -l [sigspec]"
  let wrong (name : String) : Shell := s.fault "kill" (name ++ ": invalid signal specification") 1
  let go (signal : Nat) (targets : List String) : Shell :=
    if targets.isEmpty then help s
    else targets.foldl (fun s target =>
      if s.flow != .going then s
      else match Text.readNat? target.toList with
        | some n =>
          if n == s.self || s.ancestors.contains n || s.jobs.any (·.process == n) then
            s.send signal n
          else s.fault "kill" ("(" ++ target ++ ") - No such process") 1
        | none =>
          match s.job? target with
          | some job => s.send signal job.process
          | none =>
            if target.startsWith "%" then s.fault "kill" (target ++ ": no such job") 1
            else s.fault "kill" (target ++ ": arguments must be process or job IDs") 1) (s.finish 0)
  match args with
  | [] => help s
  | ["-l"] | ["-L"] => (s.emit 1 signalTable).finish 0
  | "-l" :: codes =>
    codes.foldl (fun s code =>
      match Text.readNat? code.toList with
      | some n => s.emit 1 (Signal.name (if n > 128 then n - 128 else n) ++ "\n")
      | none =>
        match signalNumber? code with
        | some n => s.emit 1 (Text.ofNat n ++ "\n")
        | none => s.fault "kill" (code ++ ": invalid signal specification") 1) (s.finish 0)
  | flag :: rest =>
    match flag, rest with
    | "-s", name :: targets | "-n", name :: targets =>
      match signalNumber? name with
      | some n => go n targets
      | none => wrong name
    | "--", targets => go 15 targets
    | flag, rest =>
      match flag.toList with
      | '-' :: c :: cs =>
        match signalNumber? (String.ofList (c :: cs)) with
        | some n => go n rest
        | none => wrong (String.ofList (c :: cs))
      | _ => go 15 args

/-- Waits for jobs. -/
def waitFor (s : Shell) (args : List String) : Shell :=
  let targets := args.filter fun a => !a.startsWith "-"
  if targets.isEmpty then s.wait []
  else targets.foldl (fun s target =>
    if (s.job? target).isSome then s.wait [target]
    else if target.startsWith "%" then s.fault "wait" (target ++ ": no such job") 127
    else if (Text.readNat? target.toList).isSome then
      s.fault "wait" ("pid " ++ target ++ " is not a child of this shell") 127
    else s.fault "wait" (cited target ++ ": not a pid or valid job spec") 1) s

/-! ## Leaving and going on -/

/-- Complains about arguments that are too many. The larger shell ends then if its script is an
argument, and passes over the rest of the line else. -/
def tooMany (s : Shell) (command : String) : Shell :=
  { s.fault command "too many arguments" 1 with
    flow := if s.extras.isArgument then .exiting else .discarding }

/-- Leaves the shell with a status. -/
def exitWith (s : Shell) (args : List String) : Shell :=
  match args with
  | [] => s.leave s.status
  | a :: rest =>
    match integer? a with
    | none => (s.fault "exit" (a ++ ": numeric argument required") 2).leave 2
    | some n =>
      if rest.isEmpty then s.leave (n % 256).toNat
      else s.tooMany "exit"

/-- Leaves a function or a file. -/
def returnWith (s : Shell) (args : List String) : Shell :=
  if s.locals.isEmpty && s.extras.origin.isEmpty then
    s.fault "return" ("can only " ++ cited "return" ++ " from a function or sourced script") 2
  else match args with
    | [] => { s with flow := .returning }
    | a :: rest =>
      match integer? a with
      | none =>
        { s.fault "return" (a ++ ": numeric argument required") 2 with flow := .returning }
      | some n =>
        if rest.isEmpty then { s with flow := .returning, status := (n % 256).toNat }
        else s.tooMany "return"

/-- Leaves loops, or goes on with the next round of one. -/
def leaveLoops (s : Shell) (command : String) (args : List String) : Shell :=
  let flow (n : Nat) : Flow :=
    if command == "break" then .breaking (min n s.loops) else .continuing (min n s.loops)
  if s.loops == 0 then
    s.fault command ("only meaningful in a " ++ cited "for" ++ ", " ++ cited "while" ++ ", or " ++
      cited "until" ++ " loop") 0
  else match args with
    | [] => { s with flow := flow 1, status := 0 }
    | a :: _ =>
      match integer? a with
      | none => (s.fault command (a ++ ": numeric argument required") 128).leave 128
      | some n =>
        if n ≤ 0 then
          { s.fault command (a ++ ": loop count out of range") 1 with flow := .breaking s.loops }
        else { s with flow := flow n.toNat, status := 0 }

/-- Drops arguments. -/
def shiftBy (s : Shell) (args : List String) : Shell :=
  let drop (n : Nat) : Shell :=
    if n > s.arguments.length then s.finish 1
    else { s with arguments := s.arguments.drop n }.finish 0
  match args with
  | [] => drop 1
  | a :: rest =>
    match integer? a with
    | none => s.fault "shift" (a ++ ": numeric argument required") 1
    | some n =>
      if !rest.isEmpty then s.tooMany "shift"
      else if n < 0 then s.fault "shift" (a ++ ": shift count out of range") 1
      else drop n.toNat

/-! ## Values -/

/-- Computes expressions. The last one succeeds if it is not zero. -/
def letAll (s : Shell) (args : List String) : Shell :=
  if args.isEmpty then s.fault "let" "expression expected" 1
  else args.foldl (fun s arg =>
    if s.flow != .going then s
    else match s.compute "let: " arg with
      | (s, some n) => s.finish (if n == 0 then 1 else 0)
      | (s, none) => s.finish 1) s

/-- Tests words. A bracket is closed by the last of them. -/
def testCommand (s : Shell) (command : String) (args : List String) : Shell :=
  let bracket := command == "["
  if bracket && args.getLast? != some "]" then s.fault command ("missing " ++ cited "]") 2
  else match s.testWords (if bracket then args.dropLast else args) with
    | .ok holds => s.finish (truth holds)
    | .error text => s.fault command text 2

/-- Prints arguments in a format, or assigns what would be printed to a variable. -/
def printFormat (s : Shell) (args : List String) : Shell :=
  match args with
  | "-v" :: target :: rest =>
    if !isName (namedBy target).1 then s.wrongName "printf" target
    else
      let outer := s.descriptors
      let (n, world) := s.world.openStream (.gather "")
      let s := { s with world := world }.connect 1 (some n)
      let s := s.workBuiltin "printf" (Format.printf .large) rest
      let text := s.gathered n
      let status := s.status
      let s := { s with descriptors := outer }
      let s := match namedBy target with
        | (name, .at [.text key _]) => s.store ⟨name, some key, false, .inl text⟩
        | (name, _) => s.store ⟨name, none, false, .inl text⟩
      if s.flow == .going then s.finish status else s
  | args => s.workBuiltin "printf" (Format.printf .large) args

/-- Shows or sets what files that are made may not be used for. -/
def changeMask (s : Shell) (args : List String) : Shell :=
  let flags := args.takeWhile fun a => a.startsWith "-" && a.length > 1
  let letters := flags.flatMap fun a => a.toList.drop 1
  let shown (s : Shell) : Shell :=
    let text := if letters.contains 'S' then maskLetters s.mask else Tool.modeDigits 4 s.mask
    let lead := if !letters.contains 'p' then ""
      else if letters.contains 'S' then "umask -S " else "umask "
    (s.emit 1 (lead ++ text ++ "\n")).finish 0
  match letters.find? (fun c => c != 'S' && c != 'p'), args.drop flags.length with
  | some c, _ => s.wrongOption "umask" (String.ofList ['-', c]) " [-p] [-S] [mode]"
  | none, [] => shown s
  | none, a :: _ =>
    match readMask? s.mask a with
    | some mask =>
      let s := { s with mask := mask }.finish 0
      if letters.contains 'S' then shown s else s
    | none =>
      if a.toList.head?.any Char.isDigit then
        s.fault "umask" (a ++ ": octal number out of range") 1
      else
        let sign := (a.toList.dropWhile fun c => "ugoa".toList.contains c).headD (Char.ofNat 0)
        s.fault "umask" (cited (String.singleton sign) ++ ": invalid symbolic mode operator") 1

/-- Runs a command that only looks at the shell or changes its state. -/
def extendedBuiltin (s : Shell) (command : String) (args : List String) : Shell :=
  match command with
  | ":" | "true" | "jobs" | "enable" | "disown" | "history" | "fc" | "bind" | "help" |
    "compgen" | "complete" | "compopt" | "caller" | "ulimit" => s.finish 0
  | "false" => s.finish 1
  | "echo" =>
    let speaker := if s.hasLong "xpg_echo" then .small else .large
    s.workBuiltin "echo" (Format.echo speaker) args
  | "printf" => s.printFormat args
  | "test" | "[" => s.testCommand command args
  | "pwd" => (s.emit 1 (s.here.text ++ "\n")).finish 0
  | "cd" => s.changePlace args
  | "dirs" => s.showPlaces args
  | "pushd" => s.pushPlace args
  | "popd" => s.popPlace
  | "exit" | "logout" => s.exitWith args
  | "return" => s.returnWith args
  | "break" | "continue" => s.leaveLoops command args
  | "shift" => s.shiftBy args
  | "let" => s.letAll args
  | "declare" | "typeset" | "local" | "export" | "readonly" =>
    s.declareAll command (args.map .inl)
  | "unset" => s.unsetAll args
  | "set" => if args.isEmpty then s.showAssignments else setExtended (args.length + 1) s args
  | "shopt" => s.setLongOptions args
  | "read" => s.readInput args
  | "mapfile" | "readarray" => s.readLines command args
  | "getopts" =>
    if args.length < 2 then s.usage "getopts" " optstring name [arg ...]" else s.getOptions args
  | "kill" => s.sendAll args
  | "trap" => s.setTraps args
  | "wait" => s.waitFor args
  | "umask" => s.changeMask args
  | "type" => s.describeNames args
  | "alias" => s.extendedAliases args
  | "unalias" => s.dropAliases args
  | "hash" => s.changeTracked args
  | "times" => (s.emit 1 (timesText 3)).finish 0
  | "fg" | "bg" | "suspend" => s.fault command "no job control" 1
  | _ => s.finish 0

end TensorCompiler.Shell
