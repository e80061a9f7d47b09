import TensorCompiler.Build.Disk
import TensorCompiler.Build.Script.Token
import TensorCompiler.Build.Shell.Variable

/-!
# Shells

The state of a shell between two commands. What all processes share, the disk, the open streams, the
clock and the collected output, is its world; a subshell starts with a copy of the rest and gives
back only the world.
-/

namespace TensorCompiler

/-- What a descriptor leads to. -/
inductive Stream where
  /-- The output that is collected. -/
  | report
  | file (p : Place) (position : Nat) (append : Bool)
  /-- A text to be read. -/
  | text (rest : String)
  /-- A text that is being written. -/
  | gather (written : String)
  | sink
deriving DecidableEq, Repr

/-- A signal on its way to a process. -/
structure Mail where
  /-- The moment it arrives at. -/
  moment : Nat
  target : Nat
  signal : Nat
  /-- The process beside a shell that has sent it, or zero. -/
  sender : Nat
deriving DecidableEq, Repr

/-- What processes share. -/
structure World where
  disk : Disk
  /-- The streams by their numbers. -/
  streams : List (Nat × Stream)
  /-- The collected output with the moments it was written at, the latest first. -/
  report : List (Nat × String)
  /-- Nanoseconds since the start. -/
  clock : Nat
  /-- The moment at which everything is stopped. -/
  limit : Nat
  /-- How many processes there have been. -/
  processes : Nat
  /-- The moment up to which a process that nobody waits for keeps the output open. -/
  held : Nat
  /-- The signals that have not arrived yet. -/
  mail : List Mail

namespace World

/-- The stream with a number. -/
def stream? (w : World) (n : Nat) : Option Stream :=
  (w.streams.find? (·.1 == n)).map Prod.snd

/-- Changes the stream with a number. -/
def setStream (w : World) (n : Nat) (s : Stream) : World :=
  { w with streams := (n, s) :: w.streams.filter (·.1 != n) }

/-- Opens a stream, and gives its number. -/
def openStream (w : World) (s : Stream) : Nat × World :=
  let n := w.streams.foldl (fun n e => max n (e.1 + 1)) 0
  (n, w.setStream n s)

/-- Puts a text into another from a position on. What lies between its end and the position is
filled with null bytes. -/
def splice (old text : String) (position : Nat) : String :=
  let cs := old.toList
  let before := cs.take position ++ List.replicate (position - cs.length) (Char.ofNat 0)
  String.ofList (before ++ text.toList ++ cs.drop (position + text.length))

/-- Writes a text to a stream. -/
def write (w : World) (n : Nat) (text : String) : World :=
  match w.stream? n with
  | some .report => { w with report := (w.clock, text) :: w.report }
  | some (.gather written) => w.setStream n (.gather (written ++ text))
  | some (.file p position append) =>
    match w.disk.get? p with
    | some (.file old) =>
      let all := if append then old ++ text else splice old text position
      let disk := { w.disk with now := w.clock }.write p all
      { w with disk := disk }.setStream n (.file p (position + text.length) append)
    | _ => w
  | _ => w

/-- What is left to be read of a stream. -/
def unread (w : World) (n : Nat) : String :=
  match w.stream? n with
  | some (.text rest) => rest
  | some (.file p position _) => String.ofList (((w.disk.file? p).getD "").toList.drop position)
  | _ => ""

/-- Leaves less to be read of a stream. -/
def consume (w : World) (n : Nat) (left : String) : World :=
  match w.stream? n with
  | some (.text _) => w.setStream n (.text left)
  | some (.file p position append) =>
    w.setStream n (.file p (position + ((w.unread n).length - left.length)) append)
  | _ => w

/-- Whether the time is up. -/
def isOver (w : World) : Bool := w.clock ≥ w.limit

end World

/-- How a shell goes on. -/
inductive Flow where
  | going
  | breaking (loops : Nat)
  | continuing (loops : Nat)
  | returning
  /-- The rest of the line is passed over. -/
  | discarding
  | exiting
  /-- The process is ended by a signal. -/
  | killed (signal : Nat)
  /-- The process waits for a signal that does not come. -/
  | stopped
  /-- The process works on without an end. -/
  | endless
deriving DecidableEq, Repr

/-- A command that runs beside the shell. -/
structure Job where
  /-- The number that the shell knows it by. -/
  number : Nat
  process : Nat
  /-- The moment it ends at. -/
  ending : Nat
  status : Nat
  /-- Whether the shell has waited for it. -/
  waited : Bool

/-- A function of a shell. -/
structure ScriptFunction where
  body : Script.Command
  /-- The file that it is read from. -/
  origin : String
  /-- Whether shells that are started have it too. -/
  exported : Bool

/-- What only the larger of the two shells keeps. -/
structure Extras where
  /-- The file whose commands run, if they are not those that the shell was started for. -/
  origin : String
  /-- The functions that run, the innermost first. -/
  calls : List String
  /-- The options that have long names only. -/
  options : List String
  /-- The directories to come back to, the latest first. -/
  directories : List Place
  /-- How deep the shell runs inside others of its process. -/
  depth : Nat
  /-- How deep commands stand in others that give their output or their text. -/
  level : Nat
  /-- Whether the script is an argument. -/
  isArgument : Bool
  /-- The files that stand for commands, with those that read them, the latest first. -/
  pipes : List (Place × Option Script.Command)

/-- What a shell starts with. -/
def Extras.start : Extras := ⟨"", [], [], [], 0, 0, false, []⟩

/-- A shell between two commands. -/
structure Shell where
  world : World
  /-- What the shell calls itself. -/
  name : String
  /-- Whether this is the larger of the two shells, which words some complaints in another way. -/
  isBash : Bool
  /-- What runs the commands that it is reading. -/
  context : String
  line : Nat
  here : Place
  bindings : List (String × Variable)
  arguments : List String
  functions : List (String × ScriptFunction)
  /-- The words that stand for texts at the start of commands, the earliest first. -/
  aliases : List (String × String)
  /-- The programs that were found, the latest first. -/
  tracked : List Tracked
  documents : List (Nat × Script.Word)
  /-- The streams of the descriptors. -/
  descriptors : List (Nat × Nat)
  status : Nat
  /-- The status of the last command whose output was taken. -/
  taken : Nat
  options : List Char
  /-- What files that are made may not be used for. -/
  mask : Nat
  /-- What is done at signals; an exit has the number zero. -/
  traps : List (Nat × String)
  /-- The signals that wait to be seen to. -/
  pending : List Nat
  jobs : List Job
  /-- The process that the script was started in. -/
  process : Nat
  /-- The process that it is in now, which is another one on the side. -/
  self : Nat
  parent : Nat
  /-- The processes that wait for this one, the nearest first. -/
  ancestors : List Nat
  lastJob : Option Nat
  loops : Nat
  /-- The variables to be restored at the end of each function that runs. -/
  locals : List (List (String × Option Variable))
  extras : Extras
  flow : Flow

namespace Shell

/-- Whether the shell goes on with the next command. -/
def isGoing (s : Shell) : Bool := s.flow == .going && !s.world.isOver

/-- Ends with a status. -/
def finish (s : Shell) (status : Nat) : Shell := { s with status := status }

/-- Leaves the shell with a status. -/
def leave (s : Shell) (status : Nat) : Shell := { s with status := status, flow := .exiting }

/-- Writes a text to a descriptor. -/
def emit (s : Shell) (fd : Nat) (text : String) : Shell :=
  match (s.descriptors.find? (·.1 == fd)).map Prod.snd with
  | some n => { s with world := s.world.write n text }
  | none => s

/-- What stands before a complaint. -/
def label (s : Shell) : String :=
  let name := if s.isBash && !s.extras.origin.isEmpty then s.extras.origin else s.name
  name ++ ": " ++ (if s.isBash then "line " else "") ++ Text.ofNat s.line ++ ": " ++
    (if s.context.isEmpty then "" else s.context ++ ": ")

/-- Complains. -/
def complain (s : Shell) (text : String) : Shell :=
  s.emit 2 (s.label ++ text ++ "\n")

/-- Complains and leaves the shell. -/
def abort (s : Shell) (text : String) : Shell :=
  (s.complain text).leave
    (if !s.isBash then 2 else if s.extras.isArgument then 127 else 1)

/-- Complains about what cannot be filled in. The larger shell passes over the rest of the line, the
other one ends. -/
def give (s : Shell) (text : String) : Shell :=
  let s := s.complain text
  if s.isBash then { s with status := 1, flow := .discarding } else s.leave 2

/-- Whether an option is set. -/
def has (s : Shell) (option : Char) : Bool := s.options.contains option

/-- Whether an option that has a long name only is set. -/
def hasLong (s : Shell) (option : String) : Bool := s.extras.options.contains option

/-! ## Variables -/

/-- The variable with a name. -/
def ownEntry? (s : Shell) (name : String) : Option Variable :=
  (s.bindings.find? (·.1 == name)).map Prod.snd

/-- The name of the variable that one stands for, which may hold the name of another. -/
def meant (s : Shell) (name : String) : String :=
  go 8 name
where
  /-- Follows names up to a number of steps. -/
  go : Nat → String → String
    | 0, name => name
    | fuel + 1, name =>
      match s.ownEntry? name with
      | some v =>
        if v.marks.contains 'n' then (v.value.map (go fuel)).getD name else name
      | none => name

/-- The variable with a name. -/
def entry? (s : Shell) (name : String) : Option Variable := s.ownEntry? (s.meant name)

/-- The value that a name has by itself. -/
def ownValue? (s : Shell) (name : String) : Option String :=
  match name with
  | "LINENO" => if s.isBash then some (Text.ofNat s.line) else none
  | "PPID" => some (Text.ofNat s.parent)
  | "BASHPID" => if s.isBash then some (Text.ofNat s.self) else none
  | "BASH_SUBSHELL" => if s.isBash then some (Text.ofNat s.extras.depth) else none
  | "FUNCNAME" => if s.isBash then s.extras.calls.head? else none
  | "SECONDS" => if s.isBash then some (Text.ofNat (s.world.clock / 1000000000)) else none
  | _ => none

/-- The value of a variable. -/
def value? (s : Shell) (name : String) : Option String :=
  match s.entry? name with
  | some v => v.value
  | none => s.ownValue? name

/-- Puts a variable in place, or takes it away. Where to look for programs is new with `PATH`. -/
def putVariable (s : Shell) (name : String) (v : Option Variable) : Shell :=
  let others := s.bindings.filter (·.1 != name)
  { s with
    tracked := if name == "PATH" then [] else s.tracked
    bindings := match v with
      | some v => (name, v) :: others
      | none => others }

/-- Refuses to change a variable that is read only. -/
def keepReadOnly (s : Shell) (name : String) : Shell :=
  s.give (name ++ (if s.isBash then ": readonly variable" else ": is read only"))

/-- Assigns to a variable. A variable that is read only ends the shell. -/
def assign (s : Shell) (name value : String) : Shell :=
  let name := s.meant name
  match s.entry? name with
  | some v =>
    if v.readOnly then s.keepReadOnly name
    else s.putVariable name (some (v.put value))
  | none => s.putVariable name (some (.ofText value (s.has 'a')))

/-- The variables that other programs see. -/
def environment (s : Shell) : List (String × String) :=
  s.bindings.filterMap fun (name, v) =>
    match v.content, v.exported with
    | .text value, true => some (name, value)
    | _, _ => none

/-- The order in which the options that are set are shown. -/
def optionOrder (isBash : Bool) : List Char :=
  (if isBash then "abefhkmnptuvxBCEHPTcs" else "upbaCEVvxsnmiIfe").toList

/-- The value of a parameter that is a single text. -/
def param? (s : Shell) (name : String) : Option String :=
  let list := if s.arguments.isEmpty then none else some (Text.joinWith " " s.arguments)
  match name with
  | "@" | "*" => list
  | "#" => some (Text.ofNat s.arguments.length)
  | "?" => some (Text.ofNat s.status)
  | "$" => some (Text.ofNat s.process)
  | "!" => s.lastJob.map Text.ofNat
  | "-" => some (String.ofList ((optionOrder s.isBash).filter s.options.contains))
  | "0" => some s.name
  | name =>
    match Text.readNat? name.toList with
    | some n => s.arguments[n - 1]?
    | none => s.value? name

/-- The characters that separate fields. -/
def separators (s : Shell) : List Char :=
  (((s.entry? "IFS").map fun v => v.value.getD "").getD " \t\n").toList

/-! ## Redirections -/

/-- Makes a descriptor lead to a stream, or to nothing. -/
def connect (s : Shell) (fd : Nat) (stream : Option Nat) : Shell :=
  let others := s.descriptors.filter (·.1 != fd)
  { s with descriptors := match stream with
      | some n => (fd, n) :: others
      | none => others }

/-- Makes a descriptor lead to a new stream. -/
def connectTo (s : Shell) (fd : Nat) (stream : Stream) : Shell :=
  let (n, world) := s.world.openStream stream
  { s with world := world }.connect fd (some n)

/-- Why a file cannot be opened. In the smaller shell a path that leads nowhere has a wording of its
own. -/
def openFault (s : Shell) (verb path nowhere : String) (fault : FileFault) : String :=
  if s.isBash then
    path ++ ": " ++ (if fault == .taken then "cannot overwrite existing file" else fault.sentence)
  else "cannot " ++ verb ++ " " ++ path ++ ": " ++
    (if fault == .missing || fault == .notDirectory then nowhere else fault.sentence)

/-- The disk as the shell changes it: at the present time and with its own mask. -/
def ownDisk (s : Shell) : Disk := { s.world.disk with now := s.world.clock, mask := s.mask }

/-- Opens a file for a descriptor. -/
def openFile (s : Shell) (fd : Nat) (mode : Script.OpenMode) (path : String) :
    Except String Shell :=
  let disk := s.ownDisk
  let withDisk (d : Disk) : Shell := { s with world := { s.world with disk := d } }
  let connectPlace (s : Shell) (p : Place) (append : Bool) : Shell :=
    if s.world.disk.get? p == some (.device true) && mode == .read then
      s.connectTo fd (.text Disk.zeros)
    else if s.world.disk.isDevice p then s.connectTo fd .sink
    else s.connectTo fd (.file p 0 append)
  let device := match path with
    | "/dev/stdin" | "/dev/fd/0" => some 0
    | "/dev/stdout" | "/dev/fd/1" => some 1
    | "/dev/stderr" | "/dev/fd/2" => some 2
    | _ => none
  match device, mode with
  | some n, _ => .ok (s.connect fd ((s.descriptors.find? (·.1 == n)).map Prod.snd))
  | none, .read =>
    match disk.find s.here path with
    | .error fault => .error (s.openFault "open" path "No such file" fault)
    | .ok p => .ok (connectPlace s p false)
  | none, mode =>
    match disk.writable s.here path with
    | .error fault => .error (s.openFault "create" path "Directory nonexistent" fault)
    | .ok p =>
      let isThere := (disk.get? p).isSome
      if mode == .write && s.has 'C' && isThere && !disk.isDevice p then
        .error (s.openFault "create" path "" .taken)
      else if mode == .write || mode == .overwrite || !isThere then
        .ok (connectPlace (withDisk (disk.write p "")) p (mode == .append))
      else .ok (connectPlace s p (mode == .append))

/-- Makes a descriptor a copy of another, or closes it. -/
def copyDescriptor (s : Shell) (fd : Nat) (source : String) : Except String Shell :=
  let moved := s.isBash && source.length > 1 && source.endsWith "-"
  let number := if moved then (source.dropEnd 1).toString else source
  if source == "-" then .ok (s.connect fd none)
  else
    match Text.readNat? number.toList with
    | none =>
      .error (if s.isBash then source ++ ": ambiguous redirect" else "Syntax error: Bad fd number")
    | some n =>
      if !s.isBash && source.length > 1 then .error "Syntax error: Bad fd number"
      else
        match (s.descriptors.find? (·.1 == n)).map Prod.snd with
        | some stream =>
          let s := s.connect fd (some stream)
          .ok (if moved && n != fd then s.connect n none else s)
        | none => .error (Text.ofNat n ++ ": Bad file descriptor")

/-- What a text that was gathered says. -/
def gathered (s : Shell) (n : Nat) : String :=
  match s.world.stream? n with
  | some (.gather text) => text
  | _ => ""

end Shell
end TensorCompiler

/-!
## Signals

Signals by their names and numbers, what they do to a process that does not expect them, and what is
said of a process that one has ended.
-/

namespace TensorCompiler.Signal

/-- The names of signals, from the first on. -/
def names : List String :=
  ["HUP", "INT", "QUIT", "ILL", "TRAP", "ABRT", "BUS", "FPE", "KILL", "USR1", "SEGV", "USR2",
    "PIPE", "ALRM", "TERM", "STKFLT", "CHLD", "CONT", "STOP", "TSTP", "TTIN", "TTOU", "URG", "XCPU",
    "XFSZ", "VTALRM", "PROF", "WINCH", "IO", "PWR", "SYS"]

/-- The number of a signal that is given by its number or its name. Zero has the name of an exit. -/
def number? (text : String) : Option Nat :=
  match Text.readNat? text.toList with
  | some n => if n ≤ 64 then some n else none
  | none =>
    if text.toUpper == "EXIT" then some 0 else (names.idxOf? text.toUpper).map (· + 1)

/-- The name of a signal. -/
def name (n : Nat) : String :=
  if n == 0 then "EXIT" else names.getD (n - 1) (Text.ofNat n)

/-- What a signal does to a process that does not expect it: some do nothing, some stop it, and most
end it. -/
def effect (n : Nat) : Flow :=
  if [0, 17, 18, 23, 28].contains n then .going
  else if 19 ≤ n && n ≤ 22 then .stopped
  else .killed n

/-- What is said of a process that a signal has ended. -/
def epitaphs : List String :=
  ["Hangup", "Interrupt", "Quit", "Illegal instruction", "Trace/breakpoint trap", "Aborted",
    "Bus error", "Floating point exception", "Killed", "User defined signal 1",
    "Segmentation fault", "User defined signal 2", "Broken pipe", "Alarm clock", "Terminated",
    "Stack fault", "Child exited", "Continued", "Stopped (signal)", "Stopped",
    "Stopped (tty input)", "Stopped (tty output)", "Urgent I/O condition",
    "CPU time limit exceeded", "File size limit exceeded", "Virtual timer expired",
    "Profiling timer expired", "Window changed", "I/O possible", "Power failure", "Bad system call"]

/-- The line that a shell prints about a process that a signal has ended; two of them are silent. -/
def epitaph (n : Nat) : String :=
  if n == 2 || n == 13 then ""
  else (if n ≥ 34 then "Real-time signal " ++ Text.ofNat (n - 34)
    else epitaphs.getD (n - 1) ("Unknown signal " ++ Text.ofNat n)) ++ "\n"

end TensorCompiler.Signal
