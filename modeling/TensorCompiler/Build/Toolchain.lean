import TensorCompiler.Build.Disk
import TensorCompiler.Config.Basic
import TensorCompiler.Emit.Source
import TensorCompiler.Text.Basic
import TensorCompiler.Text.Character

/-!
# Building emitted programs

The files of an emitted program are written to a directory, and the build command of the
configuration is run there. A directory made for the build is removed afterwards, unless the
configuration keeps it. The command belongs to the machine that builds: how it runs is a parameter.
-/

namespace TensorCompiler

/-- Why a program does not start. -/
inductive StartFault where
  | unnamed
  | unknown
  | isDirectory
  | path (path : String) (fault : FileFault)
deriving DecidableEq, Repr

/-- How a command ends. -/
inductive CommandEnd where
  | exit (status : Nat)
  | signal (number : Nat)
  | timeout
  /-- It ended well, but others kept its output open for too long. -/
  | abandoned
  | notStarted (fault : StartFault)
deriving DecidableEq, Repr

/-- A command that has run. -/
structure CommandRun where
  result : CommandEnd
  output : String
  disk : Disk

/-- How a machine runs a program with its arguments: in a directory, on a disk, with some variables,
for some nanoseconds at most. -/
abbrev CommandRunner :=
  Place → Disk → List (String × String) → Nat → String → List String → CommandRun

/-- A build command that failed. -/
structure CommandError where
  command : List String
  timeout : Duration
  result : CommandEnd
  output : String

namespace CommandError

/-- What the signals that end a process are called, from the first on. -/
def signalNames : List String :=
  ["hangup", "interrupt", "quit", "illegal instruction", "trace/breakpoint trap", "aborted",
    "bus error", "floating point exception", "killed", "user defined signal 1",
    "segmentation fault", "user defined signal 2", "broken pipe", "alarm clock", "terminated"]

/-- What a signal is called. -/
def signalName (n : Nat) : String :=
  (signalNames[n - 1]?).getD ("signal " ++ Text.ofNat n)

/-- The reason why the program of a command does not start. -/
def startCause (program : String) : StartFault → String
  | .unnamed => "exec: no command"
  | .unknown => "exec: " ++ Text.quoted program ++ ": executable file not found in $PATH"
  | .isDirectory => "exec: " ++ Text.quoted program ++ ": is a directory"
  | .path path fault => "fork/exec " ++ Text.ofBytes path ++ ": " ++ fault.text

/-- The reason of a failure. -/
def cause (e : CommandError) : String :=
  match e.result with
  | .exit status => "exit status " ++ Text.ofNat status
  | .signal n => "signal: " ++ signalName n
  | .timeout =>
    "build did not complete after " ++ e.timeout.text ++ ": context deadline exceeded"
  | .abandoned => "exec: WaitDelay expired before I/O complete"
  | .notStarted fault => startCause (e.command.headD "") fault

/-- The wording of a failure: the command, the reason, and what the command printed. -/
def message (e : CommandError) : String :=
  let output := Text.trim e.output
  Text.joinWith " " e.command ++ ": " ++ e.cause ++
    (if output.isEmpty then "" else "\n" ++ output)

end CommandError

/-- A build that failed: its directory could not be made, or its command failed. -/
inductive ToolchainError where
  | directory (path : String) (fault : FileFault)
  | command (e : CommandError)

namespace ToolchainError

/-- The wording of a failure. -/
def message : ToolchainError → String
  | .directory path fault => "mkdir " ++ path ++ ": " ++ fault.text
  | .command e => e.message

instance : ToString ToolchainError := ⟨message⟩

end ToolchainError

/-- The names and the texts of the files of an emitted program. -/
def Source.files (s : Source) : List (String × String) :=
  [("program.go", s.text), ("program.ll", s.declarations), ("go.mod", s.moduleFile)]

/-- Writes the files of an emitted program to a directory. -/
def Source.writeTo (s : Source) (disk : Disk) (dir : Place) : Disk :=
  s.files.foldl (fun d f => d.write (dir ++ [f.1]) (Text.toBytes f.2)) disk

/-- Where a build runs: the disk, the current directory, the directory for temporary ones, and the
name of a temporary directory. -/
structure BuildHost where
  disk : Disk
  here : Place
  home : Place
  temporary : String

namespace BuildHost

/-- The directory of a build that names none. -/
def scratch (h : BuildHost) : Place := h.home ++ [h.temporary]

/-- The variables that a command in a directory sees. -/
def environment (h : BuildHost) (dir : Place) : List (String × String) :=
  [("PWD", dir.text), ("TMPDIR", h.home.text), ("HOME", "/root"),
    ("PATH", "/usr/local/sbin:/usr/local/bin:/usr/sbin:/usr/bin:/sbin:/bin")]

/-- The names in the directory for temporary ones. -/
def names (h : BuildHost) : List String :=
  (h.disk.names h.home).map Text.ofBytes

end BuildHost

namespace BuildConfig

/-- Runs the build command in a directory. Without a command there is nothing to do. -/
def run (c : BuildConfig) (runner : CommandRunner) (host : BuildHost) (dir : Place) :
    Except ToolchainError Unit × BuildHost :=
  match c.command.map Text.toBytes with
  | [] => (.ok (), host)
  | program :: args =>
    let time := c.timeout.nanoseconds.toNat
    let r := runner dir host.disk (host.environment dir) time program args
    let host := { host with disk := r.disk }
    if r.result = .exit 0 then (.ok (), host)
    else (.error (.command ⟨c.command, c.timeout, r.result, Text.ofBytes r.output⟩), host)

/-- Makes the directory of a build: the work directory, or a temporary one if there is none. -/
def directory (c : BuildConfig) (host : BuildHost) : Except ToolchainError Place × BuildHost :=
  if c.workDir.isEmpty then
    (.ok host.scratch, { host with disk := host.disk.makeDirectory host.scratch })
  else
    let path := Text.toBytes c.workDir
    match host.disk.makePath (host.here.start path) (Text.split '/' path).reverse with
    | (none, disk) => (.ok (host.here.resolve path), { host with disk := disk })
    | (some (path, fault), disk) =>
      (.error (.directory (Text.ofBytes path) fault), { host with disk := disk })

/-- Builds an emitted program. -/
def build (c : BuildConfig) (runner : CommandRunner) (host : BuildHost) (source : Source) :
    Except ToolchainError Unit × BuildHost :=
  match c.directory host with
  | (.error e, host) => (.error e, host)
  | (.ok dir, host) =>
    let (result, host) := c.run runner { host with disk := source.writeTo host.disk dir } dir
    let temporary := c.workDir.isEmpty && !c.keepSource
    (result, if temporary then { host with disk := host.disk.remove dir } else host)

end BuildConfig
end TensorCompiler
