import TensorCompiler.Build.Shell.Run
import TensorCompiler.Build.Toolchain

/-!
# The machine that builds

A machine with a shell and the usual tools, on which build commands run. A program is run in a
directory with its arguments until it ends or its time is up. Its two outputs are collected into one
text. All texts are byte texts.
-/

namespace TensorCompiler
namespace Shell

/-- The process that starts commands. -/
def host (here : Place) (disk : Disk) (limit : Nat) (environment : List (String × String)) :
    Shell where
  world := ⟨disk, [(0, .report), (1, .sink)], [], 0, limit, 1, 0, []⟩
  name := ""
  isBash := false
  context := ""
  line := 1
  here := here
  bindings := environment.map fun (name, value) => (name, .ofText value true)
  arguments := []
  functions := []
  aliases := []
  tracked := []
  documents := []
  descriptors := [(0, 1), (1, 0), (2, 0)]
  status := 0
  taken := 0
  options := []
  mask := 18
  traps := []
  pending := []
  jobs := []
  process := 1
  self := 1
  parent := 0
  ancestors := []
  lastJob := none
  loops := 0
  locals := []
  extras := .start
  flow := .going

/-- The output collected up to a moment, in the order of its moments. -/
def outputUpTo (s : Shell) (moment : Nat) : String :=
  let inOrder := s.world.report.reverse.mergeSort fun a b => decide (a.1 ≤ b.1)
  String.join ((inOrder.filter fun c => c.1 ≤ moment).map Prod.snd)

/-- The nanoseconds for which the output of a process that has ended may stay open. -/
def patience : Nat := 1000000000

/-- How a command has ended. A process that is stopped or never ends runs out of time. -/
def result (s : Shell) : CommandRun :=
  let limit := s.world.limit
  let ending := s.world.clock
  let closing := max ending (min s.world.held (ending + patience))
  let run (result : CommandEnd) (moment : Nat) : CommandRun :=
    ⟨result, s.outputUpTo moment, s.world.disk⟩
  if ending ≥ limit || s.flow == .stopped || s.flow == .endless then run .timeout limit
  else if closing ≥ limit then run .timeout limit
  else
    match s.flow with
    | .killed n => run (.signal n) closing
    | _ =>
      if s.status == 0 && s.world.held ≥ ending + patience then run .abandoned closing
      else run (.exit s.status) closing

end Shell

/-- Why a program does not start, or where it is. A name without a slash is looked up, and any other
is a path. -/
def StartFault.orPlace (s : Shell) (program : String) (args : List String) :
    Except StartFault (String × Place) :=
  let nul := Char.ofNat 0
  let wrong := (program :: args).any fun a => a.contains nul
  if program.isEmpty then .error .unnamed
  else if program = "/" then .error .isDirectory
  else
    match s.lookUp program, program.contains '/' with
    | .error _, false => .error .unknown
    | .error (.fault fault), true => .error (.path program (if wrong then .invalid else fault))
    | .error .unknown, true => .error (.path program .missing)
    | .ok (found, p), _ => if wrong then .error (.path found .invalid) else .ok (found, p)

/-- The nanoseconds a process needs to start. -/
def startTime : Nat := 100000

/-- Runs a program with its arguments in a directory, for `limit` nanoseconds at most. -/
def runCommand : CommandRunner := fun here disk environment limit program args =>
  let s := Shell.host here disk limit environment
  match StartFault.orPlace s program args with
  | .error fault => ⟨.notStarted fault, "", disk⟩
  | .ok (path, p) =>
    if limit ≤ startTime then ⟨.timeout, "", disk⟩
    else
      let r := Shell.runner 300
      (r.program (r.launch Shell.Runner.launchDepth) s path p program args).result

/-- A host with files in its directory for temporary ones. -/
def BuildHost.ofFiles (here home : Place) (temporary : String)
    (files : List (String × String)) : BuildHost :=
  let disk := ((Disk.ofPrograms Tool.programNames).makeDirectory here).makeDirectory home
  ⟨files.foldl (fun d f => d.write (home ++ [f.1]) (Text.toBytes f.2)) disk, here, home, temporary⟩

end TensorCompiler
