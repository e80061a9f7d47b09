import TensorCompiler.Build.Tool.Calendar
import TensorCompiler.Build.Tool.Characters
import TensorCompiler.Build.Tool.Condition
import TensorCompiler.Build.Tool.Difference
import TensorCompiler.Build.Tool.Digests
import TensorCompiler.Build.Tool.Dump
import TensorCompiler.Build.Tool.Edit
import TensorCompiler.Build.Tool.Find
import TensorCompiler.Build.Tool.Format
import TensorCompiler.Build.Tool.Lines
import TensorCompiler.Build.Tool.Merge
import TensorCompiler.Build.Tool.Numbers
import TensorCompiler.Build.Tool.Pieces
import TensorCompiler.Build.Tool.Placing
import TensorCompiler.Build.Tool.Search
import TensorCompiler.Build.Tool.Sort
import TensorCompiler.Build.Tool.Values

/-!
# The tools by name

Every program of the system that works on its own, and the names of those that start others.
-/

namespace TensorCompiler.Tool

/-- A program that does nothing but end. -/
def ends (status : Nat) : Tool := fun _ _ => return status

/-- Prints the values of variables. -/
def printenv : Tool := fun _ args => do
  let t ← get
  if args.isEmpty then
    say (unlines (t.environment.reverse.map fun (n, v) => n ++ "=" ++ v))
    return 0
  else forAll args fun name => do
    match t.environment.find? (·.1 == name) with
    | some (_, value) =>
      say (value ++ "\n")
      return 0
    | none => return 1

/-- Prints the paths of programs, the first of each or all of them. -/
def which : Tool := fun name args => do
  let flags := args.takeWhile fun a => a.startsWith "-"
  let letters := flags.flatMap fun a => a.toList.drop 1
  match letters.find? fun c => c != 'a' && c != 's' with
  | some c =>
    let own := if name.toList.contains '/' then name else Place.text (Disk.programs ++ [name])
    fail 2 ("Illegal option -" ++ String.singleton c ++ "\nUsage: " ++ own ++ " [-as] args")
  | none =>
    let t ← get
    let path := ((t.environment.find? (·.1 == "PATH")).map Prod.snd).getD ""
    let isProgram (p : String) := (t.disk.find t.here p).toOption.any t.disk.runs
    let operands := args.drop flags.length
    if operands.isEmpty then return 1
    forAll operands fun name => do
      let candidates := if name.toList.contains '/' then [name]
        else (Text.split ':' path).map fun d => (if d.isEmpty then "." else d) ++ "/" ++ name
      let found := candidates.filter isProgram
      let shown := if letters.contains 'a' then found else found.take 1
      if !letters.contains 's' then say (unlines shown)
      return if found.isEmpty then 1 else 0

/-- The tools by name. -/
def plainTable : List (String × Tool) :=
  [("[", Condition.tool true false), ("arch", arch), ("base32", Alphabet.thirtyTwo.tool),
    ("base64", Alphabet.sixtyFour.tool), ("basename", basename), ("cat", cat),
    ("chgrp", own "group"), ("chmod", chmod), ("chown", own "user"), ("cksum", cksum),
    ("cmp", cmp), ("comm", comm), ("cp", cp), ("cut", cut), ("date", date), ("dd", dd),
    ("diff", diff), ("dirname", dirname), ("echo", Format.echo .tool), ("egrep", grep .extended),
    ("expand", expand), ("expr", expr), ("factor", factor), ("false", ends 1),
    ("fgrep", grep .fixed), ("fold", fold), ("grep", grep .basic), ("groups", groups),
    ("head", head), ("id", id), ("install", install), ("join", join), ("link", link), ("ln", ln),
    ("logname", logname), ("ls", ls), ("mkdir", mkdir), ("mktemp", mktemp), ("mv", mv),
    ("nl", nl), ("numfmt", numfmt), ("od", od), ("paste", paste), ("printenv", printenv),
    ("printf", Format.printf .tool), ("pwd", pwd), ("readlink", readlink),
    ("realpath", realpath), ("rev", rev), ("rm", rm), ("rmdir", rmdir), ("sed", Edit.tool),
    ("seq", seq), ("shuf", shuf), ("sleep", sleep), ("sort", sort), ("split", split),
    ("stat", stat), ("sum", sum), ("sync", ends 0), ("tac", tac), ("tail", tail), ("tee", tee),
    ("test", Condition.tool false false), ("touch", touch), ("tr", tr), ("true", ends 0),
    ("truncate", truncate), ("tsort", tsort), ("tty", tty), ("uname", uname),
    ("unexpand", unexpand), ("uniq", uniq), ("unlink", unlink), ("wc", wc), ("which", which),
    ("whoami", whoami), ("yes", yes)]

/-- The tools for digests by name. -/
def digestTable : List (String × Tool) :=
  DigestKind.table.map fun (algorithm, k) => (algorithm ++ "sum", k.tool)

/-- All tools by name. -/
def table : List (String × Tool) := plainTable ++ digestTable

/-- The tool with a name. -/
def named? (name : String) : Option Tool :=
  (table.find? (·.1 == name)).map Prod.snd

/-- The programs that start others. -/
def starters : List String :=
  ["awk", "bash", "dash", "env", "find", "mawk", "nice", "nohup", "sh", "stdbuf", "timeout",
    "xargs"]

/-- The programs of the system. -/
def programNames : List String := table.map Prod.fst ++ starters

end TensorCompiler.Tool
