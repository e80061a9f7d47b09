import TensorCompiler.Build.Regex
import TensorCompiler.Build.Tool.Files

/-!
# Searching lines

Prints, counts or names the lines that match one of some patterns.
-/

namespace TensorCompiler.Tool

namespace Grep

/-- How a pattern is written. -/
inductive Form where
  | basic
  | extended
  | perl
  | fixed
deriving DecidableEq, Repr

/-- The dialect of a form. -/
def Form.dialect (f : Form) : Regex.Dialect := ⟨f == .extended || f == .perl, false, f == .perl⟩

/-- The expression of a text that stands for itself. -/
def literal (cs : List Char) : Regex :=
  cs.foldr (fun c r => .seq (.char c) r) .empty

/-- What is matched only where no word goes on, on either side. -/
def asWord (r : Regex) : Regex :=
  .seq (.alt (.edge false true) (.edge false false))
    (.seq r (.alt (.edge true false) (.edge false false)))

/-- The expression for one of some patterns. -/
def compile (form : Form) (g : Given) (patterns : List String) : Except Regex.Fault Regex := do
  let rs ← patterns.mapM fun p =>
    if form == .fixed then .ok (literal p.toList) else Regex.read form.dialect p.toList
  let r := match rs with
    | [] => .set false []
    | r :: rest => rest.foldl .alt r
  return if g.has 'x' then .seq .lineStart (.seq (.group 0 r) .lineEnd)
    else if g.has 'w' then asWord r
    else r

/-- A search that is set up. -/
structure Query where
  given : Given
  regex : Regex
  options : Regex.Options
  /-- Whether lines are printed with the name of their file. -/
  named : Bool
  before : Nat
  after : Nat
  most : Option Nat

/-- Whether a line is one of those looked for. -/
def Query.selects (q : Query) (line : String) : Bool :=
  (Regex.search? q.options q.regex line.toList).isSome != q.given.has 'v'

/-- The parts of a line that match and are not empty. -/
def Query.parts (q : Query) (text : List Char) : Nat → Option Char → Nat → List Char → List String
  | 0, _, _, _ => []
  | fuel + 1, before, position, rest =>
    match Regex.searchFrom? q.options q.regex text before position rest with
    | none => []
    | some found =>
      let stop := found.stop
      let matched := (text.drop found.start).take (stop.position - found.start)
      if matched.isEmpty then
        match stop.rest with
        | [] => []
        | c :: cs => q.parts text fuel (some c) (stop.position + 1) cs
      else String.ofList matched :: q.parts text fuel stop.before stop.position stop.rest

/-- What stands before a line: the name of its file and its number, each with a mark. -/
def Query.label (q : Query) (name : String) (number : Nat) (mark : String) : String :=
  (if q.named then name ++ mark else "") ++
    (if q.given.has 'n' then Text.ofNat number ++ mark else "")

/-- The lines of a text with their numbers, of which no more are selected than asked for. -/
def Query.marked (q : Query) (text : String) : List (Nat × String × Bool) :=
  let all := (lines text).zipIdx.map fun (line, i) => (i + 1, line, q.selects line)
  match q.most with
  | none => all
  | some most =>
    (all.foldl (fun (found, n) (i, line, chosen) =>
      if chosen && n < most then (found ++ [(i, line, true)], n + 1)
      else (found ++ [(i, line, false)], n)) ([], 0)).1

/-- The lines that are printed for a text: those selected and their neighbours. Two marks stand
where lines are left out between. -/
def Query.output (q : Query) (name text : String) : String :=
  let all := q.marked text
  let chosen := (all.filter fun l => l.2.2).map Prod.fst
  if q.given.has 'o' then
    if q.given.has 'v' then ""
    else String.join ((all.filter fun l => l.2.2).flatMap fun (i, line, _) =>
      let cs := line.toList
      (q.parts cs (cs.length + 1) none 0 cs).map fun part => q.label name i ":" ++ part ++ "\n")
  else
    let near (i : Nat) : Bool := chosen.any fun c =>
      (i ≤ c && c ≤ i + q.before) || (c ≤ i && i ≤ c + q.after)
    let shown := all.filter fun l => near l.1
    let (out, _) := shown.foldl (fun (out, last) (i, line, isChosen) =>
      let gap := (q.before > 0 || q.after > 0) && last > 0 && i > last + 1
      (out ++ (if gap then "--\n" else "") ++ q.label name i (if isChosen then ":" else "-") ++
        line ++ "\n", i)) ("", 0)
    out

/-- Searches a text. Gives whether a line was selected. -/
def Query.run (q : Query) (name text : String) : Work Bool := do
  let count := ((q.marked text).filter fun l => l.2.2).length
  if q.given.has 'q' then return count > 0
  else if q.given.has 'l' then
    if count > 0 then say (name ++ "\n")
    return count > 0
  else if q.given.has 'L' then
    if count == 0 then say (name ++ "\n")
    return count == 0
  else if q.given.has 'c' then
    say ((if q.named then name ++ ":" else "") ++ Text.ofNat count ++ "\n")
    return count > 0
  else if text.toList.contains (Char.ofNat 0) && !q.given.has 'a' then
    if count > 0 then say ("grep: " ++ name ++ ": binary file matches\n")
    return count > 0
  else
    say (q.output name text)
    return count > 0

/-- The files below a directory with their paths. -/
def filesBelow (d : Disk) : Nat → String → Place → List String
  | 0, _, _ => []
  | fuel + 1, path, p =>
    if d.isDirectory p then
      (d.names p).flatMap fun name => filesBelow d fuel (joinPath path name) (p ++ [name])
    else [path]

/-- The options of a search. -/
def options : Options :=
  ⟨"EFGPivwxclLqsonHhrRaybTzZUu", "efmABCdD", [("regexp", 'e'), ("file", 'f'), ("ignore-case", 'i'),
    ("invert-match", 'v'), ("word-regexp", 'w'), ("line-regexp", 'x'), ("count", 'c'),
    ("files-with-matches", 'l'), ("files-without-match", 'L'), ("quiet", 'q'), ("silent", 'q'),
    ("no-messages", 's'), ("only-matching", 'o'), ("line-number", 'n'), ("with-filename", 'H'),
    ("no-filename", 'h'), ("recursive", 'r'), ("text", 'a'), ("max-count", 'm'),
    ("after-context", 'A'), ("before-context", 'B'), ("context", 'C'), ("extended-regexp", 'E'),
    ("fixed-strings", 'F'), ("basic-regexp", 'G'), ("perl-regexp", 'P'), ("color", 'T'),
    ("colour", 'T')]⟩

/-- How the tool is used. -/
def usage (name : String) : String :=
  "Usage: " ++ name ++ " [OPTION]... PATTERNS [FILE]...\n" ++ hint name

/-- Searches a file, or complains about it. -/
def Query.search (q : Query) (name path : String) : Work (Bool × Bool) := do
  match ← textOf path with
  | .ok text => return (← q.run (if path == "-" then "(standard input)" else path) text, false)
  | .error fault =>
    if !q.given.has 's' then warn (name ++ ": " ++ path ++ ": " ++ fault.sentence)
    return (false, true)

/-- The numeral with a sign that is short for an amount of context. -/
def oldContext (args : List String) : List String :=
  args.map fun a =>
    match a.toList with
    | '-' :: c :: cs => if (c :: cs).all Char.isDigit then "-C" ++ String.ofList (c :: cs) else a
    | _ => a

end Grep

/-- Searches files for lines. -/
def grep (form : Grep.Form) : Tool := fun name args => do
  match Grep.options.read (args.length + 1) (Grep.oldContext args) with
  | .error e => fail 2 (name ++ ": " ++ e ++ "\n" ++ Grep.usage name)
  | .ok g =>
    let form := (g.options.reverse.find? fun o => "EFGP".toList.contains o.1).elim form fun o =>
      if o.1 == 'F' then .fixed else if o.1 == 'G' then .basic
      else if o.1 == 'P' then .perl else .extended
    let t ← get
    let fileOf (path : String) := (t.disk.read t.here path).toOption.getD ""
    let explicit := g.options.flatMap fun
      | ('e', p) => Text.split '\n' p
      | ('f', path) => lines (fileOf path)
      | _ => []
    let hasPatterns := g.has 'e' || g.has 'f'
    match hasPatterns, g.operands with
    | false, [] => fail 2 (Grep.usage name)
    | _, operands =>
      let patterns := if hasPatterns then explicit else Text.split '\n' (operands.headD "")
      let files := if hasPatterns then operands else operands.tail
      let number (c : Char) := (g.value? c).bind fun v => Text.readNat? v.toList
      let wrong := ['A', 'B', 'C'].findSome? fun c =>
        (g.value? c).bind fun v => if (Text.readNat? v.toList).isNone then some v else none
      match wrong, Grep.compile form g patterns with
      | some v, _ => fail 2 (name ++ ": " ++ v ++ ": invalid context length argument")
      | none, .error fault => fail 2 (name ++ ": " ++ fault.text)
      | none, .ok r =>
        if form == .extended then
          for p in patterns do
            for sign in Regex.idleSigns form.dialect (p.length + 1) true p.toList do
              warn (name ++ ": warning: " ++ sign ++ " at start of expression")
        let deep := g.has 'r' || g.has 'R'
        let paths := if files.isEmpty then if deep then ["."] else ["-"] else files
        let expand (path : String) : List String :=
          match deep, t.disk.find t.here path with
          | true, .ok p => if t.disk.isDirectory p then
              (Grep.filesBelow t.disk 64 path p).map fun f =>
                if files.isEmpty && f.startsWith "./" then (f.drop 2).toString else f
            else [path]
          | _, _ => [path]
        let all := paths.flatMap expand
        let isWide := paths.length > 1 || (deep && paths.any fun path =>
          match t.disk.find t.here path with
          | .ok p => t.disk.isDirectory p
          | .error _ => false)
        let named := g.has 'H' || (isWide && !g.has 'h')
        let context := (number 'C').getD 0
        let q : Grep.Query := ⟨g, r, ⟨g.has 'i' || g.has 'y', false, form.dialect.extended⟩, named,
          (number 'B').getD context, (number 'A').getD context, number 'm'⟩
        let (found, failed) ← all.foldlM (fun (found, failed) path => do
          if found && g.has 'q' then return (found, failed)
          let (f, e) ← q.search name path
          return (found || f, failed || e)) (false, false)
        return if failed && !(found && g.has 'q') then 2 else if found then 0 else 1

end TensorCompiler.Tool
