import TensorCompiler.Build.Pattern
import TensorCompiler.Build.Tool.Alignment
import TensorCompiler.Build.Tool.Basic
import TensorCompiler.Build.Tool.Files

/-!
# Comparing files

Compares files byte by byte, up to the first difference or to the end of the shorter one.
-/

namespace TensorCompiler.Tool

/-- The octal digits of a number. -/
def octalText (n : Nat) : String := String.ofList (Nat.toDigits 8 n)

/-- The position and the line of the first difference of two texts, or of the end of the shorter. -/
def firstDifference : Nat → Nat → List Char → List Char → Option (Nat × Nat × Bool)
  | _, _, [], [] => none
  | n, line, [], _ => some (n, line, true)
  | n, line, _, [] => some (n, line, true)
  | n, line, c :: cs, d :: ds =>
    if c == d then firstDifference (n + 1) (if c == '\n' then line + 1 else line) cs ds
    else some (n, line, false)

/-- Compares two files byte by byte. -/
def cmp : Tool := withOptions ⟨"sbl", "", [("silent", 's'), ("quiet", 's')]⟩ 2 fun name g => do
  match g.operands with
  | [] =>
    fail 2 (name ++ ": missing operand after " ++ quote name ++ "\n" ++ name ++ ": " ++ hint name)
  | a :: rest =>
    let b := rest.headD "-"
    match ← textOf a, ← textOf b with
    | .error fault, _ => fail 2 (name ++ ": " ++ a ++ ": " ++ fault.sentence)
    | _, .error fault => fail 2 (name ++ ": " ++ b ++ ": " ++ fault.sentence)
    | .ok x, .ok y =>
      match firstDifference 1 1 x.toList y.toList with
      | none => return 0
      | some (n, line, ended) =>
        if g.has 's' then return 1
        else if g.has 'l' then
          let found := (x.toList.zip y.toList).zipIdx.filter fun ((c, d), _) => c != d
          let width := (Text.ofNat (min x.length y.length)).length
          say (unlines (found.map fun ((c, d), i) => padLeft width (Text.ofNat (i + 1)) ++ " " ++
            padLeft 3 (octalText c.toNat) ++ " " ++ padLeft 3 (octalText d.toNat)))
          return 1
        else if ended then
          let short := if x.length < y.length then a else b
          let text := if x.length < y.length then x else y
          if text.isEmpty then fail 1 (name ++ ": EOF on " ++ short ++ " which is empty")
          else fail 1 (name ++ ": EOF on " ++ short ++ " after byte " ++ Text.ofNat (n - 1) ++
            (if text.endsWith "\n" then ", line " ++ Text.ofNat (line - 1)
            else ", in line " ++ Text.ofNat line))
        else
          say (a ++ " " ++ b ++ " differ: char " ++ Text.ofNat n ++ ", line " ++ Text.ofNat line ++
            "\n")
          return 1

/-!
## Differences

An alignment says which lines of two files are changed. The lines next to each other that are
dropped or added make a hunk; hunks are shown by themselves, or in groups with the lines around
them.
-/

/-- What becomes of a line on the way from one text to another. -/
inductive LineEdit where
  | keep (line : String)
  | drop (line : String)
  | add (line : String)
deriving DecidableEq, Repr

namespace LineEdit

/-- The edits from one list of lines to another, of which some are marked as changed. Lines that are
not stay as they are. -/
def between : List Bool → List Bool → List String → List String → List LineEdit
  | true :: ms, ns, a :: as, bs => drop a :: between ms ns as bs
  | ms, true :: ns, as, b :: bs => add b :: between ms ns as bs
  | ms, ns, a :: as, b :: bs =>
    if a == b then keep a :: between ms.tail ns.tail as bs
    else drop a :: add b :: between ms.tail ns.tail as bs
  | _, _, as, bs => as.map drop ++ bs.map add
termination_by _ _ as bs => as.length + bs.length

/-- Lines next to each other that are dropped or added, with the numbers of the lines before them.
-/
structure Hunk where
  dropped : List String
  added : List String
  before : Nat × Nat

/-- The hunks of edits, from the numbers of the lines before on. -/
def hunks : Nat × Nat → Option Hunk → List LineEdit → List Hunk
  | _, h, [] => h.toList
  | (i, j), h, keep _ :: es => h.toList ++ hunks (i + 1, j + 1) none es
  | (i, j), h, drop line :: es =>
    let h := h.getD ⟨[], [], (i, j)⟩
    hunks (i + 1, j) (some { h with dropped := h.dropped ++ [line] }) es
  | (i, j), h, add line :: es =>
    let h := h.getD ⟨[], [], (i, j)⟩
    hunks (i, j + 1) (some { h with added := h.added ++ [line] }) es

/-- The numbers of some lines behind others. -/
def range (before count : Nat) : String :=
  if count == 0 then Text.ofNat before
  else if count == 1 then Text.ofNat (before + 1)
  else Text.ofNat (before + 1) ++ "," ++ Text.ofNat (before + count)

/-- A line behind a mark. A line without a break at its end is spoken of. -/
def marked (mark line : String) : String :=
  if line.endsWith "\n" then mark ++ line else mark ++ line ++ "\n\\ No newline at end of file\n"

/-- The lines of a text behind a mark. -/
def markedLines (mark : String) (found : List String) : String :=
  String.join (found.map (marked mark))

namespace Hunk

/-- The number of the line behind a hunk in the first file, counted from zero. -/
def ending (h : Hunk) : Nat := h.before.1 + h.dropped.length

/-- The number of the line behind a hunk in the second file, counted from zero. -/
def newEnding (h : Hunk) : Nat := h.before.2 + h.added.length

/-- The text of a hunk. -/
def text (h : Hunk) : String :=
  let letter := match h.dropped.isEmpty, h.added.isEmpty with
    | true, _ => "a"
    | _, true => "d"
    | _, _ => "c"
  range h.before.1 h.dropped.length ++ letter ++ range h.before.2 h.added.length ++ "\n" ++
    markedLines "< " h.dropped ++ (if letter == "c" then "---\n" else "") ++
    markedLines "> " h.added

end Hunk

/-! ## Groups of hunks -/

/-- Hunks that are shown together: those with no more than some lines between them. -/
def groups (between : Nat) : List Hunk → List (List Hunk)
  | [] => []
  | h :: hs =>
    match groups between hs with
    | (next :: more) :: rest =>
      if next.before.1 - h.ending ≤ between then (h :: next :: more) :: rest
      else [h] :: (next :: more) :: rest
    | rest => [h] :: rest

/-- Hunks that are shown together, with the lines around them. -/
structure Group where
  hunks : List Hunk
  /-- The lines of the first file and of the second. -/
  first : List String
  second : List String
  /-- The numbers of the first line that is shown in both files, counted from zero. -/
  start : Nat × Nat
  /-- The numbers of the line behind the last one that is shown. -/
  stop : Nat × Nat

namespace Group

/-- A group with a number of lines before and behind it. -/
def make (around : Nat) (first second : List String) (found : List Hunk) : Group :=
  let head := found.head?.getD ⟨[], [], (0, 0)⟩
  let last := found.getLast?.getD ⟨[], [], (0, 0)⟩
  let lead := min around head.before.1
  let tail := min around (first.length - last.ending)
  ⟨found, first, second, (head.before.1 - lead, head.before.2 - lead),
    (last.ending + tail, last.newEnding + tail)⟩

/-- Lines of a list from one place up to another. -/
def slice (found : List String) (start stop : Nat) : List String :=
  (found.drop start).take (stop - start)

/-- The numbers of lines in a group whose lines stand in one list. -/
def unifiedRange (start stop : Nat) : String :=
  if stop == start + 1 then Text.ofNat stop
  else if stop == start then Text.ofNat start ++ ",0"
  else Text.ofNat (start + 1) ++ "," ++ Text.ofNat (stop - start)

/-- A group as one list of lines: those that are dropped and added stand among those that are kept.
-/
def unified (g : Group) : String :=
  let step (done : String × Nat) (h : Hunk) : String × Nat :=
    (done.1 ++ markedLines " " (slice g.first done.2 h.before.1) ++ markedLines "-" h.dropped ++
      markedLines "+" h.added, h.ending)
  let (body, reached) := g.hunks.foldl step ("", g.start.1)
  "@@ -" ++ unifiedRange g.start.1 g.stop.1 ++ " +" ++ unifiedRange g.start.2 g.stop.2 ++
    " @@\n" ++ body ++ markedLines " " (slice g.first reached g.stop.1)

/-- The numbers of lines in a group whose lines stand in two lists. -/
def contextRange (start stop : Nat) : String :=
  if stop ≤ start + 1 then Text.ofNat stop
  else Text.ofNat (start + 1) ++ "," ++ Text.ofNat stop

/-- The lines that a group shows of one file. `part` gives the lines of a hunk in that file, where
they start, and what the other file has for them. -/
def side (shown : List String) (start stop : Nat) (mark : String)
    (part : Hunk → List String × Nat × List String) (found : List Hunk) : String :=
  if found.all fun h => (part h).1.isEmpty then ""
  else
    let step (done : String × Nat) (h : Hunk) : String × Nat :=
      let (own, place, others) := part h
      (done.1 ++ markedLines "  " (slice shown done.2 place) ++
        markedLines (if others.isEmpty then mark else "! ") own, place + own.length)
    let (body, reached) := found.foldl step ("", start)
    body ++ markedLines "  " (slice shown reached stop)

/-- A group as two lists of lines, one of each file. -/
def context (g : Group) : String :=
  "***************\n*** " ++ contextRange g.start.1 g.stop.1 ++ " ****\n" ++
    side g.first g.start.1 g.stop.1 "- " (fun h => (h.dropped, h.before.1, h.added)) g.hunks ++
    "--- " ++ contextRange g.start.2 g.stop.2 ++ " ----\n" ++
    side g.second g.start.2 g.stop.2 "+ " (fun h => (h.added, h.before.2, h.dropped)) g.hunks

end Group
end LineEdit

/-! ## Files -/

/-- How differences are shown. -/
inductive DifferenceForm where
  | plain
  | unified (around : Nat)
  | context (around : Nat)
deriving DecidableEq, Repr

/-- How many lines are shown around differences. -/
def DifferenceForm.around : DifferenceForm → Nat
  | .plain => 0
  | .unified n | .context n => n

namespace Difference

/-- What stands for a line when lines are compared. -/
def key (g : Given) (line : String) : String :=
  let isBlank (c : Char) : Bool := " \t\r\x0b\x0c".toList.contains c
  let ending := if line.endsWith "\n" then "\n" else ""
  let body := if ending.isEmpty then line.toList else line.toList.dropLast
  let body := if g.has 'w' then body.filter (!isBlank ·)
    else if g.has 'b' then
      (body.foldr (fun c rest => if !isBlank c then c :: rest
        else match rest with
          | [] => []
          | ' ' :: _ => rest
          | rest => ' ' :: rest) [])
    else body
  let loose := g.has 'w' || g.has 'b'
  let text := String.ofList body ++ (if loose then "\n" else ending)
  if g.has 'i' then text.toLower else text

/-- The hunks between two texts. Those of empty lines alone may be left out. -/
def hunks (g : Given) (around : Nat) (as bs : List String) : List LineEdit.Hunk :=
  let keysA := as.map (key g)
  let keysB := bs.map (key g)
  let (a, b) := Alignment.ofFiles around as bs keysA keysB
  let found := LineEdit.hunks (0, 0) none (LineEdit.between a b keysA keysB)
  let found := found.map fun h => { h with
    dropped := LineEdit.Group.slice as h.before.1 (h.before.1 + h.dropped.length)
    added := LineEdit.Group.slice bs h.before.2 (h.before.2 + h.added.length) }
  if g.has 'B' then found.filter fun h => (h.dropped ++ h.added).any (· != "\n") else found

/-- The name of a file and the time of its last change, or what it is called instead. -/
def heading (t : Task) (name : String) (label : Option String) : String :=
  match label with
  | some label => label
  | none =>
    let changed := match t.disk.find t.here name with
      | .ok p => some (t.disk.factsOf p).changed
      | .error _ => if name == "-" then some (t.disk.now : Int) else none
    let moment := changed.elim ⟨0, 0⟩ Calendar.Moment.after
    name ++ "\t" ++ moment.text "%Y-%m-%d %H:%M:%S.%N %z"

/-- The text of the differences between two texts. -/
def text (t : Task) (g : Given) (form : DifferenceForm) (a b x y : String) : String :=
  let as := brokenLines x
  let bs := brokenLines y
  let found := hunks g form.around as bs
  let labels := (g.options.filter (·.1 == 'L')).map Prod.snd
  let grouped (around : Nat) (first second : String) (show_ : LineEdit.Group → String) : String :=
    if found.isEmpty then ""
    else
      first ++ heading t a labels.head? ++ "\n" ++ second ++ heading t b labels[1]? ++ "\n" ++
        String.join ((LineEdit.groups (2 * around) found).map fun hs =>
          show_ (LineEdit.Group.make around as bs hs))
  match form with
  | .plain => String.join (found.map LineEdit.Hunk.text)
  | .unified around => grouped around "--- " "+++ " LineEdit.Group.unified
  | .context around => grouped around "*** " "--- " LineEdit.Group.context

/-- Compares two texts, and gives what is said about them and whether they differ. `lead` stands
before the differences. -/
def compare (t : Task) (g : Given) (form : DifferenceForm) (lead a b x y : String) :
    String × Bool :=
  let isBinary (s : String) : Bool := s.toList.contains (Char.ofNat 0)
  let same := if g.has 's' then "Files " ++ a ++ " and " ++ b ++ " are identical\n" else ""
  let loose := ['w', 'b', 'i', 'B'].any g.has
  if x == y then (same, false)
  else if !g.has 'a' && (isBinary x || isBinary y) then
    ((if g.has 'q' then "Files " else "Binary files ") ++ a ++ " and " ++ b ++ " differ\n", true)
  else if loose && (hunks g form.around (brokenLines x) (brokenLines y)).isEmpty then (same, false)
  else if g.has 'q' then ("Files " ++ a ++ " and " ++ b ++ " differ\n", true)
  else (lead ++ text t g form a b x y, true)

/-- Compares what stands in two directories, and what stands below if that is asked for. `lead`
stands before the names of two files that differ. -/
def directories (t : Task) (g : Given) (form : DifferenceForm) (lead : String) :
    Nat → String → String → String × Bool
  | 0, _, _ => ("", false)
  | fuel + 1, a, b =>
    let names (path : String) : List String :=
      (t.disk.find t.here path).toOption.elim [] t.disk.names
    let excluded := (g.options.filter (·.1 == 'x')).map fun o =>
      Glob.read false (o.2.toList.map fun c => ⟨c, false⟩)
    let all := (names a ++ (names b).filter fun n => !(names a).contains n).filter fun n =>
      !excluded.any fun p => Glob.accepts p n.toList
    let sorted := all.mergeSort fun m n => decide (m ≤ n)
    let entry (path : String) : Option Entry :=
      (t.disk.find t.here path).toOption.bind t.disk.get?
    let content : Option Entry → Option String
      | some (.file text) => some text
      | none => if g.has 'N' then some "" else none
      | _ => none
    let isFolder : Option Entry → Bool
      | some .directory => true
      | none => g.has 'N'
      | _ => false
    let one (name : String) : String × Bool :=
      let first := joinPath a name
      let second := joinPath b name
      let left := entry first
      let right := entry second
      if left.isNone && !g.has 'N' then ("Only in " ++ b ++ ": " ++ name ++ "\n", true)
      else if right.isNone && !g.has 'N' then ("Only in " ++ a ++ ": " ++ name ++ "\n", true)
      else if isFolder left && isFolder right then
        if g.has 'r' then directories t g form lead fuel first second
        else ("Common subdirectories: " ++ first ++ " and " ++ second ++ "\n", false)
      else
        match content left, content right with
        | some x, some y =>
          compare t g form (lead ++ first ++ " " ++ second ++ "\n") first second x y
        | _, _ =>
          let kind (e : Option Entry) : String := e.elim "" Entry.kind
          ("File " ++ first ++ " is a " ++ kind left ++ " while file " ++ second ++ " is a " ++
            kind right ++ "\n", true)
    sorted.foldl (fun done name =>
      let (text, differs) := one name
      (done.1 ++ text, done.2 || differs)) ("", false)

/-- The options of the tool that shows differences. -/
def options : Options :=
  ⟨"qsbBwiucrNae0123456789", "UCLx", [("brief", 'q'), ("report-identical-files", 's'),
    ("ignore-space-change", 'b'), ("ignore-blank-lines", 'B'), ("ignore-all-space", 'w'),
    ("ignore-case", 'i'), ("recursive", 'r'), ("new-file", 'N'), ("text", 'a'), ("label", 'L'),
    ("exclude", 'x')]⟩

/-- The number of lines around differences, and whether they are shown in one list or in two. -/
def form? (g : Given) : Except String DifferenceForm :=
  let digits := (g.options.map (·.1)).filter Char.isDigit
  let plain := (Text.readNat? digits).getD 3
  let read (value : String) (make : Nat → DifferenceForm) : Except String DifferenceForm :=
    match Text.readNat? value.toList with
    | some n => .ok (make n)
    | none => .error ("invalid context length " ++ quote value)
  match g.value? 'U', g.value? 'C' with
  | some n, _ => read n .unified
  | none, some n => read n .context
  | none, none => .ok (if g.has 'u' then .unified plain
      else if g.has 'c' then .context plain else .plain)

end Difference

/-- Shows the differences of two files, or of all files in two directories. -/
def diff : Tool := fun name args => do
  let failed (text : String) : Work Nat :=
    fail 2 (name ++ ": " ++ text ++ "\n" ++ name ++ ": " ++ hint name)
  let spelled (arg : String) : String :=
    if arg == "--unified" then "-u" else if arg == "--context" then "-c"
    else if arg.startsWith "--unified=" then "-U" ++ (arg.drop 10).toString
    else if arg.startsWith "--context=" then "-C" ++ (arg.drop 10).toString
    else arg
  match Difference.options.read (args.length + 1) (args.map spelled) with
  | .error e => failed e
  | .ok g =>
  match Difference.form? g, g.operands with
  | .error e, _ => failed e
  | _, [] => failed ("missing operand after " ++ quote (args.getLast?.getD name))
  | _, [a] => failed ("missing operand after " ++ quote a)
  | .ok form, [a, b] =>
    let t ← get
    let isDirectory (path : String) : Bool :=
      path != "-" && (t.disk.find t.here path).toOption.any t.disk.isDirectory
    let isThere (path : String) : Bool :=
      path == "-" || (t.disk.find t.here path).toOption.any fun p => (t.disk.get? p).isSome
    let isEmptyFolder (path : String) : Bool := g.has 'N' && !isThere path
    if (isDirectory a && (isDirectory b || isEmptyFolder b)) ||
        (isEmptyFolder a && isDirectory b) then
      let switches := (args.filter fun arg => !g.operands.contains arg).map shellWord
      let lead := Text.joinWith " " (name :: switches) ++ " "
      let (text, differs) := Difference.directories t g form lead 64 a b
      say text
      return if differs then 1 else 0
    else if (isDirectory a && b == "-") || (a == "-" && isDirectory b) then
      fail 2 (name ++ ": cannot compare " ++ quote "-" ++ " to a directory")
    else
      let a' := if isDirectory a && isThere b then joinPath a (baseName b) else a
      let b' := if isDirectory b && isThere a then joinPath b (baseName a) else b
      let left ← textOf a'
      let right ← textOf b'
      let isNew := g.has 'N'
      let (left, right) : Except FileFault String × Except FileFault String :=
        match left, right with
        | .error .missing, .ok y => if isNew then (.ok "", .ok y) else (left, right)
        | .ok x, .error .missing => if isNew then (.ok x, .ok "") else (left, right)
        | left, right => (left, right)
      let faults := [(a', left), (b', right)].filterMap fun (path, found) => match found with
        | .error fault => if isDirectory path then none else some (path, fault)
        | .ok _ => none
      match faults, left, right with
      | [], .ok x, .ok y =>
        let (text, differs) := Difference.compare t g form "" a' b' x y
        say text
        return if differs then 1 else 0
      | faults, _, _ =>
        for (path, fault) in faults do
          warn (name ++ ": " ++ path ++ ": " ++ fault.sentence)
        return 2
  | _, _ :: _ :: c :: _ => failed ("extra operand " ++ quote c)

end TensorCompiler.Tool
