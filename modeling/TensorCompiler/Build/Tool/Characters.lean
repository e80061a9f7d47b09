import TensorCompiler.Build.Pattern
import TensorCompiler.Build.Tool.Basic

/-!
# Tools on the characters of lines

Cuts lines and joins them, replaces characters by others, and puts blanks in the place of tabs and
tabs in the place of blanks.
-/

namespace TensorCompiler.Tool

/-- Reads a list of ranges of positions, the last position of a range open if it is left out. -/
def positions? (s : String) : Option (List (Nat × Option Nat)) :=
  (Text.split ',' s).mapM fun part =>
    match Text.split '-' part with
    | [a] => (Text.readNat? a.toList).map fun n => (n, some n)
    | [a, b] =>
      match a.isEmpty, b.isEmpty, Text.readNat? a.toList, Text.readNat? b.toList with
      | true, false, _, some n => some (1, some n)
      | false, true, some n, _ => some (n, none)
      | false, false, some n, some m => some (n, some m)
      | _, _, _, _ => none
    | _ => none

/-- Whether a position lies in one of some ranges. -/
def inPositions (ranges : List (Nat × Option Nat)) (n : Nat) : Bool :=
  ranges.any fun (low, high) => low ≤ n && high.all (n ≤ ·)

/-- Prints parts of lines. -/
def cut : Tool := withOptions ⟨"sn", "bcfdO", [("bytes", 'b'), ("characters", 'c'), ("fields", 'f'),
    ("delimiter", 'd'), ("only-delimited", 's'), ("output-delimiter", 'O'), ("complement", 'C')]⟩ 1
  fun name g => do
  let list := (g.options.find? fun o => o.1 == 'b' || o.1 == 'c' || o.1 == 'f')
  match list with
  | none => misuse 1 name "you must specify a list of bytes, characters, or fields"
  | some (kind, value) =>
    let delimiter := (g.value? 'd').getD "\t"
    if delimiter.length != 1 then misuse 1 name "the delimiter must be a single character"
    else
      match positions? value with
      | none => misuse 1 name ("invalid " ++ (if kind == 'f' then "field" else "byte/character") ++
          " value " ++ quote value)
      | some ranges =>
        if ranges.any fun r => r.1 == 0 then
          misuse 1 name ((if kind == 'f' then "fields" else "byte/character positions") ++
            " are numbered from 1")
        else if ranges.any fun r => r.2.any (· < r.1) then misuse 1 name "invalid decreasing range"
        else
          let chosen (n : Nat) := inPositions ranges n != g.has 'C'
          let d := delimiter.toList.headD '\t'
          forTexts g.operands (about name) (fun _ text => do
            let out := (lines text).filterMap fun line =>
              if kind == 'f' then
                let fields := Text.split d line
                if fields.length ≤ 1 then if g.has 's' then none else some line
                else some (Text.joinWith ((g.value? 'O').getD delimiter)
                  ((fields.zipIdx.filter fun (_, i) => chosen (i + 1)).map Prod.fst))
              else some (String.ofList ((line.toList.zipIdx.filter fun (_, i) =>
                chosen (i + 1)).map Prod.fst))
            say (unlines out)) 1

/-- The first character of a set as it is written, and what follows it. -/
def setChar? : List Char → Option (Char × List Char)
  | '\\' :: c :: rest =>
    match c with
    | 'n' => some ('\n', rest)
    | 't' => some ('\t', rest)
    | 'r' => some ('\r', rest)
    | 'a' => some (Char.ofNat 7, rest)
    | 'b' => some (Char.ofNat 8, rest)
    | 'f' => some (Char.ofNat 12, rest)
    | 'v' => some (Char.ofNat 11, rest)
    | _ =>
      let digits := ((c :: rest).take 3).takeWhile fun d => '0' ≤ d && d ≤ '7'
      if digits.isEmpty then some (c, rest)
      else some (Char.ofNat (digits.foldl (fun n d => 8 * n + (d.toNat - 48)) 0),
        (c :: rest).drop digits.length)
  | c :: rest => some (c, rest)
  | [] => none

/-- The characters of a set that a text writes: escapes, ranges and classes. -/
def charSet : Nat → List Char → Except String (List Char)
  | 0, _ => .ok []
  | _, [] => .ok []
  | fuel + 1, cs =>
    let before (found : List Char) (rest : List Char) := (charSet fuel rest).map (found ++ ·)
    let single : Except String (List Char) :=
      match setChar? cs with
      | none => .ok []
      | some (c, '-' :: rest) =>
        match setChar? rest with
        | some (d, behind) =>
          if c ≤ d then before ((List.range (d.toNat - c.toNat + 1)).map fun i =>
            Char.ofNat (c.toNat + i)) behind
          else .error ("range-endpoints of " ++
            quote (String.ofList [c, '-', d]) ++ " are in reverse collating sequence order")
        | none => .ok [c, '-']
      | some (c, rest) => before [c] rest
    match cs with
    | '[' :: ':' :: rest =>
      match Glob.className? (rest.map fun c => ⟨c, false⟩) with
      | some (name, behind) =>
        match namedClass? name with
        | some holds =>
          before (((List.range 256).map Char.ofNat).filter holds) (behind.map (·.char))
        | none => .error ("invalid character class " ++ quote name)
      | none => single
    | _ => single

/-- Drops the characters of a set that repeat the one before. -/
def squeeze (set : List Char) : List Char → List Char
  | c :: d :: cs =>
    if c == d && set.contains c then squeeze set (d :: cs) else c :: squeeze set (d :: cs)
  | cs => cs

/-- Replaces, deletes or squeezes characters of the input. -/
def tr : Tool := withOptions ⟨"cCdst", "", [("delete", 'd'), ("squeeze-repeats", 's'),
    ("complement", 'c'), ("truncate-set1", 't')]⟩ 1 fun name g => do
  let complement (set : List Char) :=
    if g.has 'c' || g.has 'C' then ((List.range 256).map Char.ofNat).filter (!set.contains ·)
    else set
  let sets := g.operands.map fun s => charSet (s.length + 1) s.toList
  let read (i : Nat) := ((sets[i]?).bind (·.toOption)).getD []
  let wrong := sets.findSome? fun
    | .error e => some e
    | .ok _ => none
  match wrong, g.operands with
  | some e, _ => fail 1 (name ++ ": " ++ e)
  | none, [] => misuse 1 name "missing operand"
  | none, [a] =>
    if g.has 'd' && !g.has 's' then
      let set := complement (read 0)
      say (String.ofList ((← takeInput).toList.filter (!set.contains ·)))
      return 0
    else if g.has 's' && !g.has 'd' then
      say (String.ofList (squeeze (complement (read 0)) (← takeInput).toList))
      return 0
    else
      misuse 1 name ("missing operand after " ++ quote a ++ "\n" ++
        (if g.has 'd' then "Two strings must be given when both deleting and squeezing repeats."
        else "Two strings must be given when translating."))
  | none, [_, b] =>
    let first := complement (read 0)
    let second := read 1
    if g.has 'd' then
      if g.has 's' then
        say (String.ofList (squeeze second ((← takeInput).toList.filter (!first.contains ·))))
        return 0
      else
        misuse 1 name ("extra operand " ++ quote b ++
          "\nOnly one string may be given when deleting without squeezing repeats.")
    else if second.isEmpty then
      fail 1 (name ++ ": when not truncating set1, string2 must be non-empty")
    else
      let last := second.getLast?.getD ' '
      let image (c : Char) := match first.reverse.idxOf? c with
        | some i => second.getD (first.length - 1 - i) last
        | none => c
      let out := (← takeInput).toList.map image
      say (String.ofList (if g.has 's' then squeeze second out else out))
      return 0
  | none, _ :: _ :: c :: _ => misuse 1 name ("extra operand " ++ quote c)

/-- Prints lines backwards. -/
def rev : Tool := fun name args =>
  forTexts args (fun path fault => name ++ ": cannot open " ++ path ++ ": " ++ fault.sentence)
    (fun _ text => say (String.join ((splitLines text.toList).map fun line =>
      let body := line.filter (· != '\n')
      String.ofList (body.reverse ++ line.drop body.length)))) 1

/-- Cuts lines to a width. -/
def fold : Tool :=
  withOptions ⟨"bs", "w", [("width", 'w'), ("bytes", 'b'), ("spaces", 's')]⟩ 1 fun name g =>
  let asked := (g.value? 'w').getD "80"
  let width := (Text.readNat? asked.toList).getD 0
  let wrap (cs : List Char) : List Char :=
    (cs.foldl (fun (out, n) c =>
      if c == '\n' then (c :: out, 0)
      else if n == width then (c :: '\n' :: out, 1)
      else (c :: out, n + 1)) (([] : List Char), 0)).1.reverse
  if width == 0 then fail 1 (name ++ ": invalid number of columns: " ++ shellQuote asked)
  else forTexts g.operands (about name) (fun _ text => say (String.ofList (wrap text.toList))) 1

/-- Puts lines of several files side by side. -/
def paste : Tool :=
  withOptions ⟨"s", "d", [("serial", 's'), ("delimiters", 'd')]⟩ 1 fun name g => do
  let delimiters := match charSet 100 ((g.value? 'd').getD "\t").toList with
    | .ok [] | .error _ => [""]
    | .ok ds => ds.map String.singleton
  let join (items : List String) : String :=
    (items.zipIdx.foldl (fun out (item, i) =>
      if i == 0 then item else out ++ delimiters.getD ((i - 1) % delimiters.length) "" ++ item) "")
  let paths := if g.operands.isEmpty then ["-"] else g.operands
  let texts ← paths.mapM textOf
  match (paths.zip texts).findSome? fun (p, t) => match t with
    | .error fault => some (p, fault)
    | .ok _ => none with
  | some (path, fault) => fail 1 (about name path fault)
  | none =>
    let columns := texts.map fun
      | .ok text => lines text
      | .error _ => []
    if g.has 's' then say (unlines (columns.map join))
    else
      let rows := columns.foldl (fun n c => max n c.length) 0
      say (unlines ((List.range rows).map fun i => join (columns.map fun c => c.getD i "")))
    return 0

/-! ## Tabs and blanks -/

/-- Where tabs lead to: every so many columns, or to the columns of a list. -/
inductive TabStops where
  | every (n : Nat)
  | at (columns : List Nat)

namespace TabStops

/-- The column that a tab leads to from another; nothing behind the last one of a list. -/
def next? (t : TabStops) (column : Nat) : Option Nat :=
  match t with
  | .every n => some ((column / n + 1) * n)
  | .at columns => columns.find? (column < ·)

/-- Reads where tabs lead to. -/
def read (text : String) : Except String TabStops :=
  let words := (Text.split ',' (text.map fun c => if c == ' ' then ',' else c)).filter (!·.isEmpty)
  match words.find? fun w => (Text.readNat? w.toList).isNone with
  | some w =>
    let wrong := String.ofList (w.toList.dropWhile Char.isDigit)
    .error ("tab size contains invalid character(s): " ++ quote wrong)
  | none =>
    let columns := words.filterMap fun w => Text.readNat? w.toList
    if columns.contains 0 then .error "tab size cannot be 0"
    else match columns with
      | [] => .ok (.every 8)
      | [n] => .ok (.every n)
      | columns =>
        if (columns.zip columns.tail).any fun (a, b) => b ≤ a then
          .error "tab sizes must be ascending"
        else .ok (.at columns)

end TabStops

/-- A line with blanks in the place of its tabs, of all or only of those at its start. -/
def expandLine (stops : TabStops) (initial : Bool) : Nat → Bool → List Char → List Char
  | _, _, [] => []
  | column, atStart, c :: cs =>
    if c == '\t' && (atStart || !initial) then
      let stop := (stops.next? column).getD (column + 1)
      List.replicate (stop - column) ' ' ++ expandLine stops initial stop atStart cs
    else if c == Char.ofNat 8 then
      c :: expandLine stops initial (column - 1) false cs
    else
      c :: expandLine stops initial (column + 1) (atStart && (c == ' ' || c == '\t')) cs

/-- A line that is being filled with tabs: what is written, latest first, the blanks that wait, and
the columns where they start and end. -/
structure Unexpanding where
  written : List Char
  waiting : List Char
  column : Nat
  /-- Whether blanks are still turned into tabs. -/
  active : Bool
  /-- Whether the last character was a blank at a stop. -/
  lone : Bool

/-- Takes one character of a line. A single blank before a stop stays a blank, unless more of them
follow. -/
def Unexpanding.step (stops : TabStops) (all : Bool) (u : Unexpanding) (c : Char) : Unexpanding :=
  let flush (u : Unexpanding) : Unexpanding :=
    { u with written := u.waiting ++ u.written, waiting := [] }
  let plain (u : Unexpanding) : Unexpanding :=
    let u := flush u
    { u with written := c :: u.written, column := u.column + 1, active := u.active && all,
             lone := false }
  if !u.active then { u with written := c :: u.written }
  else if c != ' ' && c != '\t' then plain u
  else match stops.next? u.column with
    | none => { flush u with written := c :: (flush u).written, active := false }
    | some stop =>
      if c == '\t' then
        { u with written := '\t' :: u.written, waiting := [], column := stop, lone := false }
      else if u.column + 1 == stop then
        if u.waiting.isEmpty then
          { u with waiting := [' '], column := stop, lone := true }
        else { u with written := '\t' :: u.written, waiting := [], column := stop, lone := false }
      else
        let u := if u.lone then { u with written := '\t' :: u.written, waiting := [] } else u
        { u with waiting := ' ' :: u.waiting, column := u.column + 1, lone := false }

/-- A line with tabs in the place of its blanks. -/
def unexpandLine (stops : TabStops) (all : Bool) (line : List Char) : List Char :=
  let u := line.foldl (Unexpanding.step stops all) ⟨[], [], 0, true, false⟩
  (u.waiting ++ u.written).reverse

/-- The options of the tools on tabs, with old ones that are numbers. -/
def tabArguments (args : List String) : List String :=
  args.flatMap fun a =>
    match a.toList with
    | '-' :: c :: cs => if c.isDigit then ["-t", String.ofList (c :: cs)] else [a]
    | _ => [a]

/-- Changes the tabs of files. -/
def retab (options : Options) (change : TabStops → Given → List Char → List Char) : Tool :=
  fun name args => withOptions options 1 (fun name g =>
    match (g.value? 't').elim (.ok (.every 8)) TabStops.read with
    | .error e => fail 1 (name ++ ": " ++ e)
    | .ok stops => forTexts g.operands (about name) (fun _ text =>
        say (String.join ((brokenLines text).map fun l =>
          let cs := l.toList
          let body := cs.takeWhile (· != '\n')
          String.ofList (change stops g body ++ cs.drop body.length)))) 1) name (tabArguments args)

/-- Puts blanks in the place of tabs. -/
def expand : Tool :=
  retab ⟨"i", "t", [("initial", 'i'), ("tabs", 't')]⟩ fun stops g line =>
    expandLine stops (g.has 'i') 0 true line

/-- Puts tabs in the place of blanks. -/
def unexpand : Tool :=
  retab ⟨"aF", "t", [("all", 'a'), ("first-only", 'F'), ("tabs", 't')]⟩ fun stops g line =>
    unexpandLine stops ((g.has 'a' || g.has 't') && !g.has 'F') line

end TensorCompiler.Tool
