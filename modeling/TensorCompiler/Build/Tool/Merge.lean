import TensorCompiler.Build.Tool.Basic

/-!
# Tools on two sorted files

The lines that two sorted files have in common, and the joins of their lines by a field. Both tools
complain about files that are not sorted once that matters.
-/

namespace TensorCompiler.Tool

/-- How strictly the order of lines is looked at. -/
inductive OrderCheck where
  | never
  /-- From the first line on that has no partner. -/
  | lenient
  | strict
deriving DecidableEq, Repr

/-- Reads how strictly the order of lines is looked at off options. -/
def OrderCheck.ofOptions (g : Given) : OrderCheck :=
  match (g.options.reverse.find? fun o => o.1 == 'K' || o.1 == 'N').map Prod.fst with
  | some 'K' => .strict
  | some _ => .never
  | none => .lenient

/-- A sorted file that is read. -/
structure Sorted where
  number : Nat
  name : String
  /-- The lines that are passed, the latest first. -/
  passed : List String
  rest : List String
  warned : Bool

/-- The current line. -/
def Sorted.line? (f : Sorted) : Option String := f.rest.head?

/-- Two sorted files that are read together. A stop ends the work at once. -/
structure Merging where
  first : Sorted
  second : Sorted
  unpaired : Bool
  stopped : Bool

namespace Merging

/-- Passes the current line of a file, and complains if the next one should have come before it. -/
def advance (check : OrderCheck) (before : String → String → Bool)
    (wording : Sorted → String → String) (name : String) (m : Merging) (first : Bool) :
    Work Merging := do
  let f := if first then m.first else m.second
  match f.rest with
  | [] => return m
  | line :: rest =>
    let moved := { f with passed := line :: f.passed, rest := rest }
    let looks := !f.warned && (check == .strict || (check == .lenient && m.unpaired))
    let wrong : Option String := match rest, f.passed with
      | next :: _, _ => if before next line then some next else none
      | [], last :: _ => if before line last then some line else none
      | [], [] => none
    let put (f : Sorted) : Merging :=
      if first then { m with first := f } else { m with second := f }
    match if looks then wrong else none with
    | none => return put moved
    | some text =>
      warn (name ++ ": " ++ wording moved text)
      return { put { moved with warned := true } with stopped := check == .strict }

/-- Complains at the end if one of the files was not sorted. -/
def conclude (m : Merging) (name : String) (status : Nat) : Work Nat :=
  if m.stopped then return 1
  else if m.first.warned || m.second.warned then
    fail 1 (name ++ ": input is not in sorted order")
  else return status

end Merging

/-- Reads the two files of a tool, and does something with them. -/
def withTwoFiles (name : String) (operands : List String)
    (act : Merging → Work Nat) : Work Nat := do
  match operands with
  | [] => misuse 1 name "missing operand"
  | [a] => misuse 1 name ("missing operand after " ++ quote a)
  | _ :: _ :: c :: _ => misuse 1 name ("extra operand " ++ quote c)
  | [a, b] =>
    match ← textOf a with
    | .error fault => fail 1 (about name a fault)
    | .ok first =>
      match ← textOf b with
      | .error fault => fail 1 (about name b fault)
      | .ok second =>
        act ⟨⟨1, a, [], lines first, false⟩, ⟨2, b, [], lines second, false⟩, false, false⟩

/-! ## Common lines -/

/-- Prints the lines of two files in three columns, and counts them. -/
def commLoop (check : OrderCheck) (name : String) (put : Nat → String → Work Unit) :
    Nat → Merging → List Nat → Work (Merging × List Nat)
  | 0, m, counts => return (m, counts)
  | fuel + 1, m, counts => do
    let order : Option Ordering := match m.first.line?, m.second.line? with
      | none, none => none
      | some _, none => some .lt
      | none, some _ => some .gt
      | some a, some b => some (compare a b)
    match order with
    | none => return (m, counts)
    | some order =>
      let column := match order with
        | .lt => 0
        | .gt => 1
        | .eq => 2
      let line := (if order == .gt then m.second.line? else m.first.line?).getD ""
      put column line
      let counts := counts.modify column (· + 1)
      let m := { m with unpaired := m.unpaired || order != .eq }
      let wording (f : Sorted) (_ : String) : String :=
        "file " ++ Text.ofNat f.number ++ " is not in sorted order"
      let go (m : Merging) (first : Bool) : Work Merging :=
        if m.stopped then return m
        else m.advance check (fun a b => decide (a < b)) wording name first
      let m ← if order == .gt then pure m else go m true
      let m ← if order == .lt then pure m else go m false
      if m.stopped then return (m, counts)
      commLoop check name put fuel m counts

/-- Prints the lines that only the first of two sorted files has, only the second, or both. -/
def comm : Tool := withOptions ⟨"123zKNT", "D", [("check-order", 'K'), ("nocheck-order", 'N'),
    ("output-delimiter", 'D'), ("total", 'T'), ("zero-terminated", 'z')]⟩ 1 fun name g =>
  withTwoFiles name g.operands fun m => do
    let hidden := ['1', '2', '3'].map g.has
    let delimiter := (g.value? 'D').getD "\t"
    let indent (column : Nat) : String :=
      String.join ((hidden.take column).map fun h => if h then "" else delimiter)
    let put (column : Nat) (line : String) : Work Unit :=
      if hidden.getD column false then return else say (indent column ++ line ++ "\n")
    let fuel := m.first.rest.length + m.second.rest.length + 1
    let (m, counts) ← commLoop (.ofOptions g) name put fuel m [0, 0, 0]
    if g.has 'T' && !m.stopped then
      say (Text.joinWith delimiter (counts.map Text.ofNat ++ ["total"]) ++ "\n")
    m.conclude name 0

/-! ## Joins -/

/-- How lines are joined. -/
structure JoinPlan where
  separator : Option Char
  ignoreCase : Bool
  /-- The field by which each file is joined, counted from zero. -/
  keys : Nat × Nat
  /-- The files whose lines without partners are printed. -/
  unpaired : List Nat
  paired : Bool
  empty : String
  /-- The fields that are printed, each a file and a field counted from zero; file zero stands for
  the field of the join. -/
  format : Option (List (Nat × Nat))

namespace JoinPlan

/-- The fields of a line. -/
def fields (p : JoinPlan) (line : String) : List String :=
  match p.separator with
  | some c => Text.split c line
  | none => (Text.split ' ' (line.map fun c => if c == '\t' then ' ' else c)).filter (!·.isEmpty)

/-- The field of a line by which it is joined. -/
def key (p : JoinPlan) (first : Bool) (line : String) : String :=
  let text := (p.fields line).getD (if first then p.keys.1 else p.keys.2) ""
  if p.ignoreCase then text.toLower else text

/-- The line for two lines, one of which may be missing. -/
def joined (p : JoinPlan) (a b : Option String) : String :=
  let separator := String.singleton (p.separator.getD ' ')
  let parts (line : Option String) : List String := (line.map p.fields).getD []
  let (x, y) := (parts a, parts b)
  let filled (t : Option String) : String :=
    match t with
    | some t => if t.isEmpty then p.empty else t
    | none => p.empty
  let shared : Option String := if a.isSome then x[p.keys.1]? else y[p.keys.2]?
  match p.format with
  | some list =>
    Text.joinWith separator (list.map fun (file, i) =>
      filled (match file with
        | 0 => shared
        | 1 => x[i]?
        | _ => y[i]?))
  | none =>
    Text.joinWith separator ((filled shared :: x.eraseIdx p.keys.1 ++ y.eraseIdx p.keys.2).map
      fun t => filled (some t))

/-- Passes the lines of a file that have a key, and gives them. -/
def run (p : JoinPlan) (advance : Merging → Bool → Work Merging) (first : Bool) (key : String) :
    Nat → Merging → Work (Merging × List String)
  | 0, m => return (m, [])
  | fuel + 1, m => do
    match (if first then m.first else m.second).line? with
    | none => return (m, [])
    | some line =>
      if p.key first line != key || m.stopped then return (m, [])
      let m ← advance m first
      let (m, others) ← p.run advance first key fuel m
      return (m, line :: others)

/-- Joins the lines of two files. -/
def loop (p : JoinPlan) (advance : Merging → Bool → Work Merging) : Nat → Merging → Work Merging
  | 0, m => return m
  | fuel + 1, m => do
    let alone (first : Bool) (line : String) : Work Merging := do
      if p.unpaired.contains (if first then 1 else 2) then
        let here := if first then some line else none
        let there := if first then none else some line
        say (p.joined here there ++ "\n")
      let other := (if first then m.second else m.first).line?
      let partner := other.isSome || (if first then m.second else m.first).passed.isEmpty
      let m ← advance { m with unpaired := m.unpaired || other.isSome || partner } first
      if m.stopped then return m else p.loop advance fuel m
    match m.first.line?, m.second.line? with
    | none, none => return m
    | some a, none => alone true a
    | none, some b => alone false b
    | some a, some b =>
      match compare (p.key true a) (p.key false b) with
      | .lt => alone true a
      | .gt => alone false b
      | .eq =>
        let key := p.key true a
        let (m, xs) ← p.run advance true key (m.first.rest.length + 1) m
        let (m, ys) ← p.run advance false key (m.second.rest.length + 1) m
        if p.paired then
          say (String.join (xs.flatMap fun x => ys.map fun y => p.joined (some x) (some y) ++ "\n"))
        if m.stopped then return m else p.loop advance fuel m

/-- Reads the fields that are to be printed. -/
def format? (text : String) : Except String (List (Nat × Nat)) :=
  let words := (Text.split ',' (text.map fun c => if c == ' ' || c == '\t' then ',' else c)).filter
    (!·.isEmpty)
  words.mapM fun w =>
    match Text.split '.' w with
    | ["0"] => .ok (0, 0)
    | [file, field] =>
      match file, Text.readNat? field.toList with
      | "1", some (n + 1) => .ok (1, n)
      | "2", some (n + 1) => .ok (2, n)
      | "1", _ | "2", _ => .error ("invalid field number: " ++ quote field)
      | _, _ => .error ("invalid file number in field spec: " ++ quote w)
    | _ => .error ("invalid field specifier: " ++ quote w)

/-- Reads the plan that options ask for. The fields that are printed may follow from the first lines
of the files. -/
def read (g : Given) (m : Merging) : Except String JoinPlan := do
  let field (c : Char) : Except String Nat :=
    match (g.value? c).orElse fun _ => g.value? 'j' with
    | none => .ok 0
    | some v =>
      match Text.readNat? v.toList with
      | some (n + 1) => .ok n
      | _ => .error ("invalid field number: " ++ quote v)
  let keys := (← field '1', ← field '2')
  let files (c : Char) : List Nat := g.options.filterMap fun o =>
    if o.1 == c then Text.readNat? o.2.toList else none
  let separator := (g.value? 't').bind fun v => v.toList.head?
  let p : JoinPlan := ⟨separator, g.has 'i', keys, files 'a' ++ files 'v', (g.value? 'v').isNone,
    (g.value? 'e').getD "", none⟩
  match g.value? 'o' with
  | none => return p
  | some "auto" =>
    let count (f : Sorted) : Nat := ((f.line?.map p.fields).getD []).length
    let others (file key n : Nat) : List (Nat × Nat) :=
      ((List.range n).filter (· != key)).map fun i => (file, i)
    return { p with format := some ((0, 0) :: others 1 keys.1 (count m.first) ++
      others 2 keys.2 (count m.second)) }
  | some text => return { p with format := some (← format? text) }

end JoinPlan

/-- Joins the lines of two sorted files that have a field in common. -/
def join : Tool := withOptions ⟨"iKNH", "12jtavoe", [("ignore-case", 'i'), ("check-order", 'K'),
    ("nocheck-order", 'N'), ("header", 'H')]⟩ 1 fun name g =>
  withTwoFiles name g.operands fun m => do
    match JoinPlan.read g m with
    | .error e => fail 1 (name ++ ": " ++ e)
    | .ok p =>
      let wording (f : Sorted) (text : String) : String :=
        let number := f.passed.length + (if f.rest.isEmpty then 0 else 1)
        f.name ++ ":" ++ Text.ofNat number ++ ": is not sorted: " ++ text
      let advance (m : Merging) (first : Bool) : Work Merging :=
        m.advance (.ofOptions g) (fun a b => decide (p.key first a < p.key first b)) wording name
          first
      let m ← if g.has 'H' then
          match m.first.line?, m.second.line? with
          | some a, some b => do
            say (p.joined (some a) (some b) ++ "\n")
            let skip (f : Sorted) : Sorted := { f with rest := f.rest.tail }
            pure { m with first := skip m.first, second := skip m.second }
          | _, _ => pure m
        else pure m
      let m ← p.loop advance (m.first.rest.length + m.second.rest.length + 1) m
      m.conclude name 0

end TensorCompiler.Tool
