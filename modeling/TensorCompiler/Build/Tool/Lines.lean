import TensorCompiler.Build.Tool.Basic

/-!
# Tools on lines

The tools that print lines, or some of them, and count them.
-/

namespace TensorCompiler.Tool

/-! ## Printing -/

/-- How a text is shown with marks for its tabs, its ends of lines and its unprintable bytes. -/
structure Marks where
  tabs : Bool
  ends : Bool
  bytes : Bool

/-- A byte below 128 with a caret, if it is unprintable. -/
def caret (n : Nat) : List Char :=
  if n < 32 then ['^', Char.ofNat (n + 64)] else if n == 127 then ['^', '?'] else [Char.ofNat n]

/-- A byte with the marks that are asked for. -/
def Marks.show (m : Marks) (c : Char) : List Char :=
  if c == '\n' then if m.ends then ['$', '\n'] else ['\n']
  else if c == '\t' then if m.tabs then ['^', 'I'] else ['\t']
  else if !m.bytes then [c]
  else if c.toNat < 128 then caret c.toNat
  else 'M' :: '-' :: caret (c.toNat - 128)

/-- Numbers lines and drops blank ones that follow one another, as asked. The number, whether a line
starts and whether a blank line came last are kept from one text to the next. -/
def numberLines (all filled squeeze : Bool) (m : Marks) (state : Nat × Bool × Bool)
    (text : String) : (Nat × Bool × Bool) × String :=
  let step := fun (state : (Nat × Bool × Bool) × String) (line : List Char) =>
    let ((n, starts, blank), out) := state
    let isBlank := starts && line == ['\n']
    if isBlank && blank && squeeze then state
    else
      let counts := starts && (all || filled) && !(filled && isBlank)
      let n := if counts then n + 1 else n
      let label := if counts then padLeft 6 (Text.ofNat n) ++ "\t" else ""
      ((n, line.getLast? == some '\n', isBlank), out ++ label ++
        String.ofList (line.flatMap m.show))
  (splitLines text.toList).foldl step (state, "")

/-- Prints files one after the other. -/
def cat : Tool := withOptions ⟨"nbsETvAetu", "", [("number", 'n'), ("number-nonblank", 'b'),
    ("squeeze-blank", 's'), ("show-ends", 'E'), ("show-tabs", 'T'), ("show-nonprinting", 'v'),
    ("show-all", 'A')]⟩ 1 fun name g => do
  let all := g.has 'A'
  let m : Marks := ⟨all || g.has 'T' || g.has 't', all || g.has 'E' || g.has 'e',
    all || g.has 'v' || g.has 'e' || g.has 't'⟩
  let paths := if g.operands.isEmpty then ["-"] else g.operands
  let (status, _) ← paths.foldlM (fun (status, state) path => do
    match ← textOf path with
    | .error fault => return (← fail 1 (about name path fault), state)
    | .ok text =>
      let (state, out) := numberLines (g.has 'n') (g.has 'b') (g.has 's') m state text
      say out
      return (status, state)) (0, (0, true, false))
  return status

/-- Prints the lines of files, the last one first. -/
def tac : Tool := withOptions ⟨"b", "s", []⟩ 1 fun name g =>
  forTexts g.operands
    (fun path fault =>
      name ++ ": failed to open " ++ shellQuote path ++ " for reading: " ++ fault.sentence)
    (fun _ text => say (String.join (brokenLines text).reverse)) 1

/-- A count with a suffix for its unit. -/
def readCount? (s : String) : Option Nat :=
  let digits := s.toList.takeWhile Char.isDigit
  let unit := match s.toList.drop digits.length with
    | [] => some 1
    | ['b'] => some 512
    | ['k'] | ['K'] => some 1024
    | ['M'] => some (1024 * 1024)
    | _ => none
  match Text.readNat? digits, unit with
  | some n, some u => some (n * u)
  | _, _ => none

/-- The line that announces a file among several. -/
def banner (first : Bool) (path : String) : String :=
  (if first then "" else "\n") ++ "==> " ++ (if path == "-" then "standard input" else path) ++
    " <==\n"

/-- The old form of a count as the first argument. -/
def oldCount (args : List String) : List String :=
  match args with
  | a :: rest =>
    match a.toList with
    | '-' :: c :: cs =>
      if (c :: cs).all Char.isDigit then "-n" :: String.ofList (c :: cs) :: rest else args
    | _ => args
  | [] => args

/-- Does something with the texts of operands, under a banner if there are several. -/
def withBanners (name : String) (g : Given) (act : String → String → Work Unit) : Work Nat := do
  let paths := if g.operands.isEmpty then ["-"] else g.operands
  let shown := (paths.length > 1 && !g.has 'q') || g.has 'v'
  let (status, _) ← paths.foldlM (fun (status, first) path => do
    match ← textOf path with
    | .error .isDirectory =>
      if shown then say (banner first path)
      return (← fail 1 (name ++ ": error reading " ++ shellQuote path ++ ": Is a directory"), false)
    | .error fault =>
      return (← fail 1 (name ++ ": cannot open " ++ shellQuote path ++ " for reading: " ++
        fault.sentence), first)
    | .ok text =>
      if shown then say (banner first path)
      act path text
      return (status, false)) (0, true)
  return status

/-- Which end of a text is printed, in which units, and how much of it. -/
structure Portion where
  bytes : Bool
  count : Nat
  /-- A sign before the count: a minus to leave out so much, a plus to start there. -/
  sign : Option Char

/-- Reads the portion that options ask for. -/
def portion (name : String) (g : Given) : Except String Portion :=
  let (bytes, value) := match (g.options.reverse.find? fun o => o.1 == 'c' || o.1 == 'n') with
    | some (c, v) => (c == 'c', v)
    | none => (false, "10")
  let (sign, digits) := match value.toList with
    | '-' :: cs => (some '-', cs)
    | '+' :: cs => (some '+', cs)
    | cs => (none, cs)
  match readCount? (String.ofList digits) with
  | some n => .ok ⟨bytes, n, sign⟩
  | none =>
    .error (name ++ ": invalid number of " ++ (if bytes then "bytes" else "lines") ++ ": " ++
      shellQuote value)

/-- The options of the tools that print an end of a text. -/
def endOptions : Options :=
  ⟨"qvf", "nc", [("lines", 'n'), ("bytes", 'c'), ("quiet", 'q'), ("silent", 'q'), ("verbose", 'v'),
    ("follow", 'f')]⟩

/-- Prints the starts of files. What it does not need of an input that is a file is left there. -/
def head : Tool := fun name args =>
  withOptions endOptions 1 (fun name g =>
    match portion name g with
    | .error e => fail 1 e
    | .ok p => withBanners name g fun path text => do
      let cut {α : Type} (l : List α) :=
        if p.sign == some '-' then l.take (l.length - p.count) else l.take p.count
      let out := if p.bytes then String.ofList (cut text.toList)
        else String.join (cut (brokenLines text))
      if path == "-" && (← get).fromFile then
        modify fun t => { t with input := String.ofList (text.toList.drop out.length) }
      say out) name (oldCount args)

/-- Prints the ends of files, and waits for more of them if it is told to. -/
def tail : Tool := fun name args =>
  withOptions endOptions 1 (fun name g =>
    match portion name g with
    | .error e => fail 1 e
    | .ok p => do
      let status ← withBanners name g fun _ text => do
        let cut {α : Type} (l : List α) :=
          if p.sign == some '+' then l.drop (p.count - 1) else l.drop (l.length - p.count)
        say (if p.bytes then String.ofList (cut text.toList)
          else String.join (cut (brokenLines text)))
      if g.has 'f' && status == 0 && !g.operands.isEmpty then goOn else return status)
    name (match args with
      | a :: rest => if a.startsWith "+" && (Text.readNat? (a.toList.drop 1)).isSome then
          "-n" :: a :: rest else oldCount args
      | [] => [])

/-! ## Counting -/

/-- The number of words between blanks. -/
def countWords : Bool → List Char → Nat
  | _, [] => 0
  | inside, c :: cs =>
    if c == ' ' || (9 ≤ c.toNat && c.toNat ≤ 13) then countWords false cs
    else (if inside then 0 else 1) + countWords true cs

/-- The counts of a text: lines, words, characters, bytes and the longest line. -/
def counts (text : String) : List Nat :=
  let cs := text.toList
  [cs.count '\n', countWords false cs, cs.length, cs.length,
    (lines text).foldl (fun n l => max n l.length) 0]

/-- Adds up counts. The longest line is the longest of all. -/
def addCounts : List Nat → List Nat → List Nat
  | [a, b, c, d, e], [a', b', c', d', e'] => [a + a', b + b', c + c', d + d', max e e']
  | _, new => new

/-- Counts lines, words and bytes. The columns are as wide as the sizes of the files need. -/
def wc : Tool := withOptions ⟨"lwcmL", "", [("lines", 'l'), ("words", 'w'), ("bytes", 'c'),
    ("chars", 'm'), ("max-line-length", 'L')]⟩ 1 fun name g => do
  let wanted := if g.options.isEmpty then [true, true, false, true, false]
    else ['l', 'w', 'm', 'c', 'L'].map g.has
  let paths := if g.operands.isEmpty then ["-"] else g.operands
  let t ← get
  let sizes := paths.filterMap fun path =>
    if path == "-" then if t.fromFile then some t.input.length else none
    else (t.disk.read t.here path).toOption.map String.length
  let special := paths.any fun path =>
    if path == "-" then !t.fromFile
    else match t.disk.read t.here path with
      | .error .isDirectory => true
      | _ => false
  let width := if paths.length == 1 && (wanted.filter id).length == 1 then 1
    else max (Text.ofNat (sizes.foldl (· + ·) 0)).length (if special then 7 else 1)
  let row (numbers : List Nat) (label : String) : String :=
    let shown := (wanted.zip numbers).filterMap fun (w, n) =>
      if w then some (padLeft width (Text.ofNat n)) else none
    Text.joinWith " " shown ++ label ++ "\n"
  let (status, total) ← paths.foldlM (fun (status, total) path => do
    let label := if path == "-" && g.operands.isEmpty then "" else " " ++ path
    match ← textOf path with
    | .error fault =>
      warn (about name path fault)
      if fault == .isDirectory then say (row [0, 0, 0, 0, 0] label)
      return (1, total)
    | .ok text =>
      let found := counts text
      say (row found label)
      return (status, addCounts total found)) (0, [0, 0, 0, 0, 0])
  if paths.length > 1 then say (row total " total")
  return status

/-- Numbers the lines that are not empty. -/
def nl : Tool := withOptions ⟨"p", "bwsvi", [("body-numbering", 'b'), ("number-width", 'w'),
    ("number-separator", 's'), ("starting-line-number", 'v'),
    ("line-increment", 'i')]⟩ 1 fun name g => do
  let number (c : Char) (n : Nat) := ((g.value? c).bind fun v => Text.readNat? v.toList).getD n
  let width := number 'w' 6
  let separator := (g.value? 's').getD "\t"
  let style := (g.value? 'b').getD "t"
  let (status, _) ← (if g.operands.isEmpty then ["-"] else g.operands).foldlM
    (fun (status, n) path => do
      match ← textOf path with
      | .error fault => return (← fail 1 (about name path fault), n)
      | .ok text =>
        let (out, n) := (lines text).foldl (fun (out, n) line =>
          if style == "a" || (style == "t" && !line.isEmpty) then
            (out ++ padLeft width (Text.ofNat n) ++ separator ++ line ++ "\n", n + number 'i' 1)
          else (out ++ padLeft (width + separator.length) "" ++ line ++ "\n", n)) ("", n)
        say out
        return (status, n)) (0, number 'v' 1)
  return status

/-- Writes the input to files as well. -/
def tee : Tool := withOptions ⟨"ai", "", [("append", 'a')]⟩ 1 fun name g => do
  let text ← takeInput
  let status ← forAll g.operands fun path => do
    let t ← get
    match t.disk.writable t.here path with
    | .error fault => fail 1 (about name path fault)
    | .ok p =>
      let old := if g.has 'a' then (t.disk.file? p).getD "" else ""
      change (·.write p (old ++ text))
      return 0
  say text
  return status

end TensorCompiler.Tool
