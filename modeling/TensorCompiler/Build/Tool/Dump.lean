import TensorCompiler.Build.Tool.Lines

/-!
# Dumps of bytes

Prints the bytes of files as numbers or characters, in lines that start with the place of their
first byte.
-/

namespace TensorCompiler.Tool

namespace Dump

/-- What a field of a line shows. -/
inductive Shape where
  | octal
  | decimal
  | unsigned
  | hex
  | char
  | named
deriving DecidableEq, Repr

/-- A form in which bytes are shown: so many of them to a field, and perhaps as text behind it. -/
structure Form where
  shape : Shape
  size : Nat
  text : Bool
deriving DecidableEq, Repr

/-- The number of characters of a field. -/
def Form.width (f : Form) : Nat :=
  match f.shape with
  | .octal => (8 * f.size + 2) / 3
  | .hex => 2 * f.size
  | .unsigned => [3, 5, 10, 20].getD (Nat.log2 f.size) 20
  | .decimal => [4, 6, 11, 20].getD (Nat.log2 f.size) 20
  | .char | .named => 3

/-- A number in digits of a base, with zeros before it. -/
def digits (base width n : Nat) : String :=
  let ds := Nat.toDigits base n
  String.ofList (List.replicate (width - ds.length) '0' ++ ds)

/-- The names of the bytes that are not printed. -/
def byteNames : List String :=
  ["nul", "soh", "stx", "etx", "eot", "enq", "ack", "bel", "bs", "ht", "nl", "vt", "ff", "cr",
    "so", "si", "dle", "dc1", "dc2", "dc3", "dc4", "nak", "syn", "etb", "can", "em", "sub", "esc",
    "fs", "gs", "rs", "us", "sp"]

/-- A byte as a character or an escape. -/
def charText (n : Nat) : String :=
  if n == 0 then "\\0"
  else if 7 ≤ n && n ≤ 13 then byteEscape (Char.ofNat n)
  else if isShown (Char.ofNat n) then String.singleton (Char.ofNat n)
  else digits 8 3 n

/-- The text of a field. -/
def Form.field (f : Form) (bytes : List Nat) : String :=
  let n := bytes.foldr (fun b n => 256 * n + b) 0
  match f.shape with
  | .octal => digits 8 f.width n
  | .hex => digits 16 f.width n
  | .unsigned => Text.ofNat n
  | .decimal =>
    let bound := Nat.pow 256 f.size
    Text.ofInt (if 2 * n ≥ bound then (n : Int) - bound else n)
  | .char => charText n
  | .named => if n % 128 == 127 then "del" else byteNames.getD (n % 128)
      (String.singleton (Char.ofNat (n % 128)))

/-- The groups of so many bytes, the last one filled up with zeros. -/
def chunks (size : Nat) : Nat → List Nat → List (List Nat)
  | 0, _ => []
  | _, [] => []
  | fuel + 1, bytes =>
    let taken := bytes.take size
    (taken ++ List.replicate (size - taken.length) 0) :: chunks size fuel (bytes.drop size)

/-- A line of bytes in a form: its fields, so wide that the lines of all forms are in step. -/
def Form.row (f : Form) (perLine lineWidth : Nat) (bytes : List Nat) : String :=
  let fields := perLine / f.size
  let padding := lineWidth - f.width * fields
  let shown := (chunks f.size (bytes.length + 1) bytes).zipIdx.map fun (group, i) =>
    let left (i : Nat) : Nat := padding * (fields - i) / fields
    padLeft (left i - left (i + 1) + f.width) (f.field group)
  let body := String.join shown
  if f.text then
    let filler := padRight (lineWidth - body.length) ""
    body ++ filler ++ "  >" ++ String.ofList (bytes.map fun n =>
      if isShown (Char.ofNat n) then Char.ofNat n else '.') ++ "<"
  else body

/-- How places are written. -/
inductive Radix where
  | octal
  | decimal
  | hex
  | none
deriving DecidableEq, Repr

/-- The text of a place. -/
def Radix.text (r : Radix) (n : Nat) : String :=
  match r with
  | .octal => digits 8 7 n
  | .decimal => digits 10 7 n
  | .hex => digits 16 6 n
  | .none => ""

/-- How bytes are printed. -/
structure Plan where
  radix : Radix
  forms : List Form
  perLine : Nat
  all : Bool
  skip : Nat
  limit : Option Nat

/-- The lines of bytes. A line that repeats the one before is marked once. -/
def Plan.lines (p : Plan) (lineWidth : Nat) :
    Nat → Nat → (last : List Nat) → (starred : Bool) → List Nat → List String
  | 0, _, _, _, _ => []
  | _, _, _, _, [] => []
  | fuel + 1, place, last, starred, bytes =>
    let now := bytes.take p.perLine
    let rest := bytes.drop p.perLine
    if now == last && !p.all && now.length == p.perLine then
      (if starred then [] else ["*"]) ++
        p.lines lineWidth fuel (place + p.perLine) last true rest
    else
      let label := p.radix.text place
      let rows := p.forms.zipIdx.map fun (f, i) =>
        (if i == 0 then label else padRight label.length "") ++ f.row p.perLine lineWidth now
      rows ++ p.lines lineWidth fuel (place + p.perLine) now false rest

/-- The size that a letter or a number behind a form stands for. -/
def size? (cs : List Char) : Option (Nat × List Char) :=
  match cs with
  | 'C' :: rest => some (1, rest)
  | 'S' :: rest => some (2, rest)
  | 'I' :: rest => some (4, rest)
  | 'L' :: rest => some (8, rest)
  | cs =>
    let ds := cs.takeWhile Char.isDigit
    match Text.readNat? ds with
    | none => some (4, cs)
    | some n => if [1, 2, 4, 8].contains n then some (n, cs.drop ds.length) else none

/-- Reads forms. -/
def readForms (whole : String) : Nat → List Char → Except String (List Form)
  | 0, _ => .ok []
  | _, [] => .ok []
  | fuel + 1, c :: cs =>
    let behind (shape : Shape) (size : Nat) (rest : List Char) : Except String (List Form) :=
      let text := rest.head? == some 'z'
      (readForms whole fuel (if text then rest.tail else rest)).map fun fs =>
        ⟨shape, size, text⟩ :: fs
    let number (shape : Shape) : Except String (List Form) :=
      match size? cs with
      | some (n, rest) => behind shape n rest
      | none => .error ("invalid type string " ++ quote whole ++
          ";\nthis system doesn't provide a " ++ String.ofList (cs.takeWhile Char.isDigit) ++
          "-byte integral type")
    match c with
    | 'o' => number .octal
    | 'd' => number .decimal
    | 'u' => number .unsigned
    | 'x' => number .hex
    | 'c' => behind .char 1 cs
    | 'a' => behind .named 1 cs
    | c => .error ("invalid character " ++ quote (String.singleton c) ++ " in type string " ++
        quote whole)

/-- The form that an old option stands for. -/
def oldForm? : Char → Option Form
  | 'a' => some ⟨.named, 1, false⟩
  | 'b' => some ⟨.octal, 1, false⟩
  | 'c' => some ⟨.char, 1, false⟩
  | 'd' => some ⟨.unsigned, 2, false⟩
  | 'i' => some ⟨.decimal, 4, false⟩
  | 'l' => some ⟨.decimal, 8, false⟩
  | 'o' => some ⟨.octal, 2, false⟩
  | 's' => some ⟨.decimal, 2, false⟩
  | 'x' => some ⟨.hex, 2, false⟩
  | _ => none

/-- Reads the plan that options ask for. -/
def Plan.read (g : Given) : Except String Plan := do
  let found ← g.options.foldlM (fun (fs : List Form) (c, value) =>
    if c == 't' then (readForms value (value.length + 1) value.toList).map (fs ++ ·)
    else .ok (fs ++ (oldForm? c).toList)) []
  let radix ← match g.value? 'A' with
    | none | some "o" => pure Radix.octal
    | some "d" => pure .decimal
    | some "x" => pure .hex
    | some "n" => pure .none
    | some v => .error ("invalid output address radix " ++ quote v ++
        "; it must be one character from [doxn]")
  let number (c : Char) : Except String (Option Nat) :=
    match g.value? c with
    | none => .ok none
    | some v =>
      match readCount? v with
      | some n => .ok (some n)
      | none => .error ("invalid -" ++ String.singleton c ++ " argument " ++ quote v)
  let found := if found.isEmpty then [⟨.octal, 2, false⟩] else found
  let widest := found.foldl (fun n f => max n f.size) 1
  let perLine ← match g.value? 'w' with
    | none => pure 16
    | some "" => pure 32
    | some v => pure ((readCount? v).getD 16)
  let perLine := if perLine == 0 || perLine % widest != 0 then widest else perLine
  return ⟨radix, found, perLine, g.has 'v', (← number 'j').getD 0, ← number 'N'⟩

/-- The options of the tool. A width may stand directly behind its letter only. -/
def options : Options :=
  ⟨"abcdiloxsv", "AjNtw", [("address-radix", 'A'), ("skip-bytes", 'j'), ("read-bytes", 'N'),
    ("format", 't'), ("output-duplicates", 'v'), ("width", 'w')]⟩

end Dump

/-- Prints the bytes of files. -/
def od : Tool := fun name args =>
  let args := args.flatMap fun a => if a == "-w" || a == "--width" then ["-w", ""] else [a]
  withOptions Dump.options 1 (fun name g => do
    match Dump.Plan.read g with
    | .error e => fail 1 (name ++ ": " ++ e)
    | .ok p =>
      let paths := if g.operands.isEmpty then ["-"] else g.operands
      let (status, text) ← paths.foldlM (fun (status, text) path => do
        match ← textOf path with
        | .error fault => return (← fail 1 (about name path fault), text)
        | .ok found => return (status, text ++ found)) (0, "")
      let bytes := text.toList.map Char.toNat
      if bytes.length < p.skip then
        fail 1 (name ++ ": cannot skip past end of combined input")
      else if status != 0 && bytes.isEmpty then return status
      else
        let bytes := bytes.drop p.skip
        let bytes := (p.limit.map bytes.take).getD bytes
        let lineWidth := p.forms.foldl (fun n f => max n ((f.width + 1) * (p.perLine / f.size))) 0
        let rows := p.lines lineWidth (bytes.length + 1) p.skip [] false bytes
        say (unlines rows)
        if p.radix != .none then say (p.radix.text (p.skip + bytes.length) ++ "\n")
        return status) name args

end TensorCompiler.Tool
