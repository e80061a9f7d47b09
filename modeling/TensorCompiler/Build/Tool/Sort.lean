import TensorCompiler.Build.Tool.Basic

/-!
# Sorting lines

Sorts lines by keys within them, and joins runs of equal lines.
-/

namespace TensorCompiler.Tool

/-- A key of a sort: where it starts and ends, each a field and a character, and how it compares. -/
structure SortKey where
  first : Nat × Nat
  last : Option (Nat × Nat)
  flags : List Char

/-- Reads the place of a key and the letters behind it. -/
def keyPlace? (s : String) : Option ((Nat × Nat) × List Char) :=
  let cs := s.toList
  let field := cs.takeWhile Char.isDigit
  let rest := cs.drop field.length
  let (char, flags) := match rest with
    | '.' :: rest =>
      let digits := rest.takeWhile Char.isDigit
      (Text.readNat? digits, rest.drop digits.length)
    | rest => (some 0, rest)
  match Text.readNat? field, char with
  | some f, some c => some ((f, c), flags)
  | _, _ => none

/-- Reads a key. -/
def SortKey.read? (s : String) : Option SortKey :=
  match Text.split ',' s with
  | [a] => (keyPlace? a).map fun (first, flags) => ⟨first, none, flags⟩
  | [a, b] =>
    match keyPlace? a, keyPlace? b with
    | some (first, f), some (last, f') => some ⟨first, some last, f ++ f'⟩
    | _, _ => none
  | _ => none

/-- The fields of a line. Without a separator the blanks before a field belong to it. -/
def sortFields (separator : Option Char) (line : List Char) : List (List Char) :=
  match separator with
  | some c => Text.splitChars c line
  | none =>
    let isBlank (c : Char) := c == ' ' || c == '\t'
    (line.foldl (fun (fields, blank) c =>
      match fields with
      | [] => ([[c]], isBlank c)
      | f :: fs =>
        if isBlank c && !blank then ([c] :: f :: fs, true)
        else ((f ++ [c]) :: fs, isBlank c)) (([] : List (List Char)), true)).1.reverse

/-- The characters of a line from a place on. -/
def fromPlace (separator : Option Char) (skipBlanks : Bool) (p : Nat × Nat) (line : List Char) :
    List Char :=
  let fields := sortFields separator line
  let before := fields.take (p.1 - 1)
  let skipped := before.foldl (fun n f => n + f.length + (if separator.isSome then 1 else 0)) 0
  let rest := line.drop skipped
  let rest := if skipBlanks then rest.dropWhile (fun c => c == ' ' || c == '\t') else rest
  rest.drop (p.2 - 1)

/-- The characters of a line that a key compares. -/
def SortKey.cut (separator : Option Char) (k : SortKey) (line : List Char) : List Char :=
  let skip := k.flags.contains 'b'
  let start := fromPlace separator skip k.first line
  match k.last with
  | none => start
  | some (field, char) =>
    let behind := if char == 0 then
        let rest := fromPlace separator false (field + 1, 0) line
        if separator.isSome && field < (sortFields separator line).length then rest.length + 1
        else rest.length
      else (fromPlace separator skip (field, char + 1) line).length
    start.take (start.length - behind)

/-- A number at the start of a text, in parts of a billion. -/
def leadingNumber (cs : List Char) : Int :=
  let cs := cs.dropWhile fun c => c == ' ' || c == '\t'
  let (negative, cs) := match cs with
    | '-' :: cs => (true, cs)
    | cs => (false, cs)
  let whole := cs.takeWhile Char.isDigit
  let part := match cs.drop whole.length with
    | '.' :: rest => rest.takeWhile Char.isDigit
    | _ => []
  let n : Nat := (Text.readNat? whole).getD 0 * 1000000000 +
    (Text.readNat? ((part ++ List.replicate 9 '0').take 9)).getD 0
  if negative then -(n : Int) else n

/-- The rank of a character in the order of versions: a tilde comes before the end of a text, digits
before letters, and these before all other signs. -/
def versionRank (c : Char) : Int :=
  if c.isDigit then 0 else if c.isAlpha then c.toNat else if c == '~' then -2 else c.toNat + 256

/-- The order of two versions: numbers within the texts are compared by their values. -/
def versionOrder : Nat → List Char → List Char → Ordering
  | 0, _, _ => .eq
  | _, [], [] => .eq
  | fuel + 1, a, b =>
    let isOther (c : Char) := !c.isDigit
    let left := a.takeWhile isOther
    let right := b.takeWhile isOther
    let behind (rest : List Char) : Int := if rest.isEmpty then -1 else 0
    let ranks (own rest : List Char) (length : Nat) :=
      own.map versionRank ++ List.replicate (length - own.length) (behind rest)
    let a := a.drop left.length
    let b := b.drop right.length
    let length := max left.length right.length
    let number (cs : List Char) := (Text.readNat? (cs.takeWhile Char.isDigit)).getD 0
    match compare (ranks left a length) (ranks right b length), compare (number a) (number b) with
    | .eq, .eq => versionOrder fuel (a.dropWhile Char.isDigit) (b.dropWhile Char.isDigit)
    | .eq, found => found
    | found, _ => found

/-- The rank of the letter for a power of a thousand behind a number. -/
def unitRank (cs : List Char) : Nat :=
  let cs := cs.dropWhile fun c => c == ' ' || c == '\t' || c == '-'
  let number := cs.takeWhile fun c => c.isDigit || c == '.'
  if number.isEmpty then 0
  else
    match (cs.drop number.length).head?.bind fun c => "KMGTPEZY".toList.idxOf? c.toUpper with
    | some i => i + 1
    | none => 0

/-- The order of two texts under the letters of a key. -/
def compareBy (flags : List Char) (a b : List Char) : Ordering :=
  let a := if flags.contains 'b' then a.dropWhile (fun c => c == ' ' || c == '\t') else a
  let b := if flags.contains 'b' then b.dropWhile (fun c => c == ' ' || c == '\t') else b
  let plain (cs : List Char) :=
    let isShown (c : Char) := c.isAlphanum || c == ' ' || c == '\t'
    let cs := if flags.contains 'd' then cs.filter isShown else cs
    String.ofList (if flags.contains 'f' then cs.map Char.toUpper else cs)
  let found :=
    if flags.contains 'n' || flags.contains 'g' then compare (leadingNumber a) (leadingNumber b)
    else if flags.contains 'V' then versionOrder (a.length + b.length + 1) a b
    else if flags.contains 'h' then
      (compare (unitRank a) (unitRank b)).then (compare (leadingNumber a) (leadingNumber b))
    else compare (plain a) (plain b)
  if flags.contains 'r' then found.swap else found

/-- Sorts the lines of files. -/
def sort : Tool := withOptions ⟨"bdfghnrsucCmzV", "kto", [("reverse", 'r'), ("numeric-sort", 'n'),
    ("unique", 'u'), ("key", 'k'), ("field-separator", 't'), ("output", 'o'), ("ignore-case", 'f'),
    ("stable", 's'), ("check", 'c'), ("version-sort", 'V'),
    ("human-numeric-sort", 'h'), ("general-numeric-sort", 'g')]⟩ 2 fun name g => do
  let flags := (g.options.map Prod.fst).filter "bdfghnrV".toList.contains
  let separator := (g.value? 't').bind fun s => s.toList.head?
  let keys := (g.options.filter (·.1 == 'k')).filterMap fun o => SortKey.read? o.2
  let compareKeys (a b : List Char) : Ordering :=
    if keys.isEmpty then compareBy flags a b
    else keys.foldl (fun found k =>
      if found != .eq then found
      else
        let own := if k.flags.isEmpty then flags else k.flags
        let k := { k with flags := own }
        compareBy own (k.cut separator a) (k.cut separator b)) .eq
  let whole (a b : List Char) : Ordering :=
    let found := compare (String.ofList a) (String.ofList b)
    if flags.contains 'r' then found.swap else found
  let order (a b : List Char) : Ordering :=
    match compareKeys a b with
    | .eq => if g.has 'u' || g.has 's' then .eq else whole a b
    | found => found
  let paths := if g.operands.isEmpty then ["-"] else g.operands
  let texts ← paths.mapM textOf
  match (paths.zip texts).findSome? fun (p, t) => match t with
    | .error fault => some (p, fault)
    | .ok _ => none with
  | some (path, fault) =>
    fail 2 (name ++ (if fault == .isDirectory then ": read failed: " else ": cannot read: ") ++
      shellWord path ++ ": " ++ fault.sentence)
  | none =>
    let all := texts.flatMap fun
      | .ok text => (lines text).map String.toList
      | .error _ => []
    if g.has 'c' || g.has 'C' then
      let wrong (a b : List Char) := match order a b with
        | .gt => true
        | .eq => g.has 'u'
        | .lt => false
      match ((all.zip (all.drop 1)).zipIdx.find? fun ((a, b), _) => wrong a b) with
      | some ((_, b), i) =>
        if g.has 'c' then
          fail 1 (name ++ ": " ++ paths.headD "-" ++ ":" ++ Text.ofNat (i + 2) ++ ": disorder: " ++
            String.ofList b)
        else return 1
      | none => return 0
    else
      let sorted := all.mergeSort fun a b => order a b != .gt
      let kept := if g.has 'u' then
          sorted.foldr (fun a rest => match rest with
            | b :: others => if compareKeys a b == .eq then a :: others else a :: rest
            | [] => [a]) []
        else sorted
      let out := unlines (kept.map String.ofList)
      match g.value? 'o' with
      | none =>
        say out
        return 0
      | some path =>
        let t ← get
        match t.disk.writable t.here path with
        | .error fault =>
          fail 2 (name ++ ": open failed: " ++ shellWord path ++ ": " ++ fault.sentence)
        | .ok p =>
          change (·.write p out)
          return 0

/-- Runs of equal lines, with their lengths. -/
def runs (same : String → String → Bool) : List String → List (Nat × String)
  | [] => []
  | a :: rest =>
    match runs same rest with
    | (n, b) :: others => if same a b then (n + 1, a) :: others else (1, a) :: (n, b) :: others
    | [] => [(1, a)]

/-- Prints one line for each run of equal lines. -/
def uniq : Tool := withOptions ⟨"cdui", "fsw", [("count", 'c'), ("repeated", 'd'), ("unique", 'u'),
    ("ignore-case", 'i'), ("skip-fields", 'f'), ("skip-chars", 's')]⟩ 1 fun name g => do
  let number (c : Char) := ((g.value? c).bind fun v => Text.readNat? v.toList).getD 0
  let dropField (cs : List Char) :=
    (cs.dropWhile fun c => c == ' ' || c == '\t').dropWhile fun c => c != ' ' && c != '\t'
  let view (s : String) :=
    let cs := (List.range (number 'f')).foldl (fun cs _ => dropField cs) s.toList
    let cs := cs.drop (number 's')
    if g.has 'i' then cs.map Char.toLower else cs
  let source := g.operands.headD "-"
  match ← textOf source with
  | .error .isDirectory => fail 1 (name ++ ": error reading " ++ shellQuote source)
  | .error fault => fail 1 (about name source fault)
  | .ok text =>
    let found := (runs (fun a b => view a == view b) (lines text)).filter fun (n, _) =>
      (!g.has 'd' || n > 1) && (!g.has 'u' || n == 1)
    let out := unlines (found.map fun (n, line) =>
      if g.has 'c' then padLeft 7 (Text.ofNat n) ++ " " ++ line else line)
    match g.operands with
    | [_, target] =>
      let t ← get
      match t.disk.writable t.here target with
      | .error fault => fail 1 (about name target fault)
      | .ok p =>
        change (·.write p out)
        return 0
    | _ =>
      say out
      return 0

end TensorCompiler.Tool
