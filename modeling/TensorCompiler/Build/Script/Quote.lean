import TensorCompiler.Build.Script.Basic

/-!
# Quoting texts

What escapes stand for, and the forms in which texts are shown so that a script could hold them:
between apostrophes, between quotation marks, with backslashes, or with escapes for what cannot be
printed.
-/

/-!
## Braces

A word with braces around alternatives, or around the ends of a row, stands for several words. What
is quoted and what is filled in later belongs to one word as it is.
-/

namespace TensorCompiler.Script.Braces

/-- An item of a word: a plain character, or a part that stays as it is. -/
inductive Item where
  | char (c : Char)
  | part (p : Part)

/-- Whether an item is a plain character. -/
def Item.is (c : Char) : Item → Bool
  | .char d => c == d
  | .part _ => false

/-- The items of a word. -/
def items (w : Word) : List Item :=
  w.flatMap fun
    | .text s false => s.toList.map .char
    | p => [.part p]

/-- The word of items. -/
def word (xs : List Item) : Word :=
  (xs.foldl (fun w x => Word.push w (match x with
    | .char c => .text (String.singleton c) false
    | .part p => p)) []).reverse

/-- The items up to the brace that closes those before it, and what follows it. -/
def enclosed : Nat → List Item → Option (List Item × List Item)
  | _, [] => none
  | depth, x :: xs =>
    let go (depth : Nat) := (enclosed depth xs).map fun (inside, rest) => (x :: inside, rest)
    if x.is '\x7b' then go (depth + 1)
    else if x.is '\x7d' then if depth == 0 then some ([], xs) else go (depth - 1)
    else go depth

/-- Items cut at the commas that stand in no braces of their own. -/
def alternatives : Nat → List Item → List (List Item)
  | _, [] => [[]]
  | depth, x :: xs =>
    if depth == 0 && x.is ',' then [] :: alternatives 0 xs
    else
      let depth := if x.is '\x7b' then depth + 1 else if x.is '\x7d' then depth - 1 else depth
      match alternatives depth xs with
      | [] => [[x]]
      | first :: others => (x :: first) :: others

/-- A text cut at double points. -/
def ends : List Char → List (List Char)
  | [] => [[]]
  | '.' :: '.' :: cs => [] :: ends cs
  | c :: cs =>
    match ends cs with
    | [] => [[c]]
    | first :: others => (c :: first) :: others

/-- The integer that a text is. -/
def integer? (cs : List Char) : Option Int :=
  match cs with
  | '-' :: ds => (Text.readNat? ds).map fun n => -(n : Int)
  | '+' :: ds => (Text.readNat? ds).map fun n => (n : Int)
  | ds => (Text.readNat? ds).map fun n => (n : Int)

/-- The numbers from one to another in steps of a size. -/
def row (first last : Int) (step : Nat) : List Int :=
  let step := max 1 step
  (List.range ((last - first).natAbs / step + 1)).map fun i =>
    if first ≤ last then first + (i * step : Nat) else first - (i * step : Nat)

/-- A number with zeros before it up to a width. -/
def padded (width : Nat) (n : Int) : List Char :=
  let ds := Nat.toDigits 10 n.natAbs
  let sign : List Char := if n < 0 then ['-'] else []
  sign ++ List.replicate (width - sign.length - ds.length) '0' ++ ds

/-- Whether a numeral has a zero before other digits. -/
def isPadded (cs : List Char) : Bool :=
  let ds := cs.dropWhile (· == '-')
  ds.head? == some '0' && ds.length > 1

/-- The row between two ends, of numbers or of letters. -/
def sequence? (cs : List Char) : Option (List (List Char)) :=
  let between (a b : List Char) (step : Int) : Option (List (List Char)) :=
    match integer? a, integer? b, a, b with
    | some x, some y, _, _ =>
      let width := if isPadded a || isPadded b then max a.length b.length else 0
      some ((row x y step.natAbs).map (padded width))
    | _, _, [c], [d] =>
      if c.isAlpha && d.isAlpha then
        some ((row c.toNat d.toNat step.natAbs).map fun n => [Char.ofNat n.toNat])
      else none
    | _, _, _, _ => none
  match ends cs with
  | [a, b] => between a b 1
  | [a, b, step] => (integer? step).bind (between a b)
  | _ => none

/-- The characters of items that are nothing else. -/
def chars? (xs : List Item) : Option (List Char) :=
  xs.mapM fun
    | .char c => some c
    | .part _ => none

/-- The rows of items that items stand for. -/
def expand : Nat → List Item → List (List Item)
  | 0, xs => [xs]
  | _, [] => [[]]
  | fuel + 1, x :: xs =>
    let literal := (expand fuel xs).map (x :: ·)
    if !x.is '\x7b' then literal
    else
      match enclosed 0 xs with
      | none => literal
      | some (inside, rest) =>
        let choices := match alternatives 0 inside with
          | [_] => ((chars? inside).bind sequence?).map fun (found : List (List Char)) =>
              found.map fun (cs : List Char) => cs.map Item.char
          | found => some (found.flatMap (expand fuel))
        match choices with
        | none => literal
        | some choices =>
          let behind := expand fuel rest
          choices.flatMap fun choice => behind.map (choice ++ ·)

/-- The words that a word stands for. -/
def words (w : Word) : List Word :=
  let xs := items w
  if xs.any (·.is '\x7b') then (expand (xs.length + 1) xs).map word else [w]

end TensorCompiler.Script.Braces

namespace TensorCompiler.Script

/-! ## Quoting -/

/-- A text between a backquote and an apostrophe. -/
def cited (text : String) : String :=
  String.singleton backquote ++ text ++ String.singleton apostrophe

/-- The digits of a base at the start of a text, up to a number of them, as a number and their
count. -/
def leadingDigits (base most : Nat) (cs : List Char) : Nat × Nat :=
  let value (c : Char) : Nat := if c.isDigit then c.toNat - 48
    else if 'a' ≤ c && c ≤ 'f' then c.toNat - 87
    else if 'A' ≤ c && c ≤ 'F' then c.toNat - 55 else 99
  let ds := (cs.take most).takeWhile fun c => value c < base
  (ds.foldl (fun n c => base * n + value c) 0, ds.length)

/-- A character by its number. One beyond the first hundred and twenty-eight stays a number. -/
def numbered (n : Nat) : List Char :=
  let digits (count : Nat) : List Char :=
    let ds := (Nat.toDigits 16 n).map Char.toUpper
    List.replicate (count - ds.length) '0' ++ ds
  if n < 128 then [Char.ofNat n]
  else if n < 65536 then '\\' :: 'u' :: digits 4 else '\\' :: 'U' :: digits 8

/-- What an escape stands for, its backslash passed, and how many characters it takes. -/
def escape (cs : List Char) : List Char × Nat :=
  match cs with
  | [] => (['\\'], 0)
  | c :: rest =>
    let byNumber (base most : Nat) (f : Nat → List Char) : List Char × Nat :=
      match leadingDigits base most rest with
      | (_, 0) => (['\\', c], 1)
      | (n, count) => (f n, count + 1)
    match c with
    | 'a' => ([Char.ofNat 7], 1)
    | 'b' => ([Char.ofNat 8], 1)
    | 'e' | 'E' => ([Char.ofNat 27], 1)
    | 'f' => ([Char.ofNat 12], 1)
    | 'n' => (['\n'], 1)
    | 'r' => (['\r'], 1)
    | 't' => (['\t'], 1)
    | 'v' => ([Char.ofNat 11], 1)
    | 'x' => byNumber 16 2 fun n => [Char.ofNat n]
    | 'u' => byNumber 16 4 numbered
    | 'U' => byNumber 16 8 numbered
    | 'c' =>
      match rest with
      | d :: _ => ([Char.ofNat (d.toUpper.toNat % 32)], 2)
      | [] => (['\\', c], 1)
    | c =>
      if c == '\\' || c == '"' || c == '?' || c == apostrophe then ([c], 1)
      else
        match leadingDigits 8 3 cs with
        | (_, 0) => (['\\', c], 1)
        | (n, count) => ([Char.ofNat (n % 256)], count)

namespace Quote

/-- Whether a text needs escapes because some of its characters cannot be printed. -/
def needsEscapes (s : String) : Bool := s.toList.any fun c => c.toNat < 32 || c.toNat ≥ 127

/-- A text with escapes between apostrophes, behind a dollar sign. -/
def escaped (s : String) : String :=
  let shown (c : Char) : List Char :=
    if c == apostrophe || c == '\\' then ['\\', c]
    else match c.toNat with
      | 7 => ['\\', 'a']
      | 8 => ['\\', 'b']
      | 9 => ['\\', 't']
      | 10 => ['\\', 'n']
      | 11 => ['\\', 'v']
      | 12 => ['\\', 'f']
      | 13 => ['\\', 'r']
      | 27 => ['\\', 'E']
      | n =>
        if n < 32 || n ≥ 127 then
          let ds := Nat.toDigits 8 n
          '\\' :: List.replicate (3 - ds.length) '0' ++ ds
        else [c]
  "$'" ++ String.ofList (s.toList.flatMap shown) ++ "'"

/-- A text between apostrophes. -/
def single (s : String) : String :=
  "'" ++ String.ofList (s.toList.flatMap fun c =>
    if c == apostrophe then [c, '\\', c, c] else [c]) ++ "'"

/-- A text between apostrophes, or with escapes if it needs them. -/
def whole (s : String) : String := if needsEscapes s then escaped s else single s

/-- A text between quotation marks, or with escapes if it needs them. -/
def double (s : String) : String :=
  if needsEscapes s then escaped s
  else "\"" ++ String.ofList (s.toList.flatMap fun c =>
    if c == '"' || c == '\\' || c == '$' || c == backquote then ['\\', c] else [c]) ++ "\""

/-- A text with backslashes before the characters that have a meaning. -/
def backslashed (s : String) : String :=
  let special (c : Char) : Bool :=
    c == apostrophe || c == backquote || " \t\n!\"$&()*,;<>?[\\]^\x7b|\x7d".toList.contains c
  let go (first : Bool) (c : Char) : List Char :=
    if special c || (first && (c == '#' || c == '~')) then ['\\', c] else [c]
  if s.isEmpty then "''"
  else if needsEscapes s then escaped s
  else match s.toList with
    | [] => "''"
    | c :: cs => String.ofList (go true c ++ cs.flatMap (go false))

/-- Whether a text has characters with a meaning. -/
def hasMeaning (s : String) : Bool :=
  s.toList.any (fun c =>
    c == apostrophe || c == backquote || " \t\n\"\\|&;()<>!\x7b\x7d*[?]^$".toList.contains c) ||
    s.startsWith "~" || s.startsWith "#"

/-- A text as it stands, or between apostrophes if some of its characters have a meaning. -/
def ifNeeded (s : String) : String :=
  if s.isEmpty then "''"
  else if needsEscapes s then escaped s
  else if hasMeaning s then single s
  else s

end Quote
end TensorCompiler.Script
