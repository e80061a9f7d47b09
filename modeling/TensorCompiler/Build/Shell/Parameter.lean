import TensorCompiler.Build.Pattern
import TensorCompiler.Build.Script.Quote
import TensorCompiler.Build.Script.Token
import TensorCompiler.Build.Shell.Arithmetic

/-!
# What is made of the values of parameters

A parameter holds one text or a list of them. Parts can be cut off or taken out, matches of patterns
replaced and letters changed, in each text of a list for itself.
-/

/-!
## Assignments to variables and their elements

An assignment whose words are filled in sets a variable, one of its elements or all of them. What it
means depends on the variable: whether it holds numbers, and how its elements are known.
-/

namespace TensorCompiler.Shell

/-- An assignment whose words are filled in. -/
structure Given where
  name : String
  index : Option String
  append : Bool
  /-- The text, or the elements with the keys that some of them have. -/
  value : String ⊕ List (Option String × String)

/-- Computes an expression. If it has no value, the shell says why behind some words. -/
def compute (s : Shell) (lead text : String) : Shell × Option Int :=
  match Arithmetic.eval s text with
  | .ok (n, s) => (s, some n)
  | .error (.shell s) => ({ s with flow := if s.flow == .discarding then .going else s.flow }, none)
  | .error (.text fault) => (s.complain (lead ++ fault), none)

/-- Computes an expression in the middle of a command, which cannot go on without its value. -/
def computeHere (s : Shell) (text : String) : Shell × Int :=
  match s.compute "" text with
  | (s, some n) => (s, n)
  | (s, none) =>
    if s.flow == .going then ({ s with status := 1, flow := .discarding }, 0) else (s, 0)

/-- The elements that a name has, in their order. -/
def listOf (s : Shell) (name : String) : List (String × String) :=
  let numbered (texts : List String) : List (String × String) :=
    texts.zipIdx.map fun (t, i) => (Text.ofNat i, t)
  match s.entry? name with
  | some v => v.items
  | none =>
    match name with
    | "FUNCNAME" => numbered s.extras.calls
    | "DIRSTACK" => numbered ((s.here :: s.extras.directories).map Place.text)
    | "BASH_SOURCE" =>
      let origin := s.extras.origin
      numbered (if s.extras.calls.isEmpty && origin.isEmpty then [] else [origin])
    | name => ((s.ownValue? name).map fun t => ("0", t)).toList

/-- The key of an element. That of a list by numbers is an expression, and a negative number counts
from behind the last element. -/
def elementKey (s : Shell) (name subscript : String) : Shell × Option String :=
  let v := (s.entry? name).getD .bare
  if v.isKeyed then (s, some subscript)
  else
    let (s, n) := s.computeHere subscript
    let n := if n < 0 then n + v.next else n
    if s.flow != .going then (s, none)
    else if n < 0 then (s, none)
    else (s, some (Text.ofNat n.toNat))

/-- The value of an element. -/
def element? (s : Shell) (name subscript : String) : Shell × Option String :=
  match s.elementKey name subscript with
  | (s, some key) => (s, ((s.listOf name).find? (·.1 == key)).map Prod.snd)
  | (s, none) =>
    (if s.flow == .going then s.complain (name ++ ": bad array subscript") else s, none)

/-- A text as the value of a variable, which may be for numbers. -/
def valueFor (s : Shell) (v : Variable) (old : Option String) (append : Bool) (text : String) :
    Shell × String :=
  if v.marks.contains 'i' then
    let (s, n) := s.computeHere text
    let (s, m) := if append then s.computeHere (old.getD "") else (s, 0)
    (s, Text.ofInt (Number.wrap (m + n)))
  else (s, if append then old.getD "" ++ text else text)

/-- Sets an element. -/
def putElement (v : Variable) (key text : String) : Variable :=
  if v.isKeyed then v.putKey key text else v.putAt ((Text.readNat? key.toList).getD 0) text

/-- Pairs of keys and values from a list of texts. -/
def pairs : List (Option String × String) → List (Option String × String)
  | (none, key) :: (none, value) :: rest => (some key, value) :: pairs rest
  | [(none, key)] => [(some key, "")]
  | item :: rest => item :: pairs rest
  | [] => []

/-- Sets elements one after the other. Those without a key follow the one before. -/
def putItems (name : String) :
    Shell → Variable → Nat → List (Option String × String) → Shell × Variable
  | s, v, _, [] => (s, v)
  | s, v, next, (key, text) :: rest =>
    let (s, text) := s.valueFor v none false text
    match key with
    | some key =>
      match { s.putVariable name (some v) with flow := s.flow }.elementKey name key with
      | (s, some key) =>
        let v := putElement v key text
        putItems name s v ((Text.readNat? key.toList).getD 0 + 1) rest
      | (s, none) =>
        (if s.flow == .going then s.complain ("[" ++ key ++ "]=" ++ text ++
          ": bad array subscript") else s, v)
    | none => putItems name s (v.putAt next text) (next + 1) rest

/-- Makes an assignment. -/
def store (s : Shell) (g : Given) : Shell :=
  let name := s.meant g.name
  let old := s.entry? name
  let v := old.getD { Variable.bare with exported := s.has 'a' }
  let keep (s : Shell) (v : Variable) : Shell :=
    if s.flow == .going then s.putVariable name (some v) else s
  if v.readOnly then s.keepReadOnly name
  else
    match g.value, g.index with
    | .inl text, none =>
      let (s, text) := s.valueFor v v.value g.append text
      keep s (v.put text)
    | .inl text, some subscript =>
      match s.elementKey name subscript with
      | (s, none) =>
        if s.flow == .going then s.give (name ++ "[" ++ subscript ++ "]: bad array subscript")
        else s
      | (s, some key) =>
        let (s, text) := s.valueFor v (v.element? key) g.append text
        keep s (putElement v key text)
    | .inr items, _ =>
      let empty : Content := if v.isKeyed then .keyed [] else .indexed []
      let start := if g.append then
          (if v.isKeyed then v else { v with content := .indexed v.numbered })
        else { v with content := empty }
      let items := if v.isKeyed then pairs items else items
      let (s, v) := putItems name s start start.next items
      keep s v


/-! ## Parameters -/

open Script

/-- What a parameter holds: one text or none, or a list that is joined to one text or not. -/
inductive Values where
  | one (value : Option String)
  | many (items : List String) (joined : Bool)

namespace Values

/-- The values as one text, if there are any. -/
def text? : Values → Option String
  | .one value => value
  | .many [] _ => none
  | .many items _ => some (Text.joinWith " " items)

/-- Whether there is a value, which may not be empty if a `colon` asks for that. -/
def counts (v : Values) (colon : Bool) : Bool := v.text?.any fun t => !colon || !t.isEmpty

/-- Changes every text. -/
def map (f : String → String) : Values → Values
  | .one value => .one (some (f (value.getD "")))
  | .many items joined => .many (items.map f) joined

end Values

/-! ## Patterns -/

/-- A pattern in which a caret negates a set too. -/
def caretSets : List PatternChar → List PatternChar
  | ⟨'[', false⟩ :: ⟨'^', false⟩ :: cs => ⟨'[', false⟩ :: ⟨'!', false⟩ :: caretSets cs
  | c :: cs => c :: caretSets cs
  | [] => []

/-- The pattern of characters. -/
def readPattern (s : Shell) (cs : List PatternChar) : List Glob :=
  Glob.read (s.hasLong "extglob") (if s.isBash then caretSets cs else cs)

/-- Whether a pattern of characters stands for a text, with groups if it is `extended`. The size of
letters may be told not to count. -/
def fits (s : Shell) (extended : Bool) (cs : List PatternChar) (text : String) : Bool :=
  let m : Glob.Manner := ⟨extended, false, false, s.hasLong "nocasematch", false⟩
  let pattern := Glob.read extended (m.fold (if s.isBash then caretSets cs else cs))
  Glob.accepts pattern (if m.ignoreCase then text.toLower else text).toList

/-- How paths are looked for. -/
def manner (s : Shell) : Glob.Manner :=
  ⟨s.hasLong "extglob", s.hasLong "dotglob", s.hasLong "globstar", s.hasLong "nocaseglob",
    !s.isBash || (!s.hasLong "globskipdots" && !s.hasLong "dotglob")⟩

/-- A text without the beginning that a pattern stands for. -/
def cutFront (pattern : List Glob) (longest : Bool) (text : List Char) : List Char :=
  let ways := if longest then (Glob.cuts text).reverse else Glob.cuts text
  match ways.find? fun (a, _) => Glob.accepts pattern a with
  | some (_, rest) => rest
  | none => text

/-- A text without the end that a pattern stands for. -/
def cutBack (pattern : List Glob) (longest : Bool) (text : List Char) : List Char :=
  let ways := if longest then Glob.cuts text else (Glob.cuts text).reverse
  match ways.find? fun (_, b) => Glob.accepts pattern b with
  | some (rest, _) => rest
  | none => text

/-- What a match is replaced by: characters, and the places of the match itself. -/
def replacement (cs : List PatternChar) : List (Option Char) :=
  cs.map fun c => if c.char == '&' && !c.quoted then none else some c.char

/-- A match and its replacement put together. -/
def fillMatch (parts : List (Option Char)) (found : List Char) : List Char :=
  parts.flatMap fun
    | some c => [c]
    | none => found

/-- Replaces the first match, or all of them, each as long as can be. -/
def replaceMatches (pattern : List Glob) (all : Bool) (parts : List (Option Char)) :
    Nat → List Char → List Char
  | 0, text => text
  | _, [] => []
  | fuel + 1, c :: cs =>
    let ways := (Glob.cuts (c :: cs)).tail.reverse
    match ways.find? fun (a, _) => Glob.accepts pattern a with
    | some (found, rest) =>
      fillMatch parts found ++ (if all then replaceMatches pattern all parts fuel rest else rest)
    | none => c :: replaceMatches pattern all parts fuel cs

/-- Replaces matches of a pattern in a text. -/
def replace (scope : Scope) (pattern : List Glob) (parts : List (Option Char)) (text : List Char) :
    List Char :=
  match scope with
  | .front =>
    match (Glob.cuts text).reverse.find? fun (a, _) => Glob.accepts pattern a with
    | some (found, rest) => fillMatch parts found ++ rest
    | none => text
  | .back =>
    match (Glob.cuts text).find? fun (_, b) => Glob.accepts pattern b with
    | some (rest, found) => rest ++ fillMatch parts found
    | none => text
  | scope =>
    if pattern.isEmpty then text
    else replaceMatches pattern (scope == .all) parts (text.length + 1) text

/-- Changes the letters that a pattern stands for, all of them or the first character only. -/
def recase (casing : Casing) (all : Bool) (pattern : List Glob) (text : List Char) : List Char :=
  let change (c : Char) : Char :=
    if !pattern.isEmpty && !Glob.accepts pattern [c] then c
    else match casing with
      | .upper => c.toUpper
      | .lower => c.toLower
      | .toggle => if c.isUpper then c.toLower else c.toUpper
  if all then text.map change else (text.take 1).map change ++ text.drop 1

/-! ## Parts -/

/-- Counts a negative start from an end. -/
def offset (start : Int) (size : Nat) : Int := if start < 0 then start + size else start

/-- The part of a list from a start on. A negative length counts from the end; nothing if it goes
back before the start. -/
def slice {α : Type} (start : Int) (length : Option Int) (xs : List α) : Option (List α) :=
  let n := offset start xs.length
  if n < 0 || n > xs.length then some []
  else
    let rest := xs.drop n.toNat
    match length with
    | none => some rest
    | some l =>
      let count := if l < 0 then l + rest.length else l
      if count < 0 then none else some (rest.take count.toNat)

/-- The elements from a number on. -/
def sliceItems (start : Int) (length : Option Int) (v : Variable) : Option (List String) :=
  let items := if v.isKeyed then v.items.drop start.toNat
    else v.items.filter fun e =>
      (Text.readNat? e.1.toList).any fun n => (n : Int) ≥ offset start v.next
  let items := if !v.isKeyed && offset start v.next < 0 then [] else items
  match length with
  | none => some (items.map Prod.snd)
  | some l => if l < 0 then none else some ((items.take l.toNat).map Prod.snd)

/-! ## Forms -/

/-- The letters of the properties of a variable. -/
def properties (v : Variable) : List Char :=
  let kind : List Char := if v.isKeyed then ['A'] else if v.isList then ['a'] else []
  let has (c : Char) : List Char := if v.marks.contains c then [c] else []
  kind ++ has 'i' ++ has 'n' ++ (if v.readOnly then ['r'] else []) ++
    (if v.exported then ['x'] else []) ++ has 'l' ++ has 'u'

/-- The elements of a variable as an assignment lists them. -/
def itemList (v : Variable) : String :=
  let shown := v.items.map fun (key, text) =>
    let key := if v.isKeyed && (key.isEmpty || Quote.hasMeaning key || Quote.needsEscapes key)
      then Quote.double key else key
    "[" ++ key ++ "]=" ++ Quote.double text
  "(" ++ Text.joinWith " " shown ++ (if v.isKeyed && !shown.isEmpty then " " else "") ++ ")"

/-- The command that declares a variable as it is. -/
def declaration (name : String) (v : Variable) : String :=
  let letters := properties v
  let head := "declare -" ++ (if letters.isEmpty then "-" else String.ofList letters) ++ " " ++ name
  match v.content with
  | .unset => head
  | .text s => head ++ "=" ++ Quote.double s
  | _ => head ++ "=" ++ itemList v

/-- A text with its escapes read. -/
def unescaped : Nat → List Char → List Char
  | 0, cs => cs
  | _, [] => []
  | fuel + 1, '\\' :: cs =>
    let (found, count) := escape cs
    found ++ unescaped fuel (cs.drop count)
  | fuel + 1, c :: cs => c :: unescaped fuel cs

/-- A value in the form that a letter names. -/
def transformed (name : String) (v : Variable) (letter : Char) (value : String) : String :=
  match letter with
  | 'Q' | 'K' | 'k' => Quote.whole value
  | 'U' => value.map Char.toUpper
  | 'L' => value.map Char.toLower
  | 'u' => String.ofList (recase .upper false [] value.toList)
  | 'E' => String.ofList (unescaped (value.length + 1) value.toList)
  | 'A' =>
    let letters := properties v
    (if letters.isEmpty then "" else "declare -" ++ String.ofList letters ++ " ") ++ name ++ "=" ++
      Quote.whole value
  | 'a' => String.ofList (properties v)
  | _ => value

/-- The elements of a variable in the form that a letter names. -/
def transformedItems (name : String) (v : Variable) (letter : Char) : List String :=
  match letter with
  | 'A' => [declaration name v]
  | 'K' =>
    [Text.joinWith " " (v.items.flatMap fun (key, text) => [key, Quote.double text])]
  | 'k' => v.items.flatMap fun (key, text) => [key, text]
  | letter => v.items.map fun (_, text) => transformed name v letter text

end TensorCompiler.Shell
