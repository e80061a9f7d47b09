import TensorCompiler.Build.Disk

/-!
# Name patterns

Patterns of the shell: a star stands for any text, a question mark for any character, and brackets
for one character of a set. A pattern is matched against a whole text, or against the names on a
disk, one part of a path after the other.
-/

namespace TensorCompiler

/-- A character of a pattern. What is `quoted` stands for itself. -/
structure PatternChar where
  char : Char
  quoted : Bool
deriving DecidableEq, Repr

/-- The classes of characters that have a name. -/
def namedClass? (name : String) : Option (Char → Bool) :=
  let isPrintable (c : Char) := 32 ≤ c.toNat && c.toNat < 127
  let isSpace (c : Char) := c == ' ' || (9 ≤ c.toNat && c.toNat ≤ 13)
  match name with
  | "alpha" => some Char.isAlpha
  | "digit" => some Char.isDigit
  | "alnum" => some Char.isAlphanum
  | "upper" => some Char.isUpper
  | "lower" => some Char.isLower
  | "space" => some isSpace
  | "blank" => some fun c => c == ' ' || c == '\t'
  | "print" => some isPrintable
  | "graph" => some fun c => isPrintable c && c != ' '
  | "punct" => some fun c => isPrintable c && c != ' ' && !c.isAlphanum
  | "cntrl" => some fun c => c.toNat < 32 || c.toNat == 127
  | "xdigit" => some fun c => c.isDigit || ('a' ≤ c && c ≤ 'f') || ('A' ≤ c && c ≤ 'F')
  | _ => none

/-- A member of a set of characters. -/
inductive SetItem where
  | range (low high : Char)
  | named (name : String)
deriving DecidableEq, Repr

/-- Whether a character belongs to a member of a set. -/
def SetItem.holds (c : Char) : SetItem → Bool
  | .range low high => low ≤ c && c ≤ high
  | .named name => ((namedClass? name).map (· c)).getD false

/-- How often the patterns of a group stand for texts that follow one another. -/
inductive GroupKind where
  | once
  | perhaps
  | anyNumber
  | atLeastOnce
  /-- For any text that none of them stands for. -/
  | none
deriving DecidableEq, Repr

/-- The kind of the group that a sign before a parenthesis starts. -/
def GroupKind.ofSign? : Char → Option GroupKind
  | '@' => some .once
  | '?' => some .perhaps
  | '*' => some .anyNumber
  | '+' => some .atLeastOnce
  | '!' => some .none
  | _ => Option.none

/-- A piece of a pattern. -/
inductive Glob where
  | char (c : Char)
  | one
  | many
  | set (negated : Bool) (items : List SetItem)
  | group (kind : GroupKind) (choices : List (List Glob))
deriving Repr

namespace Glob

/-- The name of a class that stands between bracket and colon, and what follows it. -/
def className? (cs : List PatternChar) : Option (String × List PatternChar) :=
  let name := cs.takeWhile fun c => c.char.isAlpha
  match cs.drop name.length with
  | ⟨':', _⟩ :: ⟨']', _⟩ :: rest => some (String.ofList (name.map (·.char)), rest)
  | _ => none

/-- The members of a set up to its closing bracket, and what follows it. -/
def items : Nat → Bool → List PatternChar → Option (List SetItem × List PatternChar)
  | 0, _, _ => none
  | fuel + 1, first, cs =>
    let add (item : SetItem) (rest : List PatternChar) :=
      (items fuel false rest).map fun (found, rest) => (item :: found, rest)
    let single (c : PatternChar) (rest : List PatternChar) :=
      match rest with
      | ⟨'-', false⟩ :: d :: rest =>
        if d == ⟨']', false⟩ then add (.range c.char c.char) (⟨'-', false⟩ :: d :: rest)
        else add (.range c.char d.char) rest
      | rest => add (.range c.char c.char) rest
    match cs with
    | [] => none
    | ⟨']', false⟩ :: rest => if first then single ⟨']', false⟩ rest else some ([], rest)
    | ⟨'[', false⟩ :: ⟨':', false⟩ :: rest =>
      match className? rest with
      | some (name, rest) => add (.named name) rest
      | none => single ⟨'[', false⟩ (⟨':', false⟩ :: rest)
    | c :: rest => single c rest

/-- The choices of a group up to its closing parenthesis, and what follows it. Groups inside it are
counted by `depth`. -/
def choices : Nat → List PatternChar → Option (List (List PatternChar) × List PatternChar)
  | _, [] => none
  | depth, c :: rest =>
    let keep (depth : Nat) :=
      (choices depth rest).map fun (found, rest) => ((c :: found.headD []) :: found.tail, rest)
    if c.quoted then keep depth
    else if c.char == '(' then keep (depth + 1)
    else if c.char == ')' then if depth == 0 then some ([[]], rest) else keep (depth - 1)
    else if c.char == '|' && depth == 0 then
      (choices depth rest).map fun (found, rest) => ([] :: found, rest)
    else keep depth

/-- The group that a character starts: its kind, its choices and what follows it. -/
def group? (c : PatternChar) (rest : List PatternChar) :
    Option (GroupKind × List (List PatternChar) × List PatternChar) :=
  match GroupKind.ofSign? c.char, rest with
  | some kind, ⟨'(', false⟩ :: inside => (choices 0 inside).map fun found => (kind, found)
  | _, _ => none

/-- The pieces of a pattern. A bracket that is not closed stands for itself. There are groups only
in an `extended` pattern. -/
def ofChars (extended : Bool) : Nat → List PatternChar → List Glob
  | 0, _ => []
  | _, [] => []
  | fuel + 1, c :: rest =>
    if c.quoted then .char c.char :: ofChars extended fuel rest
    else if let some (kind, found, rest) := if extended then group? c rest else none then
      .group kind (found.map (ofChars extended fuel)) :: ofChars extended fuel rest
    else if c.char == '*' then .many :: ofChars extended fuel rest
    else if c.char == '?' then .one :: ofChars extended fuel rest
    else if c.char == '[' then
      let (negated, inside) := match rest with
        | ⟨'!', false⟩ :: inside => (true, inside)
        | inside => (false, inside)
      match items (inside.length + 1) true inside with
      | some (found, rest) => .set negated found :: ofChars extended fuel rest
      | none => .char '[' :: ofChars extended fuel rest
    else .char c.char :: ofChars extended fuel rest

/-- Reads a pattern. -/
def read (extended : Bool) (cs : List PatternChar) : List Glob :=
  ofChars extended (cs.length + 1) cs

/-- The ends of a text, the text itself first. -/
def ends : List Char → List (List Char)
  | [] => [[]]
  | c :: cs => (c :: cs) :: ends cs

/-- The ways to cut a text in two, the shortest first part first. -/
def cuts : List Char → List (List Char × List Char)
  | [] => [([], [])]
  | c :: cs => ([], c :: cs) :: (cuts cs).map fun (a, b) => (c :: a, b)

/-- Whether a text is made of texts that are accepted, each of them not empty. -/
def isMadeOf (accepted : List Char → Bool) : Nat → List Char → Bool
  | _, [] => true
  | 0, _ => false
  | fuel + 1, cs =>
    (cuts cs).any fun (a, b) => !a.isEmpty && accepted a && isMadeOf accepted fuel b

/-- Whether a group of a kind stands for a text, where its choices stand for those `accepted`. -/
def groupAccepts (kind : GroupKind) (accepted : List Char → Bool) (cs : List Char) : Bool :=
  match kind with
  | .once => accepted cs
  | .perhaps => cs.isEmpty || accepted cs
  | .anyNumber => isMadeOf accepted cs.length cs
  | .atLeastOnce => if cs.isEmpty then accepted cs else isMadeOf accepted cs.length cs
  | .none => !accepted cs

mutual

/-- Whether a pattern stands for a text. -/
def accepts : List Glob → List Char → Bool
  | [], cs => cs.isEmpty
  | .many :: gs, cs => (ends cs).any fun cs => accepts gs cs
  | .group kind found :: gs, cs =>
    (cuts cs).any fun (a, b) => groupAccepts kind (fun cs => acceptsAny found cs) a && accepts gs b
  | .char d :: gs, c :: cs => c == d && accepts gs cs
  | .one :: gs, _ :: cs => accepts gs cs
  | .set negated found :: gs, c :: cs => (found.any (·.holds c)) != negated && accepts gs cs
  | _ :: _, [] => false

/-- Whether one of some patterns stands for a text. -/
def acceptsAny : List (List Glob) → List Char → Bool
  | [], _ => false
  | p :: ps, cs => accepts p cs || acceptsAny ps cs

end

/-- Whether a pattern stands for more than one text. -/
def isProper (gs : List Glob) : Bool :=
  gs.any fun
    | .char _ => false
    | _ => true

/-- The text of a pattern that stands for one text. -/
def text (cs : List PatternChar) : String := String.ofList (cs.map (·.char))

/-- The parts of a path pattern between slashes. -/
def splitPath : List PatternChar → List (List PatternChar)
  | [] => [[]]
  | c :: cs =>
    if c.char == '/' then [] :: splitPath cs
    else match splitPath cs with
      | [] => [[c]]
      | part :: parts => (c :: part) :: parts

/-- How paths are looked for. -/
structure Manner where
  /-- Whether patterns have groups. -/
  extended : Bool
  /-- Whether a pattern finds names that start with a point. -/
  hidden : Bool
  /-- Whether two stars stand for any number of directories. -/
  deep : Bool
  /-- Whether small and large letters are the same. -/
  ignoreCase : Bool
  /-- Whether a pattern that starts with a point finds a directory itself and the one above. -/
  points : Bool
deriving DecidableEq, Repr

namespace Manner

/-- The manner without any of the choices. -/
def plain : Manner := ⟨false, false, false, false, false⟩

/-- A part of a pattern in which letters are small if their size does not count. -/
def fold (m : Manner) (part : List PatternChar) : List PatternChar :=
  if m.ignoreCase then part.map fun c => { c with char := c.char.toLower } else part

/-- Whether a part of a pattern stands for any number of directories. -/
def isDeep (m : Manner) (part : List PatternChar) : Bool :=
  m.deep && part == [⟨'*', false⟩, ⟨'*', false⟩]

/-- The names in a directory that a part of a pattern finds. A name that starts with a point is
found only by a pattern that starts with one, unless hidden names are found as well. -/
def names (m : Manner) (d : Disk) (p : Place) (part : List PatternChar) : List String :=
  let pattern := read m.extended (m.fold part)
  let pointed := (text part).startsWith "."
  let hidden := m.hidden || pointed
  ((if m.points && pointed then [".", ".."] else []) ++ d.names p).filter fun name =>
    accepts pattern (if m.ignoreCase then name.toLower else name).toList &&
      (hidden || !name.startsWith ".")

/-- The paths of what lies below a directory, at any depth up to a bound. -/
def below (m : Manner) (d : Disk) : Nat → String → Place → List (String × Place)
  | 0, _, _ => []
  | fuel + 1, done, p =>
    (m.names d p [⟨'*', false⟩]).flatMap fun name =>
      let path := done ++ name
      let place := p ++ [name]
      (path, place) :: (if d.isDirectory place then m.below d fuel (path ++ "/") place else [])

end Manner

/-- The paths that parts of a pattern lead to. A path that is written so far stands first. -/
def paths (m : Manner) (d : Disk) (here : Place) : String → List (List PatternChar) → List String
  | done, [] => [done]
  | done, part :: rest =>
    let behind (name : String) : List String :=
      let path := done ++ name
      if rest.isEmpty then
        let isThere := if name.isEmpty then (d.find here path).toOption.any d.isDirectory
          else (d.spot here path).toOption.any fun p => (d.get? p).isSome
        if path.isEmpty || isThere then [path] else []
      else paths m d here (path ++ "/") rest
    if !isProper (read m.extended part) then behind (text part)
    else
      match d.find here (if done.isEmpty then "." else done) with
      | .error _ => []
      | .ok p =>
        if !d.isDirectory p then []
        else if m.isDeep part then
          let found := m.below d 32 done p
          if rest.isEmpty then (if done.isEmpty then [] else [done]) ++ found.map Prod.fst
          else
            paths m d here done rest ++
              ((found.filter fun (_, p) => d.isDirectory p).flatMap fun (path, _) =>
                paths m d here (path ++ "/") rest)
        else (m.names d p part).flatMap behind

/-- The paths that a pattern stands for. -/
def expand (m : Manner) (d : Disk) (here : Place) (cs : List PatternChar) : List String :=
  if !isProper (read m.extended cs) then []
  else (paths m d here "" (splitPath cs)).mergeSort fun a b => decide (a ≤ b)

end Glob
end TensorCompiler
