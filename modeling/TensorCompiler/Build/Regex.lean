import TensorCompiler.Build.Pattern

/-!
# Regular expressions

Expressions over bytes in the two written forms of line-oriented tools, the basic and the extended
one. Of all matches that start first the longest counts.
-/

namespace TensorCompiler

/-- A regular expression. -/
inductive Regex where
  | empty
  | char (c : Char)
  | any
  | set (negated : Bool) (items : List SetItem)
  | lineStart
  | lineEnd
  /-- The two sides belong to a word or not, as stated. -/
  | edge (before after : Bool)
  /-- Exactly one of the two sides belongs to a word, or not exactly one. -/
  | border (present : Bool)
  | group (number : Nat) (r : Regex)
  | back (number : Nat)
  | seq (r s : Regex)
  | alt (r s : Regex)
  | times (r : Regex) (least : Nat) (most : Option Nat)
deriving Repr

namespace Regex

/-- A character of a word. -/
def isWordChar (c : Char) : Bool := c.isAlphanum || c == '_'

/-- How far a text is matched. -/
structure Cursor where
  position : Nat
  before : Option Char
  rest : List Char
  /-- The groups that are matched, with their start and their end, the latest first. -/
  groups : List (Nat × Nat × Nat)

/-- The cursor behind the next character. -/
def Cursor.advance (u : Cursor) (c : Char) (rest : List Char) : Cursor :=
  { u with position := u.position + 1, before := some c, rest := rest }

/-- How characters are compared, and where lines end. -/
structure Options where
  ignoreCase : Bool
  /-- Whether the anchors also match at line breaks. -/
  multiline : Bool
  extended : Bool
deriving DecidableEq, Repr

/-- Whether two characters count as the same. -/
def Options.same (o : Options) (c d : Char) : Bool :=
  c == d || (o.ignoreCase && c.toLower == d.toLower)

/-- Whether a character belongs to a set. -/
def Options.inSet (o : Options) (negated : Bool) (items : List SetItem) (c : Char) : Bool :=
  (items.any fun i =>
    i.holds c || (o.ignoreCase && (i.holds c.toLower || i.holds c.toUpper))) != negated

/-- Whether a condition on the place of the cursor holds; `none` for an expression that is none. -/
def condition? (o : Options) (u : Cursor) : Regex → Option Bool
  | empty => some true
  | lineStart => some (u.position == 0 || (o.multiline && u.before == some '\n'))
  | lineEnd => some (u.rest.isEmpty || (o.multiline && u.rest.head? == some '\n'))
  | edge before after =>
    some (u.before.any isWordChar == before && u.rest.head?.any isWordChar == after)
  | border present =>
    some ((u.before.any isWordChar != u.rest.head?.any isWordChar) == present)
  | _ => none

/-- Whether an expression for one character takes it; `none` for any other expression. -/
def takes? (o : Options) (c : Char) : Regex → Option Bool
  | char d => some (o.same c d)
  | any => some true
  | set negated items => some (o.inSet negated items c)
  | _ => none

/-- A match in steps: what is matched next is given as a continuation. -/
abbrev Matcher := Cursor → (Cursor → Option Cursor) → Option Cursor

/-- Repeats a match as often as it goes, then less often. -/
def repeatMatch (m : Matcher) : Nat → Nat → Option Nat → Matcher
  | 0, least, _ => fun u k => if least = 0 then k u else none
  | fuel + 1, least, most => fun u k =>
    let further := if most = some 0 then none
      else m u fun v =>
        if v.position = u.position && least = 0 then none
        else repeatMatch m fuel (least - 1) (most.map (· - 1)) v k
    match further with
    | some v => some v
    | none => if least = 0 then k u else none

/-- The text that a group has matched. -/
def Cursor.group? (u : Cursor) (text : List Char) (n : Nat) : Option (List Char) :=
  (u.groups.find? (·.1 == n)).map fun g => (text.drop g.2.1).take (g.2.2 - g.2.1)

/-- Takes a text that has to come next. -/
def Cursor.take? (o : Options) : Cursor → List Char → Option Cursor
  | u, [] => some u
  | u, d :: ds =>
    match u.rest with
    | c :: cs => if o.same c d then (u.advance c cs).take? o ds else none
    | [] => none

/-- Matches an expression within a text, trying the longer ways of each part first. -/
def run (o : Options) (text : List Char) : Regex → Matcher
  | group n r => fun u k => run o text r u fun v =>
      k { v with groups := (n, u.position, v.position) :: v.groups }
  | back n => fun u k => (u.group? text n).bind fun ds => (u.take? o ds).bind k
  | seq r s => fun u k => run o text r u fun v => run o text s v k
  | alt r s => fun u k =>
    match run o text r u k with
    | some v => some v
    | none => run o text s u k
  | times r least most =>
    fun u k => repeatMatch (run o text r) (u.rest.length + least + 1) least most u k
  | r => fun u k =>
    match condition? o u r, u.rest with
    | some holds, _ => if holds then k u else none
    | none, c :: cs => if (takes? o c r).getD false then k (u.advance c cs) else none
    | none, [] => none

/-- Adds cursors at places where there is none yet. -/
def addCursors (found : List Cursor) (more : List Cursor) : List Cursor :=
  more.foldl (fun found u =>
    if found.any (·.position == u.position) then found else found ++ [u]) found

/-- Repeats a step on cursors. Those that may be the last are collected in `found`. -/
def repeatEnds (step : Cursor → List Cursor) :
    Nat → Nat → Option Nat → List Cursor → List Cursor → List Cursor
  | 0, _, _, found, _ => found
  | fuel + 1, least, most, found, now =>
    let found' := if least = 0 then addCursors found now else found
    if now.isEmpty || most = some 0 then found'
    else
      let next := now.foldl (fun next u => addCursors next (step u)) []
      let isNew (u : Cursor) := !found'.any (·.position == u.position)
      let next := if least = 0 then next.filter isNew else next
      repeatEnds step fuel (least - 1) (most.map (· - 1)) found' next

/-- All the places where a match may end. A reference to a group is left out of account. -/
def ends (o : Options) : Regex → Cursor → List Cursor
  | group _ r, u => ends o r u
  | back _, _ => []
  | seq r s, u => (ends o r u).foldl (fun found v => addCursors found (ends o s v)) []
  | alt r s, u => addCursors (ends o r u) (ends o s u)
  | times r least most, u => repeatEnds (ends o r) (u.rest.length + least + 2) least most [] [u]
  | r, u =>
    match condition? o u r, u.rest with
    | some holds, _ => if holds then [u] else []
    | none, c :: cs => if (takes? o c r).getD false then [u.advance c cs] else []
    | none, [] => []

/-- Whether an expression refers to a group. -/
def refers : Regex → Bool
  | back _ => true
  | group _ r => refers r
  | seq r s => refers r || refers s
  | alt r s => refers r || refers s
  | times r _ _ => refers r
  | _ => false

/-- A match: where it starts, and the cursor behind it. -/
structure Found where
  start : Nat
  stop : Cursor

/-- The longest match that starts at a cursor. -/
def matchAt? (o : Options) (r : Regex) (text : List Char) (u : Cursor) : Option Found :=
  let u := { u with groups := [] }
  let result := if r.refers then run o text r u some
    else
      match (ends o r u).map (·.position) with
      | [] => none
      | p :: ps =>
        let longest := ps.foldl max p
        run o text r u fun v => if v.position = longest then some v else none
  result.map fun v => ⟨u.position, v⟩

/-- The first of the longest matches that start at a cursor or behind it. -/
def searchFrom? (o : Options) (r : Regex) (text : List Char) (before : Option Char)
    (position : Nat) : List Char → Option Found
  | [] => matchAt? o r text ⟨position, before, [], []⟩
  | c :: cs =>
    match matchAt? o r text ⟨position, before, c :: cs, []⟩ with
    | some found => some found
    | none => searchFrom? o r text (some c) (position + 1) cs

/-- The first of the longest matches in a text. -/
def search? (o : Options) (r : Regex) (text : List Char) : Option Found :=
  searchFrom? o r text none 0 text

/-- Why a text is no expression. -/
inductive Fault where
  | bracket
  | openEnd
  | className
  | confusing
  | tooBig
  | group
  | closing
  | backslash
  | reference
  | bounds
  | range
  | preceding
  | brace
deriving DecidableEq, Repr

/-- The wording of a fault. -/
def Fault.text : Fault → String
  | .bracket => "Unmatched [, [^, [:, [., or [="
  | .openEnd => "Invalid regular expression"
  | .className => "Invalid character class name"
  | .confusing => "character class syntax is [[:space:]], not [:space:]"
  | .tooBig => "Regular expression too big"
  | .group => "Unmatched ( or \\("
  | .closing => "Unmatched ) or \\)"
  | .backslash => "Trailing backslash"
  | .reference => "Invalid back reference"
  | .bounds => "Invalid content of \\\x7b\\\x7d"
  | .range => "Invalid range end"
  | .preceding => "Invalid preceding regular expression"
  | .brace => "Unmatched \\\x7b"

/-- A token of a written expression. -/
inductive Token where
  | atom (r : Regex)
  | opening
  | closing
  | bar
  | times (least : Nat) (most : Option Nat)

/-- How expressions are written. -/
structure Dialect where
  extended : Bool
  /-- Whether a repetition of nothing, a brace without numbers and a parenthesis that closes nothing
  are refused. -/
  strict : Bool
  /-- Whether the letter d behind a backslash stands for digits. -/
  digits : Bool
deriving DecidableEq, Repr

/-- The most that an expression may be repeated. -/
def maxTimes : Nat := 32767

/-- The text before an end mark and what follows the mark. -/
def splitAtMark? (close : List Char) : List Char → Option (List Char × List Char)
  | [] => none
  | c :: cs =>
    if close.isPrefixOf (c :: cs) then some ([], (c :: cs).drop close.length)
    else (splitAtMark? close cs).map fun (inside, rest) => (c :: inside, rest)

/-- Two numbers between braces, and what follows the end mark. -/
def bounds (close : List Char) (cs : List Char) : Except Fault (Token × List Char) :=
  match splitAtMark? close cs with
  | none => .error .brace
  | some (inside, rest) =>
    let number? (p : List Char) : Option (Option Nat) :=
      if p.isEmpty then some none else (Text.readNat? p).map some
    let sized (least : Nat) (most : Option Nat) : Except Fault (Token × List Char) :=
      if most.getD least > maxTimes then .error .tooBig else .ok (.times least most, rest)
    match (Text.splitChars ',' inside).map number? with
    | [some (some n)] => sized n (some n)
    | [some least, some most] =>
      if most.any (· < least.getD 0) then .error .bounds else sized (least.getD 0) most
    | _ => .error .bounds

/-- Whether a set is written like the name of a class without its second brackets. -/
def looksNamed (items : List SetItem) : Bool :=
  let colon : SetItem := .range ':' ':'
  let isSingle : SetItem → Bool
    | .range low high => low == high
    | .named _ => false
  items.head? == some colon && items.getLast? == some colon && items.all isSingle &&
    items.any (· != colon)

/-- The set behind an opening bracket, and what follows it. -/
def bracket (cs : List Char) : Except Fault (Token × List Char) :=
  let (negated, inside) := match cs with
    | '^' :: inside => (true, inside)
    | inside => (false, inside)
  match inside, Glob.items (inside.length + 1) true (inside.map fun c => ⟨c, false⟩) with
  | [], _ => .error .openEnd
  | _, none => .error .bracket
  | _, some (items, rest) =>
    let fault? : SetItem → Option Fault
      | .range low high => if high < low then some .range else none
      | .named name => if (namedClass? name).isNone then some .className else none
    match items.findSome? fault? with
    | some fault => .error fault
    | none =>
      if looksNamed items then .error .confusing
      else .ok (.atom (.set negated items), rest.map (·.char))

/-- The characters that a letter behind a backslash stands for. -/
def letterClass? (c : Char) : Option Regex :=
  let word : List SetItem := [.named "alnum", .range '_' '_']
  match c with
  | 'w' => some (.set false word)
  | 'W' => some (.set true word)
  | 's' => some (.set false [.named "space"])
  | 'S' => some (.set true [.named "space"])
  | 'b' => some (.border true)
  | 'B' => some (.border false)
  | '<' => some (.edge false true)
  | '>' => some (.edge true false)
  | _ => if c == Char.ofNat 96 then some .lineStart
    else if c == Char.ofNat 39 then some .lineEnd
    else none

/-- The token behind a backslash. `starts` says that a branch starts here. -/
def escaped (d : Dialect) (starts : Bool) (c : Char) (rest : List Char) :
    Except Fault (Token × List Char) :=
  let literal : Except Fault (Token × List Char) := .ok (.atom (.char c), rest)
  if '1' ≤ c && c ≤ '9' then .ok (.atom (.back (c.toNat - 48)), rest)
  else if d.digits && (c == 'd' || c == 'D') then
    .ok (.atom (.set (c == 'D') [.named "digit"]), rest)
  else
    match letterClass? c with
    | some r => .ok (.atom r, rest)
    | none =>
      if d.extended then literal
      else
        match c with
        | '(' => .ok (.opening, rest)
        | ')' => .ok (.closing, rest)
        | '|' => .ok (.bar, rest)
        | '+' => if starts then literal else .ok (.times 1 none, rest)
        | '?' => if starts then literal else .ok (.times 0 (some 1), rest)
        | '\x7b' =>
          if !starts then bounds ['\\', '\x7d'] rest
          else if d.strict then .error .preceding
          else literal
        | _ => literal

/-- Whether what follows ends a branch of a basic expression. -/
def endsBranch : List Char → Bool
  | [] => true
  | '\\' :: ')' :: _ => true
  | '\\' :: '|' :: _ => true
  | _ => false

/-- The first token, and what follows it. `starts` says that a branch starts here. -/
def nextToken (d : Dialect) (starts : Bool) (c : Char) (rest : List Char) :
    Except Fault (Token × List Char) :=
  let literal : Except Fault (Token × List Char) := .ok (.atom (.char c), rest)
  match c with
  | '\\' =>
    match rest with
    | [] => .error .backslash
    | c :: rest => escaped d starts c rest
  | '.' => .ok (.atom .any, rest)
  | '[' => bracket rest
  | '*' => if starts && !d.extended then literal else .ok (.times 0 none, rest)
  | '^' => if d.extended || starts then .ok (.atom .lineStart, rest) else literal
  | '$' => if d.extended || endsBranch rest then .ok (.atom .lineEnd, rest) else literal
  | _ =>
    if !d.extended then literal
    else
      match c with
      | '(' => .ok (.opening, rest)
      | ')' => .ok (.closing, rest)
      | '|' => .ok (.bar, rest)
      | '+' => .ok (.times 1 none, rest)
      | '?' => .ok (.times 0 (some 1), rest)
      | '\x7b' =>
        match bounds ['\x7d'] rest with
        | .ok found => .ok found
        | .error .tooBig => .error .tooBig
        | .error fault =>
          if d.strict then .error fault
          else
            let isNumber c := c.isDigit || c == ','
            let isShaped := (splitAtMark? ['\x7d'] rest).any fun (inside, _) =>
              inside.all isNumber && inside.head?.any Char.isDigit
            if isShaped then .error fault else literal
      | _ => literal

/-- A group that is being read: its number, its finished branches and the pieces of the last one,
the latest first. -/
structure Frame where
  number : Nat
  branches : List Regex
  pieces : List Regex

/-- The branch that the pieces of a frame make. -/
def Frame.branch (f : Frame) : Regex :=
  match f.pieces with
  | [] => .empty
  | p :: ps => ps.foldl (fun r p => .seq p r) p

/-- What a frame has read. -/
def Frame.result (f : Frame) : Regex :=
  f.branches.foldl (fun r b => .alt b r) f.branch

/-- The end of a group. One that closes nothing stands for itself in a lenient dialect. -/
def closeFrame (d : Dialect) (f : Frame) : List Frame → Except Fault (List Frame)
  | [] =>
    if d.extended && !d.strict then .ok [{ f with pieces := .char ')' :: f.pieces }]
    else .error .closing
  | g :: outer => .ok ({ g with pieces := .group f.number f.result :: g.pieces } :: outer)

/-- Whether a piece is repeated. -/
def isRepeated : Regex → Bool
  | times _ _ _ => true
  | _ => false

/-- Repeats the last piece of a frame. A repetition of nothing is passed over in a lenient
dialect. -/
def repeatPiece (d : Dialect) (starts : Bool) (sign : Char) (least : Nat) (most : Option Nat)
    (f : Frame) : Except Fault Frame :=
  match starts, f.pieces with
  | false, p :: ps =>
    if d.strict && !d.extended && (sign == '*' || sign == '\x7b') && isRepeated p then
      .error .preceding
    else .ok { f with pieces := .times p least most :: ps }
  | _, _ => if d.strict then .error .preceding else .ok f

/-- Whether a piece leaves the place behind it at the start of a branch. -/
def keepsStart : Regex → Bool
  | lineStart => true
  | _ => false

/-- Reads tokens into the frames of open groups, the innermost first. -/
def readFrames (d : Dialect) : Nat → Nat → Bool → List Frame → List Char → Except Fault Regex
  | _, _, _, [f], [] => .ok f.result
  | 0, _, _, _, _ => .error .group
  | _, _, _, _, [] => .error .group
  | _, _, _, [], _ :: _ => .error .closing
  | fuel + 1, groups, starts, f :: outer, c :: cs => do
    let (token, rest) ← nextToken d starts c cs
    match token with
    | .atom r =>
      match r with
      | .back n => if n > groups then throw .reference
      | _ => pure ()
      readFrames d fuel groups (keepsStart r) ({ f with pieces := r :: f.pieces } :: outer) rest
    | .opening => readFrames d fuel (groups + 1) true (⟨groups + 1, [], []⟩ :: f :: outer) rest
    | .closing => readFrames d fuel groups false (← closeFrame d f outer) rest
    | .bar => readFrames d fuel groups true (⟨f.number, f.branch :: f.branches, []⟩ :: outer) rest
    | .times least most =>
      let sign := if c == '\\' then cs.headD c else c
      readFrames d fuel groups starts ((← repeatPiece d starts sign least most f) :: outer) rest

/-- Reads an expression. -/
def read (d : Dialect) (text : List Char) : Except Fault Regex :=
  readFrames d (2 * text.length + 2) 0 true [⟨0, [], []⟩] text

/-- The signs that repeat nothing, as a lenient reader of extended expressions reports them. -/
def idleSigns (d : Dialect) : Nat → Bool → List Char → List String
  | 0, _, _ => []
  | _, _, [] => []
  | fuel + 1, starts, c :: cs =>
    match nextToken d starts c cs with
    | .error _ => []
    | .ok (.atom r, rest) => idleSigns d fuel (keepsStart r) rest
    | .ok (.opening, rest) | .ok (.bar, rest) => idleSigns d fuel true rest
    | .ok (.closing, rest) => idleSigns d fuel false rest
    | .ok (.times _ _, rest) =>
      let sign := if c == '\x7b' then "\x7b...\x7d" else String.singleton c
      (if starts then [sign] else []) ++ idleSigns d fuel starts rest

/-- The number of groups of an expression. -/
def groupCount : Regex → Nat
  | group _ r => groupCount r + 1
  | seq r s => groupCount r + groupCount s
  | alt r s => groupCount r + groupCount s
  | times r _ _ => groupCount r
  | _ => 0

end Regex
end TensorCompiler
