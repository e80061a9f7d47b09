import TensorCompiler.Build.Script.Quote

/-!
# Readers of scripts

A script is read from left to right, one character after the other. A reader keeps what is left of
it, the line it is on, and what waits to be read later; a fault says on which line it was found.
-/

namespace TensorCompiler.Script

/-- What follows a redirection sign. -/
inductive RedirectKind where
  | file (mode : OpenMode)
  | copy
  | here (stripTabs : Bool)
  | line
  | both (append : Bool)
  /-- The same for a descriptor whose number a variable gets. -/
  | named (name : String) (kind : RedirectKind)
deriving DecidableEq, Repr

/-- A token of a script. -/
inductive Token where
  | word (w : Word)
  /-- An assignment that no word is: to an element, or of a list. -/
  | assign (a : Assign)
  | redirect (fd : Nat) (kind : RedirectKind)
  | sign (s : String)
  | newline
  | eof

/-- A here-document whose text is still to come. -/
structure Pending where
  number : Nat
  delimiter : String
  stripTabs : Bool
  verbatim : Bool

/-- The text that a word stands for, while it is read in the place of the word. -/
structure Expansion where
  name : String
  /-- How many characters of the script come behind it. -/
  behind : Nat
  /-- Whether it ends in a blank: then the next word may stand for a text too. -/
  goesOn : Bool
deriving DecidableEq, Repr

/-- Where a token stands. -/
structure Mark where
  line : Nat
  /-- The script from the start of that line on. -/
  source : List Char
  /-- The token as it is written. -/
  text : String
deriving DecidableEq, Repr

/-- How far a script is read. -/
structure Reader where
  rest : List Char
  line : Nat
  /-- Whether the larger language is read, with lists, conditions and loops that count. -/
  extended : Bool
  /-- Whether patterns in words may have groups between parentheses. -/
  groups : Bool
  /-- The script from the start of the line on. -/
  source : List Char
  /-- The last token. -/
  mark : Mark
  /-- What is said about the script while it is read, each with its line, the latest first. -/
  warnings : List (Nat × String)
  ahead : Option Token
  pending : List Pending
  /-- The here-documents by their numbers. -/
  documents : List (Nat × Word)
  /-- How many here-documents there are, those that are pending included. -/
  announced : Nat
  /-- The words that stand for texts where a command may start. -/
  aliases : List (String × String)
  /-- The words that have given way to their texts. -/
  expansions : List Expansion

/-- A script at its start. In the extended language its last line always ends. -/
def Reader.start (extended : Bool) (line : Nat) (documents : List (Nat × Word)) (text : String) :
    Reader :=
  let cs := text.toList
  let cs := if extended && cs.getLast?.any (· != '\n') then cs ++ ['\n'] else cs
  ⟨cs, line, extended, false, cs, ⟨line, cs, ""⟩, [], none, [], documents, documents.length, [], []⟩

/-- Why a script cannot be read on, and the line where that is found. -/
structure ReadFault where
  line : Nat
  /-- The complaints, one or more. -/
  texts : List String
  /-- The line of the script, if it is to be shown. -/
  source : Option String
deriving DecidableEq, Repr

/-- A step that reads on in a script. -/
abbrev Read := StateT Reader (Except ReadFault)

/-- Refuses the script. -/
def refuse {α : Type} (text : String) : Read α := fun r => .error ⟨r.line, [text], none⟩

/-- Refuses the script at its last token, whose line is shown. -/
def refuseAtMark {α : Type} (texts : Mark → List String) : Read α := fun r =>
  .error ⟨r.mark.line, texts r.mark, some (String.ofList (r.mark.source.takeWhile (· != '\n')))⟩

/-- Refuses the script because something that starts on a line is not closed. The two languages word
that in their own ways. -/
def refuseOpen {α : Type} (line : Nat) (closing : Char) (plain : String) : Read α := fun r =>
  if r.extended then
    let text := "unexpected EOF while looking for matching " ++ cited (String.singleton closing)
    .error ⟨line, [text], none⟩
  else .error ⟨r.line, [plain], none⟩

/-- Repeats a step until it has a result, up to once for every character that is left. -/
def repeatRead {α β : Type} (step : α → Read (α ⊕ β)) : Nat → α → Read β
  | 0, _ => refuse "end of file unexpected"
  | fuel + 1, a => do
    match ← step a with
    | .inl a => repeatRead step fuel a
    | .inr b => return b

/-- More steps than a loop over the rest of the script can take. -/
def Reader.bound (r : Reader) : Nat :=
  2 * r.rest.length + r.aliases.foldl (fun n a => n + 8 * (a.2.length + 1)) 16

/-- Repeats a step until it has a result. -/
def untilDone {α β : Type} (step : α → Read (α ⊕ β)) (a : α) : Read β := do
  repeatRead step (← get).bound a

/-- The next character. -/
def peek? : Read (Option Char) := return (← get).rest.head?

/-- Passes over the next character. -/
def skipChar : Read Unit :=
  modify fun r =>
    if r.rest.head? == some '\n' then
      { r with rest := r.rest.tail, line := r.line + 1, source := r.rest.tail }
    else { r with rest := r.rest.tail }

/-- Passes over characters. -/
def skipChars : Nat → Read Unit
  | 0 => return
  | n + 1 => do skipChar; skipChars n

/-- The characters behind line breaks that a backslash takes away, and the number of those. -/
def joinLines : List Char → List Char × Nat
  | '\\' :: '\n' :: cs => ((joinLines cs).1, (joinLines cs).2 + 1)
  | cs => (cs, 0)

/-- The next character behind joined lines. -/
def peekJoined? : Read (Option Char) := do
  modify fun r => match joinLines r.rest with
    | (_, 0) => r
    | (rest, n) => { r with rest := rest, line := r.line + n, source := rest }
  peek?

/-- Passes over a character if it comes next. -/
def accept (c : Char) : Read Bool := do
  if (← peekJoined?) == some c then skipChar; return true else return false

/-- The longest run of characters of a kind that comes next. -/
def takeRun (p : Char → Bool) : Read String :=
  untilDone (fun taken => do
    match ← peekJoined? with
    | some c => if p c then skipChar; return .inl (c :: taken) else return .inr taken.reverse
    | none => return .inr taken.reverse) [] >>= fun cs => return String.ofList cs

/-- Tries to read something. If that gives nothing, or is refused, the script stays where it was. -/
def attempt {α : Type} (act : Read (Option α)) : Read (Option α) := fun r =>
  match act r with
  | .ok (some a, r) => .ok (some a, r)
  | .ok (none, r') => .ok (none, { r with announced := max r.announced r'.announced })
  | .error _ => .ok (none, r)

/-- The complaint about an expression whose parentheses do not close together. -/
def apart : String := "parentheses apart"

/-- Tries to read an expression between double parentheses. If these do not close together, the
script stays where it was. -/
def attemptExpression {α : Type} (act : Read (Option α)) : Read (Option α) := fun r =>
  match act r with
  | .error fault => if fault.texts == [apart] then .ok (none, r) else .error fault
  | .ok (some a, r) => .ok (some a, r)
  | .ok (none, _) => .ok (none, r)

end TensorCompiler.Script
