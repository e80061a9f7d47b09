import TensorCompiler.Text.Basic

/-!
# Command scripts

What a script says once it is read: commands made of words, and words made of parts that are filled
in when the command runs. A script is a byte text.
-/

namespace TensorCompiler.Script

/-- A single quotation mark. -/
def apostrophe : Char := Char.ofNat 39

/-- The mark around a command whose output is taken. -/
def backquote : Char := Char.ofNat 96

/-- Which matches of a pattern are replaced. -/
inductive Scope where
  | first
  | all
  | front
  | back
deriving DecidableEq, Repr

/-- What becomes of letters. -/
inductive Casing where
  | upper
  | lower
  | toggle
deriving DecidableEq, Repr

/-- What is made of the value of a parameter. A `colon` has an empty value count as none. -/
inductive ParamUse where
  | value
  | length
  | orElse (colon : Bool)
  | orAssign (colon : Bool)
  | orFail (colon : Bool)
  | ifSet (colon : Bool)
  | cutFront (longest : Bool)
  | cutBack (longest : Bool)
  /-- A part of the value, from an offset on. -/
  | slice
  | replace (scope : Scope)
  | recase (casing : Casing) (all : Bool)
  /-- The value in a form that a letter names. -/
  | transform (letter : Char)
  /-- The keys of the elements. -/
  | keys
  /-- The names of the variables that start with the name. -/
  | names
  /-- The use of the parameter whose name is the value. -/
  | through (use : ParamUse)
  | malformed
deriving DecidableEq, Repr

/-- How a file is opened for a redirection. -/
inductive OpenMode where
  | read
  | write
  /-- To be written even if files are to be kept. -/
  | overwrite
  | append
  | readWrite
deriving DecidableEq, Repr

/-- How a choice goes on behind an arm that was taken. -/
inductive ArmEnd where
  | stop
  /-- With the commands of the next arm. -/
  | fall
  /-- With the patterns of the next arm. -/
  | again
deriving DecidableEq, Repr

mutual

/-- A part of a word. What is `quoted` is neither split into fields nor read as a pattern. -/
inductive Part where
  | text (s : String) (quoted : Bool)
  | param (name : String) (index : Index) (use : ParamUse) (args : List (List Part))
      (quoted : Bool)
  | output (body : Command) (quoted : Bool)
  | number (expr : List Part) (quoted : Bool)
  /-- The path of a file that a command writes, or one that it `reads`. -/
  | piped (body : Command) (reads : Bool)
  /-- An assignment as an argument. -/
  | assigned (a : Assign)

/-- Which elements of a parameter are meant. -/
inductive Index where
  | none
  /-- All of them, `joined` to one text or not. -/
  | all (joined : Bool)
  | at (key : List Part)

/-- An assignment of a text or of a list of elements, some of them with their keys. -/
inductive Assign where
  | text (name : String) (index : Option (List Part)) (append : Bool) (value : List Part)
  | list (name : String) (append : Bool) (items : List (Option (List Part) × List Part))

/-- A redirection of a descriptor. The text of a here-document is known by a number. -/
inductive Redirect where
  | file (fd : Nat) (mode : OpenMode) (path : List Part)
  | copy (fd : Nat) (source : List Part)
  | here (fd : Nat) (document : Nat)
  /-- A text as input, with a line break behind it. -/
  | line (fd : Nat) (text : List Part)
  /-- A file for output and complaints. -/
  | both (append : Bool) (path : List Part)
  /-- A redirection of a descriptor that is not in use, whose number a variable gets. -/
  | fresh (name : String) (r : Redirect)

/-- A condition on words. -/
inductive Test where
  | filled (w : List Part)
  | one (operator : String) (w : List Part)
  | two (operator : String) (a b : List Part)
  | negation (t : Test)
  | both (a b : Test)
  | either (a b : Test)

/-- A command. -/
inductive Command where
  | nothing
  | simple (line : Nat) (assigns : List Assign) (words : List (List Part))
      (redirects : List Redirect)
  | pipeline (stages : List Command)
  | both (first second : Command)
  | either (first second : Command)
  | sequence (first second : Command)
  | negation (body : Command)
  | background (line : Nat) (body : Command)
  | subshell (line : Nat) (body : Command) (redirects : List Redirect)
  | redirected (line : Nat) (body : Command) (redirects : List Redirect)
  | conditional (test yes no : Command)
  | loop (whileHolds : Bool) (test body : Command)
  | each (line : Nat) (name : String) (words : List (List Part)) (body : Command)
  /-- A loop over choices that are read from the input. -/
  | select (line : Nat) (name : String) (words : List (List Part)) (body : Command)
  | choice (line : Nat) (subject : List Part)
      (arms : List (List (List Part) × Command × ArmEnd))
  | define (name : String) (body : Command)
  /-- An expression, which succeeds if it is not zero. -/
  | arithmetic (line : Nat) (expr : List Part)
  /-- A loop that starts with an expression, goes on while another is not zero, and computes a third
  after each round. -/
  | count (line : Nat) (start test step : List Part) (body : Command)
  | test (line : Nat) (t : Test)
  /-- A command whose time is told, in the `short` form or in the usual one. -/
  | timed (short : Bool) (body : Command)

end

/-- A redirection for another descriptor. -/
def Redirect.on (fd : Nat) : Redirect → Redirect
  | .file _ mode path => .file fd mode path
  | .copy _ source => .copy fd source
  | .here _ document => .here fd document
  | .line _ text => .line fd text
  | .both append path => .both append path
  | .fresh name r => .fresh name r

/-- A word of a script. -/
abbrev Word := List Part

instance : Inhabited Command := ⟨.nothing⟩

/-- A text that the script has as it stands. -/
def Word.literal? : Word → Option String
  | [.text s false] => some s
  | _ => none

/-- Adds a part to a word whose last part comes first. Neighbouring texts of one kind are joined. -/
def Word.push (w : Word) (p : Part) : Word :=
  match p, w with
  | .text s q, .text t r :: rest => if q == r then .text (t ++ s) q :: rest else p :: w
  | _, _ => p :: w

/-- A character that may start a name. -/
def isNameStart (c : Char) : Bool := c.isAlpha || c == '_'

/-- A character of a name. -/
def isNameChar (c : Char) : Bool := c.isAlphanum || c == '_'

/-- Whether a text is a name. -/
def isName (s : String) : Bool :=
  match s.toList with
  | [] => false
  | c :: cs => isNameStart c && cs.all isNameChar

/-- The parameters whose name is one sign. -/
def isSpecial (c : Char) : Bool := c.isDigit || "@*#?-$!".toList.contains c

/-- The assignment that a word is. One that appends is known in the `extended` language only. -/
def Word.assignment? (extended : Bool) : Word → Option Assign
  | .text s false :: rest =>
    let cs := s.toList
    let name := cs.takeWhile isNameChar
    let value (append : Bool) (value : List Char) : Option Assign :=
      if isName (String.ofList name) then
        let value : Word := if value.isEmpty then [] else [.text (String.ofList value) false]
        some (.text (String.ofList name) none append (value ++ rest))
      else none
    match cs.drop name.length with
    | '=' :: cs => value false cs
    | '+' :: '=' :: cs => if extended then value true cs else none
    | _ => none
  | _ => none

/-- The name that an assignment is for. -/
def Assign.name : Assign → String
  | .text name _ _ _ => name
  | .list name _ _ => name

/-- The parameter with a name as it stands. -/
def Part.plainParam (name : String) (quoted : Bool) : Part := .param name .none .value [] quoted

end TensorCompiler.Script
