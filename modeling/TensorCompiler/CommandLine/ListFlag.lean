import TensorCompiler.Text.Basic
import TensorCompiler.Text.Character

/-!
# A list on the command line

Command lines with one flag, `list`, whose value is a list of texts divided by commas. Flags come
first, with one dash or two; the first argument that is no flag, or the one behind a lone double
dash, starts the rest.
-/

namespace TensorCompiler.CommandLine

/-- A command line that was read. -/
structure Arguments where
  list : List String
  rest : List String
deriving DecidableEq, Repr

/-- Why a command line is refused. -/
inductive FlagError where
  | badName (arg : String)
  | undefined (name : String)
  | help
  | noValue (name : String)
deriving DecidableEq, Repr

/-- The wording of a refusal. -/
def FlagError.message : FlagError → String
  | .badName arg => "bad flag syntax: " ++ arg
  | .undefined name => "flag provided but not defined: -" ++ name
  | .help => "flag: help requested"
  | .noValue name => "flag needs an argument: -" ++ name

instance : ToString FlagError := ⟨FlagError.message⟩

/-- The items of a list: the parts between commas without the blanks around them, the empty ones
left out. -/
def listItems (value : String) : List String :=
  ((Text.split ',' value).map Text.trim).filter (!·.isEmpty)

/-- What an argument is. -/
inductive Argument where
  | plain
  | terminator
  | flag (name : String) (value : Option String)
  | malformed
deriving DecidableEq, Repr

/-- The parts before and behind the first equals sign that does not stand first. -/
def nameAndValue (cs : List Char) : Argument :=
  let name := cs.take 1 ++ (cs.drop 1).takeWhile (· != '=')
  let rest := (cs.drop 1).dropWhile (· != '=')
  .flag (String.ofList name) (if rest.isEmpty then none else some (String.ofList rest.tail))

/-- Reads one argument. -/
def classify (arg : String) : Argument :=
  match arg.toList with
  | ['-', '-'] => .terminator
  | '-' :: '-' :: c :: cs => if c = '-' ∨ c = '=' then .malformed else nameAndValue (c :: cs)
  | '-' :: c :: cs => if c = '=' then .malformed else nameAndValue (c :: cs)
  | _ => .plain

/-- Reads a command line. A flag that is given again adds to the list. -/
def read (list : List String) : List String → Except FlagError Arguments
  | [] => .ok ⟨list, []⟩
  | arg :: rest =>
    match classify arg with
    | .plain => .ok ⟨list, arg :: rest⟩
    | .terminator => .ok ⟨list, rest⟩
    | .malformed => .error (.badName arg)
    | .flag name value =>
      if name ≠ "list" then
        .error (if name = "help" ∨ name = "h" then .help else .undefined name)
      else
        match value, rest with
        | some v, rest => read (list ++ listItems v) rest
        | none, v :: rest => read (list ++ listItems v) rest
        | none, [] => .error (.noValue name)

/-- The list as one text. -/
def listText (items : List String) : String :=
  Text.joinWith "," items

end TensorCompiler.CommandLine
