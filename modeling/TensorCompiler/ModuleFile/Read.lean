import TensorCompiler.ModuleFile.Basic
import TensorCompiler.ModuleFile.Token
import TensorCompiler.Text.Quoted

/-!
# Reading module files

A module file is a sequence of directives, one a line or several in a block of one kind. Module and
language version are declared once at most.
-/

namespace TensorCompiler.ModuleFile

/-- A directive: its words, the first of them its kind. -/
abbrev Line := List String

/-- The words up to the end of a line, and the tokens behind it. -/
def takeLine : List Token → List Token × List Token
  | [] => ([], [])
  | .newline :: rest => ([], rest)
  | t :: rest => (t :: (takeLine rest).1, (takeLine rest).2)

/-- The lines of a block up to its closing mark, which must end its line. -/
def readBlock : Nat → List Token → Option (List (List Token) × List Token)
  | 0, _ => none
  | fuel + 1, ts =>
    match ts with
    | [] => none
    | .newline :: rest => readBlock fuel rest
    | .mark ')' :: [] => some ([], [])
    | .mark ')' :: .newline :: rest => some ([], rest)
    | .mark ')' :: _ => none
    | ts => do
      let (line, rest) := takeLine ts
      let (lines, rest) ← readBlock fuel rest
      return (line :: lines, rest)

/-- The kinds of directives that may stand in a block. -/
def blockKinds : List String :=
  ["module", "godebug", "require", "exclude", "replace", "retract", "tool", "ignore"]

/-- The directives of a file. -/
def readLines : Nat → List Token → Option (List Line)
  | 0, _ => none
  | fuel + 1, ts =>
    match ts with
    | [] => some []
    | .newline :: rest => readLines fuel rest
    | ts =>
      let (line, rest) := takeLine ts
      match line.reverse with
      | .mark '(' :: head => do
        let (lines, rest) ← readBlock fuel rest
        match head with
        | [.word kind] =>
          if !blockKinds.contains kind then none
          else
            let others ← readLines fuel rest
            return lines.map (fun l => kind :: l.map Token.text) ++ others
        | _ => none
      | [.mark ')', .mark '(', .word kind] =>
        if blockKinds.contains kind then readLines fuel rest else none
      | _ => do
        let others ← readLines fuel rest
        return line.map Token.text :: others

/-- The bytes of the text of a word, which may be quoted. -/
def bytesOf? (word : String) : Option String :=
  match word.toList with
  | '"' :: cs => (Text.unquoted? ('"' :: cs)).map fun bytes => String.ofList (bytes.map Char.ofNat)
  | cs =>
    if cs.any fun c => c == '"' || c == Char.ofNat 39 || c == Char.ofNat 96 then none
    else some (Text.toBytes word)

/-- The text of a word, which may be quoted. -/
def textOf? (word : String) : Option String :=
  (bytesOf? word).map Text.ofBytes

/-- The bytes of the path of a module and the version it must have, in full. -/
def requirement? (path version : String) : Option (String × String) := do
  let path ← bytesOf? path
  let v ← Version.read? (← textOf? version)
  if fitsPath v (pathMajor path) then some (path, v.canonical) else none

/-- Whether a path leads to a local directory: from the current one, from the top, or from a drive,
with either kind of slash. -/
def isDirectory (path : String) : Bool :=
  let isSlash (c : Char) := c == '/' || c == '\\'
  match path.toList with
  | ['.'] => true
  | ['.', '.'] => true
  | '.' :: '.' :: c :: _ => isSlash c
  | '.' :: c :: _ => isSlash c
  | c :: ':' :: _ => isSlash c || ('a' ≤ c && c ≤ 'z') || ('A' ≤ c && c ≤ 'Z')
  | c :: _ => isSlash c
  | [] => false

/-- Whether a replacement names a directory without a version or a module with one. -/
def isReplacement (target : List String) : Bool :=
  match target with
  | [path] =>
    match textOf? path with
    | some p => isDirectory p && !p.toList.contains '\\'
    | none => false
  | [path, version] =>
    match textOf? path, (textOf? version).bind Version.read? with
    | some p, some _ => !isDirectory p
    | _, _ => false
  | _ => false

/-- Whether a text names a toolchain. -/
def isToolchain (word : String) : Bool :=
  word == "default" || word == "go1" || word.startsWith "go1."

/-- Whether words are a version or a range of them between brackets. Any text may stand for a
version here. -/
def isRetraction (args : List String) : Bool :=
  match args with
  | ["[", low, ",", high, "]"] => (textOf? low).isSome && (textOf? high).isSome
  | [version] => version != "(" && version != "[" && (textOf? version).isSome
  | _ => false

/-- What a file declares. -/
structure Declared where
  path : Option String
  language : Option String
  toolchain : Bool
  requires : List (String × String)

/-- Adds a directive. -/
def Declared.add (d : Declared) (line : Line) : Option Declared :=
  match line with
  | "module" :: args =>
    match d.path, args with
    | none, [path] => (textOf? path).map fun p => { d with path := some p }
    | _, _ => none
  | "go" :: args =>
    match d.language, args with
    | none, [version] =>
      if isLanguageVersion version then some { d with language := some version } else none
    | _, _ => none
  | "toolchain" :: args =>
    match d.toolchain, args with
    | false, [name] => if isToolchain name then some { d with toolchain := true } else none
    | _, _ => none
  | ["require", path, version] => do
    let r ← requirement? path version
    return { d with requires := d.requires ++ [r] }
  | ["exclude", path, version] => (requirement? path version).map fun _ => d
  | "replace" :: path :: "=>" :: target =>
    match textOf? path with
    | some p => if pathMajor p != .malformed && isReplacement target then some d else none
    | none => none
  | "replace" :: path :: version :: "=>" :: target =>
    if (requirement? path version).isSome && isReplacement target then some d else none
  | "retract" :: args => if isRetraction args then some d else none
  | ["godebug", setting] =>
    let cs := setting.toList
    if cs.contains '=' &&
      !(cs.any fun c => ['"', ',', Char.ofNat 39, Char.ofNat 96].contains c) then
      some d
    else none
  | ["tool", path] => (textOf? path).map fun _ => d
  | ["ignore", path] => (textOf? path).map fun _ => d
  | _ => none

/-- What the text of a module file declares. -/
def declared? (text : String) : Option Declared := do
  let ts ← tokens? (text.length + 1) text.toList
  let lines ← readLines (ts.length + 1) ts
  lines.foldlM Declared.add ⟨none, none, false, []⟩

end ModuleFile

/-- Why a directory is in no module. -/
inductive LocateError where
  | notFound (dir : String)
  | content (file : String)
  | noPath (file : String)
deriving DecidableEq, Repr

/-- The wording of a refusal. -/
def LocateError.message : LocateError → String
  | .notFound dir =>
    "directory " ++ Text.quoted dir ++ " is not a Go module: cannot find go.mod"
  | .content file => "cannot parse " ++ file
  | .noPath file => file ++ " does not declare a module path"

instance : ToString LocateError := ⟨LocateError.message⟩

/-- The module that the text of a module file in a directory declares. -/
def LocalModule.read (root text : String) : Except LocateError LocalModule :=
  let file := root ++ "/go.mod"
  match ModuleFile.declared? text with
  | none => .error (.content file)
  | some d =>
    match d.path with
    | none => .error (.noPath file)
    | some path => .ok ⟨path, root, d.language, d.requires⟩

/-- Whether the parts of a path that starts `depth` levels down never lead above the top. -/
def staysBelow : Nat → List (List Char) → Bool
  | _, [] => true
  | depth, part :: rest =>
    if part.isEmpty || part == ['.'] then staysBelow depth rest
    else if part == ['.', '.'] then
      match depth with
      | 0 => false
      | depth + 1 => staysBelow depth rest
    else staysBelow (depth + 1) rest

/-- The module of a directory below `root`, where the only module file is the one of `root`. -/
def LocalModule.locate (root dir : String) (file : Option String) :
    Except LocateError LocalModule :=
  match staysBelow 0 (Text.splitChars '/' dir.toList), file with
  | true, some text => LocalModule.read root text
  | _, _ => .error (.notFound (root ++ "/" ++ dir))

end TensorCompiler
