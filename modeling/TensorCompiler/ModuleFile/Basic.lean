import TensorCompiler.Text.Basic
import TensorCompiler.Text.Quoted

/-!
# Module files

What a module file declares, the paths under which a module may be imported, and the file that is
written for an emitted program.
-/

namespace TensorCompiler

/-- A module on the local file system. -/
structure LocalModule where
  path : String
  root : String
  language : Option String
  /-- The bytes of the path of every module that is required, and its version. -/
  requires : List (String × String)
deriving DecidableEq, Repr

/-- The version a module requires of another one. -/
def LocalModule.requirement? (m : LocalModule) (path : String) : Option String :=
  (m.requires.find? (·.1 == Text.toBytes path)).map Prod.snd

/-!
## Import paths

The paths under which a module may be imported: elements of plain ASCII between single slashes,
none of them a name that some file system reserves.
-/

/-- Why a path is no import path. -/
inductive PathFault where
  | empty
  | leadingDash
  | doubleSlash
  | trailingSlash
  | emptyElement
  | dots (element : String)
  | trailingDot
  | char (c : Char)
  | reserved (stem : String)
  | shortName
deriving DecidableEq, Repr

/-- The wording of a fault. -/
def PathFault.message : PathFault → String
  | .empty => "empty string"
  | .leadingDash => "leading dash"
  | .doubleSlash => "double slash"
  | .trailingSlash => "trailing slash"
  | .emptyElement => "empty path element"
  | .dots element => "invalid path element " ++ Text.quoted element
  | .trailingDot => "trailing dot in path element"
  | .char c => "invalid char " ++ Text.quotedChar c
  | .reserved stem => Text.quoted stem ++ " disallowed as path element component on Windows"
  | .shortName => "trailing tilde and digits in path element"

namespace ImportPath

/-- An ASCII letter or digit. -/
def isPlain (c : Char) : Bool :=
  ('a' ≤ c && c ≤ 'z') || ('A' ≤ c && c ≤ 'Z') || ('0' ≤ c && c ≤ '9')

/-- A character of an import path. -/
def isAllowed (c : Char) : Bool :=
  isPlain c || ['-', '.', '_', '~', '+'].contains c

/-- The names that stand for devices on some file systems. -/
def reservedStems : List String :=
  ["con", "prn", "aux", "nul"] ++
    (["com", "lpt"].flatMap fun stem => (List.range 9).map fun i => stem ++ Text.ofNat (i + 1))

/-- Whether a stem ends with a tilde and at least one digit. -/
def hasShortName (stem : List Char) : Bool :=
  let behind := stem.reverse.takeWhile fun c => '0' ≤ c && c ≤ '9'
  match stem.reverse.drop behind.length with
  | '~' :: _ => !behind.isEmpty
  | _ => false

/-- The fault of one element. -/
def elementFault (element : List Char) : Option PathFault :=
  let stem := element.takeWhile (· != '.')
  if element.isEmpty then some .emptyElement
  else if element.all (· == '.') then some (.dots (String.ofList element))
  else if element.getLast? = some '.' then some .trailingDot
  else
    match element.find? (!isAllowed ·) with
    | some c => some (.char c)
    | none =>
      if reservedStems.contains (String.ofList (stem.map Char.toLower)) then
        some (.reserved (String.ofList stem))
      else if hasShortName stem then some .shortName
      else none

/-- Whether two slashes follow one another. -/
def hasDoubleSlash : List Char → Bool
  | '/' :: '/' :: _ => true
  | _ :: cs => hasDoubleSlash cs
  | [] => false

/-- The first fault of a path. -/
def fault (path : String) : Option PathFault :=
  let cs := path.toList
  if cs.isEmpty then some .empty
  else if cs.head? = some '-' then some .leadingDash
  else if hasDoubleSlash cs then some .doubleSlash
  else if cs.getLast? = some '/' then some .trailingSlash
  else (Text.splitChars '/' cs).findSome? elementFault

end ImportPath
end TensorCompiler

/-!
## Writing module files

The module file of an emitted program. It requires the module that runs emitted programs, and
replaces it by a local one if there is one.
-/

namespace TensorCompiler.ModuleFile

/-- The module that runs emitted programs. -/
def supportPath : String := "github.com/gx-org/aot"

/-- The language version of an emitted module unless a local module says otherwise. -/
def defaultLanguage : String := "1.24"

/-- The required version. -/
def defaultVersion : String := "v0.0.0"

/-- The language version for an emitted module. -/
def language (support : Option LocalModule) : String :=
  (support.bind LocalModule.language).getD defaultLanguage

/-- The text of the module file. -/
def text (path : String) (support : Option LocalModule) : String :=
  let replacement := match support with
    | some m => "\nreplace " ++ supportPath ++ " => " ++ m.root ++ "\n"
    | none => ""
  "module " ++ path ++ "\n\ngo " ++ language support ++ "\n\nrequire " ++ supportPath ++ " " ++
    defaultVersion ++ "\n" ++ replacement

end TensorCompiler.ModuleFile
