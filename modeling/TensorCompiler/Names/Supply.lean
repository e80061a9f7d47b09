import TensorCompiler.Text.Basic
import TensorCompiler.Text.Character

/-!
# Names

Any text can be made an identifier of the emitted language: a character that no identifier may hold
becomes an underscore, a leading digit gets one in front, and a reserved word gets one behind.
-/

namespace TensorCompiler.Names

open Text

/-- The reserved words of the emitted language. -/
def keywords : List String :=
  ["break", "case", "chan", "const", "continue", "default", "defer", "else", "fallthrough", "for",
    "func", "go", "goto", "if", "import", "interface", "map", "package", "range", "return",
    "select", "struct", "switch", "type", "var"]

/-- Whether an identifier may begin with a character. -/
def isStart (c : Char) : Bool :=
  isLetter c || c == '_'

/-- Whether an identifier may hold a character. -/
def isPart (c : Char) : Bool :=
  isStart c || isDigit c

/-- Whether a text is an identifier and no reserved word. -/
def isIdentifier (s : String) : Bool :=
  match s.toList with
  | [] => false
  | c :: cs => isStart c && cs.all isPart && !keywords.contains s

/-- The character that stands for another one in an identifier. -/
def partOf (c : Char) : Char :=
  if isPart c then c else '_'

/-- The characters that stand for a text, before reserved words are looked at. -/
def parts : List Char → List Char
  | [] => ['_', 'v']
  | c :: cs =>
    let rest := (c :: cs).map partOf
    if !isStart c && isDigit c then '_' :: rest else rest

/-- The identifier that stands for a text. -/
def identifier (s : String) : String :=
  let id := String.ofList (parts s.toList)
  if keywords.contains id then id ++ "_" else id

end TensorCompiler.Names

/-!
## Name supplies

A supply hands out identifiers, none of them twice and none that was reserved. A root that is taken
gets the first free number behind it, counted on from the last one that was tried for this root.
-/

namespace TensorCompiler

/-- The names given out or reserved so far, each with the next number to try behind it. The entry
written last counts. -/
structure NameSupply where
  taken : List (String × Nat)

namespace NameSupply

/-- Every name is free. -/
def empty : NameSupply := ⟨[]⟩

/-- The next number to try behind a taken name. -/
def next? (s : NameSupply) (name : String) : Option Nat :=
  (s.taken.find? (·.1 == name)).map Prod.snd

/-- Whether a name is taken. -/
def isTaken (s : NameSupply) (name : String) : Bool :=
  (s.next? name).isSome

/-- Takes a name. -/
def take (s : NameSupply) (name : String) (next : Nat) : NameSupply :=
  ⟨(name, next) :: s.taken⟩

/-- Reserves a name as it is. -/
def reserve (s : NameSupply) (name : String) : NameSupply :=
  if s.isTaken name then s else s.take name 1

/-- Reserves several names. -/
def reserveAll (s : NameSupply) (names : List String) : NameSupply :=
  names.foldl reserve s

/-- A root with a number behind it. -/
def numbered (root : String) (n : Nat) : String :=
  root ++ Text.ofNat n

/-- The first number from `n` on that is free behind a root, if one of the next `tries` is. -/
def firstFree (s : NameSupply) (root : String) : Nat → Nat → Nat
  | 0, n => n
  | tries + 1, n => if s.isTaken (numbered root n) then s.firstFree root tries (n + 1) else n

/-- A new name for a root. Of more candidates than there are taken names one is free. -/
def fresh (s : NameSupply) (root : String) : String × NameSupply :=
  let root := Names.identifier root
  match s.next? root with
  | none => (root, s.take root 1)
  | some next =>
    let n := s.firstFree root (s.taken.length + 1) next
    let name := numbered root n
    (name, (s.take root (n + 1)).take name 1)

end NameSupply
end TensorCompiler
