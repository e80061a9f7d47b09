import TensorCompiler.Text.Basic

/-!
# What a shell remembers

A shell looks for a program once and keeps its path. The programs are listed in the order of the
lists that their names are spread over.
-/

namespace TensorCompiler

/-- A program that a shell has found. -/
structure Tracked where
  name : String
  path : String
  /-- How often it was asked for. -/
  uses : Nat
deriving DecidableEq, Repr

namespace Tracked

/-- The sum of the characters of a name, the first of which counts for seventeen. -/
def nameSum (name : String) : Nat :=
  name.toList.foldl (fun n c => n + c.toNat) (16 * (name.toList.head?.map Char.toNat).getD 0)

/-- A number by which names are spread: each character is mixed into a product. -/
def mixed (name : String) : Nat :=
  name.toList.foldl (fun h c => Nat.xor (h * 16777619 % 4294967296) c.toNat) 2166136261

/-- The order in which programs are listed that were found the latest first. In each list the larger
shell shows the latest first, the other one the earliest. -/
def inOrder (isBash : Bool) (found : List Tracked) : List Tracked :=
  let place (t : Tracked) : Nat := if isBash then mixed t.name % 256 else nameSum t.name % 31
  (if isBash then found else found.reverse).mergeSort fun a b => decide (place a ≤ place b)

/-- Puts a program before all others. -/
def put (t : Tracked) (found : List Tracked) : List Tracked :=
  t :: found.filter (·.name != t.name)

/-- Counts that a program is asked for. -/
def use (name : String) (found : List Tracked) : List Tracked :=
  found.map fun t => if t.name == name then { t with uses := t.uses + 1 } else t

end Tracked
/-!
## Variables of shells

A variable holds a text, or elements that are known by numbers or by keys. Where one text is asked
for, that of a variable with elements is the one with the number, or the key, zero.
-/

/-- What a variable holds. -/
inductive Content where
  | unset
  | text (s : String)
  /-- Elements by their numbers, the lowest first. -/
  | indexed (items : List (Nat × String))
  /-- Elements by their keys, the latest first. -/
  | keyed (items : List (String × String))
deriving DecidableEq, Repr

/-- A variable of a shell. -/
structure Variable where
  content : Content
  exported : Bool
  readOnly : Bool
  /-- The letters of further properties: `i` for numbers, `l` and `u` for small and capital letters,
  `n` for the name of another variable, `a` and `A` for elements by numbers and by keys that are
  still to come. -/
  marks : List Char
deriving DecidableEq, Repr

/-- The list that a key belongs to, of the thousand and twenty-four that keys are spread over. -/
def Content.place (key : String) : Nat :=
  Tracked.mixed key % 1024

namespace Variable

/-- A variable that holds a text. -/
def ofText (s : String) (exported : Bool) : Variable := ⟨.text s, exported, false, []⟩

/-- A variable that holds nothing. -/
def bare : Variable := ⟨.unset, false, false, []⟩

/-- The elements with their keys, in the order in which they are listed. -/
def items (v : Variable) : List (String × String) :=
  match v.content with
  | .unset => []
  | .text s => [("0", s)]
  | .indexed items => items.map fun (n, s) => (Text.ofNat n, s)
  | .keyed items => items.mergeSort fun a b => decide (Content.place a.1 ≤ Content.place b.1)

/-- The element with a key. -/
def element? (v : Variable) (key : String) : Option String :=
  (v.items.find? (·.1 == key)).map Prod.snd

/-- The text that a variable stands for. -/
def value (v : Variable) : Option String := v.element? "0"

/-- Whether a variable is for elements. -/
def isList (v : Variable) : Bool :=
  match v.content with
  | .indexed _ | .keyed _ => true
  | .unset => v.marks.contains 'a' || v.marks.contains 'A'
  | .text _ => false

/-- Whether elements are known by keys. -/
def isKeyed (v : Variable) : Bool :=
  match v.content with
  | .keyed _ => true
  | .unset => v.marks.contains 'A'
  | _ => false

/-- A text in the letters that a variable is for. -/
def cased (v : Variable) (s : String) : String :=
  if v.marks.contains 'l' then s.map Char.toLower
  else if v.marks.contains 'u' then s.map Char.toUpper
  else s

/-- Puts an element among others that are in order. -/
def insert (n : Nat) (s : String) : List (Nat × String) → List (Nat × String)
  | [] => [(n, s)]
  | (m, t) :: rest =>
    if n < m then (n, s) :: (m, t) :: rest
    else if n == m then (n, s) :: rest
    else (m, t) :: insert n s rest

/-- The elements by their numbers. -/
def numbered (v : Variable) : List (Nat × String) :=
  match v.content with
  | .indexed items => items
  | .text s => [(0, s)]
  | _ => []

/-- Sets the element with a number. -/
def putAt (v : Variable) (n : Nat) (s : String) : Variable :=
  { v with content := .indexed (insert n (v.cased s) v.numbered) }

/-- Sets the element with a key. -/
def putKey (v : Variable) (key s : String) : Variable :=
  let s := v.cased s
  match v.content with
  | .keyed items =>
    if items.any (·.1 == key) then
      { v with content := .keyed (items.map fun e => if e.1 == key then (key, s) else e) }
    else { v with content := .keyed ((key, s) :: items) }
  | _ => { v with content := .keyed [(key, s)] }

/-- Sets the text that a variable stands for. -/
def put (v : Variable) (s : String) : Variable :=
  if v.isKeyed then v.putKey "0" s
  else if v.isList then v.putAt 0 s
  else { v with content := .text (v.cased s) }

/-- Takes the element with a key away. -/
def drop (v : Variable) (key : String) : Variable :=
  match v.content with
  | .indexed items => { v with content := .indexed (items.filter fun e => Text.ofNat e.1 != key) }
  | .keyed items => { v with content := .keyed (items.filter (·.1 != key)) }
  | _ => v

/-- The number behind the last element. -/
def next (v : Variable) : Nat := ((v.numbered.getLast?).map fun e => e.1 + 1).getD 0

end Variable
end TensorCompiler
