import TensorCompiler.Number.Float
import TensorCompiler.Tensor.Kind

/-!
# Elements

Flat sequences of host elements: those of one of the five kinds, and the ones a host may hand over
although no tensor can hold them.
-/

namespace TensorCompiler

/-- The text of one element. -/
def Kind.elementText : (k : Kind) → k.Carrier → String
  | .bool, b => if b then "true" else "false"
  | .num .float32, x => Number.ofFloat32 x
  | .num .float64, x => Number.ofFloat x
  | .num (.int .int32), x => Text.ofInt x.toInt
  | .num (.int .int64), x => Text.ofInt x.toInt

/-- The element that fresh storage holds. -/
def Kind.zero : (k : Kind) → k.Carrier
  | .bool => false
  | .num .float32 => 0
  | .num .float64 => 0
  | .num (.int .int32) => 0
  | .num (.int .int64) => 0

/-- Elements of one kind in row-major order. -/
structure Elements where
  kind : Kind
  items : List kind.Carrier

namespace Elements

instance : DecidableEq Elements
  | ⟨k, xs⟩, ⟨l, ys⟩ =>
    if h : k = l then
      if e : h ▸ xs = ys then
        isTrue (by subst h; cases e; rfl)
      else
        isFalse (by subst h; intro c; cases c; exact e rfl)
    else
      isFalse (by intro c; cases c; exact h rfl)

/-- The number of elements. -/
def length (e : Elements) : Nat :=
  e.items.length

/-- The texts of the elements in order. -/
def texts (e : Elements) : List String :=
  e.items.map e.kind.elementText

/-- The elements seen as elements of a kind, if it is theirs. -/
def as? (e : Elements) (k : Kind) : Option (List k.Carrier) :=
  if h : e.kind = k then some (h ▸ e.items) else none

@[simp]
theorem as?_kind (k : Kind) (xs : List k.Carrier) : (Elements.mk k xs).as? k = some xs := by
  simp [as?]

end Elements

/-- What a host hands over as a flat sequence: elements, texts, machine integers, nothing at all, or
a value of any other host type, of which the name and the printed form are known. -/
inductive HostSlice where
  | elements (e : Elements)
  | texts (xs : List String)
  | machineInts (xs : List Int)
  | absent
  | other (typeName text : String)
deriving DecidableEq

namespace HostSlice

/-- The name of the host type of a sequence. -/
def typeName : HostSlice → String
  | .elements e => "[]" ++ e.kind.name
  | .texts _ => "[]string"
  | .machineInts _ => "[]int"
  | .absent => "<nil>"
  | .other name _ => name

/-- The printed form: the values of a sequence stand between brackets, separated by spaces. -/
def text : HostSlice → String
  | .elements e => "[" ++ Text.joinWith " " e.texts ++ "]"
  | .texts xs => "[" ++ Text.joinWith " " xs ++ "]"
  | .machineInts xs => "[" ++ Text.joinWith " " (xs.map Text.ofInt) ++ "]"
  | .absent => "<nil>"
  | .other _ text => text

end HostSlice
end TensorCompiler
