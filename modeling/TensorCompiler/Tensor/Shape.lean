import TensorCompiler.Tensor.Kind
import TensorCompiler.Text.Basic

/-!
# Shapes

A shape is a data type and the length of each axis. A shape without axes is that of a scalar.
-/

namespace TensorCompiler

/-- The product of axis lengths. -/
def axesProduct : List Int → Int
  | [] => 1
  | d :: dims => d * axesProduct dims

@[simp]
theorem axesProduct_nil : axesProduct [] = 1 := rfl

@[simp]
theorem axesProduct_cons (d : Int) (dims : List Int) :
    axesProduct (d :: dims) = d * axesProduct dims := rfl

/-- The number of elements of an array with the given axis lengths: their product as a signed
machine word of 64 bits. -/
def axesSize (dims : List Int) : Int :=
  (axesProduct dims).bmod 18446744073709551616

/-- A product that fits into a machine word is the size. -/
theorem axesSize_eq_axesProduct {dims : List Int} (low : -9223372036854775808 ≤ axesProduct dims)
    (high : axesProduct dims < 9223372036854775808) : axesSize dims = axesProduct dims := by
  unfold axesSize
  rw [Int.bmod_eq_of_le] <;> omega

/-- Axis lengths between brackets, as they stand before the name of a data type. -/
def axesText : List Int → String
  | [] => ""
  | d :: dims => "[" ++ Text.ofInt d ++ "]" ++ axesText dims

/-- Data type and axis lengths of a tensor. -/
structure Shape where
  dtype : DType
  dims : List Int
deriving DecidableEq, Repr

namespace Shape

/-- The number of elements. -/
def size (s : Shape) : Int :=
  axesSize s.dims

/-- A shape without axes. -/
def isScalar (s : Shape) : Bool :=
  s.dims.isEmpty

/-- Axis lengths, then the data type: `[2][3]float32`. -/
def text (s : Shape) : String :=
  axesText s.dims ++ s.dtype.name

end Shape
end TensorCompiler

/-!
## Texts of arrays

The elements of an array between braces, in row-major order. Arrays of two or more axes show one
sub-array a line; a scalar stands between parentheses.
-/

namespace TensorCompiler.ArrayText

/-- The `i`-th of consecutive parts of equal length. -/
def part (stride i : Nat) (items : List String) : List String :=
  (items.drop (i * stride)).take stride

/-- The lines of a block, each indented and closed by a comma. -/
def lines (indent : String) (blocks : List String) : String :=
  match blocks with
  | [] => ""
  | b :: bs => indent ++ "\t" ++ b ++ ",\n" ++ lines indent bs

/-- The block of an array with at least one axis. The elements are dealt out evenly to the
sub-arrays. -/
def block (indent : String) : List Int → List String → String
  | [], _ => ""
  | [_], items => "\x7b" ++ Text.commaList items ++ "\x7d"
  | d :: e :: dims, items =>
    let stride := items.length / (max d 1).toNat
    let blocks := (List.range d.toNat).map fun i =>
      block (indent ++ "\t") (e :: dims) (part stride i items)
    "\x7b\n" ++ lines indent blocks ++ indent ++ "\x7d"

/-- Axis lengths as a list. -/
def axesList (dims : List Int) : String :=
  "[" ++ Text.joinWith " " (dims.map Text.ofInt) ++ "]"

/-- The content of an array, given the texts of its elements. -/
def content (items : List String) (dims : List Int) : String :=
  if axesSize dims ≠ items.length then
    Text.ofNat items.length ++ " value(s) do not match axes " ++ axesList dims ++ " of size " ++
      Text.ofInt (axesSize dims)
  else if dims.isEmpty then "(" ++ items.headD "" ++ ")"
  else block "" dims items

/-- An array with its type in front. -/
def typed (shape : Shape) (items : List String) : String :=
  shape.text ++ content items shape.dims

end TensorCompiler.ArrayText
