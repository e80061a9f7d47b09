/-!
# Slices

A slice is a window on a block of cells. Slices of one block share its cells, so what is written
through one of them the others see. A slice grows in place as long as its window has room, and moves
to a new block when it has none.
-/

namespace TensorCompiler

/-- A window on a block: how many cells it shows from its start on, and how many it may. -/
structure Slice where
  block : Nat
  start : Nat
  length : Nat
  capacity : Nat

namespace Slice

/-- A window on nothing. -/
def empty : Slice := ⟨0, 0, 0, 0⟩

/-- The first cells of a slice. It keeps its room. -/
def take (s : Slice) (n : Nat) : Slice := { s with length := n }

/-- A slice without its first cells. -/
def drop (s : Slice) (n : Nat) : Slice := ⟨s.block, s.start + n, s.length - n, s.capacity - n⟩

end Slice

/-- Blocks of cells. What a slice that moves gets beyond its need depends on its capacity and its
new length. -/
structure Blocks (α : Type) where
  cells : List (List α)
  spare : Nat → Nat → Nat

namespace Blocks

variable {α : Type}

/-- The cells of a block. -/
def block (b : Blocks α) (i : Nat) : List α := b.cells.getD i []

/-- The values that a slice shows. -/
def read (b : Blocks α) (s : Slice) : List α := ((b.block s.block).drop s.start).take s.length

/-- Writes values over the cells of a block, from a place on. -/
def write (b : Blocks α) (i place : Nat) (xs : List α) : Blocks α :=
  let old := b.block i
  { b with cells := b.cells.set i (old.take place ++ xs ++ old.drop (place + xs.length)) }

/-- Puts values behind those of a slice: in place if there is room, or else in a new block. -/
def append [Inhabited α] (b : Blocks α) (s : Slice) (xs : List α) : Slice × Blocks α :=
  let length := s.length + xs.length
  if length ≤ s.capacity then
    ({ s with length := length }, b.write s.block (s.start + s.length) xs)
  else
    let spare := b.spare s.capacity length
    (⟨b.cells.length, 0, length, length + spare⟩,
      { b with cells := b.cells ++ [b.read s ++ xs ++ List.replicate spare default] })

end Blocks
end TensorCompiler
