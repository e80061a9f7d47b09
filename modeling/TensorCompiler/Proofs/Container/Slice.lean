import TensorCompiler.Container.Slice

/-!
# Slices that grow

Values that are put behind a slice stand behind its old values, whether it grows in place or moves.
A slice that is apart from it shows what it showed before, and stays apart: it has a block of its
own, or no room.
-/

namespace TensorCompiler

variable {α : Type} {b : Blocks α} {s t : Slice} {xs : List α} {i j n place : Nat}

/-- Two slices with room have different blocks. -/
def Slice.Apart (s t : Slice) : Prop :=
  0 < s.capacity → 0 < t.capacity → s.block ≠ t.block

theorem Slice.Apart.symm (h : s.Apart t) : t.Apart s :=
  fun left right => (h right left).symm

namespace Blocks

/-- The window of a slice lies inside its block. -/
structure Fits (b : Blocks α) (s : Slice) : Prop where
  length_le : s.length ≤ s.capacity
  inside : 0 < s.capacity → s.start + s.capacity ≤ (b.block s.block).length

theorem fits_empty : b.Fits .empty :=
  ⟨Nat.le_refl 0, fun room => absurd room (Nat.lt_irrefl 0)⟩

theorem Fits.take (h : b.Fits s) (le : n ≤ s.length) : b.Fits (s.take n) :=
  ⟨Nat.le_trans le h.length_le, h.inside⟩

/-- A slice without room shows nothing. -/
theorem Fits.read_eq_nil (h : b.Fits s) (full : s.capacity = 0) : b.read s = [] := by
  have none : s.length = 0 := Nat.le_zero.mp (full ▸ h.length_le)
  rw [read, none, List.take_zero]

theorem Fits.length_read (h : b.Fits s) : (b.read s).length = s.length := by
  rcases Nat.eq_zero_or_pos s.capacity with full | room
  · rw [h.read_eq_nil full, List.length_nil]
    exact (Nat.le_zero.mp (full ▸ h.length_le)).symm
  · have inside := h.inside room
    have shown := h.length_le
    rw [read, List.length_take, List.length_drop]
    omega

theorem read_take (b : Blocks α) (le : n ≤ s.length) : b.read (s.take n) = (b.read s).take n := by
  rw [read, read, List.take_take, Nat.min_eq_left le]
  rfl

theorem read_drop (b : Blocks α) (s : Slice) (n : Nat) : b.read (s.drop n) = (b.read s).drop n := by
  rw [read, read, List.drop_take, List.drop_drop]
  rfl

/-- A slice with room has a block. -/
theorem Fits.known (h : b.Fits s) (room : 0 < s.capacity) : s.block < b.cells.length := by
  refine Nat.lt_of_not_le fun outside => ?_
  have inside := h.inside room
  rw [block, List.getD_eq_getElem?_getD, List.getElem?_eq_none outside, Option.getD_none,
    List.length_nil] at inside
  omega

/-! ### Writing -/

theorem block_write_self (known : i < b.cells.length) :
    (b.write i place xs).block i =
      (b.block i).take place ++ xs ++ (b.block i).drop (place + xs.length) := by
  simp [write, block, known]

theorem block_write_of_ne (h : i ≠ j) : (b.write i place xs).block j = b.block j := by
  simp [write, block, h]

/-- Writing no values changes nothing. -/
theorem write_nil : b.write i place [] = b := by
  have same : (b.block i).take place ++ [] ++ (b.block i).drop (place + 0) = b.block i := by
    rw [List.append_nil, Nat.add_zero, List.take_append_drop]
  rw [write, List.length_nil, same]
  rcases Nat.lt_or_ge i b.cells.length with known | outside
  · rw [block, List.getD_eq_getElem?_getD, List.getElem?_eq_getElem known, Option.getD_some,
      List.set_getElem_self]
  · rw [List.set_eq_of_length_le outside]

/-- Blocks that are added leave the others. -/
theorem block_snoc (spare : Nat → Nat → Nat) (cs : List α) (known : i < b.cells.length) :
    (Blocks.mk (b.cells ++ [cs]) spare).block i = b.block i := by
  rw [block, block, List.getD_eq_getElem?_getD, List.getD_eq_getElem?_getD,
    List.getElem?_append_left known]

theorem block_snoc_self (spare : Nat → Nat → Nat) (cs : List α) :
    (Blocks.mk (b.cells ++ [cs]) spare).block b.cells.length = cs := by
  simp [block]

/-! ### Growing -/

variable [Inhabited α]

/-- A slice that grows shows its old values and the new ones behind them. -/
theorem Fits.append (h : b.Fits s) (xs : List α) :
    (b.append s xs).2.Fits (b.append s xs).1 ∧
      (b.append s xs).2.read (b.append s xs).1 = b.read s ++ xs := by
  unfold Blocks.append
  have shown := h.length_read
  have bound := h.length_le
  by_cases fits : s.length + xs.length ≤ s.capacity
  · simp only [if_pos fits]
    rcases Nat.eq_zero_or_pos s.capacity with full | room
    · -- Without room there is nothing to add.
      obtain rfl : xs = [] := List.length_eq_zero_iff.mp (by omega)
      rw [write_nil, List.append_nil]
      exact ⟨h, rfl⟩
    · have inside := h.inside room
      have content : (b.write s.block (s.start + s.length) xs).block s.block = _ :=
        block_write_self (h.known room)
      refine ⟨⟨fits, fun _ => ?_⟩, ?_⟩
      · rw [content]
        simp only [List.length_append, List.length_take, List.length_drop]
        omega
      · have front : ((b.block s.block).take (s.start + s.length)).drop s.start = b.read s := by
          rw [List.drop_take, Nat.add_sub_cancel_left, Blocks.read]
        rw [Blocks.read, content, List.append_assoc, List.drop_append_of_le_length, front,
          ← List.append_assoc]
        · exact List.take_left' (by rw [List.length_append, shown])
        · rw [List.length_take]
          change s.start ≤ min (s.start + s.length) (b.block s.block).length
          omega
  · simp only [if_neg fits]
    have content := block_snoc_self (b := b) b.spare
      (b.read s ++ xs ++ List.replicate (b.spare s.capacity (s.length + xs.length)) default)
    refine ⟨⟨Nat.le_add_right _ _, fun _ => ?_⟩, ?_⟩
    · rw [content]
      simp only [List.length_append, List.length_replicate, shown]
      omega
    · rw [Blocks.read, content, List.drop_zero]
      exact List.take_left' (by rw [List.length_append, shown])

/-- A slice that is apart from one that grows shows what it showed, and stays apart. -/
theorem Fits.append_apart (h : b.Fits t) (apart : s.Apart t) (xs : List α) :
    (b.append s xs).2.Fits t ∧ (b.append s xs).2.read t = b.read t ∧
      (b.append s xs).1.Apart t := by
  rcases Nat.eq_zero_or_pos t.capacity with full | room
  · have still : (b.append s xs).2.Fits t :=
      ⟨h.length_le, fun room => absurd full (Nat.ne_of_gt room)⟩
    exact ⟨still, by rw [still.read_eq_nil full, h.read_eq_nil full],
      fun _ room => absurd full (Nat.ne_of_gt room)⟩
  · suffices (b.append s xs).2.block t.block = b.block t.block ∧ (b.append s xs).1.Apart t by
      refine ⟨⟨h.length_le, fun room => ?_⟩, ?_, this.2⟩
      · rw [this.1]
        exact h.inside room
      · rw [Blocks.read, Blocks.read, this.1]
    unfold Blocks.append
    by_cases grows : s.length + xs.length ≤ s.capacity
    · simp only [if_pos grows]
      refine ⟨?_, apart⟩
      rcases Nat.eq_zero_or_pos s.capacity with none | some
      · obtain rfl : xs = [] := List.length_eq_zero_iff.mp (by omega)
        rw [write_nil]
      · exact block_write_of_ne (apart some room)
    · simp only [if_neg grows]
      exact ⟨block_snoc _ _ (h.known room), fun _ _ => Nat.ne_of_gt (h.known room)⟩

end Blocks
end TensorCompiler
