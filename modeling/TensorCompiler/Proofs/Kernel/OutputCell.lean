import TensorCompiler.Proofs.Kernel.Announced
import TensorCompiler.Proofs.Kernel.Computation

/-!
# The cell for the result

A call gets handles, of which the last one is that of the cell for the result. It reads the cells of
the others, computes, and writes.

Main statement: a call that fails has changed no cell. A call that succeeds has changed one, that of
the last handle: it was empty and is none of the inputs, and holds a tensor of the announced shape
with as many elements as this shape.

## Implementation notes

`Kernel.steps` is the call on a memory that every step may change, so that a failing call leaves a
memory to speak of. `run_steps` says that it is the call on cells.
-/

namespace TensorCompiler

/-- A memory in which a tensor was written to an empty cell. -/
structure Memory.Received (before after : Memory) (out : Nat) (t : Tensor) : Prop where
  cell : ∃ device, before.cell? out = some ⟨device, none⟩ ∧ after.cell? out = some ⟨device, some t⟩
  others : ∀ h, h ≠ out → after.cell? h = before.cell? h

/-- Writing an empty cell changes no other. -/
theorem Memory.received_put {m : Memory} {out : Nat} {device : DeviceId} (t : Tensor)
    (cell : m.cell? out = some ⟨device, none⟩) :
    m.Received (m.put out ⟨device, some t⟩) out t := by
  obtain ⟨inside, -⟩ := List.getElem?_eq_some_iff.mp cell
  refine ⟨⟨device, cell, ?_⟩, ?_⟩
  · exact List.getElem?_set_self inside
  · intro h other
    exact List.getElem?_set_ne (Ne.symm other)

namespace Kernel

/-- A call step by step: the handles are counted, the inputs read and checked, the result computed
and written. -/
def steps (k : Kernel) (args : List (Option Nat)) : ExceptT CallError (StateM Memory) Unit :=
  if args.length ≠ k.arity then throw (.argCount k.name args.length k.arity)
  else do
    let m ← get
    let inputs ← ExceptT.mk (pure (checkInputs k.name k.inputs (args.map (slotOf m))))
    match args.getLast? with
    | some (some out) =>
      match m.cell? out with
      | some c =>
        match k.output.exec inputs [] with
        | .ok (t, _) =>
          match c.content with
          | none => set (m.put out { c with content := some t })
          | some old => throw (.outputSet old)
        | .error e => throw (.compute k.name e)
      | none => throw (.noOutput k.name)
    | _ => throw (.noOutput k.name)

theorem run_ok_bind {α β : Type} (a : α) (f : α → ExceptT CallError (StateM Memory) β)
    (m : Memory) : (ExceptT.mk (pure (.ok a)) >>= f).run m = (f a).run m := rfl

/-- The steps are the call on cells; a call that fails leaves the memory that it got. -/
theorem run_steps (k : Kernel) (args : List (Option Nat)) (m : Memory) :
    (k.steps args).run m =
      match k.callOn m args with
      | .ok after => (.ok (), after)
      | .error e => (.error e, m) := by
  unfold steps callOn call
  rw [List.length_map, List.getLast?_map]
  by_cases count : args.length = k.arity
  · rw [if_neg (not_not_intro count), if_neg (not_not_intro count)]
    change ((ExceptT.mk (pure (checkInputs k.name k.inputs (args.map (slotOf m)))) >>= _ :
      ExceptT CallError (StateM Memory) Unit)).run m = _
    cases checkInputs k.name k.inputs (args.map (slotOf m)) with
    | error e => rfl
    | ok inputs =>
        rw [run_ok_bind]
        rcases args.getLast? with _ | _ | out
        · rfl
        · rfl
        · simp only [ok_bind, Option.map_some, slotOf]
          cases m.cell? out with
          | none => rfl
          | some c =>
              obtain ⟨device, content⟩ := c
              cases k.output.exec inputs [] with
              | error e => cases content <;> rfl
              | ok result => cases content <;> rfl
  · rw [if_pos count, if_pos count]
    rfl

/-! ### Calls that succeed -/

/-- A slot holds the tensor of a handle. -/
theorem set_of_slotOf {m : Memory} {a : Option Nat} {t : Tensor} (h : slotOf m a = .holds t) :
    ∃ i, a = some i ∧ m.tensor i = .ok t := by
  unfold slotOf at h
  split at h
  · cases h
  · rename_i i
    split at h
    · rename_i found
      cases h
      refine ⟨i, rfl, ?_⟩
      rw [Memory.tensor, found]
    · cases h
    · cases h

/-- A slot is empty if its cell is. -/
theorem unset_of_slotOf {m : Memory} {a : Option Nat} (h : slotOf m a = .empty) :
    ∃ i device, a = some i ∧ m.cell? i = some ⟨device, none⟩ := by
  unfold slotOf at h
  split at h
  · cases h
  · rename_i i
    split at h
    · cases h
    · rename_i device found
      exact ⟨i, device, rfl, found⟩
    · cases h

/-- Slots hold the tensors of handles. -/
theorem set_of_slots {m : Memory} {args : List (Option Nat)} {inputs : List Tensor}
    (h : args.map (slotOf m) = inputs.map .holds) :
    ∃ handles : List Nat, args = handles.map some ∧ handles.map m.tensor = inputs.map .ok := by
  induction args generalizing inputs with
  | nil =>
      cases inputs with
      | nil => exact ⟨[], rfl, rfl⟩
      | cons t ts => cases h
  | cons a args ih =>
      cases inputs with
      | nil => cases h
      | cons t ts =>
          simp only [List.map_cons, List.cons.injEq] at h
          obtain ⟨i, rfl, set⟩ := set_of_slotOf h.1
          obtain ⟨handles, rfl, sets⟩ := ih h.2
          exact ⟨i :: handles, rfl, by rw [List.map_cons, List.map_cons, set, sets]⟩

/-- Accepted inputs are set and have the declared shapes. -/
theorem holds_of_checkInputs {name : String} {is : List KernelInput} {ss : List Slot}
    {inputs : List Tensor} (count : is.length ≤ ss.length)
    (checked : checkInputs name is ss = .ok inputs) :
    inputs.map Tensor.shape = is.map KernelInput.shape ∧
      ss = inputs.map .holds ++ ss.drop is.length := by
  induction is generalizing ss inputs with
  | nil =>
      cases checked
      exact ⟨rfl, rfl⟩
  | cons i is ih =>
      cases ss with
      | nil => cases count
      | cons s ss =>
          cases s with
          | missing | empty => cases checked
          | holds t =>
              simp only [checkInputs, Slot.tensor?] at checked
              split at checked
              · rename_i shape
                cases rest : checkInputs name is ss with
                | error e =>
                    rw [rest] at checked
                    cases checked
                | ok ts =>
                    rw [rest] at checked
                    cases checked
                    obtain ⟨declared, slots⟩ := ih (Nat.le_of_succ_le_succ count) rest
                    constructor
                    · rw [List.map_cons, List.map_cons, shape, declared]
                    · rw [List.map_cons, List.cons_append, List.length_cons, List.drop_succ_cons,
                        ← slots]
              · cases checked

/-- A call that succeeds gets the inputs and an empty slot. -/
theorem call_eq_ok {k : Kernel} {slots : List Slot} {t : Tensor} (h : k.call slots = .ok t) :
    ∃ inputs : List Tensor, inputs.map Tensor.shape = k.inputs.map KernelInput.shape ∧
      slots = inputs.map .holds ++ [.empty] := by
  unfold call at h
  split at h
  · cases h
  · rename_i count
    obtain ⟨inputs, checked, h⟩ := ok_of_bind_ok h
    have arity : slots.length = k.inputs.length + 1 := by simpa [Kernel.arity] using count
    obtain ⟨declared, split⟩ := holds_of_checkInputs (by omega) checked
    obtain ⟨last, rest⟩ : ∃ s, slots.drop k.inputs.length = [s] :=
      List.length_eq_one_iff.mp (by rw [List.length_drop]; omega)
    rw [rest] at split
    refine ⟨inputs, declared, ?_⟩
    rw [split] at h ⊢
    rw [List.getLast?_concat] at h
    cases last with
    | empty => rfl
    | missing => cases h
    | holds old =>
        dsimp only at h
        split at h <;> cases h

/-- A call on cells that succeeds gets the handles of the inputs and that of an empty cell, and
writes to this cell what it computes. -/
theorem callOn_eq_ok {k : Kernel} {m after : Memory} {args : List (Option Nat)}
    (h : k.callOn m args = .ok after) :
    ∃ (handles : List Nat) (inputs : List Tensor) (out : Nat) (device : DeviceId) (t : Tensor),
      args = handles.map some ++ [some out] ∧
      handles.map m.tensor = inputs.map .ok ∧
      inputs.map Tensor.shape = k.inputs.map KernelInput.shape ∧
      m.cell? out = some ⟨device, none⟩ ∧
      k.call (inputs.map .holds ++ [.empty]) = .ok t ∧ after = m.put out ⟨device, some t⟩ := by
  unfold callOn at h
  obtain ⟨t, called, h⟩ := ok_of_bind_ok h
  obtain ⟨inputs, declared, slots⟩ := call_eq_ok called
  obtain ⟨front, back, rfl, holds, empty⟩ := List.map_eq_append_iff.mp slots
  obtain ⟨handles, rfl, set⟩ := set_of_slots holds
  obtain ⟨a, rfl, unset⟩ := List.map_eq_singleton_iff.mp empty
  obtain ⟨out, device, rfl, cell⟩ := unset_of_slotOf unset
  rw [List.getLast?_concat] at h
  simp only [cell] at h
  cases h
  rw [slots] at called
  exact ⟨handles, inputs, out, device, t, rfl, set, declared, cell, called, rfl⟩

/-- The cell for the result is none of the inputs, since these are set. -/
theorem out_not_mem {m : Memory} {handles : List Nat} {inputs : List Tensor}
    (set : handles.map m.tensor = inputs.map .ok) {out : Nat} {device : DeviceId}
    (cell : m.cell? out = some ⟨device, none⟩) : out ∉ handles := by
  intro member
  have held : m.tensor out ∈ inputs.map .ok := set ▸ List.mem_map_of_mem member
  obtain ⟨t, -, same⟩ := List.mem_map.mp held
  rw [Memory.tensor, cell] at same
  cases same

/-! ### What a call leaves -/

/-- A call of a compiled kernel on handles whose tensors fill their shapes, run step by step, is the
call on cells. If it fails, the memory is the one it got. If it succeeds, the last handle is none of
the inputs, and its cell, which was empty, has received a tensor of the announced shape with as many
elements as this shape; all other cells are as they were. -/
theorem sets_output_or_nothing {name : String} {f : Function} {k : Kernel}
    (compiled : Kernel.compile name f = .ok k) {args : List (Option Nat)} {before : Memory}
    (full : ∀ h t, some h ∈ args → before.tensor h = .ok t → t.IsFull)
    {result : Except CallError Unit} {after : Memory}
    (ran : (k.steps args).run before = (result, after)) :
    k.callOn before args = result.map (fun _ => after) ∧
      (∀ e, result = .error e → after = before) ∧
      (result = .ok () → ∃ (handles : List Nat) (out : Nat) (t : Tensor),
        args = handles.map some ++ [some out] ∧ out ∉ handles ∧
        before.Received after out t ∧ t.shape = k.outputShape ∧
        k.outputShape.size = t.elements.length) := by
  rw [run_steps] at ran
  cases called : k.callOn before args with
  | error e =>
      rw [called] at ran
      cases ran
      exact ⟨rfl, fun _ _ => rfl, nofun⟩
  | ok written =>
      rw [called] at ran
      cases ran
      refine ⟨rfl, nofun, ?_⟩
      intro _
      obtain ⟨handles, inputs, out, device, t, rfl, set, declared, cell, computed, rfl⟩ :=
        callOn_eq_ok called
      have graph := graph_of_compile compiled
      obtain ⟨shares, explained⟩ := Function.explained_graph graph
      have fullInputs : ∀ x ∈ inputs, x.IsFull := by
        intro x member
        have held : Except.ok x ∈ handles.map before.tensor := set ▸ List.mem_map_of_mem member
        obtain ⟨h, input, tensor⟩ := List.mem_map.mp held
        exact full h x (List.mem_append_left _ (List.mem_map_of_mem input)) tensor
      rw [call_holds explained declared] at computed
      have outcome := ok_of_mapError_ok computed
      obtain ⟨shape, fill⟩ :=
        Function.keepsAnnouncement_graph graph declared fullInputs t outcome
      refine ⟨handles, out, t, rfl, out_not_mem set cell, Memory.received_put t cell, shape, ?_⟩
      rw [outputShape, ← shape]
      exact fill

end Kernel

/-- Called on the pair of two and three, on four and on an empty cell, a kernel fills the cell and
leaves the others. -/
theorem scaledExcess_received : ∃ k after, Kernel.compile "excess" scaledExcess = .ok k ∧
    (k.steps ([0, 1, 2, 3].map some)).run threeIntegers = (.ok (), after) ∧
    ∃ (handles : List Nat) (out : Nat) (t : Tensor),
      [0, 1, 2, 3].map some = handles.map some ++ [some out] ∧ out ∉ handles ∧
      threeIntegers.Received after out t ∧ t.shape = k.outputShape ∧
      k.outputShape.size = t.elements.length := by
  obtain ⟨k, compiled⟩ : ∃ k, Kernel.compile "excess" scaledExcess = .ok k := ⟨_, rfl⟩
  have ran : (k.steps ([0, 1, 2, 3].map some)).run threeIntegers =
      (.ok (), threeIntegers.put 3 ⟨0, some (integerTensor 18)⟩) := by
    have value : (Kernel.compile "excess" scaledExcess).map
        (fun k => (k.steps ([0, 1, 2, 3].map some)).run threeIntegers) =
          .ok (.ok (), threeIntegers.put 3 ⟨0, some (integerTensor 18)⟩) := rfl
    rw [compiled] at value
    exact Except.ok.inj value
  have full : ∀ h t, some h ∈ [0, 1, 2, 3].map some → threeIntegers.tensor h = .ok t →
      t.IsFull := by
    intro h t member held
    simp only [List.map_cons, List.map_nil, List.mem_cons, Option.some.injEq, List.not_mem_nil,
      or_false] at member
    rcases member with rfl | rfl | rfl | rfl <;> cases held <;> rfl
  obtain ⟨-, -, received⟩ := Kernel.sets_output_or_nothing compiled full ran
  exact ⟨k, _, compiled, ran, received rfl⟩

end TensorCompiler
