import TensorCompiler.Kernel.Basic

/-!
# Kernels without the names of their inputs

The nodes of a graph carry the names of the inputs, which only the texts of errors show. Two kernels
that differ in names only have one arity and one output shape, and answer every call alike.
-/

namespace TensorCompiler

namespace GraphNode

/-- The node without the names of the inputs. -/
def unnamed : GraphNode → GraphNode
  | .constant t => .constant t
  | .input index _ shape => .input index "" shape
  | .binary k x y => .binary k x.unnamed y.unnamed
  | .unary k x => .unary k x.unnamed
  | .shared slot x => .shared slot x.unnamed

@[simp]
theorem shape_unnamed (n : GraphNode) : n.unnamed.shape = n.shape := by
  induction n with
  | constant | input | binary => rfl
  | unary k x ih => exact ih
  | shared slot x ih => exact ih

@[simp]
theorem family_unnamed (n : GraphNode) : n.unnamed.family = n.family := by
  rw [family, family, shape_unnamed]

/-- Computing a node does not read the names. -/
theorem exec_unnamed (inputs : List Tensor) (n : GraphNode) (memo : Memo) :
    n.unnamed.exec inputs memo = n.exec inputs memo := by
  induction n generalizing memo with
  | constant | input => rfl
  | binary k x y ihx ihy => simp only [unnamed, exec, ihx, ihy]
  | unary k x ih => simp only [unnamed, exec, ih]
  | shared slot x ih => simp only [unnamed, exec, ih]

/-- Nodes that differ in names only are computed alike. -/
theorem exec_congr {m n : GraphNode} (same : m.unnamed = n.unnamed) (inputs : List Tensor)
    (memo : Memo) : m.exec inputs memo = n.exec inputs memo := by
  rw [← exec_unnamed, same, exec_unnamed]

/-- Nodes that differ in names only announce one shape. -/
theorem shape_congr {m n : GraphNode} (same : m.unnamed = n.unnamed) : m.shape = n.shape := by
  rw [← shape_unnamed, same, shape_unnamed]

end GraphNode

/-- Applying an operator does not read the names. -/
theorem KernelOp.node_unnamed (op : KernelOp) (ns : List GraphNode) :
    op.node (ns.map GraphNode.unnamed) = (op.node ns).map GraphNode.unnamed := by
  cases op with
  | binary o =>
      rcases ns with _ | ⟨x, _ | ⟨y, _ | ⟨z, rest⟩⟩⟩
      · rfl
      · rfl
      · simp only [node, List.map_cons, List.map_nil, GraphNode.shape_unnamed,
          GraphNode.family_unnamed]
        split <;> rfl
      · simp [node, Except.map]
  | negate =>
      rcases ns with _ | ⟨x, _ | ⟨y, rest⟩⟩
      · rfl
      · simp only [node, List.map_cons, List.map_nil, GraphNode.shape_unnamed,
          GraphNode.family_unnamed]
        split <;> rfl
      · simp [node, Except.map]
  | copy =>
      rcases ns with _ | ⟨x, _ | ⟨y, rest⟩⟩
      · rfl
      · rfl
      · simp [node, Except.map]
  | math f =>
      rcases ns with _ | ⟨x, _ | ⟨y, rest⟩⟩
      · rfl
      · simp only [node, List.map_cons, List.map_nil, GraphNode.shape_unnamed,
          GraphNode.family_unnamed]
        split
        · split <;> rfl
        · rfl
      · simp [node, Except.map]

namespace Built

mutual

/-- What an expression denotes, without the names of the inputs. -/
def unnamed : Built → Built
  | .node n => .node n.unnamed
  | .tuple fields => .tuple (unnamedAll fields)

/-- What several expressions denote, without the names of the inputs. -/
def unnamedAll : List Built → List Built
  | [] => []
  | b :: bs => unnamed b :: unnamedAll bs

end

/-- The fields without names are taken one by one. -/
theorem getElem?_unnamedAll (bs : List Built) (i : Nat) :
    (unnamedAll bs)[i]? = bs[i]?.map unnamed := by
  induction bs generalizing i with
  | nil => rfl
  | cons b bs ih =>
      cases i with
      | zero => rfl
      | succ i => simpa [unnamedAll] using ih i

end Built

/-! ### Calls -/

/-- The failure without the name of the input it is about. -/
def CallError.unnamed : CallError → CallError
  | .inputUnset kernel _ => .inputUnset kernel ""
  | .inputShape kernel _ got want => .inputShape kernel "" got want
  | e => e

namespace Kernel

/-- Kernels that differ in names only. -/
structure Alike (k l : Kernel) : Prop where
  inputs : k.inputs.map KernelInput.shape = l.inputs.map KernelInput.shape
  output : k.output.unnamed = l.output.unnamed

variable {k l : Kernel}

theorem Alike.arity_eq (h : k.Alike l) : k.arity = l.arity := by
  have len := congrArg List.length h.inputs
  simpa [arity] using len

theorem Alike.outputShape_eq (h : k.Alike l) : k.outputShape = l.outputShape :=
  GraphNode.shape_congr h.output

/-- Inputs are checked against the shapes only. -/
theorem checkInputs_toOption (name name' : String) {is js : List KernelInput}
    (shapes : is.map KernelInput.shape = js.map KernelInput.shape) (args : List Slot) :
    (checkInputs name is args).toOption = (checkInputs name' js args).toOption := by
  induction is generalizing js args with
  | nil =>
      cases js with
      | nil => rfl
      | cons j js => cases shapes
  | cons i is ih =>
      cases js with
      | nil => cases shapes
      | cons j js =>
          simp only [List.map_cons, List.cons.injEq] at shapes
          obtain ⟨first, rest⟩ := shapes
          cases args with
          | nil => rfl
          | cons s ss =>
              have tail := ih rest ss
              unfold checkInputs
              cases s.tensor? with
              | none => rfl
              | some t =>
                  simp only [first]
                  split
                  · revert tail
                    cases checkInputs name is ss <;> cases checkInputs name' js ss <;>
                      simp [Except.map, Except.toOption]
                  · rfl

/-- Kernels that differ in names only answer every call alike: both with one tensor, or both with an
error. -/
theorem Alike.call_eq (h : k.Alike l) (args : List Slot) :
    (k.call args).toOption = (l.call args).toOption := by
  have checked := checkInputs_toOption k.name l.name h.inputs args
  unfold call
  rw [h.arity_eq]
  split
  · rfl
  · cases hk : checkInputs k.name k.inputs args with
    | error e =>
        cases hl : checkInputs l.name l.inputs args with
        | error e' => rfl
        | ok inputs' =>
            rw [hk, hl] at checked
            cases checked
    | ok inputs =>
        cases hl : checkInputs l.name l.inputs args with
        | error e' =>
            rw [hk, hl] at checked
            cases checked
        | ok inputs' =>
            rw [hk, hl] at checked
            obtain rfl : inputs = inputs' := Option.some.inj checked
            simp only [bind, Except.bind, GraphNode.exec_congr h.output]
            split
            · cases l.output.exec inputs [] <;> rfl
            · cases l.output.exec inputs [] <;> rfl
            · rfl

/-- Checking inputs fails alike but for their names. -/
theorem checkInputs_unnamed (name : String) {is js : List KernelInput}
    (shapes : is.map KernelInput.shape = js.map KernelInput.shape) (args : List Slot) :
    (checkInputs name is args).mapError CallError.unnamed =
      (checkInputs name js args).mapError CallError.unnamed := by
  induction is generalizing js args with
  | nil =>
      obtain rfl := List.map_eq_nil_iff.mp shapes.symm
      rfl
  | cons i is ih =>
      obtain ⟨j, js, rfl, first, rest⟩ := List.map_eq_cons_iff.mp shapes.symm
      cases args with
      | nil => rfl
      | cons s ss =>
          have tail := ih rest.symm ss
          simp only [checkInputs, ← first]
          cases s.tensor? with
          | none => rfl
          | some t =>
              simp only
              split
              · cases left : checkInputs name is ss with
                | error e =>
                    cases right : checkInputs name js ss with
                    | error e' =>
                        rw [left, right] at tail
                        exact tail
                    | ok ts =>
                        rw [left, right] at tail
                        cases tail
                | ok ts =>
                    cases right : checkInputs name js ss with
                    | error e =>
                        rw [left, right] at tail
                        cases tail
                    | ok ts' =>
                        rw [left, right] at tail
                        obtain rfl := Except.ok.inj tail
                        rfl
              · rfl

/-- Kernels of one name that differ in the names of inputs only fail alike but for these names. -/
theorem Alike.call_unnamed (h : k.Alike l) (name : k.name = l.name) (args : List Slot) :
    (k.call args).mapError CallError.unnamed = (l.call args).mapError CallError.unnamed := by
  have checked := checkInputs_unnamed l.name h.inputs args
  unfold call
  rw [h.arity_eq, name]
  split
  · rfl
  · cases hk : checkInputs l.name k.inputs args with
    | error e =>
        cases hl : checkInputs l.name l.inputs args with
        | error e' =>
            rw [hk, hl] at checked
            exact congrArg Except.error (Except.error.inj checked)
        | ok inputs' =>
            rw [hk, hl] at checked
            cases checked
    | ok inputs =>
        cases hl : checkInputs l.name l.inputs args with
        | error e' =>
            rw [hk, hl] at checked
            cases checked
        | ok inputs' =>
            rw [hk, hl] at checked
            obtain rfl : inputs = inputs' := Except.ok.inj checked
            simp only [bind, Except.bind, GraphNode.exec_congr h.output]

/-- Kernels of one name with the same inputs and outputs that differ in the names of inputs only
answer every call alike. -/
theorem call_congr (name : k.name = l.name) (inputs : k.inputs = l.inputs)
    (output : k.output.unnamed = l.output.unnamed) (args : List Slot) :
    k.call args = l.call args := by
  unfold call arity
  simp only [name, inputs, bind, Except.bind, GraphNode.exec_congr output]

end Kernel
end TensorCompiler
