import TensorCompiler.Proofs.Kernel.ByName
import TensorCompiler.Proofs.Kernel.Reuse
import TensorCompiler.Proofs.Kernel.Sharing
import TensorCompiler.Proofs.Meaning.Kernels

/-!
# Kernels compute their functions

Main statement: a kernel called on handles of the declared shapes, with an empty cell for the
result, does what evaluating its function by name does. The cell receives the tensor that the
evaluation comes to, and the call fails exactly with the failure of the evaluation.

## Implementation notes

Graph and evaluation meet in `Built.meaning`, what a part of the graph comes to if nothing is
remembered. An operator takes its kernel from the shapes that its operands announce and the
evaluation from those of the tensors, so the nodes are shown to be honest along the way.
-/

namespace TensorCompiler

/-! ### What a graph comes to -/

/-- A node is honest on inputs if a tensor it computes has the shape that it announces. -/
def GraphNode.Honest (inputs : List Tensor) (n : GraphNode) : Prop :=
  ∀ t, n.outcome inputs = .ok t → t.shape = n.shape

namespace Built

mutual

/-- What a part of a graph comes to if nothing is remembered. -/
def meaning (inputs : List Tensor) : Built → Meaning
  | .node n => .tensor (n.outcome inputs)
  | .tuple fields => .tuple (meaningAll inputs fields)

/-- What several parts of a graph come to. -/
def meaningAll (inputs : List Tensor) : List Built → List Meaning
  | [] => []
  | b :: bs => meaning inputs b :: meaningAll inputs bs

end

/-- A part of a graph whose nodes are honest. -/
inductive Honest (inputs : List Tensor) : Built → Prop
  | node {n : GraphNode} (h : n.Honest inputs) : Honest inputs (.node n)
  | tuple {bs} (all : ∀ b ∈ bs, Honest inputs b) : Honest inputs (.tuple bs)

variable {inputs : List Tensor}

theorem getElem?_meaningAll (bs : List Built) (i : Nat) :
    (meaningAll inputs bs)[i]? = bs[i]?.map (meaning inputs) := by
  induction bs generalizing i with
  | nil => rfl
  | cons b bs ih =>
      cases i with
      | zero => rfl
      | succ i => simpa [meaningAll] using ih i

/-- Nodes come to tensors. -/
theorem meaningAll_map_node (ns : List GraphNode) :
    meaningAll inputs (ns.map .node) = (ns.map (GraphNode.outcome inputs)).map .tensor := by
  induction ns with
  | nil => rfl
  | cons n ns ih => simp [meaningAll, meaning, ih]

end Built

/-- A node that is an operator on honest nodes is honest, and comes to the operator on what these
come to. -/
theorem KernelOp.evalAll_outcome {op : KernelOp} {ns : List GraphNode} {n : GraphNode}
    {inputs : List Tensor} (h : op.node ns = .ok n) (honest : ∀ x ∈ ns, x.Honest inputs) :
    n.Honest inputs ∧
      op.evalAll? (ns.map (GraphNode.outcome inputs)) = some (n.outcome inputs) := by
  rcases KernelOp.node_eq_ok_iff.mp h with ⟨x, k, rfl, chosen, rfl⟩ | ⟨x, y, k, rfl, chosen, rfl⟩
  · have hx := honest x (by simp)
    constructor
    · intro t ht
      obtain ⟨a, ha, ht⟩ := ok_of_bind_ok ht
      exact (UnaryKernel.shape_of_apply (KernelOp.keeps_unaryKernel chosen) ht).trans (hx a ha)
    · cases ha : x.outcome inputs with
      | error e => simp [evalAll?, GraphNode.outcome, ha, bind, Except.bind]
      | ok a =>
          have shape := hx a ha
          simp [evalAll?, eval?, GraphNode.outcome, ha, bind, Except.bind, pure, Except.pure,
            shape, chosen]
  · have hx := honest x (by simp)
    have hy := honest y (by simp)
    constructor
    · intro t ht
      obtain ⟨a, -, ht⟩ := ok_of_bind_ok ht
      obtain ⟨b, -, ht⟩ := ok_of_bind_ok ht
      exact BinaryKernel.shape_of_apply (KernelOp.announced_binaryKernel chosen) ht
    · cases ha : x.outcome inputs with
      | error e => simp [evalAll?, GraphNode.outcome, ha, bind, Except.bind]
      | ok a =>
          cases hb : y.outcome inputs with
          | error e => simp [evalAll?, GraphNode.outcome, ha, hb, bind, Except.bind]
          | ok b =>
              have shapeX := hx a ha
              have shapeY := hy b hb
              simp [evalAll?, eval?, GraphNode.outcome, ha, hb, bind, Except.bind, pure,
                Except.pure, shapeX, shapeY, chosen]

/-! ### Bodies -/

namespace GraphScope

variable {inputs : List Tensor} {given : List (Var × Meaning)} {bound : List (Var × Expr)}

/-- A scope that is right on inputs: what a variable denotes in it is honest, and comes to what the
variable stands for. -/
def Right (inputs : List Tensor) (given : List (Var × Meaning)) (bound : List (Var × Expr))
    (s : GraphScope) : Prop :=
  ∀ p ∈ s.vars, p.2.Honest inputs ∧ Denotes given bound (.var p.1) (p.2.meaning inputs)

theorem Right.find {s : GraphScope} (h : s.Right inputs given bound) {v : Var} {b : Built}
    (found : s.find? v = some b) :
    b.Honest inputs ∧ Denotes given bound (.var v) (b.meaning inputs) := by
  obtain ⟨⟨w, c⟩, hp, rfl⟩ := Option.map_eq_some_iff.mp found
  have same : w = v := by simpa using List.find?_some hp
  exact same ▸ h _ (List.mem_of_find?_eq_some hp)

theorem Right.enter {s : GraphScope} (h : s.Right inputs given bound) {v : Var} {b : Built}
    (honest : b.Honest inputs) (value : Denotes given bound (.var v) (b.meaning inputs)) :
    (s.enter v b).Right inputs given bound := by
  intro p hp
  rcases List.mem_cons.mp hp with rfl | hp
  · exact ⟨honest, value⟩
  · exact h p hp

/-- Sharing a tensor changes nothing of what it comes to. -/
theorem Right.share {s : GraphScope} (h : s.Right inputs given bound) {b : Built}
    (honest : b.Honest inputs) :
    (s.share b).2.Right inputs given bound ∧ (s.share b).1.Honest inputs ∧
      (s.share b).1.meaning inputs = b.meaning inputs := by
  cases b with
  | tuple bs => exact ⟨h, honest, rfl⟩
  | node n =>
      cases honest with
      | node hn => exact ⟨h, .node hn, rfl⟩

mutual

/-- What an expression denotes in a graph comes to what the expression stands for. -/
theorem Builds.denotes {s t : GraphScope} {e : Expr} {b : Built} :
    Builds s e b t → e.bindings ⊆ bound → s.Right inputs given bound →
      t.Right inputs given bound ∧ b.Honest inputs ∧ Denotes given bound e (b.meaning inputs)
  | .var found => by
      intro _ right
      exact ⟨right, right.find found⟩
  | @Builds.const _ c _ held => by
      intro _ right
      refine ⟨right, .node ?_, ?_⟩
      · intro a ha
        cases ha
        rfl
      · have const : Denotes given bound (.const c) _ := .const c
        rw [held] at const
        exact const
  | @Builds.bind _ s₁ _ v _ _ b _ head tail => by
      intro binds right
      obtain ⟨binding, rest⟩ := List.cons_subset.mp binds
      obtain ⟨inValue, inBody⟩ := List.append_subset.mp rest
      obtain ⟨right, honest, stands⟩ := Builds.denotes head inValue right
      obtain ⟨right, honest, same⟩ := right.share honest
      have stands : Denotes given bound (.var v) ((s₁.share b).1.meaning inputs) :=
        same ▸ .bound binding stands
      have entered := right.enter honest stands
      obtain ⟨right, honest, stands⟩ := Builds.denotes tail inBody entered
      exact ⟨right, honest, .bind stands⟩
  | .tuple all => by
      intro binds right
      obtain ⟨right, honest, stands⟩ := BuildsAll.denotes all binds right
      exact ⟨right, .tuple honest, .tuple stands⟩
  | .proj head place field => by
      intro binds right
      obtain ⟨right, honest, stands⟩ := Builds.denotes head binds right
      cases honest with
      | tuple all =>
          refine ⟨right, all _ (List.mem_of_getElem? field), .proj stands place ?_⟩
          rw [Built.getElem?_meaningAll, field]
          rfl
  | @Builds.operator _ _ _ _ _ ns _ _ known operands applied => by
      intro binds right
      obtain ⟨right, honest, stands⟩ := BuildsAll.denotes operands binds right
      have nodes : ∀ x ∈ ns, x.Honest inputs := by
        intro x hx
        cases honest _ (List.mem_map_of_mem hx) with
        | node hn => exact hn
      obtain ⟨honest, outcome⟩ := KernelOp.evalAll_outcome applied nodes
      rw [Built.meaningAll_map_node] at stands
      exact ⟨right, .node honest, .operator known stands outcome⟩
  | .call entered result => by
      intro binds right
      obtain ⟨params, rest⟩ := List.append_subset.mp binds
      obtain ⟨inBody, inArgs⟩ := List.append_subset.mp rest
      have right := BuildsArgs.denotes entered params inArgs right
      obtain ⟨right, honest, stands⟩ := Builds.denotes result inBody right
      exact ⟨right, honest, .call stands⟩

/-- What several expressions denote in a graph comes to what the expressions stand for. -/
theorem BuildsAll.denotes {s t : GraphScope} {es : List Expr} {bs : List Built} :
    BuildsAll s es bs t → Expr.bindingsAll es ⊆ bound → s.Right inputs given bound →
      t.Right inputs given bound ∧ (∀ b ∈ bs, b.Honest inputs) ∧
        DenotesAll given bound es (Built.meaningAll inputs bs)
  | .nil => by
      intro _ right
      exact ⟨right, fun b hb => absurd hb List.not_mem_nil, .nil⟩
  | .cons head tail => by
      intro binds right
      obtain ⟨inHead, inTail⟩ := List.append_subset.mp binds
      obtain ⟨right, honest, stands⟩ := Builds.denotes head inHead right
      obtain ⟨right, all, rest⟩ := BuildsAll.denotes tail inTail right
      exact ⟨right, List.forall_mem_cons.mpr ⟨honest, all⟩, .cons stands rest⟩

/-- Parameters are entered with what their arguments stand for. -/
theorem BuildsArgs.denotes {s t : GraphScope} {ps : List Var} {es : List Expr} :
    BuildsArgs s ps es t → ps.zip es ⊆ bound → Expr.bindingsAll es ⊆ bound →
      s.Right inputs given bound → t.Right inputs given bound
  | .nil => by
      intro _ _ right
      exact right
  | .cons head tail => by
      intro params binds right
      obtain ⟨binding, params⟩ := List.cons_subset.mp params
      obtain ⟨inHead, inTail⟩ := List.append_subset.mp binds
      obtain ⟨right, honest, stands⟩ := Builds.denotes head inHead right
      exact BuildsArgs.denotes tail params inTail (right.enter honest (.bound binding stands))

end

end GraphScope

/-! ### Parameters -/

/-- The inputs that are added for the fields of a tuple parameter are those of its type. -/
theorem shapes_of_fieldInputs {name : String} {tys : List Ty} {i : Nat} {is js : List KernelInput}
    {bs : List Built} (h : fieldInputs name is i tys = .ok (bs, js)) :
    js.map KernelInput.shape = is.map KernelInput.shape ++ tys.filterMap Ty.shape? := by
  induction tys generalizing i is bs with
  | nil =>
      cases h
      simp
  | cons ty tys ih =>
      cases ty with
      | tensor shape =>
          simp only [fieldInputs] at h
          obtain ⟨⟨n, is₁⟩, first, h⟩ := ok_of_bind_ok h
          obtain ⟨⟨bs, is₂⟩, rest, h⟩ := ok_of_bind_ok h
          cases h
          obtain ⟨-, rfl⟩ := inputNode_eq_ok first
          simp [ih rest, Ty.shape?]
      | _ => cases h

/-- The inputs that are added for a parameter are those of its type. -/
theorem shapes_of_paramInputs {v : Var} {is js : List KernelInput} {b : Built}
    (h : paramInputs is v = .ok (b, js)) :
    js.map KernelInput.shape = is.map KernelInput.shape ++ v.ty.inputShapes := by
  unfold paramInputs at h
  split at h
  · rename_i shape ty
    obtain ⟨⟨n, is₁⟩, node, h⟩ := ok_of_bind_ok h
    cases h
    obtain ⟨-, rfl⟩ := inputNode_eq_ok node
    simp [ty, Ty.inputShapes]
  · rename_i tys ty
    obtain ⟨⟨bs, is₁⟩, fields, h⟩ := ok_of_bind_ok h
    cases h
    rw [ty]
    exact shapes_of_fieldInputs fields
  · cases h

/-- The inputs that are added for parameters are those of their types. -/
theorem shapes_of_enterParams {vs : List Var} {s t : GraphScope} {is js : List KernelInput}
    (h : enterParams s is vs = .ok (t, js)) :
    js.map KernelInput.shape =
      is.map KernelInput.shape ++ vs.flatMap fun v => v.ty.inputShapes := by
  induction vs generalizing s is with
  | nil =>
      cases h
      simp
  | cons v vs ih =>
      simp only [enterParams] at h
      obtain ⟨⟨b, is₁⟩, first, h⟩ := ok_of_bind_ok h
      rw [ih h, shapes_of_paramInputs first, List.append_assoc, List.flatMap_cons]

/-- The node of an input comes to the tensor that is passed for it. -/
theorem GraphNode.input_passed {before : List Tensor} (after : List Tensor) {t : Tensor} {i : Nat}
    (name : String) {shape : Shape} (place : before.length = i) (declared : t.shape = shape) :
    (GraphNode.input i name shape).outcome (before ++ t :: after) = .ok t ∧
      (GraphNode.input i name shape).Honest (before ++ t :: after) := by
  have outcome : (GraphNode.input i name shape).outcome (before ++ t :: after) = .ok t := by
    simp [GraphNode.outcome, ← place]
  refine ⟨outcome, ?_⟩
  intro a ha
  rw [outcome] at ha
  cases ha
  exact declared

/-- The fields of a tuple parameter come to the tensors that are passed for them. -/
theorem fieldInputs_passed {name : String} {tys : List Ty} {i : Nat} {is js : List KernelInput}
    {bs : List Built} (h : fieldInputs name is i tys = .ok (bs, js)) {before ts : List Tensor}
    (after : List Tensor) (place : before.length = is.length)
    (declared : ts.map Tensor.shape = tys.filterMap Ty.shape?) :
    Built.meaningAll (before ++ (ts ++ after)) bs = ts.map (fun t => .tensor (.ok t)) ∧
      ∀ b ∈ bs, b.Honest (before ++ (ts ++ after)) := by
  induction tys generalizing i is bs before ts with
  | nil =>
      cases h
      obtain rfl := List.map_eq_nil_iff.mp declared
      exact ⟨rfl, fun b hb => absurd hb List.not_mem_nil⟩
  | cons ty tys ih =>
      cases ty with
      | tensor shape =>
          simp only [fieldInputs] at h
          obtain ⟨⟨n, is₁⟩, first, h⟩ := ok_of_bind_ok h
          obtain ⟨⟨bs, is₂⟩, rest, h⟩ := ok_of_bind_ok h
          cases h
          obtain ⟨rfl, rfl⟩ := inputNode_eq_ok first
          simp only [List.filterMap_cons, Ty.shape?] at declared
          obtain ⟨t, ts, rfl, head, tail⟩ := List.map_eq_cons_iff.mp declared
          obtain ⟨outcome, honest⟩ :=
            GraphNode.input_passed (ts ++ after) (name ++ "." ++ Text.ofNat i) place head
          have next : (before ++ [t]).length =
              (is ++ [KernelInput.mk (name ++ "." ++ Text.ofNat i) shape]).length := by simp [place]
          have further := ih rest next tail
          simp only [List.append_assoc, List.singleton_append] at further
          constructor
          · simp [Built.meaningAll, Built.meaning, outcome, further.1]
          · exact List.forall_mem_cons.mpr ⟨.node honest, further.2⟩
      | _ => cases h

/-- A parameter comes to what it stands for. -/
theorem paramInputs_passed {v : Var} {is js : List KernelInput} {b : Built}
    (h : paramInputs is v = .ok (b, js)) {before ts : List Tensor} (after : List Tensor)
    (place : before.length = is.length) (declared : ts.map Tensor.shape = v.ty.inputShapes) :
    b.meaning (before ++ (ts ++ after)) = v.ty.received ts ∧
      b.Honest (before ++ (ts ++ after)) := by
  unfold paramInputs at h
  split at h
  · rename_i shape ty
    obtain ⟨⟨n, is₁⟩, node, h⟩ := ok_of_bind_ok h
    cases h
    obtain ⟨rfl, rfl⟩ := inputNode_eq_ok node
    rw [ty, Ty.inputShapes] at declared
    obtain ⟨t, rest, rfl, head, tail⟩ := List.map_eq_cons_iff.mp declared
    obtain rfl := List.map_eq_nil_iff.mp tail
    obtain ⟨outcome, honest⟩ := GraphNode.input_passed after v.name place head
    refine ⟨?_, .node honest⟩
    rw [ty]
    exact congrArg Meaning.tensor outcome
  · rename_i tys ty
    obtain ⟨⟨bs, is₁⟩, fields, h⟩ := ok_of_bind_ok h
    cases h
    rw [ty, Ty.inputShapes] at declared
    obtain ⟨all, honest⟩ := fieldInputs_passed fields after place declared
    refine ⟨?_, .tuple honest⟩
    rw [ty]
    exact congrArg Meaning.tuple all
  · cases h

/-- Parameters are entered with what they stand for. -/
theorem enterParams_right {given : List (Var × Meaning)} {bound : List (Var × Expr)} {vs : List Var}
    {s t : GraphScope} {is js : List KernelInput} (h : enterParams s is vs = .ok (t, js))
    {before rest : List Tensor} (place : before.length = is.length)
    (declared : rest.map Tensor.shape = vs.flatMap fun v => v.ty.inputShapes)
    (params : received vs rest ⊆ given) (right : s.Right (before ++ rest) given bound) :
    t.Right (before ++ rest) given bound := by
  induction vs generalizing s is before rest with
  | nil =>
      cases h
      exact right
  | cons v vs ih =>
      simp only [enterParams] at h
      obtain ⟨⟨b, is₁⟩, first, h⟩ := ok_of_bind_ok h
      obtain ⟨param, params⟩ := List.cons_subset.mp params
      obtain ⟨ts, after, rfl, head, tail⟩ := List.map_eq_append_iff.mp declared
      have count : v.ty.inputShapes.length = ts.length := by simp [← head]
      rw [count, List.take_left] at param
      rw [count, List.drop_left] at params
      obtain ⟨same, honest⟩ := paramInputs_passed first after place head
      have stands : Denotes given bound (.var v) (b.meaning (before ++ (ts ++ after))) :=
        same ▸ .given param
      have entered := right.enter honest stands
      have added : (before ++ ts).length = is₁.length := by
        have shapes := congrArg List.length (shapes_of_paramInputs first)
        simpa [place, count] using shapes.symm
      rw [← List.append_assoc] at entered ⊢
      exact ih h added tail params entered

/-! ### Functions -/

/-- The graph of a function comes to what evaluating the function by name does, and the function has
no other value. -/
theorem Function.evaluates_graph {f : Function} {is : List KernelInput} {n : GraphNode}
    (graph : f.graph = .ok (is, n)) (once : f.toExpr.binders.Nodup) {inputs : List Tensor}
    (declared : inputs.map Tensor.shape = f.inputShapes) (r : Except TensorError Tensor) :
    f.Evaluates inputs r ↔ r = n.outcome inputs := by
  obtain ⟨s, t, params, body⟩ := Function.graph_eq_ok graph
  have start : GraphScope.empty.Right inputs (received f.params inputs) f.body.bindings :=
    fun p hp => absurd hp List.not_mem_nil
  have entered := enterParams_right params (List.length_nil (α := Tensor)) declared
    (List.Subset.refl _) start
  obtain ⟨-, -, stands⟩ :=
    (GraphScope.builds_of_build _ _ _ _ body).denotes (List.Subset.refl _) entered
  constructor
  · intro h
    exact Meaning.tensor.inj (h.unique (Function.explains once inputs) _ stands)
  · rintro rfl
    exact stands

/-- The nodes of a graph are explained. -/
theorem Function.explained_graph {f : Function} {is : List KernelInput} {n : GraphNode}
    (graph : f.graph = .ok (is, n)) : ∃ shares, n.Explained shares := by
  obtain ⟨s, t, params, body⟩ := Function.graph_eq_ok graph
  have start : GraphScope.empty.Explained [] := ⟨rfl, fun p hp => absurd hp List.not_mem_nil⟩
  have entered := GraphScope.explained_enterParams params start
  obtain ⟨shares, -, -, built⟩ := (GraphScope.builds_of_build _ _ _ _ body).explained _ entered
  cases built with
  | node h => exact ⟨shares, h⟩

/-! ### Calls -/

namespace Kernel

/-- Inputs that are set and have the declared shapes are accepted. -/
theorem checkInputs_holds (name : String) {is : List KernelInput} {inputs : List Tensor}
    (declared : inputs.map Tensor.shape = is.map KernelInput.shape) (rest : List Slot) :
    checkInputs name is (inputs.map .holds ++ rest) = .ok inputs := by
  induction is generalizing inputs with
  | nil =>
      obtain rfl := List.map_eq_nil_iff.mp declared
      rfl
  | cons i is ih =>
      obtain ⟨t, ts, rfl, head, tail⟩ := List.map_eq_cons_iff.mp declared
      simp [checkInputs, Slot.tensor?, head, ih tail, Except.map]

/-- A call computes the output as if nothing was remembered. -/
theorem call_holds {k : Kernel} {shares : List GraphNode} (explained : k.output.Explained shares)
    {inputs : List Tensor}
    (declared : inputs.map Tensor.shape = k.inputs.map KernelInput.shape) :
    k.call (inputs.map .holds ++ [.empty]) =
      (k.output.outcome inputs).mapError (CallError.compute k.name) := by
  have count : inputs.length = k.inputs.length := by simpa using congrArg List.length declared
  have nothing : GraphNode.Memo.Sound shares inputs [] := fun p hp => absurd hp List.not_mem_nil
  have arity : ¬ (inputs.map Slot.holds ++ [Slot.empty]).length ≠ k.arity := by
    simp [Kernel.arity, count]
  rw [call, if_neg arity, checkInputs_holds k.name declared, ok_bind]
  simp only [List.getLast?_append, List.getLast?_singleton, Option.some_or]
  rcases GraphNode.exec_outcome explained nothing with ⟨t, memo, run, plain, -⟩ | ⟨e, run, plain⟩
  · rw [run, plain]
    rfl
  · rw [run, plain]
    rfl

/-- The slot of a handle that is set. -/
theorem slotOf_set {m : Memory} {h : Nat} {t : Tensor} (set : m.tensor h = .ok t) :
    slotOf m (some h) = .holds t := by
  unfold Memory.tensor at set
  split at set
  · rename_i found
    cases set
    simp [slotOf, found]
  · cases set

/-- A call on cells is a call on what they hold, and the result goes into the last cell. -/
theorem callOn_set {k : Kernel} {m : Memory} {handles : List Nat} {inputs : List Tensor}
    (set : handles.map m.tensor = inputs.map .ok) {out : Nat} {c : Cell}
    (cell : m.cell? out = some c) (unset : c.content = none) :
    k.callOn m (handles.map some ++ [some out]) =
      (k.call (inputs.map .holds ++ [.empty])).map fun t =>
        m.put out { c with content := some t } := by
  have slots : (handles.map some).map (slotOf m) = inputs.map .holds := by
    induction handles generalizing inputs with
    | nil =>
        cases inputs with
        | nil => rfl
        | cons t ts => cases set
    | cons h hs ih =>
        cases inputs with
        | nil => cases set
        | cons t ts =>
            simp only [List.map_cons, List.cons.injEq] at set
            simp only [List.map_cons, slotOf_set set.1, ih set.2]
  have last : slotOf m (some out) = .empty := by
    obtain ⟨device, content⟩ := c
    cases unset
    simp [slotOf, cell]
  rw [callOn, List.map_append, slots, List.map_singleton, last]
  simp only [List.getLast?_append, List.getLast?_singleton, Option.some_or, cell]
  cases k.call (inputs.map .holds ++ [.empty]) <;> rfl

/-- A kernel computes its function. If no variable of the function is bound twice, then evaluating
the function by name comes to exactly one outcome on inputs of the declared shapes, and a call on
handles of these inputs has the same outcome: the tensor goes into the empty cell, or the call fails
with the failure. -/
theorem computes_function {name : String} {f : Function} {k : Kernel}
    (compiled : Kernel.compile name f = .ok k) (once : f.toExpr.binders.Nodup) {m : Memory}
    {handles : List Nat} {inputs : List Tensor} (set : handles.map m.tensor = inputs.map .ok)
    (declared : inputs.map Tensor.shape = f.inputShapes) {out : Nat} {c : Cell}
    (cell : m.cell? out = some c) (unset : c.content = none) :
    ∃ r, (∀ r', f.Evaluates inputs r' ↔ r' = r) ∧
      k.callOn m (handles.map some ++ [some out]) =
        (r.mapError (CallError.compute name)).map fun t =>
          m.put out { c with content := some t } := by
  have graph := graph_of_compile compiled
  obtain ⟨shares, explained⟩ := Function.explained_graph graph
  have shapes : k.inputs.map KernelInput.shape = f.inputShapes := by
    obtain ⟨s, t, params, -⟩ := Function.graph_eq_ok graph
    exact shapes_of_enterParams params
  refine ⟨k.output.outcome inputs, Function.evaluates_graph graph once declared, ?_⟩
  rw [callOn_set set cell unset, call_holds explained (declared.trans shapes.symm),
    name_of_compile compiled]

end Kernel

/-- A pair and an integer: the sum of the first of the pair and the integer is taken, and multiplied
by what it exceeds the second of the pair by. A quotient by zero is bound and never used. -/
def scaledExcess : Function :=
  let integer : Ty := .scalar .int32
  let pair : Var := ⟨0, "pair", .tuple [integer, integer]⟩
  let x := integerVar 1 "x"
  let sum := integerVar 3 "sum"
  let excess := integerVar 4 "excess"
  { params := [pair, x]
    body :=
      .bind (integerVar 2 "unused")
        (.call (.op "divide") [.var x, .const ⟨0, ⟨.int32, []⟩, .elements ⟨.int32, [0]⟩⟩] integer)
        (.bind sum (.call (.op "add") [.proj (.var pair) 0 integer, .var x] integer)
          (.call
            (.fn [excess] (.call (.op "multiply") [.var sum, .var excess] integer) integer true)
            [.call (.op "subtract") [.var sum, .proj (.var pair) 1 integer] integer] integer))
    ret := integer
    primitive := true }

/-- Three integers on a device, and an empty cell behind them. -/
def threeIntegers : Memory :=
  ⟨[2, 3, 4].map (fun n => ⟨0, some (integerTensor n)⟩) ++ [⟨0, none⟩]⟩

/-- Called on the pair of two and three and on four, its kernel computes what it evaluates to,
eighteen. -/
theorem scaledExcess_computed : ∃ k, Kernel.compile "excess" scaledExcess = .ok k ∧
    (∃ r, (∀ r', scaledExcess.Evaluates ([2, 3, 4].map integerTensor) r' ↔ r' = r) ∧
      k.callOn threeIntegers ([0, 1, 2].map some ++ [some 3]) =
        (r.mapError (CallError.compute "excess")).map fun t =>
          threeIntegers.put 3 ⟨0, some t⟩) ∧
    k.callOn threeIntegers ([0, 1, 2].map some ++ [some 3]) =
      .ok (threeIntegers.put 3 ⟨0, some (integerTensor 18)⟩) := by
  obtain ⟨k, compiled⟩ : ∃ k, Kernel.compile "excess" scaledExcess = .ok k := ⟨_, rfl⟩
  have once : scaledExcess.toExpr.binders.Nodup := by decide
  have set : [0, 1, 2].map threeIntegers.tensor = ([2, 3, 4].map integerTensor).map .ok := rfl
  have cell : threeIntegers.cell? 3 = some ⟨0, none⟩ := rfl
  refine ⟨k, compiled, Kernel.computes_function compiled once set rfl cell rfl, ?_⟩
  have value : (Kernel.compile "excess" scaledExcess).map
      (fun k => k.callOn threeIntegers ([0, 1, 2].map some ++ [some 3])) =
        .ok (.ok (threeIntegers.put 3 ⟨0, some (integerTensor 18)⟩)) := rfl
  rw [compiled] at value
  exact Except.ok.inj value

end TensorCompiler
