import TensorCompiler.Proofs.Kernel.Reuse
import TensorCompiler.Proofs.Kernel.Sharing
import TensorCompiler.Proofs.Tensor.Elementwise

/-!
# Announced shapes

The shape of a node is computed by rules when the graph is built, its tensor by loops over elements
when the kernel is called.

Main statements: what holds of inputs and constants and is kept by sharing and by operators holds of
every graph the builder makes; and on inputs that fill the declared shapes, a node of such a graph
computes a tensor that fills the announced one, or fails.
-/

namespace TensorCompiler

/-! ### Properties of all nodes of a graph -/

/-- A property of nodes that constants have, and that sharing and operators keep. -/
structure GraphNode.Inherited (P : GraphNode → Prop) : Prop where
  constant : ∀ t : Tensor, t.IsFull → P (.constant t)
  shared : ∀ slot n, P n → P (.shared slot n)
  operator : ∀ (op : KernelOp) ns n, op.node ns = .ok n → (∀ x ∈ ns, P x) → P n

/-- The nodes of what an expression denotes have a property. -/
inductive Built.All (P : GraphNode → Prop) : Built → Prop
  | node {n} (h : P n) : All P (.node n)
  | tuple {bs} (all : ∀ b ∈ bs, All P b) : All P (.tuple bs)

namespace GraphScope

variable {P : GraphNode → Prop}

/-- The nodes that the variables of a scope denote have a property. -/
def All (P : GraphNode → Prop) (s : GraphScope) : Prop :=
  ∀ p ∈ s.vars, p.2.All P

theorem All.find {s : GraphScope} (h : s.All P) {v : Var} {b : Built}
    (found : s.find? v = some b) : b.All P := by
  obtain ⟨p, member, rfl⟩ := Option.map_eq_some_iff.mp found
  exact h p (List.mem_of_find?_eq_some member)

theorem All.enter {s : GraphScope} (h : s.All P) (v : Var) {b : Built} (hb : b.All P) :
    (s.enter v b).All P :=
  List.forall_mem_cons.mpr ⟨hb, h⟩

theorem All.share (inherited : GraphNode.Inherited P) {s : GraphScope} (h : s.All P) {b : Built}
    (hb : b.All P) : (s.share b).2.All P ∧ (s.share b).1.All P := by
  cases hb with
  | node hn => exact ⟨h, .node (inherited.shared _ _ hn)⟩
  | tuple all => exact ⟨h, .tuple all⟩

mutual

/-- Building an expression keeps an inherited property. -/
theorem Builds.all (inherited : GraphNode.Inherited P) {s t : GraphScope} {e : Expr} {b : Built} :
    Builds s e b t → s.All P → t.All P ∧ b.All P
  | .var found => fun h => ⟨h, h.find found⟩
  | .const held => fun h => ⟨h, .node (inherited.constant _ (Tensor.isFull_ofSlice held))⟩
  | .bind head tail => by
      intro h
      obtain ⟨h, hb⟩ := Builds.all inherited head h
      obtain ⟨h, hb⟩ := h.share inherited hb
      exact Builds.all inherited tail (h.enter _ hb)
  | .tuple all => by
      intro h
      obtain ⟨h, hbs⟩ := BuildsAll.all inherited all h
      exact ⟨h, .tuple hbs⟩
  | .proj head _ field => by
      intro h
      obtain ⟨h, whole⟩ := Builds.all inherited head h
      cases whole with
      | tuple all => exact ⟨h, all _ (List.mem_of_getElem? field)⟩
  | .operator _ operands applied => by
      intro h
      obtain ⟨h, all⟩ := BuildsAll.all inherited operands h
      refine ⟨h, .node (inherited.operator _ _ _ applied ?_)⟩
      intro x member
      cases all _ (List.mem_map_of_mem member) with
      | node hx => exact hx
  | .call entered result => by
      intro h
      exact Builds.all inherited result (BuildsArgs.all inherited entered h)

/-- Building several expressions keeps an inherited property. -/
theorem BuildsAll.all (inherited : GraphNode.Inherited P) {s t : GraphScope} {es : List Expr}
    {bs : List Built} : BuildsAll s es bs t → s.All P → t.All P ∧ ∀ b ∈ bs, b.All P
  | .nil => fun h => ⟨h, fun _ member => absurd member List.not_mem_nil⟩
  | .cons head tail => by
      intro h
      obtain ⟨h, hb⟩ := Builds.all inherited head h
      obtain ⟨h, hbs⟩ := BuildsAll.all inherited tail h
      exact ⟨h, List.forall_mem_cons.mpr ⟨hb, hbs⟩⟩

/-- Building and entering arguments keeps an inherited property. -/
theorem BuildsArgs.all (inherited : GraphNode.Inherited P) {s t : GraphScope} {ps : List Var}
    {es : List Expr} : BuildsArgs s ps es t → s.All P → t.All P
  | .nil => id
  | .cons head tail => by
      intro h
      obtain ⟨h, hb⟩ := Builds.all inherited head h
      exact BuildsArgs.all inherited tail (h.enter _ hb)

end

end GraphScope

/-! ### Inputs -/

/-- A property of the inputs of a kernel. -/
def GraphNode.OfInputs (inputs : List KernelInput) (P : GraphNode → Prop) : Prop :=
  ∀ i name shape, inputs[i]? = some ⟨name, shape⟩ → P (.input i name shape)

section

variable {P : GraphNode → Prop}

theorem GraphNode.OfInputs.mono {is js : List KernelInput} (longer : is <+: js)
    (h : GraphNode.OfInputs js P) : GraphNode.OfInputs is P := by
  intro i name shape found
  obtain ⟨more, rfl⟩ := longer
  refine h i name shape ?_
  rw [List.getElem?_append_left (List.getElem?_eq_some_iff.mp found).1]
  exact found

/-- The node of a parameter stands for the input that is added for it. -/
theorem inputNode_all {is js : List KernelInput} {name : String} {shape : Shape} {n : GraphNode}
    (h : inputNode is name shape = .ok (n, js)) :
    is <+: js ∧ (GraphNode.OfInputs js P → P n) := by
  obtain ⟨rfl, rfl⟩ := inputNode_eq_ok h
  refine ⟨List.prefix_append _ _, ?_⟩
  intro ofInputs
  exact ofInputs _ _ _ (by simp)

/-- The nodes of a tuple parameter stand for the inputs that are added for it. -/
theorem fieldInputs_all {name : String} {tys : List Ty} {i : Nat} {is js : List KernelInput}
    {bs : List Built} (h : fieldInputs name is i tys = .ok (bs, js)) :
    is <+: js ∧ (GraphNode.OfInputs js P → ∀ b ∈ bs, b.All P) := by
  induction tys generalizing i is bs with
  | nil =>
      cases h
      exact ⟨List.prefix_refl _, fun _ b member => absurd member List.not_mem_nil⟩
  | cons ty tys ih =>
      cases ty with
      | tensor shape =>
          simp only [fieldInputs] at h
          obtain ⟨⟨n, is₁⟩, first, h⟩ := ok_of_bind_ok h
          obtain ⟨⟨bs, is₂⟩, rest, h⟩ := ok_of_bind_ok h
          cases h
          obtain ⟨longer₁, head⟩ := inputNode_all (P := P) first
          obtain ⟨longer₂, tail⟩ := ih rest
          refine ⟨longer₁.trans longer₂, ?_⟩
          intro ofInputs
          exact List.forall_mem_cons.mpr ⟨.node (head (ofInputs.mono longer₂)), tail ofInputs⟩
      | _ => cases h

/-- What a parameter denotes stands for the inputs that are added for it. -/
theorem paramInputs_all {v : Var} {is js : List KernelInput} {b : Built}
    (h : paramInputs is v = .ok (b, js)) :
    is <+: js ∧ (GraphNode.OfInputs js P → b.All P) := by
  unfold paramInputs at h
  split at h
  · obtain ⟨⟨n, is₁⟩, node, h⟩ := ok_of_bind_ok h
    cases h
    obtain ⟨longer, all⟩ := inputNode_all (P := P) node
    exact ⟨longer, fun ofInputs => .node (all ofInputs)⟩
  · obtain ⟨⟨bs, is₁⟩, fields, h⟩ := ok_of_bind_ok h
    cases h
    obtain ⟨longer, all⟩ := fieldInputs_all (P := P) fields
    exact ⟨longer, fun ofInputs => .tuple (all ofInputs)⟩
  · cases h

/-- The parameters of a function stand for the inputs of its kernel. -/
theorem enterParams_all {vs : List Var} {s t : GraphScope} {is js : List KernelInput}
    (h : enterParams s is vs = .ok (t, js)) :
    is <+: js ∧ (GraphNode.OfInputs js P → s.All P → t.All P) := by
  induction vs generalizing s is with
  | nil =>
      cases h
      exact ⟨List.prefix_refl _, fun _ all => all⟩
  | cons v vs ih =>
      simp only [enterParams] at h
      obtain ⟨⟨b, is₁⟩, first, h⟩ := ok_of_bind_ok h
      obtain ⟨longer₁, head⟩ := paramInputs_all (P := P) first
      obtain ⟨longer₂, tail⟩ := ih h
      refine ⟨longer₁.trans longer₂, ?_⟩
      intro ofInputs all
      exact tail ofInputs (all.enter v (head (ofInputs.mono longer₂)))

/-- A property that the inputs of a kernel have and that is inherited holds of its result. -/
theorem Function.graph_all (inherited : GraphNode.Inherited P) {f : Function}
    {is : List KernelInput} {n : GraphNode} (graph : f.graph = .ok (is, n))
    (ofInputs : GraphNode.OfInputs is P) : P n := by
  obtain ⟨s, t, params, body⟩ := Function.graph_eq_ok graph
  have start : GraphScope.empty.All P := fun p member => absurd member List.not_mem_nil
  have entered := (enterParams_all params).2 ofInputs start
  obtain ⟨-, result⟩ := (GraphScope.builds_of_build _ _ _ _ body).all inherited entered
  cases result with
  | node h => exact h

end

/-! ### Tensors that nodes compute -/

/-- The kernel of an operator of two operands is for the shapes that these announce. -/
theorem KernelOp.isFor_binaryKernel {op : KernelOp} {x y : Shape} {k : BinaryKernel}
    (chosen : op.binaryKernel? x y = some k) : ∃ o, k.IsFor o x y := by
  cases op with
  | negate | copy | math => cases chosen
  | binary o =>
      obtain ⟨f, family, made⟩ := ok_of_bind_ok (ok_of_toOption chosen)
      obtain ⟨kind, dtype, rfl⟩ := Family.kind_of_forDType family
      exact ⟨o, Family.isFor_binary dtype made⟩

namespace GraphNode

variable {inputs : List Tensor}

/-- A node keeps its announcement on inputs: a tensor it computes has the announced shape and as
many elements as this shape. -/
def KeepsAnnouncement (inputs : List Tensor) (n : GraphNode) : Prop :=
  ∀ t, n.outcome inputs = .ok t → t.shape = n.shape ∧ t.IsFull

/-- An operator of one operand announces the shape of the operand and computes as many elements. -/
theorem keepsAnnouncement_unary {op : KernelOp} {x : GraphNode} {k : UnaryKernel}
    (chosen : op.unaryKernel? x.shape = some k) (operand : x.KeepsAnnouncement inputs) :
    (GraphNode.unary k x).KeepsAnnouncement inputs := by
  intro t computed
  obtain ⟨a, left, applied⟩ := ok_of_bind_ok computed
  obtain ⟨shape, full⟩ := operand a left
  have keeps := KernelOp.keeps_unaryKernel chosen
  exact ⟨(UnaryKernel.shape_of_apply keeps applied).trans shape,
    UnaryKernel.isFull_of_apply keeps applied full⟩

/-- An operator of two operands computes what it announces on operands that do. -/
theorem keepsAnnouncement_binary {op : KernelOp} {x y : GraphNode} {k : BinaryKernel}
    (chosen : op.binaryKernel? x.shape y.shape = some k) (left : x.KeepsAnnouncement inputs)
    (right : y.KeepsAnnouncement inputs) : (GraphNode.binary k x y).KeepsAnnouncement inputs := by
  intro t computed
  obtain ⟨a, computedX, computed⟩ := ok_of_bind_ok computed
  obtain ⟨b, computedY, applied⟩ := ok_of_bind_ok computed
  obtain ⟨shapeX, fullX⟩ := left a computedX
  obtain ⟨shapeY, fullY⟩ := right b computedY
  obtain ⟨o, isFor⟩ := KernelOp.isFor_binaryKernel chosen
  rw [← shapeX, ← shapeY] at isFor
  -- The kernel was chosen for the announced shapes, and these are the shapes of the operands.
  rcases isFor.apply_cases fullX fullY with
    ⟨-, fails⟩ | ⟨-, ⟨-, fails⟩ | ⟨-, t', gives, elementwise, -⟩⟩
  · rw [fails] at applied
    cases applied
  · rw [fails] at applied
    cases applied
  · rw [gives] at applied
    cases applied
    exact ⟨elementwise.shape, elementwise.full⟩

/-- Constants, shared nodes and operators keep announcements. -/
theorem inherited_keepsAnnouncement : Inherited (KeepsAnnouncement inputs) where
  constant t full := by
    intro t' computed
    cases computed
    exact ⟨rfl, full⟩
  shared _ _ keeps := keeps
  operator op ns n node operands := by
    rcases KernelOp.node_eq_ok_iff.mp node with
      ⟨x, k, rfl, chosen, rfl⟩ | ⟨x, y, k, rfl, chosen, rfl⟩
    · exact keepsAnnouncement_unary chosen (operands x (by simp))
    · exact keepsAnnouncement_binary chosen (operands x (by simp)) (operands y (by simp))

/-- Inputs of the declared shapes keep announcements. -/
theorem ofInputs_keepsAnnouncement {is : List KernelInput}
    (declared : inputs.map Tensor.shape = is.map KernelInput.shape)
    (full : ∀ t ∈ inputs, t.IsFull) : OfInputs is (KeepsAnnouncement inputs) := by
  intro i name shape found t computed
  have shapes : inputs[i]?.map Tensor.shape = some shape := by
    rw [← List.getElem?_map, declared, List.getElem?_map, found]
    rfl
  obtain ⟨t', passed, rfl⟩ := Option.map_eq_some_iff.mp shapes
  simp only [outcome, passed, Except.ok.injEq] at computed
  subst computed
  exact ⟨rfl, full _ (List.mem_of_getElem? passed)⟩

end GraphNode

/-- The result of the graph of a function keeps its announcement on inputs that fill the declared
shapes. -/
theorem Function.keepsAnnouncement_graph {f : Function} {is : List KernelInput} {n : GraphNode}
    (graph : f.graph = .ok (is, n)) {inputs : List Tensor}
    (declared : inputs.map Tensor.shape = is.map KernelInput.shape)
    (full : ∀ t ∈ inputs, t.IsFull) : n.KeepsAnnouncement inputs :=
  Function.graph_all GraphNode.inherited_keepsAnnouncement graph
    (GraphNode.ofInputs_keepsAnnouncement declared full)

end TensorCompiler
