import TensorCompiler.Kernel.Basic
import TensorCompiler.Proofs.Kernel.ArrayKernels
import TensorCompiler.Proofs.Kernel.Building

/-!
# Shared nodes

A shared node is computed when it is first needed, and its tensor is kept under its slot for the
rest of the call. That is invisible if no two shared nodes have one slot. The builder numbers them
in the order in which it makes them, so the list of the nodes it has shared so far explains every
slot in use.

Main statements: every node the builder makes is explained by the nodes it has shared; and computing
an explained node gives what computing everything anew gives.
-/

namespace TensorCompiler

namespace GraphNode

/-- What computing a node gives if nothing is remembered. -/
def outcome (inputs : List Tensor) : GraphNode → Except TensorError Tensor
  | .constant t => .ok t
  | .input index _ shape =>
    match inputs[index]? with
    | some t => .ok t
    | none => Tensor.zero shape
  | .binary k x y => do
    let a ← x.outcome inputs
    let b ← y.outcome inputs
    k.apply a b
  | .unary k x => do
    let a ← x.outcome inputs
    k.apply a
  | .shared _ x => x.outcome inputs

/-- Every shared node in a node is the one that a list of nodes has for its slot. -/
def Explained (shares : List GraphNode) : GraphNode → Prop
  | .constant _ | .input _ _ _ => True
  | .binary _ x y => x.Explained shares ∧ y.Explained shares
  | .unary _ x => x.Explained shares
  | .shared slot x => shares[slot]? = some x ∧ x.Explained shares

/-- A longer list explains more nodes. -/
theorem Explained.mono {shares more : List GraphNode} (longer : shares <+: more) {n : GraphNode}
    (h : n.Explained shares) : n.Explained more := by
  induction n with
  | constant | input => trivial
  | binary k x y ihx ihy => exact ⟨ihx h.1, ihy h.2⟩
  | unary k x ih => exact ih h
  | shared slot x ih =>
      refine ⟨?_, ih h.2⟩
      obtain ⟨rest, rfl⟩ := longer
      rw [List.getElem?_append_left (List.getElem?_eq_some_iff.mp h.1).1]
      exact h.1

/-- What is remembered of a call is right: a tensor is kept for a slot only if computing the shared
node anew gives it. -/
def Memo.Sound (shares : List GraphNode) (inputs : List Tensor) (memo : Memo) : Prop :=
  ∀ p ∈ memo, ∃ x, shares[p.1]? = some x ∧ x.outcome inputs = .ok p.2

/-- Computing an explained node gives what computing everything anew gives, and what is remembered
stays right. -/
theorem exec_outcome {shares : List GraphNode} {inputs : List Tensor} {n : GraphNode}
    (explained : n.Explained shares) {memo : Memo} (sound : memo.Sound shares inputs) :
    (∃ t memo', n.exec inputs memo = .ok (t, memo') ∧ n.outcome inputs = .ok t ∧
        memo'.Sound shares inputs) ∨
      ∃ e, n.exec inputs memo = .error e ∧ n.outcome inputs = .error e := by
  induction n generalizing memo with
  | constant t => exact .inl ⟨t, memo, rfl, rfl, sound⟩
  | input index name shape =>
      simp only [exec, outcome]
      cases inputs[index]? with
      | some t => exact .inl ⟨t, memo, rfl, rfl, sound⟩
      | none =>
          simp only
          cases Tensor.zero shape with
          | ok t => exact .inl ⟨t, memo, rfl, rfl, sound⟩
          | error e => exact .inr ⟨e, rfl, rfl⟩
  | binary k x y ihx ihy =>
      simp only [exec, outcome]
      rcases ihx explained.1 sound with ⟨a, memo₁, run, plain, sound₁⟩ | ⟨e, run, plain⟩
      · rw [run, plain]
        simp only [ok_bind]
        rcases ihy explained.2 sound₁ with ⟨b, memo₂, run, plain, sound₂⟩ | ⟨e, run, plain⟩
        · rw [run, plain]
          simp only [ok_bind]
          cases k.apply a b with
          | ok c => exact .inl ⟨c, memo₂, rfl, rfl, sound₂⟩
          | error e => exact .inr ⟨e, rfl, rfl⟩
        · rw [run, plain]
          exact .inr ⟨e, rfl, rfl⟩
      · rw [run, plain]
        exact .inr ⟨e, rfl, rfl⟩
  | unary k x ih =>
      simp only [exec, outcome]
      rcases ih explained sound with ⟨a, memo₁, run, plain, sound₁⟩ | ⟨e, run, plain⟩
      · rw [run, plain]
        simp only [ok_bind]
        cases k.apply a with
        | ok c => exact .inl ⟨c, memo₁, rfl, rfl, sound₁⟩
        | error e => exact .inr ⟨e, rfl, rfl⟩
      · rw [run, plain]
        exact .inr ⟨e, rfl, rfl⟩
  | shared slot x ih =>
      simp only [exec, outcome]
      cases found : memo.find? (·.1 == slot) with
      | some p =>
          -- The slot belongs to `x` alone, so what is kept there is the outcome of `x`.
          obtain ⟨x', shared, plain⟩ := sound p (List.mem_of_find?_eq_some found)
          have slotOf : p.1 = slot := by simpa using List.find?_some found
          rw [slotOf, explained.1] at shared
          obtain rfl := Option.some.inj shared
          exact .inl ⟨p.2, memo, rfl, plain, sound⟩
      | none =>
          simp only
          rcases ih explained.2 sound with ⟨a, memo₁, run, plain, sound₁⟩ | ⟨e, run, plain⟩
          · rw [run]
            refine .inl ⟨a, (slot, a) :: memo₁, rfl, plain, ?_⟩
            intro p hp
            rcases List.mem_cons.mp hp with rfl | hp
            · exact ⟨x, explained.1, plain⟩
            · exact sound₁ p hp
          · rw [run]
            exact .inr ⟨e, rfl, plain⟩

end GraphNode

/-! ### What the builder shares -/

namespace Built

/-- The nodes of what an expression denotes are explained. -/
inductive Explained (shares : List GraphNode) : Built → Prop
  | node {n : GraphNode} (h : n.Explained shares) : Explained shares (.node n)
  | tuple {bs} (all : ∀ b ∈ bs, Explained shares b) : Explained shares (.tuple bs)

theorem Explained.mono {shares more : List GraphNode} (longer : shares <+: more) {b : Built}
    (h : b.Explained shares) : b.Explained more := by
  induction h with
  | node h => exact .node (h.mono longer)
  | tuple all ih => exact .tuple ih

/-- The fields of a tuple parameter share nothing. -/
theorem explained_fieldInputs {shares : List GraphNode} {name : String} {tys : List Ty} {i : Nat}
    {is js : List KernelInput} {bs : List Built} (h : fieldInputs name is i tys = .ok (bs, js)) :
    ∀ b ∈ bs, b.Explained shares := by
  induction tys generalizing i is bs with
  | nil =>
      cases h
      exact fun b hb => absurd hb List.not_mem_nil
  | cons ty tys ih =>
      cases ty with
      | tensor shape =>
          simp only [fieldInputs] at h
          obtain ⟨⟨n, is₁⟩, first, h⟩ := ok_of_bind_ok h
          obtain ⟨⟨bs, is₂⟩, rest, h⟩ := ok_of_bind_ok h
          cases h
          obtain ⟨rfl, -⟩ := inputNode_eq_ok first
          exact List.forall_mem_cons.mpr ⟨.node trivial, ih rest⟩
      | _ => cases h

/-- A parameter shares nothing. -/
theorem explained_paramInputs {shares : List GraphNode} {v : Var} {is js : List KernelInput}
    {b : Built} (h : paramInputs is v = .ok (b, js)) : b.Explained shares := by
  unfold paramInputs at h
  split at h
  · obtain ⟨⟨n, is₁⟩, node, h⟩ := ok_of_bind_ok h
    cases h
    obtain ⟨rfl, -⟩ := inputNode_eq_ok node
    exact .node trivial
  · obtain ⟨⟨bs, is₁⟩, fields, h⟩ := ok_of_bind_ok h
    cases h
    exact .tuple (explained_fieldInputs fields)
  · cases h

end Built

/-- An operator shares nothing. -/
theorem KernelOp.explained_node {op : KernelOp} {ns : List GraphNode} {n : GraphNode}
    {shares : List GraphNode} (h : op.node ns = .ok n)
    (explained : ∀ x ∈ ns, x.Explained shares) : n.Explained shares := by
  rcases KernelOp.node_eq_ok_iff.mp h with ⟨x, k, rfl, -, rfl⟩ | ⟨x, y, k, rfl, -, rfl⟩
  · exact explained x (by simp)
  · exact ⟨explained x (by simp), explained y (by simp)⟩

namespace GraphScope

/-- A scope whose variables denote explained nodes, with one slot in use for each shared node. -/
structure Explained (shares : List GraphNode) (s : GraphScope) : Prop where
  slots : s.slots = shares.length
  vars : ∀ p ∈ s.vars, p.2.Explained shares

variable {shares : List GraphNode} {s t : GraphScope}

theorem Explained.enter (h : s.Explained shares) (v : Var) {b : Built}
    (hb : b.Explained shares) : (s.enter v b).Explained shares := by
  refine ⟨h.slots, ?_⟩
  intro p hp
  rcases List.mem_cons.mp hp with rfl | hp
  · exact hb
  · exact h.vars p hp

theorem Explained.find (h : s.Explained shares) {v : Var} {b : Built}
    (found : s.find? v = some b) : b.Explained shares := by
  obtain ⟨p, hp, rfl⟩ := Option.map_eq_some_iff.mp found
  exact h.vars p (List.mem_of_find?_eq_some hp)

/-- Sharing a tensor adds its node to those that explain the slots. -/
theorem Explained.share (h : s.Explained shares) {b : Built} (hb : b.Explained shares) :
    ∃ more, shares <+: more ∧ (s.share b).2.Explained more ∧ (s.share b).1.Explained more := by
  cases b with
  | tuple bs => exact ⟨shares, List.prefix_refl _, h, hb⟩
  | node n =>
      have longer : shares <+: shares ++ [n] := List.prefix_append _ _
      cases hb with
      | node hn =>
          refine ⟨shares ++ [n], longer, ⟨?_, ?_⟩, .node ⟨?_, hn.mono longer⟩⟩
          · simp [GraphScope.share, h.slots]
          · exact fun p hp => (h.vars p hp).mono longer
          · simp [h.slots]

mutual

/-- Building an expression explains every slot it takes. -/
theorem Builds.explained {s t : GraphScope} {e : Expr} {b : Built} :
    Builds s e b t → ∀ shares, s.Explained shares →
      ∃ more, shares <+: more ∧ t.Explained more ∧ b.Explained more
  | .var found => by
      intro shares h
      exact ⟨shares, List.prefix_refl _, h, h.find found⟩
  | .const _ => by
      intro shares h
      exact ⟨shares, List.prefix_refl _, h, .node trivial⟩
  | .bind head tail => by
      intro shares h
      obtain ⟨ys, longer₁, h₁, hb⟩ := Builds.explained head _ h
      obtain ⟨zs, longer₂, h₂, hs⟩ := h₁.share hb
      obtain ⟨ws, longer₃, h₃, hc⟩ := Builds.explained tail _ (h₂.enter _ hs)
      exact ⟨ws, (longer₁.trans longer₂).trans longer₃, h₃, hc⟩
  | .tuple all => by
      intro shares h
      obtain ⟨ys, longer, h₁, hbs⟩ := BuildsAll.explained all _ h
      exact ⟨ys, longer, h₁, .tuple hbs⟩
  | .proj head _ field => by
      intro shares h
      obtain ⟨ys, longer, h₁, whole⟩ := Builds.explained head _ h
      cases whole with
      | tuple all => exact ⟨ys, longer, h₁, all _ (List.mem_of_getElem? field)⟩
  | .operator _ operands applied => by
      intro shares h
      obtain ⟨ys, longer, h₁, all⟩ := BuildsAll.explained operands _ h
      refine ⟨ys, longer, h₁, .node (KernelOp.explained_node applied ?_)⟩
      intro x hx
      cases all _ (List.mem_map_of_mem hx) with
      | node hx => exact hx
  | .call entered result => by
      intro shares h
      obtain ⟨ys, longer₁, h₁⟩ := BuildsArgs.explained entered _ h
      obtain ⟨zs, longer₂, h₂, hb⟩ := Builds.explained result _ h₁
      exact ⟨zs, longer₁.trans longer₂, h₂, hb⟩

/-- Building several expressions explains every slot it takes. -/
theorem BuildsAll.explained {s t : GraphScope} {es : List Expr} {bs : List Built} :
    BuildsAll s es bs t → ∀ shares, s.Explained shares →
      ∃ more, shares <+: more ∧ t.Explained more ∧ ∀ b ∈ bs, b.Explained more
  | .nil => by
      intro shares h
      exact ⟨shares, List.prefix_refl _, h, fun b hb => absurd hb List.not_mem_nil⟩
  | .cons head tail => by
      intro shares h
      obtain ⟨ys, longer₁, h₁, hb⟩ := Builds.explained head _ h
      obtain ⟨zs, longer₂, h₂, hbs⟩ := BuildsAll.explained tail _ h₁
      refine ⟨zs, longer₁.trans longer₂, h₂, ?_⟩
      intro c hc
      rcases List.mem_cons.mp hc with rfl | hc
      · exact hb.mono longer₂
      · exact hbs c hc

/-- Building arguments explains every slot it takes. -/
theorem BuildsArgs.explained {s t : GraphScope} {ps : List Var} {es : List Expr} :
    BuildsArgs s ps es t → ∀ shares, s.Explained shares →
      ∃ more, shares <+: more ∧ t.Explained more
  | .nil => by
      intro shares h
      exact ⟨shares, List.prefix_refl _, h⟩
  | .cons head tail => by
      intro shares h
      obtain ⟨ys, longer₁, h₁, hb⟩ := Builds.explained head _ h
      obtain ⟨zs, longer₂, h₂⟩ := BuildsArgs.explained tail _ (h₁.enter _ hb)
      exact ⟨zs, longer₁.trans longer₂, h₂⟩

end

/-- Parameters share nothing. -/
theorem explained_enterParams {shares : List GraphNode} {vs : List Var} {s t : GraphScope}
    {is js : List KernelInput} (h : enterParams s is vs = .ok (t, js))
    (explained : s.Explained shares) : t.Explained shares := by
  induction vs generalizing s is with
  | nil =>
      cases h
      exact explained
  | cons v vs ih =>
      simp only [enterParams] at h
      obtain ⟨⟨b, is₁⟩, first, h⟩ := ok_of_bind_ok h
      exact ih h (explained.enter v (Built.explained_paramInputs first))

end GraphScope
end TensorCompiler
