import TensorCompiler.Linked.Node
import TensorCompiler.Proofs.Meaning.Scope
import TensorCompiler.Proofs.Outcome

/-!
# Compiled expressions

Lowering and linking taken together. The relation `Compiled` says which linked node an expression
becomes, form by form.

Main statement: what a translation is linked to is compiled from the expression.

## Implementation notes

What compilation asks of its surroundings is collected in `Surroundings`: the packed forms of
primitive functions, the globals, the places of constants among the captured parameters, and the
constructors of declared data types.
-/

namespace TensorCompiler

open Lowering

/-- A binding in front of a block. Any other node becomes the body of a new block. -/
def Linked.Node.bindBefore (v : Var) (value : Linked.Node) : Linked.Node → Linked.Node
  | .decl bindings body => .decl ((v, value) :: bindings) body
  | n => .decl [(v, value)] n

/-- The linked packed call of a form. -/
def PackedForm.linked (form : PackedForm) (args : List Linked.Node) : Linked.Node :=
  .packed form.kernel (form.inputs + 1 : Nat) form.conv args

/-- What compilation asks of its surroundings. -/
structure Surroundings where
  prim : PrimJudgement
  known : GlobalRef → Prop
  place : Constant → Nat → Prop
  ctor : Ctor → Prop

section

variable (J : Surroundings)

mutual

/-- The linked node of an expression. -/
inductive Compiled : Expr → Linked.Node → Prop
  | var (v : Var) : Compiled (.var v) (.var v)
  | const {c : Constant} {i : Nat} (place : J.place c i) : Compiled (.const c) (.param i)
  | global {g : GlobalRef} (ok : J.known g) : Compiled (.global g) (.global g.name)
  | primCall {params body ret args ty form nodes}
      (ok : J.prim ⟨params, body, ret, true⟩ (args.map Expr.ty) form)
      (fields : CompiledAll args nodes) :
      Compiled (.call (.fn params body ret true) args ty) (form.linked nodes)
  | ctorCall {c : Ctor} {args ty nodes} (ok : J.ctor c) (count : args.length = c.inputs.length)
      (fields : CompiledAll args nodes) :
      Compiled (.call (.ctor c) args ty) (.construct c.name c.tag nodes)
  | call {callee f args nodes ty} (plain : callee.isPrimitive = false)
      (head : Compiled callee f) (fields : CompiledAll args nodes) :
      Compiled (.call callee args ty) (.invoke f nodes)
  | bind {v value x body n} (head : Compiled value x) (tail : Compiled body n) :
      Compiled (.bind v value body) (Linked.Node.bindBefore v x n)
  | cond {test c yes y no n ty} (head : Compiled test c) (left : Compiled yes y)
      (right : Compiled no n) : Compiled (.cond test yes no ty) (.cond c y n)
  | tuple {fields nodes ty} (all : CompiledAll fields nodes) :
      Compiled (.tuple fields ty) (.tuple nodes)
  | proj {e n index ty} (head : Compiled e n) : Compiled (.proj e index ty) (.proj n index)
  | cases {data d clauses cs ty} (head : Compiled data d) (all : CompiledClauses clauses cs) :
      Compiled (.cases data clauses ty) (.cases d cs)
  | primFn {params body ret form} (ok : J.prim ⟨params, body, ret, true⟩ (params.map Var.ty) form) :
      Compiled (.fn params body ret true)
        (.fn params (form.linked (params.map Linked.Node.var)))
  | fn {params body n ret} (head : Compiled body n) :
      Compiled (.fn params body ret false) (.fn params n)

/-- The linked nodes of several expressions. -/
inductive CompiledAll : List Expr → List Linked.Node → Prop
  | nil : CompiledAll [] []
  | cons {e n es ns} (head : Compiled e n) (tail : CompiledAll es ns) :
      CompiledAll (e :: es) (n :: ns)

/-- The linked clauses: a pattern has become a matcher beside its variables. -/
inductive CompiledClauses :
    List (Pattern × Expr) → List (Matcher × List Var × Linked.Node) → Prop
  | nil : CompiledClauses [] []
  | cons {q m e n es ns} (pattern : Matcher.ofPattern q = .ok m) (head : Compiled e n)
      (tail : CompiledClauses es ns) :
      CompiledClauses ((q, e) :: es) ((m, q.vars, n) :: ns)

end

/-- The linked routine of a function. -/
inductive CompiledFunction : Function → Linked.Routine → Prop
  | prim {params body ret form} (ok : J.prim ⟨params, body, ret, true⟩ (params.map Var.ty) form) :
      CompiledFunction ⟨params, body, ret, true⟩
        ⟨params, form.linked (params.map Linked.Node.var)⟩
  | plain {params body n ret} (head : Compiled J body n) :
      CompiledFunction ⟨params, body, ret, false⟩ ⟨params, n⟩

end

/-! ### Linking translations -/

namespace Linked

/-- Only blocks are linked to blocks. -/
theorem block_of_node {captured : List Constant} {n : Lowered.Node} {bs : List (Var × Node)}
    {b : Node} (h : node captured n = .ok (.decl bs b)) :
    ∃ bindings body, n = .decl bindings body := by
  cases n with
  | decl bindings body => exact ⟨bindings, body, rfl⟩
  | _ =>
      simp only [node, bind, Except.bind, pure, Except.pure] at h
      repeat' split at h
      all_goals cases h

/-- A binding in front of a node is linked in front of it. -/
theorem node_bindBefore {captured : List Constant} {v : Var} {x n : Lowered.Node} {k : Node}
    (h : node captured (Lowered.Node.bindBefore v x n) = .ok k) : ∃ y m,
      node captured x = .ok y ∧ node captured n = .ok m ∧ k = Node.bindBefore v y m := by
  by_cases block : ∃ bindings body, n = .decl bindings body
  · obtain ⟨bindings, body, rfl⟩ := block
    simp only [Lowered.Node.bindBefore, node] at h
    obtain ⟨bs, hbs, h⟩ := ok_of_bind_ok h
    obtain ⟨b, hb, h⟩ := ok_of_bind_ok h
    simp only [nodeBindings] at hbs
    obtain ⟨y, hy, hbs⟩ := ok_of_bind_ok hbs
    obtain ⟨ms, hms, hbs⟩ := ok_of_bind_ok hbs
    cases h
    cases hbs
    refine ⟨y, .decl ms b, hy, ?_, rfl⟩
    rw [node, hms, ok_bind, hb, ok_bind]
    rfl
  · have alone : Lowered.Node.bindBefore v x n = .decl [(v, x)] n := by
      cases n with
      | decl bindings body => exact absurd ⟨bindings, body, rfl⟩ block
      | _ => rfl
    rw [alone, node] at h
    obtain ⟨bs, hbs, h⟩ := ok_of_bind_ok h
    obtain ⟨m, hm, h⟩ := ok_of_bind_ok h
    simp only [nodeBindings] at hbs
    obtain ⟨y, hy, hbs⟩ := ok_of_bind_ok hbs
    cases hbs
    cases h
    refine ⟨y, m, hy, hm, ?_⟩
    cases m with
    | decl bs b => exact absurd (block_of_node hm) block
    | _ => rfl

/-- Variables are linked to themselves. -/
theorem nodes_vars (captured : List Constant) (vs : List Var) :
    nodes captured (vs.map Lowered.Node.var) = .ok (vs.map Node.var) := by
  induction vs with
  | nil => rfl
  | cons v vs ih =>
      simp only [List.map_cons, nodes, node, ih]
      rfl

end Linked

section

variable {prim : PrimJudgement} {known : GlobalRef → Prop} {captured : List Constant}
  {ctor : Ctor → Prop}

/-- The surroundings of a program with captured constants. -/
def Surroundings.ofCaptured (prim : PrimJudgement) (known : GlobalRef → Prop)
    (captured : List Constant) (ctor : Ctor → Prop) : Surroundings where
  prim := prim
  known := known
  place c i := captured.findIdx? (· == c) = some i
  ctor := ctor

mutual

/-- What the translation of an expression is linked to is compiled from the expression. -/
theorem Lowering.Translates.compiled {e : Expr} {x : Lowered.Node} :
    Translates prim known e x → ∀ n, Linked.node captured x = .ok n → (∀ c ∈ e.ctors, ctor c) →
      Compiled (.ofCaptured prim known captured ctor) e n
  | .var v => by
      intro n h hc
      cases h
      exact .var v
  | .const c => by
      intro n h hc
      simp only [Linked.node] at h
      split at h
      · rename_i i place
        cases h
        exact .const place
      · cases h
  | .global ok => by
      intro n h hc
      cases h
      exact .global ok
  | .primCall ok fields => by
      intro n h hc
      simp only [PackedForm.node, Linked.node] at h
      obtain ⟨args, ha, h⟩ := ok_of_bind_ok h
      cases h
      exact .primCall ok (TranslatesAll.compiled fields args ha hc)
  | .ctorCall count fields => by
      intro n h hc
      simp only [Linked.node] at h
      obtain ⟨args, ha, h⟩ := ok_of_bind_ok h
      cases h
      exact .ctorCall (hc _ (List.mem_append_left _ (List.mem_singleton.mpr rfl))) count
        (TranslatesAll.compiled fields args ha fun c h => hc c (List.mem_append_right _ h))
  | .call plain head fields => by
      intro n h hc
      simp only [Linked.node] at h
      obtain ⟨f, hf, h⟩ := ok_of_bind_ok h
      obtain ⟨args, ha, h⟩ := ok_of_bind_ok h
      cases h
      exact .call plain
        (Translates.compiled head f hf fun c h => hc c (List.mem_append_left _ h))
        (TranslatesAll.compiled fields args ha fun c h => hc c (List.mem_append_right _ h))
  | .bind head tail => by
      intro n h hc
      obtain ⟨y, m, hy, hm, rfl⟩ := Linked.node_bindBefore h
      exact .bind (Translates.compiled head y hy fun c h => hc c (List.mem_append_left _ h))
        (Translates.compiled tail m hm fun c h => hc c (List.mem_append_right _ h))
  | .cond head left right => by
      intro n h hc
      simp only [Linked.node] at h
      obtain ⟨c, hd, h⟩ := ok_of_bind_ok h
      obtain ⟨y, hy, h⟩ := ok_of_bind_ok h
      obtain ⟨k, hn, h⟩ := ok_of_bind_ok h
      cases h
      simp only [Expr.ctors, List.mem_append] at hc
      exact .cond (Translates.compiled head c hd fun c h => hc c (Or.inl (Or.inl h)))
        (Translates.compiled left y hy fun c h => hc c (Or.inl (Or.inr h)))
        (Translates.compiled right k hn fun c h => hc c (Or.inr h))
  | .tuple all => by
      intro n h hc
      simp only [Linked.node] at h
      obtain ⟨args, ha, h⟩ := ok_of_bind_ok h
      cases h
      exact .tuple (TranslatesAll.compiled all args ha hc)
  | .proj head => by
      intro n h hc
      simp only [Linked.node] at h
      obtain ⟨y, hy, h⟩ := ok_of_bind_ok h
      cases h
      exact .proj (Translates.compiled head y hy hc)
  | .cases head all => by
      intro n h hc
      simp only [Linked.node] at h
      obtain ⟨d, hd, h⟩ := ok_of_bind_ok h
      obtain ⟨cs, hcs, h⟩ := ok_of_bind_ok h
      cases h
      exact .cases (Translates.compiled head d hd fun c h => hc c (List.mem_append_left _ h))
        (TranslatesClauses.compiled all cs hcs fun c h => hc c (List.mem_append_right _ h))
  | .primFn ok => by
      intro n h hc
      simp only [PackedForm.node, Linked.node, Linked.nodes_vars, ok_bind] at h
      cases h
      exact .primFn ok
  | .fn head => by
      intro n h hc
      simp only [Linked.node] at h
      obtain ⟨b, hb, h⟩ := ok_of_bind_ok h
      cases h
      exact .fn (Translates.compiled head b hb hc)

/-- What the translations of expressions are linked to is compiled from the expressions. -/
theorem Lowering.TranslatesAll.compiled {es : List Expr} {xs : List Lowered.Node} :
    TranslatesAll prim known es xs → ∀ ns, Linked.nodes captured xs = .ok ns →
      (∀ c ∈ Expr.ctorsAll es, ctor c) →
      CompiledAll (.ofCaptured prim known captured ctor) es ns
  | .nil => by
      intro ns h hc
      cases h
      exact .nil
  | .cons head tail => by
      intro ns h hc
      simp only [Linked.nodes] at h
      obtain ⟨m, hm, h⟩ := ok_of_bind_ok h
      obtain ⟨ms, hms, h⟩ := ok_of_bind_ok h
      cases h
      exact .cons (Translates.compiled head m hm fun c h => hc c (List.mem_append_left _ h))
        (TranslatesAll.compiled tail ms hms fun c h => hc c (List.mem_append_right _ h))

/-- What translated clauses are linked to is compiled from the clauses. -/
theorem Lowering.TranslatesClauses.compiled {cs : List (Pattern × Expr)}
    {xs : List (Pattern × Lowered.Node)} :
    TranslatesClauses prim known cs xs → ∀ ns, Linked.nodeClauses captured xs = .ok ns →
      (∀ c ∈ Expr.ctorsClauses cs, ctor c) →
      CompiledClauses (.ofCaptured prim known captured ctor) cs ns
  | .nil => by
      intro ns h hc
      cases h
      exact .nil
  | .cons head tail => by
      intro ns h hc
      simp only [Linked.nodeClauses] at h
      split at h
      · cases h
      · rename_i m pattern
        obtain ⟨b, hb, h⟩ := ok_of_bind_ok h
        obtain ⟨ms, hms, h⟩ := ok_of_bind_ok h
        cases h
        exact .cons pattern
          (Translates.compiled head b hb fun c h => hc c (List.mem_append_left _ h))
          (TranslatesClauses.compiled tail ms hms fun c h => hc c (List.mem_append_right _ h))

end

/-- What the routine of a function is linked to is compiled from the function. -/
theorem Lowering.TranslatesFunction.compiled {f : Function} {r : Lowered.Routine}
    (h : TranslatesFunction prim known f r) {k : Linked.Routine}
    (hk : Linked.routine captured r = .ok k) (hc : ∀ c ∈ f.toExpr.ctors, ctor c) :
    CompiledFunction (.ofCaptured prim known captured ctor) f k ∧ k.params = r.params := by
  cases h with
  | prim ok =>
      simp only [Linked.routine, PackedForm.node, Linked.node, Linked.nodes_vars, ok_bind] at hk
      cases hk
      exact ⟨.prim ok, rfl⟩
  | plain head =>
      obtain ⟨b, hb, hk⟩ := ok_of_bind_ok hk
      cases hk
      exact ⟨.plain (head.compiled b hb hc), rfl⟩

end

end TensorCompiler
