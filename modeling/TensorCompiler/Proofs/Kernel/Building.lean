import TensorCompiler.Kernel.Graph
import TensorCompiler.Proofs.Outcome

/-!
# Building a graph, form by form

`Builds s e b t` says that the expression `e`, built in the scope `s`, denotes `b` and leaves the
scope `t`. There is one rule for each form that a primitive function may use, so a property of
graphs is proved by cases of the rules and never by unfolding the builder.

Main statement: the rules derive exactly what the builder returns.
-/

namespace TensorCompiler

namespace GraphScope

mutual

/-- What an expression denotes, and the scope that building it leaves. -/
inductive Builds : GraphScope → Expr → Built → GraphScope → Prop
  | var {s v b} (found : s.find? v = some b) : Builds s (.var v) b s
  | const {s c t} (held : Tensor.ofSlice c.values c.shape.dims = .ok t) :
      Builds s (.const c) (.node (.constant t)) s
  | bind {s s₁ t v value body b c} (head : Builds s value b s₁)
      (tail : Builds ((s₁.share b).2.enter v (s₁.share b).1) body c t) :
      Builds s (.bind v value body) c t
  | tuple {s t fields bs ty} (all : BuildsAll s fields bs t) :
      Builds s (.tuple fields ty) (.tuple bs) t
  | proj {s t e bs b index ty} (head : Builds s e (.tuple bs) t) (place : 0 ≤ index)
      (field : bs[index.toNat]? = some b) : Builds s (.proj e index ty) b t
  | operator {s t name op args ns n ty} (known : kernelOp? name = some op)
      (operands : BuildsAll s args (ns.map .node) t) (applied : op.node ns = .ok n) :
      Builds s (.call (.op name) args ty) (.node n) t
  | call {s s₁ t params body ret args ty b} (entered : BuildsArgs s params args s₁)
      (result : Builds s₁ body b t) : Builds s (.call (.fn params body ret true) args ty) b t

/-- What several expressions denote, built one after the other. -/
inductive BuildsAll : GraphScope → List Expr → List Built → GraphScope → Prop
  | nil {s} : BuildsAll s [] [] s
  | cons {s s₁ t e es b bs} (head : Builds s e b s₁) (tail : BuildsAll s₁ es bs t) :
      BuildsAll s (e :: es) (b :: bs) t

/-- Arguments are built one after the other, and each is entered under its parameter at once. -/
inductive BuildsArgs : GraphScope → List Var → List Expr → GraphScope → Prop
  | nil {s} : BuildsArgs s [] [] s
  | cons {s s₁ t p ps e es b} (head : Builds s e b s₁)
      (tail : BuildsArgs (s₁.enter p b) ps es t) : BuildsArgs s (p :: ps) (e :: es) t

end

/-! ### Fields and operands -/

/-- A projection selects a field of a tuple. -/
theorem field_eq_ok_iff {b c : Built} {e : Expr} {index : Int} :
    b.field e index = .ok c ↔
      ∃ bs, b = .tuple bs ∧ 0 ≤ index ∧ bs[index.toNat]? = some c := by
  cases b with
  | node n => simp [Built.field]
  | tuple bs =>
      by_cases negative : index < 0
      · have : ¬ 0 ≤ index := by omega
        simp [Built.field, negative, this]
      · have place : 0 ≤ index := by omega
        cases found : bs[index.toNat]? <;> simp [Built.field, negative, place, found]

/-- An operand is a node. -/
theorem asNode_eq_ok_iff {b : Built} {e : Expr} {n : GraphNode} :
    b.asNode e = .ok n ↔ b = .node n := by
  cases b <;> simp [Built.asNode]

/-! ### The rules and the builder -/

mutual

/-- What the builder returns is derived by the rules. -/
theorem builds_of_build : (e : Expr) → ∀ (s t : GraphScope) (b : Built),
    s.build e = .ok (b, t) → Builds s e b t
  | .var v => by
      intro s t b h
      simp only [build] at h
      split at h
      · rename_i found
        cases h
        exact .var found
      · cases h
  | .const c => by
      intro s t b h
      simp only [build] at h
      split at h
      · rename_i held
        cases h
        exact .const held
      · cases h
  | .bind v value body => by
      intro s t b h
      simp only [build] at h
      obtain ⟨⟨x, s₁⟩, head, h⟩ := ok_of_bind_ok h
      exact .bind (builds_of_build value _ _ _ head) (builds_of_build body _ _ _ h)
  | .tuple fields ty => by
      intro s t b h
      simp only [build] at h
      obtain ⟨⟨bs, s₁⟩, all, h⟩ := ok_of_bind_ok h
      cases h
      exact .tuple (buildsAll_of_buildFields fields _ _ _ all)
  | .proj e index ty => by
      intro s t b h
      simp only [build] at h
      obtain ⟨⟨x, s₁⟩, head, h⟩ := ok_of_bind_ok h
      obtain ⟨c, field, h⟩ := ok_of_bind_ok h
      cases h
      obtain ⟨bs, rfl, place, found⟩ := field_eq_ok_iff.mp field
      exact .proj (builds_of_build e _ _ _ head) place found
  | .call (.op name) args ty => by
      intro s t b h
      simp only [build] at h
      split at h
      · cases h
      · rename_i op known
        obtain ⟨⟨ns, s₁⟩, operands, h⟩ := ok_of_bind_ok h
        dsimp only at h
        split at h
        · rename_i n applied
          cases h
          exact .operator known (buildsAll_of_buildNodes args _ _ _ operands) applied
        · cases h
  | .call (.fn params body ret true) args ty => by
      intro s t b h
      rw [build] at h
      split at h
      · cases h
      · rename_i count
        obtain ⟨s₁, entered, h⟩ := ok_of_bind_ok h
        exact .call (buildsArgs_of_buildArgs args params _ _ (by omega) entered)
          (builds_of_build body _ _ _ h)
  | .call (.fn _ _ _ false) _ _ | .call .hole _ _ | .call (.var _) _ _ | .call (.const _) _ _
  | .call (.global _) _ _ | .call (.ctor _) _ _ | .call (.call _ _ _) _ _
  | .call (.bind _ _ _) _ _ | .call (.cond _ _ _ _) _ _ | .call (.tuple _ _) _ _
  | .call (.proj _ _ _) _ _ | .call (.cases _ _ _) _ _ => by
      intro s t b h
      simp [build] at h
  | .hole | .global _ | .op _ | .ctor _ | .cond _ _ _ _ | .cases _ _ _ | .fn _ _ _ _ => by
      intro s t b h
      simp [build] at h

/-- The fields the builder returns are derived by the rules. -/
theorem buildsAll_of_buildFields : (es : List Expr) → ∀ (s t : GraphScope) (bs : List Built),
    s.buildFields es = .ok (bs, t) → BuildsAll s es bs t
  | [] => by
      intro s t bs h
      cases h
      exact .nil
  | e :: es => by
      intro s t bs h
      simp only [buildFields] at h
      obtain ⟨⟨b, s₁⟩, head, h⟩ := ok_of_bind_ok h
      obtain ⟨⟨bs, s₂⟩, tail, h⟩ := ok_of_bind_ok h
      cases h
      exact .cons (builds_of_build e _ _ _ head) (buildsAll_of_buildFields es _ _ _ tail)

/-- The operands the builder returns are derived by the rules. -/
theorem buildsAll_of_buildNodes : (es : List Expr) → ∀ (s t : GraphScope) (ns : List GraphNode),
    s.buildNodes es = .ok (ns, t) → BuildsAll s es (ns.map .node) t
  | [] => by
      intro s t ns h
      cases h
      exact .nil
  | e :: es => by
      intro s t ns h
      simp only [buildNodes] at h
      obtain ⟨⟨b, s₁⟩, head, h⟩ := ok_of_bind_ok h
      obtain ⟨n, node, h⟩ := ok_of_bind_ok h
      obtain ⟨⟨ns, s₂⟩, tail, h⟩ := ok_of_bind_ok h
      cases h
      obtain rfl := asNode_eq_ok_iff.mp node
      exact .cons (builds_of_build e _ _ _ head) (buildsAll_of_buildNodes es _ _ _ tail)

/-- The arguments the builder enters are derived by the rules. -/
theorem buildsArgs_of_buildArgs : (es : List Expr) → ∀ (ps : List Var) (s t : GraphScope),
    es.length = ps.length → s.buildArgs ps es = .ok t → BuildsArgs s ps es t
  | [] => by
      intro ps s t count h
      obtain rfl := List.eq_nil_of_length_eq_zero count.symm
      cases h
      exact .nil
  | e :: es => by
      intro ps s t count h
      cases ps with
      | nil => cases count
      | cons p ps =>
          simp only [buildArgs] at h
          obtain ⟨⟨b, s₁⟩, head, h⟩ := ok_of_bind_ok h
          exact .cons (builds_of_build e _ _ _ head)
            (buildsArgs_of_buildArgs es ps _ _ (Nat.succ.inj count) h)

end

mutual

/-- What the rules derive is returned by the builder. -/
theorem Builds.build_eq {s t : GraphScope} {e : Expr} {b : Built} :
    Builds s e b t → s.build e = .ok (b, t)
  | .var found => by rw [build, found]
  | .const held => by rw [build, held]
  | .bind head tail => by
      rw [build, Builds.build_eq head]
      exact Builds.build_eq tail
  | .tuple all => by
      rw [build, BuildsAll.buildFields_eq all]
      rfl
  | .proj head place field => by
      rw [build, Builds.build_eq head, ok_bind]
      simp only
      rw [field_eq_ok_iff.mpr ⟨_, rfl, place, field⟩]
      rfl
  | .operator known operands applied => by
      simp only [build, known, BuildsAll.buildNodes_eq _ operands, ok_bind, applied]
      rfl
  | .call entered result => by
      have count := BuildsArgs.length_eq entered
      rw [build, if_neg (by omega), BuildsArgs.buildArgs_eq entered]
      exact Builds.build_eq result

/-- The fields the rules derive are returned by the builder. -/
theorem BuildsAll.buildFields_eq {s t : GraphScope} {es : List Expr} {bs : List Built} :
    BuildsAll s es bs t → s.buildFields es = .ok (bs, t)
  | .nil => rfl
  | .cons head tail => by
      rw [buildFields, Builds.build_eq head, ok_bind]
      simp only
      rw [BuildsAll.buildFields_eq tail]
      rfl

/-- The operands the rules derive are returned by the builder. -/
theorem BuildsAll.buildNodes_eq {s t : GraphScope} {es : List Expr} (ns : List GraphNode) :
    BuildsAll s es (ns.map .node) t → s.buildNodes es = .ok (ns, t) := by
  intro h
  cases ns with
  | nil =>
      cases h
      rfl
  | cons n ns =>
      cases h with
      | cons head tail =>
          rw [buildNodes, Builds.build_eq head, ok_bind]
          simp only [Built.asNode, ok_bind]
          rw [BuildsAll.buildNodes_eq ns tail]
          rfl

/-- There are as many arguments as parameters. -/
theorem BuildsArgs.length_eq {s t : GraphScope} {ps : List Var} {es : List Expr} :
    BuildsArgs s ps es t → ps.length = es.length
  | .nil => rfl
  | .cons _ tail => congrArg (· + 1) (BuildsArgs.length_eq tail)

/-- The arguments the rules derive are entered by the builder. -/
theorem BuildsArgs.buildArgs_eq {s t : GraphScope} {ps : List Var} {es : List Expr} :
    BuildsArgs s ps es t → s.buildArgs ps es = .ok t
  | .nil => rfl
  | .cons head tail => by
      rw [buildArgs, Builds.build_eq head]
      exact BuildsArgs.buildArgs_eq tail

end

/-- The rules derive exactly what the builder returns. -/
theorem build_eq_ok_iff {s t : GraphScope} {e : Expr} {b : Built} :
    s.build e = .ok (b, t) ↔ Builds s e b t :=
  ⟨builds_of_build e s t b, Builds.build_eq⟩

end GraphScope

/-- The node of a parameter is the next input. -/
theorem inputNode_eq_ok {is js : List KernelInput} {name : String} {shape : Shape} {n : GraphNode}
    (h : inputNode is name shape = .ok (n, js)) :
    n = .input is.length name shape ∧ js = is ++ [⟨name, shape⟩] := by
  unfold inputNode at h
  split at h
  · cases h
    exact ⟨rfl, rfl⟩
  · cases h

end TensorCompiler
