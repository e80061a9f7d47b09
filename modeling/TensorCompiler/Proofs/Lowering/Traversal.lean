import TensorCompiler.Proofs.Lowering.Discipline

/-!
# The nodes that lowering visits

Lowering visits the nodes of an expression in order and stops at the first one that fails. The body
of a primitive function is left to the backend and is not visited. A congruence relates two ways to
take the steps of a traversal; a conduct says what steps may do to a session, apart for those that
return and those that fail.

Main statements: two ways to lower an expression are related if the steps taken at its nodes are,
and the lowering of an expression follows a conduct if the steps taken at its nodes do.

## Implementation notes

A discipline says what a step returns, and asks the same of every global and every primitive
function. A congruence and a conduct say nothing of what is returned, and ask only of the nodes of
one expression. The traversal is done once, for congruences: to follow a conduct is one.
-/

namespace TensorCompiler

open Lowered

namespace Expr

/-- The primitive function a node uses, with the types of its arguments: it is called in place, or
it stands as a value that calls its own kernel. -/
def primitiveUse? : Expr → Option (Function × List Ty)
  | .call (.fn params body ret true) args _ => some (⟨params, body, ret, true⟩, args.map Expr.ty)
  | .fn params body ret true => some (⟨params, body, ret, true⟩, params.map Var.ty)
  | _ => none

/-- A node that no session lowers: nothing at all, an operator or a constructor that is not applied,
a call of an operator or of nothing, a constructor with a wrong number of arguments. -/
def isFaulty : Expr → Bool
  | .hole | .op _ | .ctor _ => true
  | .call .hole _ _ => true
  | .call (.op _) _ _ => true
  | .call (.ctor c) args _ => args.length != c.inputs.length
  | _ => false

/-- A callee that is lowered with its call and not as a node of its own. -/
def isHead : Expr → Bool
  | .hole | .op _ | .ctor _ => true
  | e => e.isPrimitive

mutual

/-- The nodes lowering looks at. -/
def parts : Expr → List Expr
  | .call callee args ty =>
    .call callee args ty :: ((if callee.isHead then [] else parts callee) ++ partsAll args)
  | .bind v value body => .bind v value body :: (parts value ++ parts body)
  | .cond test yes no ty => .cond test yes no ty :: (parts test ++ parts yes ++ parts no)
  | .tuple fields ty => .tuple fields ty :: partsAll fields
  | .proj e index ty => .proj e index ty :: parts e
  | .cases data clauses ty => .cases data clauses ty :: (parts data ++ partsClauses clauses)
  | .fn params body ret primitive =>
    .fn params body ret primitive :: (if primitive then [] else parts body)
  | e => [e]

/-- The nodes of several expressions. -/
def partsAll : List Expr → List Expr
  | [] => []
  | e :: es => parts e ++ partsAll es

/-- The nodes of the bodies of clauses. -/
def partsClauses : List (Pattern × Expr) → List Expr
  | [] => []
  | (_, e) :: rest => parts e ++ partsClauses rest

end

/-- A node that uses no primitive function. -/
theorem primitiveUse?_call {callee : Expr} (plain : callee.isPrimitive = false) (args : List Expr)
    (ty : Ty) : (Expr.call callee args ty).primitiveUse? = none := by
  unfold primitiveUse?
  split
  · rename_i same
    cases same
    cases plain
  · rename_i same
    cases same
  · rfl

/-- A call of a callee that is lowered as a node of its own. -/
theorem isFaulty_call {callee : Expr} (node : callee.isHead = false) (args : List Expr) (ty : Ty) :
    (Expr.call callee args ty).isFaulty = false := by
  cases callee with
  | hole | op | ctor => cases node
  | _ => rfl

end Expr

namespace Lowering

/-! ### The traversal -/

/-- A relation between the steps of two sessions that is kept when steps are taken one after the
other. -/
structure Congruence (σ τ : Type) where
  rel : ∀ {α : Type}, LowerIn σ α → LowerIn τ α → Prop
  pure : ∀ {α : Type} (a : α), rel (Pure.pure a) (Pure.pure a)
  bind : ∀ {α β : Type} {x : LowerIn σ α} {y : LowerIn τ α} {f : α → LowerIn σ β}
    {g : α → LowerIn τ β}, rel x y → (∀ a, rel (f a) (g a)) → rel (x >>= f) (y >>= g)

namespace Congruence

variable {σ τ κ ρ ρ' : Type} [CompiledKernel κ] [SessionState σ κ ρ] [SessionState τ κ ρ']
  (R : Congruence σ τ)

/-- The steps taken at some nodes are related: a faulty node fails at once, the globals they refer
to are resolved in two ways, and the primitive functions they use are packed. -/
structure Guides (b : Backend κ) (resolve : GlobalRef → LowerIn σ Unit)
    (resolve' : GlobalRef → LowerIn τ Unit) (nodes : List Expr) : Prop where
  refuse : ∀ x ∈ nodes, x.isFaulty = true → ∀ e,
    R.rel (throw e : LowerIn σ Node) (throw e : LowerIn τ Node)
  resolve : ∀ g, .global g ∈ nodes → R.rel (resolve g) (resolve' g)
  pack : ∀ x ∈ nodes, ∀ f tys, x.primitiveUse? = some (f, tys) →
    R.rel (packedCall b x f tys) (packedCall b x f tys)

variable {R} {b : Backend κ} {resolve : GlobalRef → LowerIn σ Unit}
  {resolve' : GlobalRef → LowerIn τ Unit}

namespace Guides

variable {xs ys : List Expr}

/-- Fewer nodes ask for less. -/
theorem subset (h : R.Guides b resolve resolve' ys) (sub : xs ⊆ ys) :
    R.Guides b resolve resolve' xs :=
  ⟨fun x hx => h.refuse x (sub hx), fun g hg => h.resolve g (sub hg),
    fun x hx => h.pack x (sub hx)⟩

/-- The nodes below a node. -/
theorem below {x : Expr} (h : R.Guides b resolve resolve' (x :: xs)) :
    R.Guides b resolve resolve' xs :=
  h.subset (List.subset_cons_self _ _)

theorem left (h : R.Guides b resolve resolve' (xs ++ ys)) : R.Guides b resolve resolve' xs :=
  h.subset (List.subset_append_left _ _)

theorem right (h : R.Guides b resolve resolve' (xs ++ ys)) : R.Guides b resolve resolve' ys :=
  h.subset (List.subset_append_right _ _)

/-- The step of a faulty node. -/
theorem faulty {x : Expr} (h : R.Guides b resolve resolve' (x :: xs))
    (faulty : x.isFaulty = true) (e : LowerError) :
    R.rel (throw e : LowerIn σ Node) (throw e : LowerIn τ Node) :=
  h.refuse x List.mem_cons_self faulty e

end Guides

/-- Two ways to lower a call are related if those to lower its parts are. -/
theorem lower_call_related (callee : Expr) (args : List Expr) (ty : Ty)
    (h : R.Guides b resolve resolve' (Expr.call callee args ty).parts)
    (head : callee.isHead = false → R.rel (lower b resolve callee) (lower b resolve' callee))
    (tail : R.rel (lowerAll b resolve args) (lowerAll b resolve' args)) :
    R.rel (lower b resolve (.call callee args ty)) (lower b resolve' (.call callee args ty)) := by
  have node (hn : callee.isHead = false) (hp : callee.isPrimitive = false)
      (hc : ∀ c, callee ≠ .ctor c) (ho : ∀ name, callee ≠ .op name) (hh : callee ≠ .hole) :
      R.rel (lower b resolve (.call callee args ty)) (lower b resolve' (.call callee args ty)) := by
    rw [Discipline.lower_call_plain hp hc ho hh, Discipline.lower_call_plain hp hc ho hh]
    exact R.bind (head hn) fun f => R.bind tail fun ns => R.pure _
  cases callee with
  | hole | op =>
      rw [lower, lower]
      exact h.faulty rfl _
  | ctor c =>
      rw [lower, lower]
      by_cases count : args.length = c.inputs.length
      · simp only [count, ne_eq, not_true_eq_false, if_false]
        exact R.bind tail fun ns => R.pure _
      · simp only [ne_eq, count, not_false_eq_true, if_true]
        exact h.faulty (by simpa [Expr.isFaulty] using count) _
  | fn params body ret primitive =>
      cases primitive with
      | false => exact node rfl rfl (by simp) (by simp) (by simp)
      | true =>
          rw [lower, lower]
          have pack := h.pack _ List.mem_cons_self _ _ rfl
          exact R.bind pack fun form => R.bind tail fun ns => R.pure _
  | _ => exact node rfl rfl (by simp) (by simp) (by simp)

mutual

/-- Two ways to lower an expression are related if the steps taken at its nodes are. -/
theorem lower_related : (e : Expr) → R.Guides b resolve resolve' e.parts →
    R.rel (lower b resolve e) (lower b resolve' e)
  | .hole => by
      intro h
      rw [lower, lower]
      exact h.faulty rfl _
  | .var v => by
      intro _
      rw [lower, lower]
      exact R.pure _
  | .const c => by
      intro _
      rw [lower, lower]
      exact R.pure _
  | .global g => by
      intro h
      rw [lower, lower]
      exact R.bind (h.resolve g List.mem_cons_self) fun _ => R.pure _
  | .op name => by
      intro h
      rw [lower, lower]
      exact h.faulty rfl _
  | .ctor c => by
      intro h
      rw [lower, lower]
      exact h.faulty rfl _
  | .call callee args ty => by
      intro h
      refine lower_call_related callee args ty h ?_ ?_
      · intro node
        have parts := h.below.left
        rw [node] at parts
        exact lower_related callee parts
      · exact lowerAll_related args h.below.right
  | .bind v value body => by
      intro h
      rw [lower, lower]
      exact R.bind (lower_related value h.below.left) fun x =>
        R.bind (lower_related body h.below.right) fun n => R.pure _
  | .cond test yes no ty => by
      intro h
      rw [lower, lower]
      exact R.bind (lower_related test h.below.left.left) fun c =>
        R.bind (lower_related yes h.below.left.right) fun y =>
          R.bind (lower_related no h.below.right) fun n => R.pure _
  | .tuple fields ty => by
      intro h
      rw [lower, lower]
      exact R.bind (lowerAll_related fields h.below) fun ns => R.pure _
  | .proj e index ty => by
      intro h
      rw [lower, lower]
      exact R.bind (lower_related e h.below) fun n => R.pure _
  | .cases data clauses ty => by
      intro h
      rw [lower, lower]
      exact R.bind (lower_related data h.below.left) fun d =>
        R.bind (lowerClauses_related clauses h.below.right) fun cs => R.pure _
  | .fn params body ret true => by
      intro h
      rw [lower, lower]
      have pack := h.pack _ List.mem_cons_self _ _ rfl
      exact R.bind pack fun form => R.pure _
  | .fn params body ret false => by
      intro h
      rw [lower, lower]
      exact R.bind (lower_related body h.below) fun n => R.pure _

/-- Two ways to lower several expressions are related. -/
theorem lowerAll_related : (es : List Expr) →
    R.Guides b resolve resolve' (Expr.partsAll es) →
    R.rel (lowerAll b resolve es) (lowerAll b resolve' es)
  | [] => by
      intro _
      rw [lowerAll, lowerAll]
      exact R.pure _
  | e :: es => by
      intro h
      rw [lowerAll, lowerAll]
      exact R.bind (lower_related e h.left) fun n =>
        R.bind (lowerAll_related es h.right) fun ns => R.pure _

/-- Two ways to lower clauses are related. -/
theorem lowerClauses_related : (cs : List (Pattern × Expr)) →
    R.Guides b resolve resolve' (Expr.partsClauses cs) →
    R.rel (lowerClauses b resolve cs) (lowerClauses b resolve' cs)
  | [] => by
      intro _
      rw [lowerClauses, lowerClauses]
      exact R.pure _
  | (p, e) :: cs => by
      intro h
      rw [lowerClauses, lowerClauses]
      exact R.bind (lower_related e h.left) fun n =>
        R.bind (lowerClauses_related cs h.right) fun ns => R.pure _

end

/-- Two ways to lower a function are related if the steps taken at its nodes are. -/
theorem lowerFunction_related {f : Function} (h : R.Guides b resolve resolve' f.toExpr.parts) :
    R.rel (lowerFunction b resolve f) (lowerFunction b resolve' f) := by
  obtain ⟨params, body, ret, primitive⟩ := f
  unfold lowerFunction
  cases primitive with
  | true =>
      have pack := h.pack _ List.mem_cons_self _ _ rfl
      exact R.bind pack fun form => R.pure _
  | false => exact R.bind (lower_related body h.below) fun n => R.pure _

end Congruence

/-! ### What steps may do -/

variable {κ : Type} [CompiledKernel κ]

/-- What a step may do to a session if it returns, and if it fails. -/
structure Conduct (κ : Type) where
  done : Session κ → Session κ → Prop
  failed : Session κ → Session κ → Prop
  refl : ∀ s, done s s
  trans : ∀ {s t u}, done s t → done t u → done s u
  after : ∀ {s t u}, done s t → failed t u → failed s u

namespace Conduct

variable {α β : Type} (C : Conduct κ)

/-- What a run of a step has done to the session it began in. -/
def Outcome (s : Session κ) : Except LowerError α × Session κ → Prop
  | (.ok _, t) => C.done s t
  | (.error _, t) => C.failed s t

/-- A step does what a conduct lets it do, in every session. -/
def Follows (x : LowerM κ α) : Prop :=
  ∀ s, C.Outcome s (x.run s)

/-- An invariant that every step keeps, whether it fails or not. -/
def keeping (I : Session κ → Prop) : Conduct κ where
  done s t := I s → I t
  failed s t := I s → I t
  refl _ := id
  trans first second hs := second (first hs)
  after first second hs := second (first hs)

/-- An invariant that every step keeps, and under which none fails. -/
def returning (I : Session κ → Prop) : Conduct κ where
  done s t := I s → I t
  failed s _ := ¬ I s
  refl _ := id
  trans first second hs := second (first hs)
  after first second hs := second (first hs)

namespace Follows

variable {C}

omit [CompiledKernel κ] in
theorem pure (a : α) : C.Follows (Pure.pure a) :=
  fun s => C.refl s

omit [CompiledKernel κ] in
/-- A failure at once, if it is allowed. -/
theorem throw (e : LowerError) (refuse : ∀ s, C.failed s s) :
    C.Follows (MonadExcept.throw e : LowerM κ α) :=
  refuse

omit [CompiledKernel κ] in
/-- Two steps in a row follow a conduct if each of them does. -/
theorem bind {x : LowerM κ α} {f : α → LowerM κ β} (hx : C.Follows x)
    (hf : ∀ a, C.Follows (f a)) : C.Follows (x >>= f) := by
  intro s
  have first := hx s
  rw [run_bind]
  rcases hrun : x.run s with ⟨e | a, t⟩ <;> rw [hrun] at first
  · exact first
  · have second := hf a t
    dsimp only
    rcases hrun' : (f a).run t with ⟨e | c, u⟩ <;> rw [hrun'] at second
    · exact C.after first second
    · exact C.trans first second

end Follows

omit [CompiledKernel κ] in
/-- A run has kept an invariant. -/
theorem outcome_keeping_iff {I : Session κ → Prop} {s : Session κ}
    {out : Except LowerError α × Session κ} :
    (keeping I).Outcome s out ↔ (I s → I out.2) := by
  rcases out with ⟨_ | _, _⟩ <;> rfl

omit [CompiledKernel κ] in
/-- To keep an invariant is a conduct. -/
theorem follows_keeping_iff {I : Session κ → Prop} {x : LowerM κ α} :
    (keeping I).Follows x ↔ ∀ s, I s → I (x.run s).2 :=
  forall_congr' fun _ => outcome_keeping_iff

omit [CompiledKernel κ] in
/-- To keep an invariant and not to fail is a conduct. -/
theorem follows_returning_iff {I : Session κ → Prop} {x : LowerM κ α} :
    (returning I).Follows x ↔ ∀ s, I s → ∃ a t, x.run s = (.ok a, t) ∧ I t := by
  refine forall_congr' fun s => ?_
  rcases x.run s with ⟨_ | a, t⟩
  · refine imp_congr_right fun _ => ⟨False.elim, ?_⟩
    rintro ⟨_, _, ⟨⟩, _⟩
  · refine imp_congr_right fun _ => ⟨fun h => ⟨a, t, rfl, h⟩, ?_⟩
    rintro ⟨_, _, ⟨⟩, h⟩
    exact h

/-- What a conduct asks of a step, as a relation between steps. -/
def congruence : Congruence (Session κ) (Session κ) where
  rel x _ := C.Follows x
  pure a := .pure a
  bind := .bind

/-- The steps taken at some nodes follow a conduct: a faulty node fails at once, the globals they
refer to are resolved, and the primitive functions they use are packed. -/
structure Guides (b : Backend κ) (resolve : GlobalRef → LowerM κ Unit) (nodes : List Expr) :
    Prop where
  refuse : ∀ x ∈ nodes, x.isFaulty = true → ∀ s, C.failed s s
  resolve : ∀ g, .global g ∈ nodes → C.Follows (resolve g)
  pack : ∀ x ∈ nodes, ∀ f tys, x.primitiveUse? = some (f, tys) → C.Follows (packedCall b x f tys)

variable {C} {b : Backend κ} {resolve : GlobalRef → LowerM κ Unit}

/-- The steps of one traversal, related to themselves. -/
theorem Guides.related {nodes : List Expr} (h : C.Guides b resolve nodes) :
    C.congruence.Guides b resolve resolve nodes :=
  ⟨fun x hx faulty e => .throw e (h.refuse x hx faulty), h.resolve, h.pack⟩

/-- Lowering an expression follows a conduct if the steps taken at its nodes do. -/
theorem lower_follows (e : Expr) (h : C.Guides b resolve e.parts) :
    C.Follows (lower b resolve e) :=
  Congruence.lower_related e h.related

/-- Lowering a function follows a conduct if the steps taken at its nodes do. -/
theorem lowerFunction_follows {f : Function} (h : C.Guides b resolve f.toExpr.parts) :
    C.Follows (lowerFunction b resolve f) :=
  Congruence.lowerFunction_related h.related

end Conduct

end Lowering
end TensorCompiler
