import TensorCompiler.Proofs.Lowering.Translation

/-!
# Scopes

The variables an expression binds outside primitive functions, and whether every variable is used in
the scope of its binder. A linked program keeps the variables of one function
body or clause in one frame: `locals` are those an expression binds in the frame it is evaluated in,
`inner` those it binds in the frames of its clauses and nested functions.
-/

namespace TensorCompiler

namespace Expr

mutual

/-- The variables bound outside primitive functions, in the order of the text. -/
def bound : Expr → List Var
  | .hole | .var _ | .const _ | .global _ | .op _ | .ctor _ => []
  | .call callee args _ => bound callee ++ boundAll args
  | .bind v value body => [v] ++ bound value ++ bound body
  | .cond test yes no _ => bound test ++ bound yes ++ bound no
  | .tuple fields _ => boundAll fields
  | .proj e _ _ => bound e
  | .cases data clauses _ => bound data ++ boundClauses clauses
  | .fn params body _ primitive => if primitive then [] else params ++ bound body

/-- The variables several expressions bind. -/
def boundAll : List Expr → List Var
  | [] => []
  | e :: es => bound e ++ boundAll es

/-- The variables clauses bind. -/
def boundClauses : List (Pattern × Expr) → List Var
  | [] => []
  | (q, e) :: rest => q.vars ++ bound e ++ boundClauses rest

end

mutual

/-- Every variable outside the bodies of primitive functions is one of the given ones or is used in
the scope of its binder. The parameters of a primitive function that is not called in place are
distinct. -/
def isScoped (vs : List Var) : Expr → Bool
  | .hole | .const _ | .global _ | .op _ | .ctor _ => true
  | .var v => vs.contains v
  | .call callee args _ => (callee.isPrimitive || isScoped vs callee) && areScoped vs args
  | .bind v value body => isScoped vs value && isScoped (v :: vs) body
  | .cond test yes no _ => isScoped vs test && isScoped vs yes && isScoped vs no
  | .tuple fields _ => areScoped vs fields
  | .proj e _ _ => isScoped vs e
  | .cases data clauses _ => isScoped vs data && areScopedClauses vs clauses
  | .fn params body _ primitive =>
    if primitive then decide params.Nodup else isScoped (params ++ vs) body

/-- The variables of several expressions are used in scope. -/
def areScoped (vs : List Var) : List Expr → Bool
  | [] => true
  | e :: es => isScoped vs e && areScoped vs es

/-- The variables of clauses are used in scope. -/
def areScopedClauses (vs : List Var) : List (Pattern × Expr) → Bool
  | [] => true
  | (q, e) :: rest => isScoped (q.vars ++ vs) e && areScopedClauses vs rest

end

mutual

/-- The constructors applied outside the bodies of primitive functions. -/
def ctors : Expr → List Ctor
  | .hole | .var _ | .const _ | .global _ | .op _ => []
  | .ctor c => [c]
  | .call callee args _ => ctors callee ++ ctorsAll args
  | .bind _ value body => ctors value ++ ctors body
  | .cond test yes no _ => ctors test ++ ctors yes ++ ctors no
  | .tuple fields _ => ctorsAll fields
  | .proj e _ _ => ctors e
  | .cases data clauses _ => ctors data ++ ctorsClauses clauses
  | .fn _ body _ primitive => if primitive then [] else ctors body

/-- The constructors several expressions apply. -/
def ctorsAll : List Expr → List Ctor
  | [] => []
  | e :: es => ctors e ++ ctorsAll es

/-- The constructors the bodies of clauses apply. -/
def ctorsClauses : List (Pattern × Expr) → List Ctor
  | [] => []
  | (_, e) :: rest => ctors e ++ ctorsClauses rest

end

/-! ### Frames -/

mutual

/-- The variables an expression binds in the frame it is evaluated in. -/
def locals : Expr → List Var
  | .hole | .var _ | .const _ | .global _ | .op _ | .ctor _ | .fn _ _ _ _ => []
  | .call callee args _ => locals callee ++ localsAll args
  | .bind v value body => locals value ++ v :: locals body
  | .cond test yes no _ => locals test ++ (locals yes ++ locals no)
  | .tuple fields _ => localsAll fields
  | .proj e _ _ => locals e
  | .cases data _ _ => locals data

/-- The variables several expressions bind in the frame they are evaluated in. -/
def localsAll : List Expr → List Var
  | [] => []
  | e :: es => locals e ++ localsAll es

end

mutual

/-- The variables an expression binds in frames of their own. -/
def inner : Expr → List Var
  | .hole | .var _ | .const _ | .global _ | .op _ | .ctor _ => []
  | .call callee args _ => inner callee ++ innerAll args
  | .bind _ value body => inner value ++ inner body
  | .cond test yes no _ => inner test ++ (inner yes ++ inner no)
  | .tuple fields _ => innerAll fields
  | .proj e _ _ => inner e
  | .cases data clauses _ => inner data ++ innerClauses clauses
  | .fn params body _ primitive => if primitive then [] else params ++ (locals body ++ inner body)

/-- The variables several expressions bind in frames of their own. -/
def innerAll : List Expr → List Var
  | [] => []
  | e :: es => inner e ++ innerAll es

/-- The variables clauses bind. -/
def innerClauses : List (Pattern × Expr) → List Var
  | [] => []
  | (q, e) :: rest => q.vars ++ (locals e ++ inner e) ++ innerClauses rest

end

section Counting

variable (u : Var)

mutual

/-- An expression binds a variable as often in its own frame and in the inner ones together. -/
theorem count_bound : (e : Expr) → e.bound.count u = e.locals.count u + e.inner.count u
  | .hole | .var _ | .const _ | .global _ | .op _ | .ctor _ => rfl
  | .call callee args _ => by
      have head := count_bound callee
      have tail := count_boundAll args
      simp only [bound, locals, inner, List.count_append]
      omega
  | .bind v value body => by
      have head := count_bound value
      have tail := count_bound body
      simp only [bound, locals, inner, List.count_append, List.count_cons, List.count_nil]
      omega
  | .cond test yes no _ => by
      have first := count_bound test
      have second := count_bound yes
      have third := count_bound no
      simp only [bound, locals, inner, List.count_append]
      omega
  | .tuple fields _ => by
      rw [bound, locals, inner]
      exact count_boundAll fields
  | .proj e _ _ => by
      rw [bound, locals, inner]
      exact count_bound e
  | .cases data clauses _ => by
      have head := count_bound data
      have tail := count_boundClauses clauses
      simp only [bound, locals, inner, List.count_append]
      omega
  | .fn params body _ primitive => by
      have head := count_bound body
      cases primitive with
      | true => simp [bound, locals, inner]
      | false =>
          simp [bound, locals, inner]
          omega

theorem count_boundAll : (es : List Expr) →
    (boundAll es).count u = (localsAll es).count u + (innerAll es).count u
  | [] => rfl
  | e :: es => by
      have head := count_bound e
      have tail := count_boundAll es
      simp only [boundAll, localsAll, innerAll, List.count_append]
      omega

theorem count_boundClauses : (cs : List (Pattern × Expr)) →
    (boundClauses cs).count u = (innerClauses cs).count u
  | [] => rfl
  | (q, e) :: rest => by
      have head := count_bound e
      have tail := count_boundClauses rest
      simp only [boundClauses, innerClauses, List.count_append]
      omega

end

end Counting

end Expr

/-- An expression with lexical variables: outside primitive functions no variable is bound twice,
and each is used in the scope of its binder. -/
structure Expr.Lexical (e : Expr) : Prop where
  once : e.bound.Nodup
  inScope : e.isScoped [] = true

/-- No variable is bound twice in the inner frames of an expression with lexical variables. -/
theorem Expr.Lexical.inner_nodup {e : Expr} (h : e.Lexical) : e.inner.Nodup := by
  refine List.nodup_iff_count.mpr fun v => ?_
  have once := List.nodup_iff_count.mp h.once v
  rw [Expr.count_bound] at once
  omega

end TensorCompiler
