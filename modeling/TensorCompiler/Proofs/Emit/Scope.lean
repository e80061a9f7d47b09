import TensorCompiler.Lowered.Node
import TensorCompiler.Names.Supply

/-!
# Scopes of lowered functions

The variables a lowered node binds, and whether every variable is used in the scope of its binder.
A linked program keeps the variables of one function body or clause in one frame: `locals` are
those a node binds in the frame it is evaluated in, `inner` those it binds in the frames of its
clauses and nested functions.
-/

namespace TensorCompiler

/-- Whether the identifier that stands for a variable has no other use in emitted text. -/
def Var.isNameable (v : Var) : Bool :=
  !List.contains ["_", "nil", "error"] (Names.identifier v.name)

namespace Lowered

namespace Node

mutual

/-- The variables a node binds, in the order of the text. -/
def bound : Node → List Var
  | .hole | .var _ | .const _ | .global _ => []
  | .packed _ _ _ args _ => boundAll args
  | .invoke callee args _ => bound callee ++ boundAll args
  | .decl bindings body => boundBindings bindings ++ bound body
  | .cond test yes no _ => bound test ++ (bound yes ++ bound no)
  | .tuple fields _ => boundAll fields
  | .proj n _ _ => bound n
  | .cases data clauses _ => bound data ++ boundClauses clauses
  | .fn params body _ => params ++ bound body
  | .construct _ _ args => boundAll args

/-- The variables several nodes bind. -/
def boundAll : List Node → List Var
  | [] => []
  | n :: ns => bound n ++ boundAll ns

/-- The variables of bindings, and those their values bind. -/
def boundBindings : List (Var × Node) → List Var
  | [] => []
  | (v, n) :: rest => bound n ++ v :: boundBindings rest

/-- The variables clauses bind. -/
def boundClauses : List (Pattern × Node) → List Var
  | [] => []
  | (p, n) :: rest => (p.vars ++ bound n) ++ boundClauses rest

end

mutual

/-- Every variable is one of the given ones or is used in the scope of its binder. -/
def isScoped (vs : List Var) : Node → Bool
  | .hole | .const _ | .global _ => true
  | .var v => vs.contains v
  | .packed _ _ _ args _ => areScoped vs args
  | .invoke callee args _ => isScoped vs callee && areScoped vs args
  | .decl bindings body =>
    areScopedBindings vs bindings && isScoped ((bindings.map Prod.fst).reverse ++ vs) body
  | .cond test yes no _ => isScoped vs test && isScoped vs yes && isScoped vs no
  | .tuple fields _ => areScoped vs fields
  | .proj n _ _ => isScoped vs n
  | .cases data clauses _ => isScoped vs data && areScopedClauses vs clauses
  | .fn params body _ => isScoped (params ++ vs) body
  | .construct _ _ args => areScoped vs args

/-- The variables of several nodes are used in scope. -/
def areScoped (vs : List Var) : List Node → Bool
  | [] => true
  | n :: ns => isScoped vs n && areScoped vs ns

/-- The variables of bindings are used in scope. A binding is in the scope of those before it. -/
def areScopedBindings (vs : List Var) : List (Var × Node) → Bool
  | [] => true
  | (v, n) :: rest => isScoped vs n && areScopedBindings (v :: vs) rest

/-- The variables of clauses are used in scope. -/
def areScopedClauses (vs : List Var) : List (Pattern × Node) → Bool
  | [] => true
  | (p, n) :: rest => isScoped (p.vars ++ vs) n && areScopedClauses vs rest

end

/-! ### Frames -/

mutual

/-- The variables a node binds in the frame it is evaluated in. -/
def locals : Node → List Var
  | .hole | .var _ | .const _ | .global _ | .fn _ _ _ => []
  | .packed _ _ _ args _ => localsAll args
  | .invoke callee args _ => locals callee ++ localsAll args
  | .decl bindings body => localsBindings bindings ++ locals body
  | .cond test yes no _ => locals test ++ (locals yes ++ locals no)
  | .tuple fields _ => localsAll fields
  | .proj n _ _ => locals n
  | .cases data _ _ => locals data
  | .construct _ _ args => localsAll args

/-- The variables several nodes bind in the frame they are evaluated in. -/
def localsAll : List Node → List Var
  | [] => []
  | n :: ns => locals n ++ localsAll ns

/-- The variables bindings bind in the frame they are evaluated in. -/
def localsBindings : List (Var × Node) → List Var
  | [] => []
  | (v, n) :: rest => locals n ++ v :: localsBindings rest

end

mutual

/-- The variables a node binds in frames of their own. -/
def inner : Node → List Var
  | .hole | .var _ | .const _ | .global _ => []
  | .packed _ _ _ args _ => innerAll args
  | .invoke callee args _ => inner callee ++ innerAll args
  | .decl bindings body => innerBindings bindings ++ inner body
  | .cond test yes no _ => inner test ++ (inner yes ++ inner no)
  | .tuple fields _ => innerAll fields
  | .proj n _ _ => inner n
  | .cases data clauses _ => inner data ++ innerClauses clauses
  | .fn params body _ => params ++ (locals body ++ inner body)
  | .construct _ _ args => innerAll args

/-- The variables several nodes bind in frames of their own. -/
def innerAll : List Node → List Var
  | [] => []
  | n :: ns => inner n ++ innerAll ns

/-- The variables the values of bindings bind in frames of their own. -/
def innerBindings : List (Var × Node) → List Var
  | [] => []
  | (_, n) :: rest => inner n ++ innerBindings rest

/-- The variables clauses bind. -/
def innerClauses : List (Pattern × Node) → List Var
  | [] => []
  | (p, n) :: rest => (p.vars ++ (locals n ++ inner n)) ++ innerClauses rest

end

section Counting

variable (u : Var)

mutual

/-- A node binds a variable as often in its own frame and in the inner ones together. -/
theorem count_bound : (n : Node) → n.bound.count u = n.locals.count u + n.inner.count u
  | .hole | .var _ | .const _ | .global _ => rfl
  | .packed _ _ _ args _ | .construct _ _ args | .tuple args _ => by
      simp only [bound, locals, inner]
      exact count_boundAll args
  | .invoke callee args _ => by
      have head := count_bound callee
      have tail := count_boundAll args
      simp only [bound, locals, inner, List.count_append]
      omega
  | .decl bindings body => by
      have head := count_boundBindings bindings
      have tail := count_bound body
      simp only [bound, locals, inner, List.count_append]
      omega
  | .cond test yes no _ => by
      have first := count_bound test
      have second := count_bound yes
      have third := count_bound no
      simp only [bound, locals, inner, List.count_append]
      omega
  | .proj n _ _ => by
      simp only [bound, locals, inner]
      exact count_bound n
  | .cases data clauses _ => by
      have head := count_bound data
      have tail := count_boundClauses clauses
      simp only [bound, locals, inner, List.count_append]
      omega
  | .fn params body _ => by
      have head := count_bound body
      simp only [bound, locals, inner, List.count_append, List.count_nil]
      omega

theorem count_boundAll : (ns : List Node) →
    (boundAll ns).count u = (localsAll ns).count u + (innerAll ns).count u
  | [] => rfl
  | n :: ns => by
      have head := count_bound n
      have tail := count_boundAll ns
      simp only [boundAll, localsAll, innerAll, List.count_append]
      omega

theorem count_boundBindings : (bs : List (Var × Node)) →
    (boundBindings bs).count u = (localsBindings bs).count u + (innerBindings bs).count u
  | [] => rfl
  | (v, n) :: rest => by
      have head := count_bound n
      have tail := count_boundBindings rest
      simp only [boundBindings, localsBindings, innerBindings, List.count_append, List.count_cons]
      omega

theorem count_boundClauses : (cs : List (Pattern × Node)) →
    (boundClauses cs).count u = (innerClauses cs).count u
  | [] => rfl
  | (p, n) :: rest => by
      have head := count_bound n
      have tail := count_boundClauses rest
      simp only [boundClauses, innerClauses, List.count_append]
      omega

end

end Counting

/-- A node binds a variable in its own frame or in an inner one. -/
theorem mem_bound {n : Node} {v : Var} : v ∈ n.bound ↔ v ∈ n.locals ∨ v ∈ n.inner := by
  rw [← List.count_pos_iff, ← List.count_pos_iff, ← List.count_pos_iff, count_bound]
  omega

theorem mem_params_bound {params : List Var} {n : Node} {v : Var} :
    v ∈ params ++ n.bound ↔ v ∈ params ++ (n.locals ++ n.inner) := by
  simp only [List.mem_append, mem_bound]

/-- Clauses bind all their variables in inner frames. -/
theorem mem_boundClauses {cs : List (Pattern × Node)} {v : Var} :
    v ∈ boundClauses cs ↔ v ∈ innerClauses cs := by
  rw [← List.count_pos_iff, ← List.count_pos_iff, count_boundClauses]

end Node

/-- A function that can be written down: no variable is bound twice, each is used in the scope of
its binder, and the identifiers of variables have no other use. -/
structure Routine.Lexical (r : Routine) : Prop where
  once : (r.params ++ r.body.bound).Nodup
  inScope : r.body.isScoped r.params = true
  nameable : ∀ v ∈ r.params ++ r.body.bound, v.isNameable = true

/-- No variable is bound twice in the frames of a function that can be written down. -/
theorem Routine.Lexical.frames_nodup {r : Routine} (h : r.Lexical) :
    (r.params ++ (r.body.locals ++ r.body.inner)).Nodup := by
  refine List.nodup_iff_count.mpr fun v => ?_
  have once := List.nodup_iff_count.mp h.once v
  rw [List.count_append, Node.count_bound] at once
  simp only [List.count_append]
  omega

end Lowered

end TensorCompiler
