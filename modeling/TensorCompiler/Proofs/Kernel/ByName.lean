import Mathlib.Data.List.Nodup
import TensorCompiler.Kernel.Basic
import TensorCompiler.Proofs.Fingerprint.Renaming
import TensorCompiler.Proofs.Kernel.ArrayKernels

/-!
# Evaluation by name

What a primitive function computes, said of its text alone. A parameter stands for its inputs, any
other variable for the expression it is bound to, a call of a primitive function for the body of
that function, an operator for its kernel applied to the operands from left to right. Nothing is
remembered, and what is not asked for is not computed: a binding that fails harms only those who
use it.

Main statement: if no variable is bound twice, then an expression stands for one thing at most.

## Implementation notes

A variable of a primitive function may be used wherever it was bound before, outside the scope of
its binder too, so variables are explained by the bindings of the whole function and not by an
environment. `applying_confused` has such a function.
-/

namespace TensorCompiler

/-- What an expression stands for: the tensor that computing it gives, its failure, or a tuple. -/
inductive Meaning where
  | tensor (outcome : Except TensorError Tensor)
  | tuple (fields : List Meaning)

/-! ### Operators -/

namespace KernelOp

/-- An operator on tensors: its array kernel for their shapes, applied to them. There is none for a
wrong number or type of operands. -/
def eval? (op : KernelOp) : List Tensor → Option (Except TensorError Tensor)
  | [x] => (op.unaryKernel? x.shape).map fun k => k.apply x
  | [x, y] => (op.binaryKernel? x.shape y.shape).map fun k => k.apply x y
  | _ => none

/-- An operator on what its operands come to: the first failure from the left is the failure of the
whole. -/
def evalAll? (op : KernelOp) (outcomes : List (Except TensorError Tensor)) :
    Option (Except TensorError Tensor) :=
  match outcomes.mapM id with
  | .ok ts => op.eval? ts
  | .error e => some (.error e)

end KernelOp

/-! ### Bindings -/

namespace Expr

mutual

/-- The variables that a primitive function binds in its body, each with the expression it is bound
to: a parameter of a function that is called to its argument. -/
def bindings : Expr → List (Var × Expr)
  | .bind v value body => (v, value) :: (bindings value ++ bindings body)
  | .call (.fn params body _ true) args _ => params.zip args ++ (bindings body ++ bindingsAll args)
  | .call _ args _ => bindingsAll args
  | .tuple fields _ => bindingsAll fields
  | .proj e _ _ => bindings e
  | _ => []

/-- The bindings of several expressions. -/
def bindingsAll : List Expr → List (Var × Expr)
  | [] => []
  | e :: es => bindings e ++ bindingsAll es

end

end Expr

/-! ### Parameters -/

/-- The shape of a tensor type. -/
def Ty.shape? : Ty → Option Shape
  | .tensor s => some s
  | _ => none

/-- The shapes of the inputs that a parameter of a type is passed: a tuple takes one for each
field. -/
def Ty.inputShapes : Ty → List Shape
  | .tensor s => [s]
  | .tuple fields => fields.filterMap Ty.shape?
  | _ => []

/-- What a parameter of a type stands for, given its inputs. -/
def Ty.received (ty : Ty) (inputs : List Tensor) : Meaning :=
  match ty, inputs with
  | .tensor _, t :: _ => .tensor (.ok t)
  | _, ts => .tuple (ts.map fun t => .tensor (.ok t))

/-- What parameters stand for: each takes as many of the inputs as its type asks for. -/
def received : List Var → List Tensor → List (Var × Meaning)
  | [], _ => []
  | v :: vs, ts =>
    (v, v.ty.received (ts.take v.ty.inputShapes.length)) ::
      received vs (ts.drop v.ty.inputShapes.length)

/-- The shapes that the inputs of a function are declared with. -/
def Function.inputShapes (f : Function) : List Shape :=
  f.params.flatMap fun v => v.ty.inputShapes

/-! ### Evaluation -/

section

variable (given : List (Var × Meaning)) (bound : List (Var × Expr))

mutual

/-- What an expression stands for, when some variables are given and the others are bound to
expressions. -/
inductive Denotes : Expr → Meaning → Prop
  | given {v m} (param : (v, m) ∈ given) : Denotes (.var v) m
  | bound {v e m} (binding : (v, e) ∈ bound) (value : Denotes e m) : Denotes (.var v) m
  | const (c : Constant) : Denotes (.const c) (.tensor (Tensor.ofSlice c.values c.shape.dims))
  | bind {v value body m} (result : Denotes body m) : Denotes (.bind v value body) m
  | tuple {fields ms ty} (all : DenotesAll fields ms) : Denotes (.tuple fields ty) (.tuple ms)
  | proj {e ms m index ty} (whole : Denotes e (.tuple ms)) (place : 0 ≤ index)
      (field : ms[index.toNat]? = some m) : Denotes (.proj e index ty) m
  | operator {name op args outcomes r ty} (known : kernelOp? name = some op)
      (operands : DenotesAll args (outcomes.map .tensor))
      (applied : op.evalAll? outcomes = some r) :
      Denotes (.call (.op name) args ty) (.tensor r)
  | call {params body ret args m ty} (result : Denotes body m) :
      Denotes (.call (.fn params body ret true) args ty) m

/-- What several expressions stand for. -/
inductive DenotesAll : List Expr → List Meaning → Prop
  | nil : DenotesAll [] []
  | cons {e es m ms} (head : Denotes e m) (tail : DenotesAll es ms) :
      DenotesAll (e :: es) (m :: ms)

end

end

namespace Function

/-- The evaluation of a function by name on inputs comes to an outcome. -/
def Evaluates (f : Function) (inputs : List Tensor) (outcome : Except TensorError Tensor) : Prop :=
  Denotes (received f.params inputs) f.body.bindings f.body (.tensor outcome)

end Function

/-! ### Binders -/

/-- Parameters without an argument are left out of the bindings. -/
theorem zip_sublist (params : List Var) (args : List Expr) :
    ((params.zip args).map Prod.fst).Sublist params := by
  induction params generalizing args with
  | nil => simp
  | cons p ps ih =>
      cases args with
      | nil => simp
      | cons e es => exact (ih es).cons_cons p

section

variable (u : Var)

mutual

/-- A variable has no more bindings than binders. -/
theorem Expr.count_bindings_le : (e : Expr) →
    (e.bindings.map Prod.fst).count u ≤ e.binders.count u
  | .bind v value body => by
      have head := Expr.count_bindings_le value
      have tail := Expr.count_bindings_le body
      simp only [Expr.bindings, Expr.binders, List.map_cons, List.map_append, List.count_cons,
        List.count_append, List.count_nil]
      omega
  | .call (.fn params body ret true) args ty => by
      have first := (zip_sublist params args).count_le u
      have inside := Expr.count_bindings_le body
      have rest := Expr.count_bindingsAll_le args
      simp only [Expr.bindings, Expr.binders, List.map_append, List.count_append]
      omega
  | .call (.fn _ _ _ false) args _ | .call .hole args _ | .call (.var _) args _
  | .call (.const _) args _ | .call (.global _) args _ | .call (.op _) args _
  | .call (.ctor _) args _ | .call (.call _ _ _) args _ | .call (.bind _ _ _) args _
  | .call (.cond _ _ _ _) args _ | .call (.tuple _ _) args _ | .call (.proj _ _ _) args _
  | .call (.cases _ _ _) args _ => by
      have rest := Expr.count_bindingsAll_le args
      rw [Expr.binders, List.count_append]
      exact Nat.le_add_left_of_le rest
  | .tuple fields _ => Expr.count_bindingsAll_le fields
  | .proj e _ _ => Expr.count_bindings_le e
  | .hole | .var _ | .const _ | .global _ | .op _ | .ctor _ | .cond _ _ _ _ | .cases _ _ _
  | .fn _ _ _ _ => Nat.zero_le _

/-- A variable has no more bindings than binders in several expressions. -/
theorem Expr.count_bindingsAll_le : (es : List Expr) →
    ((Expr.bindingsAll es).map Prod.fst).count u ≤ (Expr.bindersAll es).count u
  | [] => Nat.le_refl _
  | e :: es => by
      have head := Expr.count_bindings_le e
      have tail := Expr.count_bindingsAll_le es
      simp only [Expr.bindingsAll, Expr.bindersAll, List.map_append, List.count_append]
      omega

end

end

/-- The parameters of a function are those that are given. -/
theorem map_fst_received (params : List Var) (inputs : List Tensor) :
    (received params inputs).map Prod.fst = params := by
  induction params generalizing inputs with
  | nil => rfl
  | cons v vs ih => simp [received, ih]

/-- What explains the variables of a function explains each of them once. -/
structure Explains (given : List (Var × Meaning)) (bound : List (Var × Expr)) : Prop where
  params : (given.map Prod.fst).Nodup
  bindings : (bound.map Prod.fst).Nodup
  apart : (given.map Prod.fst).Disjoint (bound.map Prod.fst)

/-- A function that binds no variable twice explains its variables once. -/
theorem Function.explains {f : Function} (once : f.toExpr.binders.Nodup) (inputs : List Tensor) :
    Explains (received f.params inputs) f.body.bindings := by
  have binders : (f.params ++ f.body.binders).Nodup := once
  obtain ⟨params, body, apart⟩ := List.nodup_append'.mp binders
  have count (u : Var) := Expr.count_bindings_le u f.body
  refine ⟨?_, ?_, ?_⟩
  · rw [map_fst_received]
    exact params
  · refine List.nodup_iff_count_le_one.mpr fun u => ?_
    exact Nat.le_trans (count u) (List.nodup_iff_count_le_one.mp body u)
  · rw [map_fst_received]
    intro u hu bound
    refine apart hu (List.count_pos_iff.mp ?_)
    exact Nat.lt_of_lt_of_le (List.count_pos_iff.mpr bound) (count u)

/-! ### An expression stands for one thing at most -/

section

variable {given : List (Var × Meaning)} {bound : List (Var × Expr)}

mutual

/-- An expression stands for one thing at most. -/
theorem Denotes.unique (once : Explains given bound) {e : Expr} {m : Meaning} :
    Denotes given bound e m → ∀ m', Denotes given bound e m' → m = m'
  | .given param => by
      intro m' h
      cases h with
      | given param' =>
          exact congrArg Prod.snd (List.inj_on_of_nodup_map once.params param param' rfl)
      | bound binding' value' =>
          exact absurd (List.mem_map_of_mem binding') (once.apart (List.mem_map_of_mem param))
  | .bound binding value => by
      intro m' h
      cases h with
      | given param' =>
          exact absurd (List.mem_map_of_mem binding) (once.apart (List.mem_map_of_mem param'))
      | bound binding' value' =>
          have same := List.inj_on_of_nodup_map once.bindings binding binding' rfl
          obtain ⟨-, rfl⟩ := Prod.mk.inj same
          exact Denotes.unique once value _ value'
  | .const c => by
      intro m' h
      cases h
      rfl
  | .bind result => by
      intro m' h
      cases h with
      | bind result' => exact Denotes.unique once result _ result'
  | .tuple all => by
      intro m' h
      cases h with
      | tuple all' => exact congrArg Meaning.tuple (DenotesAll.unique once all _ all')
  | .proj whole place field => by
      intro m' h
      cases h with
      | proj whole' place' field' =>
          obtain rfl := Meaning.tuple.inj (Denotes.unique once whole _ whole')
          exact Option.some.inj (field.symm.trans field')
  | .operator known operands applied => by
      intro m' h
      cases h with
      | operator known' operands' applied' =>
          have same := DenotesAll.unique once operands _ operands'
          obtain rfl := List.map_injective_iff.mpr (fun _ _ => Meaning.tensor.inj) same
          obtain rfl := Option.some.inj (known.symm.trans known')
          exact congrArg Meaning.tensor (Option.some.inj (applied.symm.trans applied'))
  | .call result => by
      intro m' h
      cases h with
      | call result' => exact Denotes.unique once result _ result'

/-- Several expressions stand for one list of things at most. -/
theorem DenotesAll.unique (once : Explains given bound) {es : List Expr} {ms : List Meaning} :
    DenotesAll given bound es ms → ∀ ms', DenotesAll given bound es ms' → ms = ms'
  | .nil => by
      intro ms' h
      cases h
      rfl
  | .cons head tail => by
      intro ms' h
      cases h with
      | cons head' tail' =>
          rw [Denotes.unique once head _ head', DenotesAll.unique once tail _ tail']

end

end

end TensorCompiler
