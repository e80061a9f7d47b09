import TensorCompiler.Lowering.Session

/-!
# Structural translation of expressions

Lowering changes the form of an expression and nothing else. The relation `Translates` says which
node an expression becomes, form by form. What lowering asks of its surroundings is left to two
judgements: `prim` accepts the packed form of a primitive function used at argument types, and
`known` accepts the references to global functions.

## Implementation notes

The two judgements are parameters, because lowering establishes them in a growing session: what
was accepted stays accepted, and `Translates.mono` carries a translation along.
-/

namespace TensorCompiler

open Lowered

/-- A primitive function in the position of a callee or of a value. -/
def Expr.isPrimitive : Expr → Bool
  | .fn _ _ _ true => true
  | _ => false

/-- What a packed call fixes besides its arguments: the kernel, its inputs and the convention. -/
structure PackedForm where
  kernel : String
  inputs : Nat
  conv : Convention

namespace PackedForm

/-- The packed call of a form with lowered arguments and a result type. -/
def node (form : PackedForm) (args : List Node) (ret : Ty) : Node :=
  .packed form.kernel (form.inputs + 1 : Nat) form.conv args ret

end PackedForm

namespace Lowering

/-- Judgements on primitive functions used at the types of their arguments. -/
abbrev PrimJudgement := Function → List Ty → PackedForm → Prop

section

variable (prim : PrimJudgement) (known : GlobalRef → Prop)

mutual

/-- The node an expression is lowered to. -/
inductive Translates : Expr → Node → Prop
  | var (v : Var) : Translates (.var v) (.var v)
  | const (c : Constant) : Translates (.const c) (.const c)
  | global {g : GlobalRef} (ok : known g) : Translates (.global g) (.global g)
  | primCall {params body ret args ty form nodes}
      (ok : prim ⟨params, body, ret, true⟩ (args.map Expr.ty) form)
      (fields : TranslatesAll args nodes) :
      Translates (.call (.fn params body ret true) args ty) (form.node nodes ret)
  | ctorCall {c : Ctor} {args ty nodes} (count : args.length = c.inputs.length)
      (fields : TranslatesAll args nodes) :
      Translates (.call (.ctor c) args ty) (.construct c c.tag nodes)
  | call {callee f args nodes ty} (plain : callee.isPrimitive = false)
      (head : Translates callee f) (fields : TranslatesAll args nodes) :
      Translates (.call callee args ty) (.invoke f nodes ty)
  | bind {v value x body n} (head : Translates value x) (tail : Translates body n) :
      Translates (.bind v value body) (Node.bindBefore v x n)
  | cond {test c yes y no n ty} (head : Translates test c) (left : Translates yes y)
      (right : Translates no n) : Translates (.cond test yes no ty) (.cond c y n ty)
  | tuple {fields nodes ty} (all : TranslatesAll fields nodes) :
      Translates (.tuple fields ty) (.tuple nodes ty)
  | proj {e n index ty} (head : Translates e n) :
      Translates (.proj e index ty) (.proj n index ty)
  | cases {data d clauses cs ty} (head : Translates data d)
      (all : TranslatesClauses clauses cs) :
      Translates (.cases data clauses ty) (.cases d cs ty)
  | primFn {params body ret form} (ok : prim ⟨params, body, ret, true⟩ (params.map Var.ty) form) :
      Translates (.fn params body ret true)
        (.fn params (form.node (params.map Node.var) ret) ret)
  | fn {params body n ret} (head : Translates body n) :
      Translates (.fn params body ret false) (.fn params n ret)

/-- The nodes several expressions are lowered to. -/
inductive TranslatesAll : List Expr → List Node → Prop
  | nil : TranslatesAll [] []
  | cons {e n es ns} (head : Translates e n) (tail : TranslatesAll es ns) :
      TranslatesAll (e :: es) (n :: ns)

/-- The clauses of a match keep their patterns. -/
inductive TranslatesClauses : List (Pattern × Expr) → List (Pattern × Node) → Prop
  | nil : TranslatesClauses [] []
  | cons {p e n es ns} (head : Translates e n) (tail : TranslatesClauses es ns) :
      TranslatesClauses ((p, e) :: es) ((p, n) :: ns)

end

/-- The routine a function is lowered to. A primitive function calls its own kernel. -/
inductive TranslatesFunction : Function → Routine → Prop
  | prim {params body ret form} (ok : prim ⟨params, body, ret, true⟩ (params.map Var.ty) form) :
      TranslatesFunction ⟨params, body, ret, true⟩
        ⟨params, form.node (params.map Node.var) ret, ret⟩
  | plain {params body n ret} (head : Translates prim known body n) :
      TranslatesFunction ⟨params, body, ret, false⟩ ⟨params, n, ret⟩

end

section Monotonicity

variable {prim prim' : PrimJudgement} {known known' : GlobalRef → Prop}

mutual

/-- A translation outlives every weakening of the two judgements. -/
theorem Translates.mono (hp : ∀ f tys form, prim f tys form → prim' f tys form)
    (hk : ∀ g, known g → known' g) {e : Expr} {n : Node} :
    Translates prim known e n → Translates prim' known' e n
  | .var v => .var v
  | .const c => .const c
  | .global ok => .global (hk _ ok)
  | .primCall ok fields => .primCall (hp _ _ _ ok) (TranslatesAll.mono hp hk fields)
  | .ctorCall count fields => .ctorCall count (TranslatesAll.mono hp hk fields)
  | .call plain head fields =>
      .call plain (Translates.mono hp hk head) (TranslatesAll.mono hp hk fields)
  | .bind head tail => .bind (Translates.mono hp hk head) (Translates.mono hp hk tail)
  | .cond head left right =>
      .cond (Translates.mono hp hk head) (Translates.mono hp hk left)
        (Translates.mono hp hk right)
  | .tuple all => .tuple (TranslatesAll.mono hp hk all)
  | .proj head => .proj (Translates.mono hp hk head)
  | .cases head all => .cases (Translates.mono hp hk head) (TranslatesClauses.mono hp hk all)
  | .primFn ok => .primFn (hp _ _ _ ok)
  | .fn head => .fn (Translates.mono hp hk head)

/-- Lists of translations outlive every weakening of the two judgements. -/
theorem TranslatesAll.mono (hp : ∀ f tys form, prim f tys form → prim' f tys form)
    (hk : ∀ g, known g → known' g) {es : List Expr} {ns : List Node} :
    TranslatesAll prim known es ns → TranslatesAll prim' known' es ns
  | .nil => .nil
  | .cons head tail => .cons (Translates.mono hp hk head) (TranslatesAll.mono hp hk tail)

/-- Clauses outlive every weakening of the two judgements. -/
theorem TranslatesClauses.mono (hp : ∀ f tys form, prim f tys form → prim' f tys form)
    (hk : ∀ g, known g → known' g) {es : List (Pattern × Expr)} {ns : List (Pattern × Node)} :
    TranslatesClauses prim known es ns → TranslatesClauses prim' known' es ns
  | .nil => .nil
  | .cons head tail => .cons (Translates.mono hp hk head) (TranslatesClauses.mono hp hk tail)

end

/-- The translation of a function outlives every weakening of the two judgements. -/
theorem TranslatesFunction.mono (hp : ∀ f tys form, prim f tys form → prim' f tys form)
    (hk : ∀ g, known g → known' g) {f : Function} {r : Routine}
    (h : TranslatesFunction prim known f r) : TranslatesFunction prim' known' f r := by
  cases h with
  | prim ok => exact .prim (hp _ _ _ ok)
  | plain head => exact .plain (head.mono hp hk)

end Monotonicity

end Lowering
end TensorCompiler
