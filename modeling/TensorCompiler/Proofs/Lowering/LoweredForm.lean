import TensorCompiler.Proofs.Lowering.Refusal

/-!
# The lowered form of an expression

What an expression is lowered to can be said without a session, by recursion on the expression
alone.

Main statements: the lowered form of an expression that uses no primitive function can be read back;
what is lost is the type of constructor calls. A translation of an expression is its lowered form.

## Implementation notes

A constructor call is annotated with a type, a lowered one is not: its type is the data type of the
constructor. `Expr.retyped` puts this type in the place of every such annotation, and a node reads
back as a retyped expression.
-/

namespace TensorCompiler

open Lowered

/-! ### Packed calls -/

/-- The packed form of a primitive function with a kernel, used at argument types: a single tuple
is spread into its fields, other arguments are passed as they are. -/
def PackedForm.ofTypes (kernel : String) : List Ty → PackedForm
  | [.tuple fields] => ⟨kernel, fields.length, .spread⟩
  | types => ⟨kernel, types.length, .flat⟩

/-- The packed form of a primitive function: its kernel is named by its fingerprint. -/
def Function.packedForm? (f : Function) (types : List Ty) : Option PackedForm :=
  f.fingerprint.toOption.map fun fp => .ofTypes fp.kernelName types

/-! ### Expressions -/

namespace Expr

/-- An expression that binds a variable. -/
def isBind : Expr → Bool
  | .bind _ _ _ => true
  | _ => false

/-- A chain of bindings with a body. -/
def bindAll (bindings : List (Var × Expr)) (body : Expr) : Expr :=
  bindings.foldr (fun p e => .bind p.1 p.2 e) body

mutual

/-- The lowered form of an expression. There is none if an expression is missing, an operator stands
outside of primitive functions, a constructor is not applied, or a primitive function has no
fingerprint. -/
def lowered? : Expr → Option Node
  | .hole | .op _ | .ctor _ => none
  | .var v => some (.var v)
  | .const c => some (.const c)
  | .global g => some (.global g)
  | .call (.fn params body ret true) args _ => do
    let form ← Function.packedForm? ⟨params, body, ret, true⟩ (args.map Expr.ty)
    let nodes ← loweredAll? args
    some (form.node nodes ret)
  | .call (.ctor c) args _ => do
    let nodes ← loweredAll? args
    some (.construct c c.tag nodes)
  | .call callee args ty => do
    let f ← lowered? callee
    let nodes ← loweredAll? args
    some (.invoke f nodes ty)
  | .bind v value body => do
    let x ← lowered? value
    let n ← lowered? body
    some (Node.bindBefore v x n)
  | .cond test yes no ty => do
    let c ← lowered? test
    let y ← lowered? yes
    let n ← lowered? no
    some (.cond c y n ty)
  | .tuple fields ty => do
    let nodes ← loweredAll? fields
    some (.tuple nodes ty)
  | .proj e index ty => do
    let n ← lowered? e
    some (.proj n index ty)
  | .cases data clauses ty => do
    let d ← lowered? data
    let cs ← loweredClauses? clauses
    some (.cases d cs ty)
  | .fn params body ret true => do
    let form ← Function.packedForm? ⟨params, body, ret, true⟩ (params.map Var.ty)
    some (.fn params (form.node (params.map Node.var) ret) ret)
  | .fn params body ret false => do
    let n ← lowered? body
    some (.fn params n ret)

/-- The lowered forms of several expressions. -/
def loweredAll? : List Expr → Option (List Node)
  | [] => some []
  | e :: es => do
    let n ← lowered? e
    let ns ← loweredAll? es
    some (n :: ns)

/-- The lowered forms of clauses, which keep their patterns. -/
def loweredClauses? : List (Pattern × Expr) → Option (List (Pattern × Node))
  | [] => some []
  | (p, e) :: rest => do
    let n ← lowered? e
    let ns ← loweredClauses? rest
    some ((p, n) :: ns)

end

mutual

/-- An expression in which the calls of constructors are annotated with their data types. -/
def retyped : Expr → Expr
  | .call (.ctor c) args _ => .call (.ctor c) (retypedAll args) (.data c.data)
  | .call callee args ty => .call (retyped callee) (retypedAll args) ty
  | .bind v value body => .bind v (retyped value) (retyped body)
  | .cond test yes no ty => .cond (retyped test) (retyped yes) (retyped no) ty
  | .tuple fields ty => .tuple (retypedAll fields) ty
  | .proj e index ty => .proj (retyped e) index ty
  | .cases data clauses ty => .cases (retyped data) (retypedClauses clauses) ty
  | .fn params body ret primitive => .fn params (retyped body) ret primitive
  | e => e

/-- Several expressions with annotated calls of constructors. -/
def retypedAll : List Expr → List Expr
  | [] => []
  | e :: es => retyped e :: retypedAll es

/-- Clauses with annotated calls of constructors. -/
def retypedClauses : List (Pattern × Expr) → List (Pattern × Expr)
  | [] => []
  | (p, e) :: rest => (p, retyped e) :: retypedClauses rest

end

/-- An expression in which lowering meets no primitive function. -/
def PrimitiveFree (e : Expr) : Prop :=
  ∀ x ∈ e.parts, x.primitiveUse? = none

end Expr

/-- The lowered form of a function. -/
def Function.lowered? (f : Function) : Option Routine :=
  if f.primitive then
    (f.packedForm? (f.params.map Var.ty)).map fun form =>
      ⟨f.params, form.node (f.params.map Node.var) f.ret, f.ret⟩
  else f.body.lowered?.map fun n => ⟨f.params, n, f.ret⟩

namespace Lowered.Node

mutual

/-- The source of a node. A packed call has lost the body of its primitive function. -/
def source : Node → Expr
  | .hole | .packed _ _ _ _ _ => .hole
  | .var v => .var v
  | .const c => .const c
  | .global g => .global g
  | .invoke callee args ty => .call (source callee) (sourceAll args) ty
  | .decl bindings body => .bindAll (sourceBindings bindings) (source body)
  | .cond test yes no ty => .cond (source test) (source yes) (source no) ty
  | .tuple fields ty => .tuple (sourceAll fields) ty
  | .proj n index ty => .proj (source n) index ty
  | .cases data clauses ty => .cases (source data) (sourceClauses clauses) ty
  | .fn params body ret => .fn params (source body) ret false
  | .construct c _ args => .call (.ctor c) (sourceAll args) (.data c.data)

/-- The sources of several nodes. -/
def sourceAll : List Node → List Expr
  | [] => []
  | n :: ns => source n :: sourceAll ns

/-- The sources of bindings. -/
def sourceBindings : List (Var × Node) → List (Var × Expr)
  | [] => []
  | (v, n) :: rest => (v, source n) :: sourceBindings rest

/-- The sources of clauses. -/
def sourceClauses : List (Pattern × Node) → List (Pattern × Expr)
  | [] => []
  | (p, n) :: rest => (p, source n) :: sourceClauses rest

end

/-- A binding in front of a node is read back in front of its source. -/
theorem source_bindBefore (v : Var) (x n : Node) :
    (bindBefore v x n).source = .bind v x.source n.source := by
  cases n <;> rfl

end Lowered.Node

/-! ### Chains of bindings -/

namespace Expr

/-- A call of a callee that is lowered as a node of its own. -/
theorem lowered?_call {callee : Expr} (plain : callee.isPrimitive = false)
    (other : ∀ c, callee ≠ .ctor c) (args : List Expr) (ty : Ty) :
    (Expr.call callee args ty).lowered? = (do
      let f ← callee.lowered?
      let nodes ← loweredAll? args
      some (.invoke f nodes ty)) := by
  rw [lowered?]
  · rintro params body ret rfl
    cases plain
  · exact other

/-- Only a binding becomes a block. -/
theorem ne_decl_of_lowered? {e : Expr} (h : e.isBind = false) {n : Node}
    (hn : e.lowered? = some n) (bindings : List (Var × Node)) (body : Node) :
    n ≠ .decl bindings body := by
  rintro rfl
  unfold lowered? at hn
  split at hn
  case h_10 => cases h
  all_goals
    simp only [Option.bind_eq_bind, Option.bind_eq_some_iff, Option.some.injEq, PackedForm.node,
      reduceCtorEq, and_false, exists_false] at hn

/-- A chain of bindings becomes one block. -/
theorem lowered?_bindAll {body : Expr} (h : body.isBind = false) {bindings : List (Var × Expr)}
    (some_binding : bindings ≠ []) :
    (bindAll bindings body).lowered? = (do
      let values ← loweredAll? (bindings.map Prod.snd)
      let n ← body.lowered?
      some (.decl ((bindings.map Prod.fst).zip values) n)) := by
  induction bindings with
  | nil => exact absurd rfl some_binding
  | cons binding rest ih =>
      obtain ⟨v, x⟩ := binding
      rw [bindAll, List.foldr_cons, lowered?, List.map_cons, loweredAll?]
      cases hx : x.lowered? with
      | none => rfl
      | some value =>
          cases rest with
          | nil =>
              cases hb : body.lowered? with
              | none => simp [loweredAll?, hb]
              | some n =>
                  have block := ne_decl_of_lowered? h hb
                  cases n <;> simp_all [loweredAll?, Node.bindBefore]
          | cons next rest =>
              have tail := ih (List.cons_ne_nil _ _)
              simp only [bindAll] at tail
              rw [tail]
              cases hv : loweredAll? ((next :: rest).map Prod.snd) with
              | none => simp
              | some values => cases hb : body.lowered? <;> simp [Node.bindBefore]

/-! ### Reading back -/

/-- A call that is no construction keeps its type. -/
theorem retyped_call {callee : Expr} (other : ∀ c, callee ≠ .ctor c) (args : List Expr) (ty : Ty) :
    (Expr.call callee args ty).retyped = .call callee.retyped (retypedAll args) ty := by
  rw [retyped]
  exact other

/-- The callee of a call that uses no primitive function is none. -/
theorem isPrimitive_callee {callee : Expr} {args : List Expr} {ty : Ty}
    (free : (Expr.call callee args ty).PrimitiveFree) : callee.isPrimitive = false := by
  have unused := free _ List.mem_cons_self
  cases callee with
  | fn params body ret primitive =>
      cases primitive with
      | false => rfl
      | true => cases unused
  | _ => rfl

/-- A callee uses no primitive function if its call does not. -/
theorem PrimitiveFree.callee {callee : Expr} {args : List Expr} {ty : Ty}
    (free : (Expr.call callee args ty).PrimitiveFree) : callee.PrimitiveFree := by
  intro x hx
  cases head : callee.isHead with
  | false =>
      refine free x (List.mem_cons_of_mem _ (List.mem_append_left _ ?_))
      rw [head]
      exact hx
  | true =>
      -- A callee that is not visited has no nodes but itself.
      cases callee with
      | hole | op | ctor =>
          obtain rfl := List.mem_singleton.mp hx
          rfl
      | fn params body ret primitive =>
          cases (isPrimitive_callee free).symm.trans head
      | _ => cases head

/-- A call is read back if its parts are. -/
theorem source_of_lowered?_call {callee : Expr} {args : List Expr} {ty : Ty}
    (free : (Expr.call callee args ty).PrimitiveFree)
    (head : ∀ n, callee.lowered? = some n → n.source = callee.retyped)
    (tail : ∀ ns, loweredAll? args = some ns → Node.sourceAll ns = retypedAll args) {n : Node}
    (h : (Expr.call callee args ty).lowered? = some n) :
    n.source = (Expr.call callee args ty).retyped := by
  by_cases construct : ∃ c, callee = .ctor c
  · obtain ⟨c, rfl⟩ := construct
    simp only [lowered?, Option.bind_eq_bind, Option.bind_eq_some_iff, Option.some.injEq] at h
    obtain ⟨nodes, hn, rfl⟩ := h
    rw [Node.source, tail nodes hn, retyped]
  · have other (c : Ctor) : callee ≠ .ctor c := fun same => construct ⟨c, same⟩
    have plain := isPrimitive_callee free
    simp only [lowered?_call plain other, Option.bind_eq_bind, Option.bind_eq_some_iff,
      Option.some.injEq] at h
    obtain ⟨f, hf, nodes, hn, rfl⟩ := h
    rw [Node.source, head f hf, tail nodes hn, retyped_call other]

mutual

/-- The lowered form of an expression without primitive functions is read back as the expression,
up to the types of constructor calls. -/
theorem source_of_lowered? : (e : Expr) → e.PrimitiveFree → ∀ n, e.lowered? = some n →
    n.source = e.retyped
  | .hole, _, _, h => by cases h
  | .op _, _, _, h => by cases h
  | .ctor _, _, _, h => by cases h
  | .var v, _, _, h => by cases h; rfl
  | .const c, _, _, h => by cases h; rfl
  | .global g, _, _, h => by cases h; rfl
  | .call callee args ty, free, n, h =>
      source_of_lowered?_call free (source_of_lowered? callee free.callee)
        (sourceAll_of_loweredAll? args fun x hx =>
          free x (List.mem_cons_of_mem _ (List.mem_append_right _ hx))) h
  | .bind v value body, free, n, h => by
      simp only [PrimitiveFree, parts, List.forall_mem_cons, List.forall_mem_append] at free
      obtain ⟨-, first, second⟩ := free
      simp only [lowered?, Option.bind_eq_bind, Option.bind_eq_some_iff, Option.some.injEq] at h
      obtain ⟨x, hx, m, hm, rfl⟩ := h
      rw [Node.source_bindBefore, source_of_lowered? value first x hx,
        source_of_lowered? body second m hm, retyped]
  | .cond test yes no ty, free, n, h => by
      simp only [PrimitiveFree, parts, List.forall_mem_cons, List.forall_mem_append] at free
      obtain ⟨-, ⟨first, second⟩, third⟩ := free
      simp only [lowered?, Option.bind_eq_bind, Option.bind_eq_some_iff, Option.some.injEq] at h
      obtain ⟨c, hc, y, hy, m, hm, rfl⟩ := h
      rw [Node.source, source_of_lowered? test first c hc, source_of_lowered? yes second y hy,
        source_of_lowered? no third m hm, retyped]
  | .tuple fields ty, free, n, h => by
      simp only [lowered?, Option.bind_eq_bind, Option.bind_eq_some_iff, Option.some.injEq] at h
      obtain ⟨nodes, hn, rfl⟩ := h
      rw [Node.source, sourceAll_of_loweredAll? fields
        (fun x hx => free x (List.mem_cons_of_mem _ hx)) nodes hn, retyped]
  | .proj e index ty, free, n, h => by
      simp only [lowered?, Option.bind_eq_bind, Option.bind_eq_some_iff, Option.some.injEq] at h
      obtain ⟨m, hm, rfl⟩ := h
      rw [Node.source, source_of_lowered? e
        (fun x hx => free x (List.mem_cons_of_mem _ hx)) m hm, retyped]
  | .cases data clauses ty, free, n, h => by
      simp only [PrimitiveFree, parts, List.forall_mem_cons, List.forall_mem_append] at free
      obtain ⟨-, first, second⟩ := free
      simp only [lowered?, Option.bind_eq_bind, Option.bind_eq_some_iff, Option.some.injEq] at h
      obtain ⟨d, hd, cs, hcs, rfl⟩ := h
      rw [Node.source, source_of_lowered? data first d hd,
        sourceClauses_of_loweredClauses? clauses second cs hcs, retyped]
  | .fn params body ret true, free, _, _ => by
      cases free _ List.mem_cons_self
  | .fn params body ret false, free, n, h => by
      simp only [lowered?, Option.bind_eq_bind, Option.bind_eq_some_iff, Option.some.injEq] at h
      obtain ⟨m, hm, rfl⟩ := h
      rw [Node.source, source_of_lowered? body
        (fun x hx => free x (List.mem_cons_of_mem _ hx)) m hm, retyped]

/-- So are the lowered forms of several expressions. -/
theorem sourceAll_of_loweredAll? : (es : List Expr) → (∀ x ∈ partsAll es, x.primitiveUse? = none) →
    ∀ ns, loweredAll? es = some ns → Node.sourceAll ns = retypedAll es
  | [], _, _, h => by cases h; rfl
  | e :: es, free, ns, h => by
      simp only [partsAll, List.forall_mem_append] at free
      simp only [loweredAll?, Option.bind_eq_bind, Option.bind_eq_some_iff, Option.some.injEq] at h
      obtain ⟨m, hm, ms, hms, rfl⟩ := h
      rw [Node.sourceAll, source_of_lowered? e free.1 m hm,
        sourceAll_of_loweredAll? es free.2 ms hms, retypedAll]

/-- So are those of clauses. -/
theorem sourceClauses_of_loweredClauses? : (cs : List (Pattern × Expr)) →
    (∀ x ∈ partsClauses cs, x.primitiveUse? = none) →
    ∀ ns, loweredClauses? cs = some ns → Node.sourceClauses ns = retypedClauses cs
  | [], _, _, h => by cases h; rfl
  | (p, e) :: cs, free, ns, h => by
      simp only [partsClauses, List.forall_mem_append] at free
      simp only [loweredClauses?, Option.bind_eq_bind, Option.bind_eq_some_iff,
        Option.some.injEq] at h
      obtain ⟨m, hm, ms, hms, rfl⟩ := h
      rw [Node.sourceClauses, source_of_lowered? e free.1 m hm,
        sourceClauses_of_loweredClauses? cs free.2 ms hms, retypedClauses]

end

/-! ### What is lost -/

/-- An expression keeps its form when its constructor calls are annotated. -/
theorem isPrimitive_retyped (e : Expr) : e.retyped.isPrimitive = e.isPrimitive := by
  unfold retyped
  split
  case h_8 => rename_i primitive; cases primitive <;> rfl
  all_goals rfl

/-- Annotations make no constructor of another expression. -/
theorem retyped_ne_ctor {e : Expr} (other : ∀ c, e ≠ .ctor c) (c : Ctor) :
    e.retyped ≠ .ctor c := by
  unfold retyped
  split
  case h_9 => exact other c
  all_goals nofun

/-- The types of constructor calls do not show in the lowered form of a call if they do not in those
of its parts. -/
theorem lowered?_retyped_call {callee : Expr} {args : List Expr} {ty : Ty}
    (free : (Expr.call callee args ty).PrimitiveFree)
    (head : callee.retyped.lowered? = callee.lowered?)
    (tail : loweredAll? (retypedAll args) = loweredAll? args) :
    (Expr.call callee args ty).retyped.lowered? = (Expr.call callee args ty).lowered? := by
  by_cases construct : ∃ c, callee = .ctor c
  · obtain ⟨c, rfl⟩ := construct
    rw [retyped, lowered?, lowered?, tail]
  · have other (c : Ctor) : callee ≠ .ctor c := fun same => construct ⟨c, same⟩
    have plain := isPrimitive_callee free
    rw [retyped_call other, lowered?_call (callee.isPrimitive_retyped.trans plain)
      (retyped_ne_ctor other), lowered?_call plain other, head, tail]

mutual

/-- The types of constructor calls do not show in a lowered form. -/
theorem lowered?_retyped : (e : Expr) → e.PrimitiveFree → e.retyped.lowered? = e.lowered?
  | .hole, _ | .op _, _ | .ctor _, _ | .var _, _ | .const _, _ | .global _, _ => rfl
  | .call callee args ty, free =>
      lowered?_retyped_call free (lowered?_retyped callee free.callee)
        (loweredAll?_retyped args fun x hx =>
          free x (List.mem_cons_of_mem _ (List.mem_append_right _ hx)))
  | .bind v value body, free => by
      simp only [PrimitiveFree, parts, List.forall_mem_cons, List.forall_mem_append] at free
      obtain ⟨-, first, second⟩ := free
      rw [retyped, lowered?, lowered?, lowered?_retyped value first, lowered?_retyped body second]
  | .cond test yes no ty, free => by
      simp only [PrimitiveFree, parts, List.forall_mem_cons, List.forall_mem_append] at free
      obtain ⟨-, ⟨first, second⟩, third⟩ := free
      rw [retyped, lowered?, lowered?, lowered?_retyped test first, lowered?_retyped yes second,
        lowered?_retyped no third]
  | .tuple fields ty, free => by
      rw [retyped, lowered?, lowered?, loweredAll?_retyped fields fun x hx =>
        free x (List.mem_cons_of_mem _ hx)]
  | .proj e index ty, free => by
      rw [retyped, lowered?, lowered?, lowered?_retyped e fun x hx =>
        free x (List.mem_cons_of_mem _ hx)]
  | .cases data clauses ty, free => by
      simp only [PrimitiveFree, parts, List.forall_mem_cons, List.forall_mem_append] at free
      obtain ⟨-, first, second⟩ := free
      rw [retyped, lowered?, lowered?, lowered?_retyped data first,
        loweredClauses?_retyped clauses second]
  | .fn params body ret true, free => by
      cases free _ List.mem_cons_self
  | .fn params body ret false, free => by
      rw [retyped, lowered?, lowered?, lowered?_retyped body fun x hx =>
        free x (List.mem_cons_of_mem _ hx)]

/-- Nor in several ones. -/
theorem loweredAll?_retyped : (es : List Expr) → (∀ x ∈ partsAll es, x.primitiveUse? = none) →
    loweredAll? (retypedAll es) = loweredAll? es
  | [], _ => rfl
  | e :: es, free => by
      simp only [partsAll, List.forall_mem_append] at free
      rw [retypedAll, loweredAll?, loweredAll?, lowered?_retyped e free.1,
        loweredAll?_retyped es free.2]

/-- Nor in those of clauses. -/
theorem loweredClauses?_retyped : (cs : List (Pattern × Expr)) →
    (∀ x ∈ partsClauses cs, x.primitiveUse? = none) →
    loweredClauses? (retypedClauses cs) = loweredClauses? cs
  | [], _ => rfl
  | (p, e) :: cs, free => by
      simp only [partsClauses, List.forall_mem_append] at free
      rw [retypedClauses, loweredClauses?, loweredClauses?, lowered?_retyped e free.1,
        loweredClauses?_retyped cs free.2]

end

end Expr

/-! ### Translations -/

namespace Lowering

variable {prim : PrimJudgement} {known : GlobalRef → Prop}

/-- The convention of a packed call is read off the types of the arguments. -/
theorem ofTypes_of_convention {site : Expr} {params : Nat} {types : List Ty} {conv : Convention}
    {inputs : Nat} (h : convention site params types = .ok (conv, inputs)) (kernel : String) :
    PackedForm.ofTypes kernel types = ⟨kernel, inputs, conv⟩ := by
  unfold convention at h
  split at h
  · split at h
    · cases h
    · cases h
      rfl
  · rename_i single
    have flat : PackedForm.ofTypes kernel types = ⟨kernel, types.length, .flat⟩ := by
      unfold PackedForm.ofTypes
      split
      · exact absurd rfl (single _)
      · rfl
    split at h
    · cases h
    · split at h
      · rename_i count
        cases h
        rw [flat, count]
      · cases h

/-- A constructor alone has no translation. -/
theorem Translates.ne_ctor {e : Expr} {n : Node} (h : Translates prim known e n) (c : Ctor) :
    e ≠ .ctor c := by
  rintro rfl
  cases h

section

variable (packs : ∀ f types form, prim f types form → f.packedForm? types = some form)

set_option linter.unusedSectionVars false

include packs

mutual

/-- A translation of an expression is its lowered form, if packed calls are. -/
theorem Translates.lowered? {e : Expr} {n : Node} :
    Translates prim known e n → e.lowered? = some n
  | .var _ => rfl
  | .const _ => rfl
  | .global _ => rfl
  | .primCall ok fields => by
      simp [Expr.lowered?, packs _ _ _ ok, TranslatesAll.loweredAll? fields]
  | .ctorCall _ fields => by
      simp [Expr.lowered?, TranslatesAll.loweredAll? fields]
  | .call plain head fields => by
      simp [Expr.lowered?_call plain head.ne_ctor, Translates.lowered? head,
        TranslatesAll.loweredAll? fields]
  | .bind head tail => by
      simp [Expr.lowered?, Translates.lowered? head, Translates.lowered? tail]
  | .cond head left right => by
      simp [Expr.lowered?, Translates.lowered? head, Translates.lowered? left,
        Translates.lowered? right]
  | .tuple all => by simp [Expr.lowered?, TranslatesAll.loweredAll? all]
  | .proj head => by simp [Expr.lowered?, Translates.lowered? head]
  | .cases head all => by
      simp [Expr.lowered?, Translates.lowered? head, TranslatesClauses.loweredClauses? all]
  | .primFn ok => by simp [Expr.lowered?, packs _ _ _ ok]
  | .fn head => by simp [Expr.lowered?, Translates.lowered? head]

/-- Translations of several expressions are their lowered forms. -/
theorem TranslatesAll.loweredAll? {es : List Expr} {ns : List Node} :
    TranslatesAll prim known es ns → Expr.loweredAll? es = some ns
  | .nil => rfl
  | .cons head tail => by
      simp [Expr.loweredAll?, Translates.lowered? head, TranslatesAll.loweredAll? tail]

/-- Translations of clauses are their lowered forms. -/
theorem TranslatesClauses.loweredClauses? {es : List (Pattern × Expr)}
    {ns : List (Pattern × Node)} :
    TranslatesClauses prim known es ns → Expr.loweredClauses? es = some ns
  | .nil => rfl
  | .cons head tail => by
      simp [Expr.loweredClauses?, Translates.lowered? head, TranslatesClauses.loweredClauses? tail]

end

/-- The translation of a function is its lowered form. -/
theorem TranslatesFunction.lowered? {f : Function} {r : Routine}
    (h : TranslatesFunction prim known f r) : f.lowered? = some r := by
  cases h with
  | prim ok => simp [Function.lowered?, packs _ _ _ ok]
  | plain head => simp [Function.lowered?, head.lowered? packs]

end

end Lowering
end TensorCompiler
