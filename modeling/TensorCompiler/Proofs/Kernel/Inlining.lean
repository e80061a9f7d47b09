import Mathlib.Data.List.Nodup
import TensorCompiler.Proofs.Fingerprint.Renaming
import TensorCompiler.Proofs.Kernel.Building
import TensorCompiler.Proofs.Kernel.Reuse
import TensorCompiler.Proofs.Meaning.Kernels

/-!
# Inlining and capture

A graph has one table of variables, and what is bound in it stays bound: while the arguments of a
call are still built, the first parameters are already entered, and what an argument binds hides
what stood there before. A function is therefore not always compiled like the function in which
every binder has a variable of its own.

Main statement: a function in which nothing is bound on the way to a use that the use does not mean
is compiled like every function that differs from it in the choice of variables only, if that one
has a variable of its own for every binder.

## Implementation notes

Two bodies are related under the pairs of variables that are in scope, the latest first. The graphs
are built side by side. The invariant, `GraphScope.InStep`, says of the variables that are still
used only that paired ones denote the same: the others may have been overwritten on one side.
-/

namespace TensorCompiler

/-! ### Functions that differ in the choice of variables -/

/-- Two variables mean one binder: of the pairs in scope, the latest with one of them has both. -/
def Paired : List (Var × Var) → Var → Var → Prop
  | [], _, _ => False
  | (v, v') :: σ, w, w' => w = v ∧ w' = v' ∨ w ≠ v ∧ w' ≠ v' ∧ Paired σ w w'

mutual

/-- Two expressions of primitive functions differ in the choice of variables only, under the pairs
of variables that are in scope. -/
inductive Alpha : List (Var × Var) → Expr → Expr → Prop
  | var {σ v v'} (paired : Paired σ v v') : Alpha σ (.var v) (.var v')
  | const {σ} (c : Constant) : Alpha σ (.const c) (.const c)
  | bind {σ v v' value value' body body'} (ty : v.ty = v'.ty) (head : Alpha σ value value')
      (tail : Alpha ((v, v') :: σ) body body') :
      Alpha σ (.bind v value body) (.bind v' value' body')
  | tuple {σ fields fields' ty} (all : AlphaAll σ fields fields') :
      Alpha σ (.tuple fields ty) (.tuple fields' ty)
  | proj {σ e e' index ty} (head : Alpha σ e e') : Alpha σ (.proj e index ty) (.proj e' index ty)
  | operator {σ name args args' ty} (all : AlphaAll σ args args') :
      Alpha σ (.call (.op name) args ty) (.call (.op name) args' ty)
  | call {σ params params' body body' ret args args' ty}
      (types : params.map Var.ty = params'.map Var.ty) (all : AlphaAll σ args args')
      (result : Alpha ((params.zip params').reverse ++ σ) body body') :
      Alpha σ (.call (.fn params body ret true) args ty)
        (.call (.fn params' body' ret true) args' ty)

/-- Several expressions of primitive functions that differ in the choice of variables only. -/
inductive AlphaAll : List (Var × Var) → List Expr → List Expr → Prop
  | nil {σ} : AlphaAll σ [] []
  | cons {σ e e' es es'} (head : Alpha σ e e') (tail : AlphaAll σ es es') :
      AlphaAll σ (e :: es) (e' :: es')

end

/-- Two functions differ in the choice of variables only. Every variable of theirs is used in the
scope of its binder. -/
structure Function.AlphaEquivalent (f g : Function) : Prop where
  types : f.params.map Var.ty = g.params.map Var.ty
  body : Alpha (f.params.zip g.params).reverse f.body g.body

/-! ### Functions whose graph is built as they are read -/

namespace Expr

mutual

/-- The variables that an expression of a primitive function uses and does not bind. -/
def free : Expr → List Var
  | .var v => [v]
  | .bind v value body => free value ++ (free body).filter (· ≠ v)
  | .tuple fields _ => freeAll fields
  | .proj e _ _ => free e
  | .call (.fn params body _ true) args _ => freeAll args ++ (free body).filter (· ∉ params)
  | .call _ args _ => freeAll args
  | _ => []

/-- The variables that several expressions use and do not bind. -/
def freeAll : List Expr → List Var
  | [] => []
  | e :: es => free e ++ freeAll es

end

/-- Parameters that are entered while arguments are built disturb no use of a variable: a parameter
is not free in a later argument, and what an argument binds is used in the body only as the
parameter of this argument or of a later one. -/
def isEntryUndisturbed (used : List Var) : List Var → List Expr → Bool
  | p :: ps, e :: es =>
    p ∉ freeAll es && e.binders.all (fun w => w ∉ used || w = p || w ∈ ps) &&
      isEntryUndisturbed used ps es
  | _, _ => true

mutual

/-- Nothing is bound on the way to a use of a variable that the use does not mean. -/
def isUndisturbed : Expr → Bool
  | .bind v value body =>
    isUndisturbed value && isUndisturbed body &&
      value.binders.all fun w => w ∉ free body || w = v
  | .tuple fields _ => isUndisturbedAll fields
  | .proj e _ _ => isUndisturbed e
  | .call (.fn params body _ true) args _ =>
    isUndisturbedAll args && isUndisturbed body && isEntryUndisturbed (free body) params args
  | .call _ args _ => isUndisturbedAll args
  | _ => true

/-- Nothing is bound in an expression that a later one uses from outside. -/
def isUndisturbedAll : List Expr → Bool
  | [] => true
  | e :: es =>
    isUndisturbed e && isUndisturbedAll es && e.binders.all fun w => w ∉ freeAll es

end

end Expr

namespace GraphScope

/-! ### What building leaves alone -/

theorem find?_enter_self (s : GraphScope) (v : Var) (b : Built) :
    (s.enter v b).find? v = some b := by
  simp [enter, find?]

theorem find?_enter_of_ne {v w : Var} (s : GraphScope) (other : w ≠ v) (b : Built) :
    (s.enter v b).find? w = s.find? w := by
  simp [enter, find?, Ne.symm other]

mutual

/-- Building an expression leaves every variable alone that it does not bind. -/
theorem Builds.find?_eq {s t : GraphScope} {e : Expr} {b : Built} {w : Var} :
    Builds s e b t → w ∉ e.binders → t.find? w = s.find? w
  | .var _, _ => rfl
  | .const _, _ => rfl
  | .bind head tail, h => by
      simp only [Expr.binders, List.mem_append, List.mem_singleton, not_or] at h
      obtain ⟨inValue, other, inBody⟩ := h
      rw [Builds.find?_eq tail inBody, find?_enter_of_ne _ other, find?_share,
        Builds.find?_eq head inValue]
  | .tuple all, h => BuildsAll.find?_eq all h
  | .proj head _ _, h => Builds.find?_eq head h
  | .operator _ operands _, h => BuildsAll.find?_eq operands h
  | .call entered result, h => by
      simp only [Expr.binders, List.mem_append, not_or] at h
      obtain ⟨⟨params, inBody⟩, inArgs⟩ := h
      rw [Builds.find?_eq result inBody, BuildsArgs.find?_eq entered params inArgs]

/-- Building expressions leaves every variable alone that they do not bind. -/
theorem BuildsAll.find?_eq {s t : GraphScope} {es : List Expr} {bs : List Built} {w : Var} :
    BuildsAll s es bs t → w ∉ Expr.bindersAll es → t.find? w = s.find? w
  | .nil, _ => rfl
  | .cons head tail, h => by
      simp only [Expr.bindersAll, List.mem_append, not_or] at h
      rw [BuildsAll.find?_eq tail h.2, Builds.find?_eq head h.1]

/-- Entering parameters leaves every other variable alone that the arguments do not bind. -/
theorem BuildsArgs.find?_eq {s t : GraphScope} {ps : List Var} {es : List Expr} {w : Var} :
    BuildsArgs s ps es t → w ∉ ps → w ∉ Expr.bindersAll es → t.find? w = s.find? w
  | .nil, _, _ => rfl
  | .cons head tail, hp, h => by
      simp only [List.mem_cons, not_or] at hp
      simp only [Expr.bindersAll, List.mem_append, not_or] at h
      rw [BuildsArgs.find?_eq tail hp.2 h.2, find?_enter_of_ne _ hp.1, Builds.find?_eq head h.1]

end

end GraphScope

/-! ### Variables of their own -/

/-- Variables that are different from one another and from those on the right of the pairs in
scope. -/
def Own (σ : List (Var × Var)) (vs : List Var) : Prop :=
  vs.Nodup ∧ (σ.map Prod.snd).Disjoint vs

theorem own_append {σ : List (Var × Var)} {vs ws : List Var} :
    Own σ (vs ++ ws) ↔ Own σ vs ∧ Own σ ws ∧ vs.Disjoint ws := by
  simp only [Own, List.nodup_append', List.disjoint_append_right]
  tauto

theorem Own.enter {σ : List (Var × Var)} {vs : List Var} (h : Own σ vs) (v : Var) {v' : Var}
    (other : v' ∉ vs) : Own ((v, v') :: σ) vs :=
  ⟨h.1, List.disjoint_cons_left.mpr ⟨other, h.2⟩⟩

/-- What the parameters of two functions are paired with. -/
theorem Own.enterAll {σ : List (Var × Var)} {vs ps' : List Var} (h : Own σ vs) (ps : List Var)
    (apart : ps'.Disjoint vs) : Own ((ps.zip ps').reverse ++ σ) vs := by
  refine ⟨h.1, ?_⟩
  intro w hw
  rw [List.map_append, List.mem_append] at hw
  rcases hw with hw | hw
  · obtain ⟨⟨p, p'⟩, member, rfl⟩ := List.mem_map.mp hw
    exact fun hv => apart (List.of_mem_zip (List.mem_reverse.mp member)).2 hv
  · exact fun hv => h.2 hw hv

theorem Paired.mem_right {σ : List (Var × Var)} {v v' : Var} (h : Paired σ v v') :
    v' ∈ σ.map Prod.snd := by
  induction σ with
  | nil => exact h.elim
  | cons p σ ih =>
      rcases h with ⟨-, rfl⟩ | ⟨-, -, h⟩
      · exact List.mem_cons_self
      · exact List.mem_cons_of_mem _ (ih h)

/-! ### Building side by side -/

namespace GraphScope

/-- Scopes in which paired variables that are still used denote the same but for the names of
inputs. -/
structure InStep (σ : List (Var × Var)) (used : Var → Prop) (s t : GraphScope) : Prop where
  slots : s.slots = t.slots
  vars : ∀ v v', used v → Paired σ v v' →
    (s.find? v).map Built.unnamed = (t.find? v').map Built.unnamed

variable {σ : List (Var × Var)} {used fewer : Var → Prop} {s s' t t' : GraphScope}

/-- Building keeps the alignment of the variables that it leaves alone. -/
theorem InStep.after (h : InStep σ used s t) (less : ∀ w, fewer w → used w)
    (slots : s'.slots = t'.slots) (left : ∀ w, fewer w → s'.find? w = s.find? w)
    (right : ∀ w ∈ σ.map Prod.snd, t'.find? w = t.find? w) : InStep σ fewer s' t' := by
  refine ⟨slots, ?_⟩
  intro v v' hv paired
  rw [left v hv, right v' paired.mem_right, h.vars v v' (less v hv) paired]

theorem InStep.mono (h : InStep σ used s t) (less : ∀ w, fewer w → used w) :
    InStep σ fewer s t :=
  h.after less h.slots (fun _ _ => rfl) fun _ _ => rfl

/-- Entering paired variables. -/
theorem InStep.enter {v v' : Var} (h : InStep σ (fun w => used w ∧ w ≠ v) s t) {b b' : Built}
    (same : b.unnamed = b'.unnamed) :
    InStep ((v, v') :: σ) used (s.enter v b) (t.enter v' b') := by
  refine ⟨h.slots, ?_⟩
  rintro w w' hw (⟨rfl, rfl⟩ | ⟨left, right, paired⟩)
  · rw [find?_enter_self, find?_enter_self, Option.map_some, Option.map_some, same]
  · rw [find?_enter_of_ne _ left, find?_enter_of_ne _ right, h.vars w w' ⟨hw, left⟩ paired]

end GraphScope

/-- The nodes that differ from nodes in names only are nodes. -/
theorem Built.nodes_of_unnamedAll {ns : List GraphNode} {bs : List Built}
    (same : unnamedAll (ns.map .node) = unnamedAll bs) :
    ∃ ns' : List GraphNode, bs = ns'.map .node ∧
      ns.map GraphNode.unnamed = ns'.map GraphNode.unnamed := by
  induction ns generalizing bs with
  | nil =>
      cases bs with
      | nil => exact ⟨[], rfl, rfl⟩
      | cons b bs => cases same
  | cons n ns ih =>
      cases bs with
      | nil => cases same
      | cons b bs =>
          simp only [List.map_cons, unnamedAll, List.cons.injEq] at same
          obtain ⟨ns', rfl, rest⟩ := ih same.2
          cases b with
          | tuple fields => simp [unnamed] at same
          | node n' => exact ⟨n' :: ns', rfl, by simpa [rest] using Built.node.inj same.1⟩

/-- An operator that applies to nodes applies to all that differ from them in names only. -/
theorem KernelOp.node_of_unnamed {op : KernelOp} {ns ns' : List GraphNode} {n : GraphNode}
    (same : ns.map GraphNode.unnamed = ns'.map GraphNode.unnamed) (h : op.node ns = .ok n) :
    ∃ n', op.node ns' = .ok n' ∧ n.unnamed = n'.unnamed := by
  have left := op.node_unnamed ns
  rw [same, op.node_unnamed ns', h] at left
  cases applied : op.node ns' with
  | error e =>
      rw [applied] at left
      cases left
  | ok n' =>
      rw [applied] at left
      exact ⟨n', rfl, (Except.ok.inj left).symm⟩

open GraphScope

mutual

/-- An undisturbed expression and one that differs from it in the choice of variables denote the
same but for the names of inputs. -/
theorem Alpha.builds {σ : List (Var × Var)} {e e' : Expr} : Alpha σ e e' →
    ∀ (s s₁ t : GraphScope) (b : Built), Builds s e b s₁ → e.isUndisturbed = true →
      Own σ e'.binders → InStep σ (· ∈ e.free) s t →
        ∃ b' t₁, Builds t e' b' t₁ ∧ b.unnamed = b'.unnamed ∧ s₁.slots = t₁.slots
  | .var paired => by
      rintro s s₁ t b ⟨found⟩ _ _ inStep
      have same := inStep.vars _ _ (List.mem_singleton.mpr rfl) paired
      rw [found] at same
      obtain ⟨b', found', same⟩ := Option.map_eq_some_iff.mp same.symm
      exact ⟨b', t, .var found', same.symm, inStep.slots⟩
  | .const c => by
      intro s s₁ t b built _ _ inStep
      cases built with
      | const held => exact ⟨_, t, .const held, rfl, inStep.slots⟩
  | @Alpha.bind σ v v' value value' body body' ty head tail => by
      intro s s₂ t b built undisturbed own inStep
      cases built with
      | @bind _ s₁ _ _ _ _ c _ first second =>
          simp only [Expr.isUndisturbed, Bool.and_eq_true, List.all_eq_true, Bool.or_eq_true,
            decide_eq_true_eq] at undisturbed
          obtain ⟨⟨inValue, inBody⟩, apart⟩ := undisturbed
          obtain ⟨ownValue, ownRest, -⟩ := own_append.mp own
          obtain ⟨-, ownBody, other⟩ := own_append.mp ownRest
          have free (w : Var) : w ∈ (Expr.bind v value body).free ↔
              w ∈ value.free ∨ w ∈ body.free ∧ w ≠ v := by
            simp [Expr.free]
          obtain ⟨c', t₁, first', same, slots⟩ := Alpha.builds head _ _ _ _ first inValue ownValue
            (inStep.mono fun w hw => (free w).mpr (.inl hw))
          obtain ⟨shared, slots⟩ := share_unnamed slots same
          -- What the value binds is not used in the body, and on the other side it is new.
          have kept : InStep σ (fun w => w ∈ body.free ∧ w ≠ v) (s₁.share c).2 (t₁.share c').2 := by
            refine inStep.after (fun w hw => (free w).mpr (.inr hw)) slots ?_ ?_
            · rintro w ⟨used, ne⟩
              rw [find?_share, first.find?_eq fun bound => (apart w bound).elim (· used) ne]
            · intro w hw
              rw [find?_share, first'.find?_eq (ownValue.2 hw)]
          have ownBody := ownBody.enter v (List.singleton_disjoint.mp other)
          obtain ⟨b', t₂, second', same, slots⟩ :=
            Alpha.builds tail _ _ _ _ second inBody ownBody (kept.enter shared)
          exact ⟨b', t₂, .bind first' second', same, slots⟩
  | .tuple all => by
      intro s s₁ t b built undisturbed own inStep
      cases built with
      | tuple built =>
          obtain ⟨bs', t₁, built', same, slots⟩ :=
            AlphaAll.builds all _ _ _ _ built undisturbed own inStep
          exact ⟨_, t₁, .tuple built', congrArg Built.tuple same, slots⟩
  | @Alpha.proj _ _ _ index _ head => by
      intro s s₁ t b built undisturbed own inStep
      cases built with
      | proj built place field =>
          obtain ⟨c', t₁, built', same, slots⟩ :=
            Alpha.builds head _ _ _ _ built undisturbed own inStep
          cases c' with
          | node n => simp [Built.unnamed] at same
          | tuple bs' =>
              have fields := Built.getElem?_unnamedAll bs' index.toNat
              rw [← Built.tuple.inj same, Built.getElem?_unnamedAll, field] at fields
              obtain ⟨b', field', same⟩ := Option.map_eq_some_iff.mp fields.symm
              exact ⟨b', t₁, .proj built' place field', same.symm, slots⟩
  | .operator all => by
      intro s s₁ t b built undisturbed own inStep
      cases built with
      | operator known operands applied =>
          obtain ⟨bs', t₁, operands', same, slots⟩ :=
            AlphaAll.builds all _ _ _ _ operands undisturbed own inStep
          obtain ⟨ns', rfl, nodes⟩ := Built.nodes_of_unnamedAll same
          obtain ⟨n', applied', same⟩ := KernelOp.node_of_unnamed nodes applied
          exact ⟨_, t₁, .operator known operands' applied', congrArg Built.node same, slots⟩
  | @Alpha.call σ params params' body body' ret args args' ty types all result => by
      intro s s₂ t b built undisturbed own inStep
      cases built with
      | call entered built =>
          simp only [Expr.isUndisturbed, Bool.and_eq_true] at undisturbed
          obtain ⟨⟨inArgs, inBody⟩, entry⟩ := undisturbed
          obtain ⟨ownFn, ownArgs, apart⟩ := own_append.mp own
          obtain ⟨ownParams, ownBody, other⟩ := own_append.mp ownFn
          have outer (w : Var) : w ∈ Expr.freeAll args ∨ w ∈ body.free ∧ w ∉ params →
              w ∈ (Expr.call (.fn params body ret true) args ty).free := by
            simp [Expr.free]
          obtain ⟨t₁, entered', inStep⟩ := AlphaAll.buildsArgs all params params' σ body.free
            _ _ _ (by simpa using congrArg List.length types) entered inArgs entry
            (own_append.mpr ⟨ownParams, ownArgs, (List.disjoint_append_left.mp apart).1⟩) ownArgs.2
            (inStep.mono fun w hw => outer w (.inl hw)) (inStep.mono fun w hw => outer w (.inr hw))
          obtain ⟨b', t₂, built', same, slots⟩ :=
            Alpha.builds result _ _ _ _ built inBody (ownBody.enterAll params other) inStep
          exact ⟨b', t₂, .call entered' built', same, slots⟩

/-- Undisturbed expressions and those that differ from them in the choice of variables denote the
same but for the names of inputs. -/
theorem AlphaAll.builds {σ : List (Var × Var)} {es es' : List Expr} : AlphaAll σ es es' →
    ∀ (s s₁ t : GraphScope) (bs : List Built), BuildsAll s es bs s₁ →
      Expr.isUndisturbedAll es = true → Own σ (Expr.bindersAll es') →
        InStep σ (· ∈ Expr.freeAll es) s t →
          ∃ bs' t₁, BuildsAll t es' bs' t₁ ∧ Built.unnamedAll bs = Built.unnamedAll bs' ∧
            s₁.slots = t₁.slots
  | .nil => by
      intro s s₁ t bs built _ _ inStep
      cases built
      exact ⟨[], t, .nil, rfl, inStep.slots⟩
  | @AlphaAll.cons σ e e' es es' head tail => by
      intro s s₂ t bs built undisturbed own inStep
      cases built with
      | @cons _ s₁ _ _ _ b bs first rest =>
          simp only [Expr.isUndisturbedAll, Bool.and_eq_true, List.all_eq_true,
            decide_eq_true_eq] at undisturbed
          obtain ⟨⟨inHead, inTail⟩, apart⟩ := undisturbed
          obtain ⟨ownHead, ownTail, -⟩ := own_append.mp own
          obtain ⟨b', t₁, first', same, slots⟩ := Alpha.builds head _ _ _ _ first inHead ownHead
            (inStep.mono fun w hw => List.mem_append_left _ hw)
          have kept : InStep σ (· ∈ Expr.freeAll es) s₁ t₁ :=
            inStep.after (fun w hw => List.mem_append_right _ hw) slots
              (fun w used => first.find?_eq fun bound => apart w bound used)
              (fun w hw => first'.find?_eq (ownHead.2 hw))
          obtain ⟨bs', t₂, rest', all, slots⟩ :=
            AlphaAll.builds tail _ _ _ _ rest inTail ownTail kept
          exact ⟨b' :: bs', t₂, .cons first' rest', by rw [Built.unnamedAll, same, all]; rfl, slots⟩

/-- Arguments are entered side by side: the later ones are read under the pairs outside of the call,
and the body of the function under those of the parameters entered so far. -/
theorem AlphaAll.buildsArgs {σ : List (Var × Var)} {es es' : List Expr} : AlphaAll σ es es' →
    ∀ (ps ps' : List Var) (τ : List (Var × Var)) (used : List Var) (s s₁ t : GraphScope),
      ps.length = ps'.length → BuildsArgs s ps es s₁ → Expr.isUndisturbedAll es = true →
      Expr.isEntryUndisturbed used ps es = true → Own σ (ps' ++ Expr.bindersAll es') →
      (τ.map Prod.snd).Disjoint (Expr.bindersAll es') → InStep σ (· ∈ Expr.freeAll es) s t →
      InStep τ (fun w => w ∈ used ∧ w ∉ ps) s t →
        ∃ t₁, BuildsArgs t ps' es' t₁ ∧ InStep ((ps.zip ps').reverse ++ τ) (· ∈ used) s₁ t₁
  | .nil => by
      intro ps ps' τ used s s₁ t count built _ _ _ _ _ body
      cases built
      obtain rfl := List.eq_nil_of_length_eq_zero count.symm
      exact ⟨t, .nil, body.mono fun w hw => ⟨hw, List.not_mem_nil⟩⟩
  | @AlphaAll.cons σ e e' es es' head tail => by
      intro ps ps' τ used s s₂ t count built undisturbed entry own disjoint outer body
      cases built with
      | @cons _ s₁ _ p ps _ _ b first rest =>
          obtain ⟨p', ps', rfl⟩ := List.exists_cons_of_length_eq_add_one count.symm
          simp only [Expr.isUndisturbedAll, Expr.isEntryUndisturbed, Bool.and_eq_true,
            List.all_eq_true, Bool.or_eq_true, decide_eq_true_eq] at undisturbed entry
          obtain ⟨⟨inHead, inTail⟩, apart⟩ := undisturbed
          obtain ⟨⟨later, inBody⟩, entry⟩ := entry
          obtain ⟨ownParams, ownBinders, other⟩ := own_append.mp own
          obtain ⟨ownHead, ownTail, -⟩ := own_append.mp ownBinders
          obtain ⟨disjointHead, disjointTail⟩ := List.disjoint_append_right.mp disjoint
          obtain ⟨otherHere, other⟩ := List.disjoint_cons_left.mp other
          have otherTail := fun h => otherHere (List.mem_append_right _ h)
          obtain ⟨b', t₁, first', same, slots⟩ := Alpha.builds head _ _ _ _ first inHead ownHead
            (outer.mono fun w hw => List.mem_append_left _ hw)
          -- The pairs outside of the call: the parameter is new to the later arguments.
          have outer : InStep σ (· ∈ Expr.freeAll es) (s₁.enter p b) (t₁.enter p' b') := by
            refine outer.after (fun w hw => List.mem_append_right _ hw) slots ?_ ?_
            · intro w hw
              rw [find?_enter_of_ne _ (ne_of_mem_of_not_mem hw later),
                first.find?_eq fun bound => apart w bound hw]
            · intro w hw
              have ne : w ≠ p' := fun h => ownParams.2 hw (h ▸ List.mem_cons_self)
              rw [find?_enter_of_ne _ ne, first'.find?_eq (ownHead.2 hw)]
          -- The pairs of the body: the argument binds none of the variables entered before.
          have body : InStep ((p, p') :: τ) (fun w => w ∈ used ∧ w ∉ ps) (s₁.enter p b)
              (t₁.enter p' b') := by
            refine InStep.enter (body.after ?_ slots ?_ ?_) same
            · rintro w ⟨⟨hw, tail⟩, ne⟩
              exact ⟨hw, List.not_mem_cons_of_ne_of_not_mem ne tail⟩
            · rintro w ⟨⟨hw, tail⟩, ne⟩
              refine first.find?_eq fun bound => ?_
              rcases inBody w bound with (h | h) | h
              · exact h hw
              · exact ne h
              · exact tail h
            · exact fun w hw => first'.find?_eq (disjointHead hw)
          have ownParams : Own σ ps' :=
            ⟨ownParams.1.of_cons, (List.disjoint_cons_right.mp ownParams.2).2⟩
          have own : Own σ (ps' ++ Expr.bindersAll es') :=
            own_append.mpr ⟨ownParams, ownTail, (List.disjoint_append_right.mp other).2⟩
          obtain ⟨t₂, rest', whole⟩ := AlphaAll.buildsArgs tail ps ps' ((p, p') :: τ) used _ _ _
            (Nat.succ.inj count) rest inTail entry own
            (List.disjoint_cons_left.mpr ⟨otherTail, disjointTail⟩) outer body
          refine ⟨t₂, .cons first' rest', ?_⟩
          simpa using whole

end

/-! ### Parameters -/

/-- A shape that an input may have is one for every name and behind all other inputs. -/
theorem inputNode_total {is is' js : List KernelInput} {name name' : String} {shape : Shape}
    {n : GraphNode} (h : inputNode is name shape = .ok (n, is')) :
    ∃ n' js', inputNode js name' shape = .ok (n', js') := by
  unfold inputNode at h ⊢
  split at h
  · exact ⟨_, _, rfl⟩
  · cases h

/-- The fields of a tuple parameter have inputs under every name and behind all other inputs. -/
theorem fieldInputs_total {is is' js : List KernelInput} {name name' : String} {i : Nat}
    {tys : List Ty} {bs : List Built} (h : fieldInputs name is i tys = .ok (bs, is')) :
    ∃ bs' js', fieldInputs name' js i tys = .ok (bs', js') := by
  induction tys generalizing is is' js i bs with
  | nil => exact ⟨_, _, rfl⟩
  | cons ty tys ih =>
      cases ty with
      | tensor shape =>
          simp only [fieldInputs] at h
          obtain ⟨⟨n, is₁⟩, first, h⟩ := ok_of_bind_ok h
          obtain ⟨⟨bs, is₂⟩, rest, h⟩ := ok_of_bind_ok h
          obtain ⟨n', js₁, first'⟩ := inputNode_total first
          obtain ⟨bs', js₂, rest'⟩ := ih rest
          exact ⟨_, _, by rw [fieldInputs, first', ok_bind]; simp only; rw [rest']; rfl⟩
      | _ => cases h

/-- A parameter of the same type has inputs too. -/
theorem paramInputs_total {is is' : List KernelInput} (js : List KernelInput) {v w : Var}
    (ty : v.ty = w.ty) {b : Built} (h : paramInputs is v = .ok (b, is')) :
    ∃ b' js', paramInputs js w = .ok (b', js') := by
  unfold paramInputs at h ⊢
  rw [← ty]
  split at h
  · obtain ⟨⟨n, is₁⟩, node, h⟩ := ok_of_bind_ok h
    obtain ⟨n', js', node'⟩ := inputNode_total node
    rw [node']
    exact ⟨_, _, rfl⟩
  · obtain ⟨⟨bs, is₁⟩, fields, h⟩ := ok_of_bind_ok h
    obtain ⟨bs', js', fields'⟩ := fieldInputs_total fields
    rw [fields']
    exact ⟨_, _, rfl⟩
  · cases h

/-- Parameters of the same types are entered side by side. -/
theorem enterParams_inStep {σ : List (Var × Var)} {used : Var → Prop} {vs ws : List Var}
    (types : vs.map Var.ty = ws.map Var.ty) {s s' t : GraphScope} {is is' js : List KernelInput}
    (h : enterParams s is vs = .ok (s', is'))
    (shapes : is.map KernelInput.shape = js.map KernelInput.shape)
    (inStep : InStep σ (fun w => used w ∧ w ∉ vs) s t) :
    ∃ t' js', enterParams t js ws = .ok (t', js') ∧
      is'.map KernelInput.shape = js'.map KernelInput.shape ∧
        InStep ((vs.zip ws).reverse ++ σ) used s' t' := by
  induction vs generalizing ws s t is js σ with
  | nil =>
      obtain rfl := List.map_eq_nil_iff.mp types.symm
      cases h
      exact ⟨t, js, rfl, shapes, inStep.mono fun w hw => ⟨hw, List.not_mem_nil⟩⟩
  | cons v vs ih =>
      obtain ⟨w, ws, rfl, ty, types⟩ := List.map_eq_cons_iff.mp types.symm
      simp only [enterParams] at h
      obtain ⟨⟨b, is₁⟩, first, h⟩ := ok_of_bind_ok h
      obtain ⟨b', js₁, first'⟩ := paramInputs_total js ty.symm first
      obtain ⟨same, shapes⟩ := paramInputs_alike (congrArg Ty.nominal ty.symm) shapes first first'
      have less : InStep σ (fun u => (used u ∧ u ∉ vs) ∧ u ≠ v) s t :=
        inStep.mono fun u hu => ⟨hu.1.1, List.not_mem_cons_of_ne_of_not_mem hu.2 hu.1.2⟩
      obtain ⟨t', js', rest, shapes, whole⟩ := ih types.symm h shapes (less.enter same)
      refine ⟨t', js', ?_, shapes, by simpa using whole⟩
      rw [enterParams, first', ok_bind]
      exact rest

/-- Parameters of the same types and names have the same inputs. -/
theorem inputs_of_enterParams {vs ws : List Var} (types : vs.map Var.ty = ws.map Var.ty)
    (names : vs.map Var.name = ws.map Var.name) {s s' t t' : GraphScope}
    {is is' js' : List KernelInput} (h : enterParams s is vs = .ok (s', is'))
    (h' : enterParams t is ws = .ok (t', js')) : is' = js' := by
  induction vs generalizing ws s t is with
  | nil =>
      obtain rfl := List.map_eq_nil_iff.mp types.symm
      cases h
      cases h'
      rfl
  | cons v vs ih =>
      obtain ⟨w, ws, rfl, ty, types⟩ := List.map_eq_cons_iff.mp types.symm
      simp only [List.map_cons, List.cons.injEq] at names
      obtain ⟨name, names⟩ := names
      have same : paramInputs is v = paramInputs is w := by
        simp only [paramInputs, ← ty, name]
      simp only [enterParams, same] at h h'
      obtain ⟨⟨b, is₁⟩, first, h⟩ := ok_of_bind_ok h
      obtain ⟨⟨b', js₁⟩, first', h'⟩ := ok_of_bind_ok h'
      obtain ⟨rfl, rfl⟩ := Prod.mk.inj (Except.ok.inj (first.symm.trans first'))
      exact ih types.symm names h h'

/-! ### Kernels -/

/-- Inlining captures nothing in an undisturbed function: a function that differs from it in the
choice of variables only, and has a variable of its own for every binder, is compiled too. The two
kernels have one arity and one output shape, and answer every call alike: with one tensor, or with
errors that differ in the name of the input at most. With the same names of inputs they do not
differ at all. -/
theorem Kernel.compile_undisturbed {f g : Function} (alike : f.AlphaEquivalent g)
    (own : g.toExpr.binders.Nodup) (undisturbed : f.body.isUndisturbed = true) {name : String}
    {k : Kernel} (compiled : Kernel.compile name f = .ok k) :
    ∃ l, Kernel.compile name g = .ok l ∧ k.arity = l.arity ∧ k.outputShape = l.outputShape ∧
      (∀ args, (k.call args).mapError CallError.unnamed =
        (l.call args).mapError CallError.unnamed) ∧
      (f.params.map Var.name = g.params.map Var.name → ∀ args, k.call args = l.call args) := by
  obtain ⟨s, s', params, body⟩ := Function.graph_eq_ok (Kernel.graph_of_compile compiled)
  have start : InStep [] (fun w => w ∈ f.body.free ∧ w ∉ f.params) .empty .empty :=
    ⟨rfl, fun _ _ _ paired => paired.elim⟩
  obtain ⟨t, js, params', shapes, inStep⟩ := enterParams_inStep alike.types params rfl start
  have binders : Own [] (g.params ++ g.body.binders) := ⟨own, List.disjoint_nil_left _⟩
  obtain ⟨-, ownBody, other⟩ := own_append.mp binders
  obtain ⟨b', t', body', same, -⟩ := alike.body.builds _ _ _ _ (builds_of_build _ _ _ _ body)
    undisturbed (by simpa using ownBody.enterAll f.params other) (by simpa using inStep)
  cases b' with
  | tuple bs => simp [Built.unnamed] at same
  | node n' =>
      have graph : g.graph = .ok (js, n') := by
        rw [Function.graph, params', ok_bind]
        simp only
        rw [body'.build_eq]
        rfl
      have compiled' : Kernel.compile name g = .ok ⟨name, js, n'⟩ := by
        rw [Kernel.compile, graph]
      have kernels : k.Alike ⟨name, js, n'⟩ := ⟨shapes, Built.node.inj same⟩
      have names : k.name = name := Kernel.name_of_compile compiled
      refine ⟨_, compiled', kernels.arity_eq, kernels.outputShape_eq, ?_, ?_⟩
      · exact kernels.call_unnamed names
      · intro inputs
        exact Kernel.call_congr names (inputs_of_enterParams alike.types inputs params params')
          kernels.output

/-- The difference of two expressions, as a call of a function with two parameters. -/
def difference (p q : Var) (x y : Expr) : Expr :=
  .call (.fn [p, q] (.call (.op "subtract") [.var p, .var q] (.scalar .int32)) (.scalar .int32)
    true) [x, y] (.scalar .int32)

/-- The parameters of a difference may be chosen anew. -/
theorem Alpha.difference {σ : List (Var × Var)} {p q p' q' : Var} {x y x' y' : Expr}
    (left : p ≠ q) (right : p' ≠ q') (types : [p, q].map Var.ty = [p', q'].map Var.ty)
    (hx : Alpha σ x x') (hy : Alpha σ y y') :
    Alpha σ (difference p q x y) (difference p' q' x' y') :=
  .call types (.cons hx (.cons hy .nil)) (.operator
    (.cons (.var (.inr ⟨left, right, .inl ⟨rfl, rfl⟩⟩)) (.cons (.var (.inl ⟨rfl, rfl⟩)) .nil)))

/-- A difference of a difference is bound to the first of two parameters again, and multiplied by
one more difference. The variables are that of the binding and those of the differences. -/
def differences (v : Var) (a b c : Var × Var) : Function :=
  let x := integerVar 0 "x"
  let y := integerVar 1 "y"
  { params := [x, y]
    body := .bind v (difference a.1 a.2 (difference b.1 b.2 (.var x) (.var y)) (.var y))
      (.call (.op "multiply") [difference c.1 c.2 (.var v) (.var y), .var v] (.scalar .int32))
    ret := .scalar .int32
    primitive := true }

/-- A variable is bound again and a function is called three times, once in an argument of a call of
it. It is compiled like the function with a variable of its own for every binder. -/
theorem differences_compiled :
    let p := integerVar 2 "p"
    let q := integerVar 3 "q"
    let shared := differences (integerVar 0 "x") (p, q) (p, q) (p, q)
    let apart := differences (integerVar 4 "z") (p, q) (integerVar 5 "p", integerVar 6 "q")
      (integerVar 7 "p", integerVar 8 "q")
    ∃ k, Kernel.compile "k" shared = .ok k ∧ ∃ l, Kernel.compile "k" apart = .ok l ∧
      k.arity = l.arity ∧ k.outputShape = l.outputShape ∧
      (∀ args, (k.call args).mapError CallError.unnamed =
        (l.call args).mapError CallError.unnamed) ∧
      (shared.params.map Var.name = apart.params.map Var.name →
        ∀ args, k.call args = l.call args) := by
  intro p q shared apart
  obtain ⟨k, compiled⟩ : ∃ k, Kernel.compile "k" shared = .ok k := ⟨_, rfl⟩
  have x : Paired (shared.params.zip apart.params).reverse (integerVar 0 "x") (integerVar 0 "x") :=
    .inr ⟨by decide, by decide, .inl ⟨rfl, rfl⟩⟩
  have y : Paired (shared.params.zip apart.params).reverse (integerVar 1 "y") (integerVar 1 "y") :=
    .inl ⟨rfl, rfl⟩
  have z : Paired ((integerVar 0 "x", integerVar 4 "z") ::
      (shared.params.zip apart.params).reverse) (integerVar 0 "x") (integerVar 4 "z") :=
    .inl ⟨rfl, rfl⟩
  have different : p ≠ q := by decide
  have inner := Alpha.difference different
    (by decide : integerVar 5 "p" ≠ integerVar 6 "q") rfl (.var x) (.var y)
  have value := Alpha.difference different different rfl inner (.var y)
  have factor := Alpha.difference different
    (by decide : integerVar 7 "p" ≠ integerVar 8 "q") rfl (.var z)
    (.var (.inr ⟨by decide, by decide, y⟩))
  have alike : shared.AlphaEquivalent apart :=
    ⟨rfl, .bind rfl value (.operator (.cons factor (.cons (.var z) .nil)))⟩
  exact ⟨k, compiled, Kernel.compile_undisturbed alike (by decide) (by decide) compiled⟩

/-! ### What may be captured -/

/-- Two functions that differ in the choice of variables only, the second of them with a variable of
its own for every binder, whose kernels answer a call differently. -/
def Function.Captured (f g : Function) : Prop :=
  f.AlphaEquivalent g ∧ g.toExpr.binders.Nodup ∧ ∃ k l args, Kernel.compile "k" f = .ok k ∧
    Kernel.compile "k" g = .ok l ∧ (k.call args).toOption ≠ (l.call args).toOption

/-- An integer less the difference of its double and itself. -/
def nestedDifference (a b : Var × Var) : Function :=
  integerFunction (difference a.1 a.2 (.var (integerVar 0 "x"))
    (difference b.1 b.2 (applyTwice "add" (.scalar .int32)) (.var (integerVar 0 "x"))))
    (.scalar .int32)

/-- A function that is called in an argument of a call of itself takes the parameters of that call:
its first parameter, entered already, is entered again. -/
theorem nestedDifference_captured :
    (nestedDifference (integerVar 1 "p", integerVar 2 "q")
      (integerVar 1 "p", integerVar 2 "q")).Captured
    (nestedDifference (integerVar 1 "p", integerVar 2 "q")
      (integerVar 3 "p", integerVar 4 "q")) := by
  have x : Alpha [(integerVar 0 "x", integerVar 0 "x")] (.var (integerVar 0 "x"))
      (.var (integerVar 0 "x")) := .var (.inl ⟨rfl, rfl⟩)
  refine ⟨⟨rfl, ?_⟩, by decide, _, _, [.holds (integerTensor 3), .empty], rfl, rfl, by decide⟩
  exact .difference (by decide) (by decide) rfl x
    (.difference (by decide) (by decide) rfl (.operator (.cons x (.cons x .nil))) x)

/-- The sum of an integer that is bound to its double and of the parameter. -/
def sumOfDouble (v : Var) : Function :=
  integerFunction (.call (.op "add") [.bind v (applyTwice "add" (.scalar .int32)) (.var v),
    .var (integerVar 0 "x")] (.scalar .int32)) (.scalar .int32)

/-- What is bound again in an operand stays bound in the operands behind it. -/
theorem sumOfDouble_captured :
    (sumOfDouble (integerVar 0 "x")).Captured (sumOfDouble (integerVar 1 "y")) := by
  have x : Alpha [(integerVar 0 "x", integerVar 0 "x")] (.var (integerVar 0 "x"))
      (.var (integerVar 0 "x")) := .var (.inl ⟨rfl, rfl⟩)
  refine ⟨⟨rfl, ?_⟩, by decide, _, _, [.holds (integerTensor 3), .empty], rfl, rfl, by decide⟩
  exact .operator (.cons (.bind rfl (.operator (.cons x (.cons x .nil))) (.var (.inl ⟨rfl, rfl⟩)))
    (.cons x .nil))

end TensorCompiler
