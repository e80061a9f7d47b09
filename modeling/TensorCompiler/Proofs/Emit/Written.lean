import TensorCompiler.Emit.Writer
import TensorCompiler.Linked.Node
import TensorCompiler.Proofs.Emit.Scope
import TensorCompiler.Proofs.Names.Supply
import TensorCompiler.Proofs.Outcome

/-!
# Written functions

The two translations of a lowered node taken together. The relation `Written` says which statements
a node becomes, in which local its result is, and which linked node stands beside them, form by
form.

Main statements: what is written for a node, and what it is linked to, are related; a node that is
written is linked.
-/

namespace TensorCompiler.Emit

open Lowered (Node)

/-! ### New locals -/

/-- A new local: its name was free and has no other use in the text. -/
structure New (s : NameSupply) (name : String) (s' : NameSupply) : Prop
    extends s.Adds name s' where
  usable : name ∉ ["_", "nil", "error"]

/-- The names without a number are usable if the roots are. -/
theorem new_fresh {s : NameSupply} {root : String}
    (h : Names.identifier root ∉ ["_", "nil", "error"]) :
    New s (s.fresh root).1 (s.fresh root).2 := by
  refine { s.fresh_adds root with usable := ?_ }
  intro member
  have ends : ∀ c, (s.fresh root).1.toList.getLast? = some c → c.isDigit = false := by
    rcases List.mem_cons.mp member with h | member
    · simp [h]
    rcases List.mem_cons.mp member with h | member
    · simp [h]
    · simp [List.mem_singleton.mp member]
  refine NameSupply.fresh_ne ends ?_ rfl
  intro same
  exact h (same ▸ member)

/-- The local of a variable in a scope. -/
def Scope.local? (σ : Scope) (v : Var) : Option String :=
  (σ.locals.find? (·.1 == v)).map Prod.snd

/-! ### Writing steps -/

section

variable {α β : Type} {σ σ' : Scope}

/-- Two writing steps succeed only if both do. -/
theorem ok_of_run_bind {m : WriteM α} {f : α → WriteM β} {b : β}
    (h : (m >>= f).run σ = .ok (b, σ')) :
    ∃ a σ₁, m.run σ = .ok (a, σ₁) ∧ (f a).run σ₁ = .ok (b, σ') := by
  rw [StateT.run_bind] at h
  obtain ⟨⟨a, σ₁⟩, first, second⟩ := ok_of_bind_ok h
  exact ⟨a, σ₁, first, second⟩

/-- A writing step that only returns. -/
theorem eq_of_run_pure {a b : α} (h : (pure a : WriteM α).run σ = .ok (b, σ')) :
    b = a ∧ σ' = σ := by
  cases h
  exact ⟨rfl, rfl⟩

/-- The local of a variable is the one it was bound to last. -/
theorem ok_of_localOf {v : Var} {x : String} (h : (localOf v).run σ = .ok (x, σ')) :
    σ.local? v = some x ∧ σ' = σ := by
  obtain ⟨σ₀, σ₁, read, h⟩ := ok_of_run_bind h
  cases read
  rw [Scope.local?]
  cases found : σ.locals.find? (fun p : Var × String => p.1 == v) with
  | none =>
      rw [found] at h
      cases h
  | some p =>
      rw [found] at h
      cases h
      exact ⟨rfl, rfl⟩

/-- The result of a step gets a new local. -/
theorem ok_of_freshResult {x : String} (h : freshResult.run σ = .ok (x, σ')) :
    ∃ s, New σ.names x s ∧ σ' = ⟨s, σ.locals⟩ := by
  cases h
  exact ⟨_, new_fresh (by decide), rfl⟩

/-- The last step of a node. -/
theorem ok_of_finish {before ss : List Stmt} {c : Call} {x : String}
    (h : (finish before c).run σ = .ok ((ss, x), σ')) :
    ss = before ++ [.call x c] ∧ ∃ s, New σ.names x s ∧ σ' = ⟨s, σ.locals⟩ := by
  cases h
  exact ⟨rfl, _, new_fresh (by decide), rfl⟩

/-- A variable gets a new local. -/
theorem ok_of_bindVar {v : Var} {origin : Origin} {st : Stmt} (nameable : v.isNameable = true)
    (h : (bindVar v origin).run σ = .ok (st, σ')) :
    ∃ x s, st = .bind x origin ∧ New σ.names x s ∧ σ' = ⟨s, (v, x) :: σ.locals⟩ := by
  cases h
  refine ⟨_, _, rfl, new_fresh ?_, rfl⟩
  intro member
  rw [Var.isNameable, List.contains_iff_mem.mpr member] at nameable
  cases nameable

end

/-! ### The relation -/

/-- The statements that bind variables to numbered origins. -/
inductive Binds (origin : Nat → Origin) : Nat → Scope → List Var → List Stmt → Scope → Prop
  | nil {i σ} : Binds origin i σ [] [] σ
  | cons {i σ v vs x s ss σ'} (new : New σ.names x s)
      (tail : Binds origin (i + 1) ⟨s, (v, x) :: σ.locals⟩ vs ss σ') :
      Binds origin i σ (v :: vs) (.bind x (origin i) :: ss) σ'

section

variable (consts : List Constant)

mutual

/-- What is written for a node in a scope: statements, the local of the result, and the scope behind
them, beside the linked node. -/
inductive Written : Scope → Node → List Stmt → String → Scope → Linked.Node → Prop
  | var {σ v x} (place : σ.local? v = some x) : Written σ (.var v) [] x σ (.var v)
  | const {σ c i x s} (place : consts.findIdx? (· == c) = some i) (new : New σ.names x s) :
      Written σ (.const c) [.call x (.param i)] x ⟨s, σ.locals⟩ (.param i)
  | global {σ g x s} (new : New σ.names x s) :
      Written σ (.global g) [.call x (.global g.name)] x ⟨s, σ.locals⟩ (.global g.name)
  | packed {σ args ss xs σ₁ ks x s kernel arity conv ty} (all : WrittenAll σ args ss xs σ₁ ks)
      (new : New σ₁.names x s) :
      Written σ (.packed kernel arity conv args ty)
        (ss ++ [.call x (.packed kernel arity (conv == .spread) xs)]) x ⟨s, σ₁.locals⟩
        (.packed kernel arity conv ks)
  | invoke {σ callee ss f σ₁ k args ts xs σ₂ ks x s ty} (head : Written σ callee ss f σ₁ k)
      (all : WrittenAll σ₁ args ts xs σ₂ ks) (new : New σ₂.names x s) :
      Written σ (.invoke callee args ty) (ss ++ ts ++ [.call x (.invoke f xs)]) x ⟨s, σ₂.locals⟩
        (.invoke k ks)
  | decl {σ bindings ss σ₁ ks body ts x σ₂ k} (all : WrittenBindings σ bindings ss σ₁ ks)
      (tail : Written σ₁ body ts x σ₂ k) :
      Written σ (.decl bindings body) (ss ++ ts) x σ₂ (.decl ks k)
  | cond {σ test ss c σ₁ k yes ys y σ₂ k₁ no ns n σ₃ k₂ x s ty} (head : Written σ test ss c σ₁ k)
      (left : Written σ₁ yes ys y σ₂ k₁) (right : Written σ₂ no ns n σ₃ k₂)
      (new : New σ₃.names x s) :
      Written σ (.cond test yes no ty) (ss ++ [.call x (.cond c (.mk ys y) (.mk ns n))]) x
        ⟨s, σ₃.locals⟩ (.cond k k₁ k₂)
  | tuple {σ fields ss xs σ₁ ks x s ty} (all : WrittenAll σ fields ss xs σ₁ ks)
      (new : New σ₁.names x s) :
      Written σ (.tuple fields ty) (ss ++ [.tuple x xs]) x ⟨s, σ₁.locals⟩ (.tuple ks)
  | proj {σ n ss t σ₁ k x s index ty} (head : Written σ n ss t σ₁ k) (new : New σ₁.names x s) :
      Written σ (.proj n index ty) (ss ++ [.call x (.field t index)]) x ⟨s, σ₁.locals⟩
        (.proj k index)
  | cases {σ data ss d σ₁ k clauses cs σ₂ ks x s ty} (head : Written σ data ss d σ₁ k)
      (all : WrittenClauses σ₁ clauses cs σ₂ ks) (new : New σ₂.names x s) :
      Written σ (.cases data clauses ty) (ss ++ [.call x (.cases d cs)]) x ⟨s, σ₂.locals⟩
        (.cases k ks)
  | fn {σ params n block σ₁ k x s ret} (body : WrittenBody .arg σ params n block σ₁ k)
      (new : New σ₁.names x s) :
      Written σ (.fn params n ret) [.func x params.length block] x ⟨s, σ₁.locals⟩ (.fn params k)
  | construct {σ args ss xs σ₁ ks x s c tag} (all : WrittenAll σ args ss xs σ₁ ks)
      (new : New σ₁.names x s) :
      Written σ (.construct c tag args) (ss ++ [.call x (.construct c.name tag xs)]) x
        ⟨s, σ₁.locals⟩ (.construct c.name tag ks)

/-- What is written for several nodes. -/
inductive WrittenAll :
    Scope → List Node → List Stmt → List String → Scope → List Linked.Node → Prop
  | nil {σ} : WrittenAll σ [] [] [] σ []
  | cons {σ n ss x σ₁ k ns ts xs σ₂ ks} (head : Written σ n ss x σ₁ k)
      (tail : WrittenAll σ₁ ns ts xs σ₂ ks) :
      WrittenAll σ (n :: ns) (ss ++ ts) (x :: xs) σ₂ (k :: ks)

/-- What is written for bindings. -/
inductive WrittenBindings :
    Scope → List (Var × Node) → List Stmt → Scope → List (Var × Linked.Node) → Prop
  | nil {σ} : WrittenBindings σ [] [] σ []
  | cons {σ v n ss x σ₁ k y s rest ts σ₂ ks} (head : Written σ n ss x σ₁ k)
      (new : New σ₁.names y s) (tail : WrittenBindings ⟨s, (v, y) :: σ₁.locals⟩ rest ts σ₂ ks) :
      WrittenBindings σ ((v, n) :: rest) (ss ++ .bind y (.place x) :: ts) σ₂ ((v, k) :: ks)

/-- What is written for clauses. -/
inductive WrittenClauses : Scope → List (Pattern × Node) → List (Matcher × Block) → Scope →
    List (Matcher × List Var × Linked.Node) → Prop
  | nil {σ} : WrittenClauses σ [] [] σ []
  | cons {σ p n m block σ₁ k rest cs σ₂ ks} (pattern : Matcher.ofPattern p = .ok m)
      (head : WrittenBody .bound σ p.vars n block σ₁ k) (tail : WrittenClauses σ₁ rest cs σ₂ ks) :
      WrittenClauses σ ((p, n) :: rest) ((m, block) :: cs) σ₂ ((m, p.vars, k) :: ks)

/-- What is written for a node whose variables are bound in front of it. -/
inductive WrittenBody : (Nat → Origin) → Scope → List Var → Node → Block → Scope →
    Linked.Node → Prop
  | mk {origin σ vs bs σ₁ n ss x σ₂ k} (binds : Binds origin 0 σ vs bs σ₁)
      (body : Written σ₁ n ss x σ₂ k) : WrittenBody origin σ vs n (.mk (bs ++ ss) x) σ₂ k

end

end

/-! ### What the writer writes -/

section

variable {consts : List Constant} {σ σ' : Scope}

/-- Variables that are bound in order. -/
theorem binds_of_bindVars {origin : Nat → Origin} {vs : List Var}
    (nameable : ∀ v ∈ vs, v.isNameable = true) {i : Nat} {σ : Scope} {ss : List Stmt}
    (h : (bindVars origin i vs).run σ = .ok (ss, σ')) : Binds origin i σ vs ss σ' := by
  induction vs generalizing i σ ss with
  | nil =>
      obtain ⟨rfl, rfl⟩ := eq_of_run_pure h
      exact .nil
  | cons v vs ih =>
      obtain ⟨st, σ₁, first, h⟩ := ok_of_run_bind h
      obtain ⟨ts, σ₂, rest, h⟩ := ok_of_run_bind h
      obtain ⟨rfl, rfl⟩ := eq_of_run_pure h
      obtain ⟨x, s, rfl, new, rfl⟩ := ok_of_bindVar (nameable v List.mem_cons_self) first
      exact .cons new (ih (fun w hw => nameable w (List.mem_cons_of_mem _ hw)) rest)

mutual

/-- A node that is written is linked, and the two are related. -/
theorem written_of_writeNode : (n : Node) → (∀ v ∈ n.bound, v.isNameable = true) →
    ∀ {σ ss x σ'}, (writeNode consts n).run σ = .ok ((ss, x), σ') →
      ∃ k, Linked.node consts n = .ok k ∧ Written consts σ n ss x σ' k
  | .hole => by
      intro _ σ ss x σ' h
      cases h
  | .var v => by
      intro _ σ ss x σ' h
      obtain ⟨y, σ₁, found, h⟩ := ok_of_run_bind h
      obtain ⟨same, rfl⟩ := eq_of_run_pure h
      obtain ⟨rfl, rfl⟩ := Prod.mk.inj same
      obtain ⟨place, rfl⟩ := ok_of_localOf found
      exact ⟨_, rfl, .var place⟩
  | .const c => by
      intro _ σ ss x σ' h
      rw [writeNode] at h
      rw [Linked.node]
      cases place : consts.findIdx? (· == c) with
      | none =>
          rw [place] at h
          cases h
      | some i =>
          rw [place] at h
          obtain ⟨rfl, s, new, rfl⟩ := ok_of_finish h
          exact ⟨_, rfl, .const place new⟩
  | .global g => by
      intro _ σ ss x σ' h
      obtain ⟨rfl, s, new, rfl⟩ := ok_of_finish h
      exact ⟨_, rfl, .global new⟩
  | .packed kernel arity conv args ty => by
      intro nameable σ ss x σ' h
      obtain ⟨⟨ts, xs⟩, σ₁, operands, h⟩ := ok_of_run_bind h
      obtain ⟨rfl, s, new, rfl⟩ := ok_of_finish h
      obtain ⟨ks, linked, all⟩ := written_of_writeNodes args nameable operands
      rw [Linked.node, linked]
      exact ⟨_, rfl, .packed all new⟩
  | .invoke callee args ty => by
      intro nameable σ ss x σ' h
      obtain ⟨nameable₁, nameable₂⟩ := List.forall_mem_append.mp nameable
      obtain ⟨⟨ts, f⟩, σ₁, first, h⟩ := ok_of_run_bind h
      obtain ⟨⟨us, xs⟩, σ₂, operands, h⟩ := ok_of_run_bind h
      obtain ⟨rfl, s, new, rfl⟩ := ok_of_finish h
      obtain ⟨k, linked, head⟩ := written_of_writeNode callee nameable₁ first
      obtain ⟨ks, linkedAll, all⟩ := written_of_writeNodes args nameable₂ operands
      rw [Linked.node, linked, linkedAll]
      exact ⟨_, rfl, .invoke head all new⟩
  | .decl bindings body => by
      intro nameable σ ss x σ' h
      obtain ⟨nameable₁, nameable₂⟩ := List.forall_mem_append.mp nameable
      obtain ⟨ts, σ₁, first, h⟩ := ok_of_run_bind h
      obtain ⟨⟨us, y⟩, σ₂, second, h⟩ := ok_of_run_bind h
      obtain ⟨same, rfl⟩ := eq_of_run_pure h
      obtain ⟨rfl, rfl⟩ := Prod.mk.inj same
      obtain ⟨ks, linkedAll, all⟩ := written_of_writeBindings bindings nameable₁ first
      obtain ⟨k, linked, tail⟩ := written_of_writeNode body nameable₂ second
      rw [Linked.node, linkedAll, ok_bind, linked]
      exact ⟨_, rfl, .decl all tail⟩
  | .cond test yes no ty => by
      intro nameable σ ss x σ' h
      obtain ⟨nameable₁, nameable⟩ := List.forall_mem_append.mp nameable
      obtain ⟨nameable₂, nameable₃⟩ := List.forall_mem_append.mp nameable
      obtain ⟨⟨ts, c⟩, σ₁, first, h⟩ := ok_of_run_bind h
      obtain ⟨⟨ys, y⟩, σ₂, second, h⟩ := ok_of_run_bind h
      obtain ⟨⟨ns, n⟩, σ₃, third, h⟩ := ok_of_run_bind h
      obtain ⟨rfl, s, new, rfl⟩ := ok_of_finish h
      obtain ⟨k, linked, head⟩ := written_of_writeNode test nameable₁ first
      obtain ⟨k₁, linkedYes, left⟩ := written_of_writeNode yes nameable₂ second
      obtain ⟨k₂, linkedNo, right⟩ := written_of_writeNode no nameable₃ third
      rw [Linked.node, linked, ok_bind, linkedYes, ok_bind, linkedNo]
      exact ⟨_, rfl, .cond head left right new⟩
  | .tuple fields ty => by
      intro nameable σ ss x σ' h
      obtain ⟨⟨ts, xs⟩, σ₁, operands, h⟩ := ok_of_run_bind h
      obtain ⟨y, σ₂, result, h⟩ := ok_of_run_bind h
      obtain ⟨same, rfl⟩ := eq_of_run_pure h
      obtain ⟨rfl, rfl⟩ := Prod.mk.inj same
      obtain ⟨s, new, rfl⟩ := ok_of_freshResult result
      obtain ⟨ks, linked, all⟩ := written_of_writeNodes fields nameable operands
      rw [Linked.node, linked]
      exact ⟨_, rfl, .tuple all new⟩
  | .proj n index ty => by
      intro nameable σ ss x σ' h
      obtain ⟨⟨ts, t⟩, σ₁, first, h⟩ := ok_of_run_bind h
      obtain ⟨rfl, s, new, rfl⟩ := ok_of_finish h
      obtain ⟨k, linked, head⟩ := written_of_writeNode n nameable first
      rw [Linked.node, linked]
      exact ⟨_, rfl, .proj head new⟩
  | .cases data clauses ty => by
      intro nameable σ ss x σ' h
      obtain ⟨nameable₁, nameable₂⟩ := List.forall_mem_append.mp nameable
      obtain ⟨⟨ts, d⟩, σ₁, first, h⟩ := ok_of_run_bind h
      obtain ⟨cs, σ₂, second, h⟩ := ok_of_run_bind h
      obtain ⟨rfl, s, new, rfl⟩ := ok_of_finish h
      obtain ⟨k, linked, head⟩ := written_of_writeNode data nameable₁ first
      obtain ⟨ks, linkedAll, all⟩ := written_of_writeClauses clauses nameable₂ second
      rw [Linked.node, linked, ok_bind, linkedAll]
      exact ⟨_, rfl, .cases head all new⟩
  | .fn params body ret => by
      intro nameable σ ss x σ' h
      obtain ⟨nameable₁, nameable₂⟩ := List.forall_mem_append.mp nameable
      obtain ⟨bs, σ₁, first, h⟩ := ok_of_run_bind h
      obtain ⟨⟨ts, y⟩, σ₂, second, h⟩ := ok_of_run_bind h
      obtain ⟨z, σ₃, result, h⟩ := ok_of_run_bind h
      obtain ⟨same, rfl⟩ := eq_of_run_pure h
      obtain ⟨rfl, rfl⟩ := Prod.mk.inj same
      obtain ⟨s, new, rfl⟩ := ok_of_freshResult result
      obtain ⟨k, linked, head⟩ := written_of_writeNode body nameable₂ second
      rw [Linked.node, linked]
      exact ⟨_, rfl, .fn (.mk (binds_of_bindVars nameable₁ first) head) new⟩
  | .construct c tag args => by
      intro nameable σ ss x σ' h
      obtain ⟨⟨ts, xs⟩, σ₁, operands, h⟩ := ok_of_run_bind h
      obtain ⟨rfl, s, new, rfl⟩ := ok_of_finish h
      obtain ⟨ks, linked, all⟩ := written_of_writeNodes args nameable operands
      rw [Linked.node, linked]
      exact ⟨_, rfl, .construct all new⟩

theorem written_of_writeNodes : (ns : List Node) →
    (∀ v ∈ Node.boundAll ns, v.isNameable = true) → ∀ {σ ss xs σ'},
      (writeNodes consts ns).run σ = .ok ((ss, xs), σ') →
        ∃ ks, Linked.nodes consts ns = .ok ks ∧ WrittenAll consts σ ns ss xs σ' ks
  | [] => by
      intro _ σ ss xs σ' h
      obtain ⟨same, rfl⟩ := eq_of_run_pure h
      obtain ⟨rfl, rfl⟩ := Prod.mk.inj same
      exact ⟨_, rfl, .nil⟩
  | n :: ns => by
      intro nameable σ ss xs σ' h
      obtain ⟨nameable₁, nameable₂⟩ := List.forall_mem_append.mp nameable
      obtain ⟨⟨ts, x⟩, σ₁, first, h⟩ := ok_of_run_bind h
      obtain ⟨⟨us, ys⟩, σ₂, rest, h⟩ := ok_of_run_bind h
      obtain ⟨same, rfl⟩ := eq_of_run_pure h
      obtain ⟨rfl, rfl⟩ := Prod.mk.inj same
      obtain ⟨k, linked, head⟩ := written_of_writeNode n nameable₁ first
      obtain ⟨ks, linkedAll, tail⟩ := written_of_writeNodes ns nameable₂ rest
      rw [Linked.nodes, linked, ok_bind, linkedAll]
      exact ⟨_, rfl, .cons head tail⟩

theorem written_of_writeBindings : (bs : List (Var × Node)) →
    (∀ v ∈ Node.boundBindings bs, v.isNameable = true) → ∀ {σ ss σ'},
      (writeBindings consts bs).run σ = .ok (ss, σ') →
        ∃ ks, Linked.nodeBindings consts bs = .ok ks ∧ WrittenBindings consts σ bs ss σ' ks
  | [] => by
      intro _ σ ss σ' h
      obtain ⟨rfl, rfl⟩ := eq_of_run_pure h
      exact ⟨_, rfl, .nil⟩
  | (v, n) :: rest => by
      intro nameable σ ss σ' h
      obtain ⟨nameable₁, nameable₂⟩ := List.forall_mem_append.mp nameable
      obtain ⟨nameable₂, nameable₃⟩ := List.forall_mem_cons.mp nameable₂
      obtain ⟨⟨ts, x⟩, σ₁, first, h⟩ := ok_of_run_bind h
      obtain ⟨st, σ₂, bound, h⟩ := ok_of_run_bind h
      obtain ⟨us, σ₃, others, h⟩ := ok_of_run_bind h
      obtain ⟨rfl, rfl⟩ := eq_of_run_pure h
      obtain ⟨y, s, rfl, new, rfl⟩ := ok_of_bindVar nameable₂ bound
      obtain ⟨k, linked, head⟩ := written_of_writeNode n nameable₁ first
      obtain ⟨ks, linkedAll, tail⟩ := written_of_writeBindings rest nameable₃ others
      rw [Linked.nodeBindings, linked, ok_bind, linkedAll]
      exact ⟨_, rfl, .cons head new tail⟩

theorem written_of_writeClauses : (cs : List (Pattern × Node)) →
    (∀ v ∈ Node.boundClauses cs, v.isNameable = true) → ∀ {σ bs σ'},
      (writeClauses consts cs).run σ = .ok (bs, σ') →
        ∃ ks, Linked.nodeClauses consts cs = .ok ks ∧ WrittenClauses consts σ cs bs σ' ks
  | [] => by
      intro _ σ bs σ' h
      obtain ⟨rfl, rfl⟩ := eq_of_run_pure h
      exact ⟨_, rfl, .nil⟩
  | (p, n) :: rest => by
      intro nameable σ bs σ' h
      obtain ⟨nameable, nameable₃⟩ := List.forall_mem_append.mp nameable
      obtain ⟨nameable₁, nameable₂⟩ := List.forall_mem_append.mp nameable
      rw [writeClauses] at h
      rw [Linked.nodeClauses]
      cases pattern : Matcher.ofPattern p with
      | error e =>
          rw [pattern] at h
          cases h
      | ok m =>
          rw [pattern] at h
          obtain ⟨vs, σ₁, first, h⟩ := ok_of_run_bind h
          obtain ⟨⟨ts, x⟩, σ₂, second, h⟩ := ok_of_run_bind h
          obtain ⟨us, σ₃, others, h⟩ := ok_of_run_bind h
          obtain ⟨rfl, rfl⟩ := eq_of_run_pure h
          obtain ⟨k, linked, head⟩ := written_of_writeNode n nameable₂ second
          obtain ⟨ks, linkedAll, tail⟩ := written_of_writeClauses rest nameable₃ others
          simp only [linked, ok_bind, linkedAll]
          exact ⟨_, rfl, .cons pattern (.mk (binds_of_bindVars nameable₁ first) head) tail⟩

end

/-- A function that is written is linked, and the two are related. -/
theorem written_of_writeRoutine {r : Lowered.Routine} (h : r.Lexical) {block : Block}
    (written : writeRoutine consts r = .ok block) :
    ∃ k σ', Linked.routine consts r = .ok ⟨r.params, k⟩ ∧
      WrittenBody consts .arg .start r.params r.body block σ' k := by
  obtain ⟨nameable₁, nameable₂⟩ := List.forall_mem_append.mp h.nameable
  obtain ⟨⟨b, σ'⟩, run, same⟩ := ok_of_bind_ok written
  cases same
  obtain ⟨bs, σ₁, first, run⟩ := ok_of_run_bind run
  obtain ⟨⟨ss, x⟩, σ₂, second, run⟩ := ok_of_run_bind run
  obtain ⟨rfl, rfl⟩ := eq_of_run_pure run
  obtain ⟨k, linked, head⟩ := written_of_writeNode r.body nameable₂ second
  refine ⟨k, _, ?_, .mk (binds_of_bindVars nameable₁ first) head⟩
  rw [Linked.routine, linked]
  rfl

end

end TensorCompiler.Emit
