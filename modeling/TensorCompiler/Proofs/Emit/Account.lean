import Mathlib.Data.List.ReduceOption
import TensorCompiler.Proofs.Emit.Emission
import TensorCompiler.Proofs.Emit.Written

/-!
# Accounts of written functions

Every local of an emitted function gets its name from one supply: one for each variable that is
bound, and one for each result of a step. The captured parameters that are read are the places of
the constants.

Main statement: a function that is written has an account, which tells the variables it binds and
the constants that occur in it, beside the locals it names and the parameters it reads; and it is
linked, with the same parameters read in the same order.
-/

namespace TensorCompiler

open Lowered (Node Use constantsOf)

namespace Emit

/-! ### Locals and parameters of blocks -/

mutual

/-- The locals of a statement in the order in which they are named. -/
def Stmt.locals : Stmt → List String
  | .call name c => Call.locals c ++ [name]
  | .tuple name _ => [name]
  | .func name _ body => Block.locals body ++ [name]
  | .bind name _ => [name]

/-- The locals of the blocks in a call. -/
def Call.locals : Call → List String
  | .cond _ yes no => Block.locals yes ++ Block.locals no
  | .cases _ clauses => Block.localsClauses clauses
  | .param _ | .global _ | .packed _ _ _ _ | .invoke _ _ | .field _ _ | .construct _ _ _ => []

/-- The locals of a block, those of nested blocks included. -/
def Block.locals : Block → List String
  | .mk stmts _ => Stmt.localsAll stmts

/-- The locals of several statements. -/
def Stmt.localsAll : List Stmt → List String
  | [] => []
  | s :: ss => Stmt.locals s ++ Stmt.localsAll ss

/-- The locals of the blocks of clauses. -/
def Block.localsClauses : List (Matcher × Block) → List String
  | [] => []
  | (_, body) :: rest => Block.locals body ++ Block.localsClauses rest

end

mutual

/-- The captured parameters that a statement reads, in the order of the text. -/
def Stmt.reads : Stmt → List Nat
  | .call _ c => Call.reads c
  | .tuple _ _ | .bind _ _ => []
  | .func _ _ body => Block.reads body

/-- The captured parameters that a call reads. -/
def Call.reads : Call → List Nat
  | .param index => [index]
  | .cond _ yes no => Block.reads yes ++ Block.reads no
  | .cases _ clauses => Block.readsClauses clauses
  | .global _ | .packed _ _ _ _ | .invoke _ _ | .field _ _ | .construct _ _ _ => []

/-- The captured parameters that a block reads. -/
def Block.reads : Block → List Nat
  | .mk stmts _ => Stmt.readsAll stmts

/-- The captured parameters that several statements read. -/
def Stmt.readsAll : List Stmt → List Nat
  | [] => []
  | s :: ss => Stmt.reads s ++ Stmt.readsAll ss

/-- The captured parameters that the blocks of clauses read. -/
def Block.readsClauses : List (Matcher × Block) → List Nat
  | [] => []
  | (_, body) :: rest => Block.reads body ++ Block.readsClauses rest

end

theorem Stmt.localsAll_append (ss ts : List Stmt) :
    Stmt.localsAll (ss ++ ts) = Stmt.localsAll ss ++ Stmt.localsAll ts := by
  induction ss with
  | nil => rfl
  | cons s ss ih => rw [List.cons_append, Stmt.localsAll, ih, Stmt.localsAll, List.append_assoc]

theorem Stmt.readsAll_append (ss ts : List Stmt) :
    Stmt.readsAll (ss ++ ts) = Stmt.readsAll ss ++ Stmt.readsAll ts := by
  induction ss with
  | nil => rfl
  | cons s ss ih => rw [List.cons_append, Stmt.readsAll, ih, Stmt.readsAll, List.append_assoc]

end Emit

namespace Linked.Node

mutual

/-- The captured parameters that a linked node reads, in the order of evaluation. -/
def reads : Linked.Node → List Nat
  | .var _ | .global _ => []
  | .param index => [index]
  | .packed _ _ _ args => readsAll args
  | .invoke callee args => reads callee ++ readsAll args
  | .decl bindings body => readsBindings bindings ++ reads body
  | .cond test yes no => reads test ++ (reads yes ++ reads no)
  | .tuple fields => readsAll fields
  | .proj n _ => reads n
  | .cases data clauses => reads data ++ readsClauses clauses
  | .fn _ body => reads body
  | .construct _ _ args => readsAll args

/-- The captured parameters that several linked nodes read. -/
def readsAll : List Linked.Node → List Nat
  | [] => []
  | n :: ns => reads n ++ readsAll ns

/-- The captured parameters that the values of bindings read. -/
def readsBindings : List (Var × Linked.Node) → List Nat
  | [] => []
  | (_, n) :: rest => reads n ++ readsBindings rest

/-- The captured parameters that clauses read. -/
def readsClauses : List (Matcher × List Var × Linked.Node) → List Nat
  | [] => []
  | (_, _, n) :: rest => reads n ++ readsClauses rest

end

end Linked.Node

namespace Emit

/-! ### Accounts -/

/-- Parameters that are read for the constants among some uses. -/
def Reads (consts : List Constant) (us : List Use) (reads : List Nat) : Prop :=
  reads.map (consts[·]?) = (constantsOf us).map some

/-- The root of the name of a local: it holds a variable, or a result. -/
def rootOf : Option Var → String
  | some v => v.name
  | none => "v"

/-- An account of a run of the writer: it binds variables and meets uses, names locals and reads
captured parameters. -/
structure Accounts (consts : List Constant) (σ : Scope) (vs : List Var) (us : List Use)
    (names : List String) (reads : List Nat) (σ' : Scope) : Prop where
  named : ∃ owners : List (Option Var), owners.reduceOption = vs ∧
    σ.names.freshAll (owners.map rootOf) = (names, σ'.names)
  read : Reads consts us reads

section

variable {consts : List Constant} {σ σ₁ σ₂ σ' : Scope} {vs vs' : List Var} {us us' : List Use}
  {names names' : List String} {reads reads' : List Nat}

theorem Reads.nil : Reads consts [] [] := rfl

theorem Reads.append (h : Reads consts us reads) (h' : Reads consts us' reads') :
    Reads consts (us ++ us') (reads ++ reads') := by
  rw [Reads, constantsOf, List.filterMap_append, List.map_append, List.map_append, h, h']
  rfl

/-- A constant is read at its place. -/
theorem Reads.const {c : Constant} {i : Nat} (place : consts.findIdx? (· == c) = some i) :
    Reads consts [.const c] [i] := by
  obtain ⟨inside, same, -⟩ := List.findIdx?_eq_some_iff_getElem.mp place
  have found : consts[i]? = some c := by
    rw [List.getElem?_eq_getElem inside, beq_iff_eq.mp same]
  rw [Reads, List.map_singleton, found]
  rfl

theorem Accounts.nil (σ : Scope) : Accounts consts σ [] [] [] [] σ :=
  ⟨⟨[], rfl, rfl⟩, .nil⟩

theorem Accounts.append (h : Accounts consts σ vs us names reads σ₁)
    (h' : Accounts consts σ₁ vs' us' names' reads' σ₂) :
    Accounts consts σ (vs ++ vs') (us ++ us') (names ++ names') (reads ++ reads') σ₂ := by
  obtain ⟨⟨owners, rfl, first⟩, read⟩ := h
  obtain ⟨⟨owners', rfl, second⟩, read'⟩ := h'
  refine ⟨⟨owners ++ owners', List.reduceOption_append _ _, ?_⟩, read.append read'⟩
  rw [List.map_append, NameSupply.freshAll_append, first, second]

/-- Only the constants among the uses matter. -/
theorem Accounts.congr (h : Accounts consts σ vs us names reads σ')
    (same : constantsOf us' = constantsOf us) : Accounts consts σ vs us' names reads σ' :=
  ⟨h.named, by rw [Reads, same]; exact h.read⟩

/-- A result gets a local. -/
theorem Accounts.result (h : Accounts consts σ vs us names reads σ₁) {x : String}
    (named : freshResult.run σ₁ = .ok (x, σ')) :
    Accounts consts σ vs us (names ++ [x]) reads σ' := by
  have last : Accounts consts σ₁ [] [] [x] [] σ' := by
    cases named
    exact ⟨⟨[none], rfl, rfl⟩, .nil⟩
  simpa using h.append last

/-- The last step of a node names the result of its call. -/
theorem Accounts.finish {before ss : List Stmt} {c : Call} {x : String}
    (h : Accounts consts σ vs us (Stmt.localsAll before ++ c.locals)
      (Stmt.readsAll before ++ c.reads) σ₁)
    (run : (Emit.finish before c).run σ₁ = .ok ((ss, x), σ')) :
    Accounts consts σ vs us (Stmt.localsAll ss) (Stmt.readsAll ss) σ' := by
  obtain ⟨y, σ₂, named, run⟩ := ok_of_run_bind run
  obtain ⟨same, rfl⟩ := eq_of_run_pure run
  obtain ⟨rfl, rfl⟩ := Prod.mk.inj same
  simpa [Stmt.localsAll_append, Stmt.readsAll_append, Stmt.localsAll, Stmt.locals, Stmt.readsAll,
    Stmt.reads] using h.result named

/-- A variable gets a local. -/
theorem accounts_bindVar {v : Var} {origin : Origin} {st : Stmt}
    (h : (bindVar v origin).run σ = .ok (st, σ')) :
    Accounts consts σ [v] [] st.locals st.reads σ' := by
  cases h
  exact ⟨⟨[some v], rfl, rfl⟩, .nil⟩

/-- Variables get locals in order. -/
theorem accounts_bindVars {origin : Nat → Origin} {vs : List Var} {i : Nat} {σ : Scope}
    {ss : List Stmt} (h : (bindVars origin i vs).run σ = .ok (ss, σ')) :
    Accounts consts σ vs [] (Stmt.localsAll ss) (Stmt.readsAll ss) σ' := by
  induction vs generalizing i σ ss with
  | nil =>
      obtain ⟨rfl, rfl⟩ := eq_of_run_pure h
      exact .nil _
  | cons v vs ih =>
      obtain ⟨st, σ₁, first, h⟩ := ok_of_run_bind h
      obtain ⟨ts, σ₂, rest, h⟩ := ok_of_run_bind h
      obtain ⟨rfl, rfl⟩ := eq_of_run_pure h
      exact (accounts_bindVar first).append (ih rest)

end

mutual

/-- A pattern has no constants. -/
theorem constantsOf_pattern : (p : Pattern) → constantsOf p.uses = []
  | .hole | .wildcard | .var _ => rfl
  | .ctor _ fields => by
      rw [Pattern.uses]
      exact constantsOf_patterns fields
  | .tuple fields => by
      rw [Pattern.uses]
      exact constantsOf_patterns fields

theorem constantsOf_patterns : (ps : List Pattern) → constantsOf (Pattern.usesAll ps) = []
  | [] => rfl
  | p :: ps => by
      rw [Pattern.usesAll, constantsOf, List.filterMap_append]
      exact List.append_eq_nil_iff.mpr ⟨constantsOf_pattern p, constantsOf_patterns ps⟩

end

/-! ### What the writer writes -/

section

variable {consts : List Constant}

mutual

/-- The account of a node that is written. The node is linked, and reads the same parameters.

The account follows the order of the text. A node that ends in a call names its result behind all
locals of its operands, also those in the blocks of the call. -/
theorem accounts_of_writeNode : (n : Node) → ∀ {σ ss x σ'},
    (writeNode consts n).run σ = .ok ((ss, x), σ') →
      Accounts consts σ n.bound n.uses (Stmt.localsAll ss) (Stmt.readsAll ss) σ' ∧
        ∃ k, Linked.node consts n = .ok k ∧ Reads consts n.uses k.reads
  | .hole => by
      intro h
      cases h
  | .var v => by
      intro h
      obtain ⟨y, σ₁, found, h⟩ := ok_of_run_bind h
      obtain ⟨same, rfl⟩ := eq_of_run_pure h
      obtain ⟨rfl, rfl⟩ := Prod.mk.inj same
      obtain ⟨-, rfl⟩ := ok_of_localOf found
      exact ⟨.nil _, _, rfl, .nil⟩
  | .const c => by
      intro h
      rw [writeNode] at h
      rw [Linked.node]
      cases place : consts.findIdx? (· == c) with
      | none =>
          rw [place] at h
          cases h
      | some i =>
          rw [place] at h
          refine ⟨.finish ⟨⟨[], rfl, rfl⟩, ?_⟩ h, _, rfl, .const place⟩
          exact .const place
  | .global g => by
      intro h
      exact ⟨.finish (.nil _) h, _, rfl, .nil⟩
  | .packed kernel arity conv args ty => by
      intro h
      obtain ⟨⟨ts, xs⟩, σ₁, operands, h⟩ := ok_of_run_bind h
      obtain ⟨account, ks, linked, read⟩ := accounts_of_writeNodes args operands
      rw [Linked.node, linked]
      refine ⟨.finish ?_ h, _, rfl, read⟩
      have counted : Accounts consts _ _ (.kernel kernel arity :: Node.usesAll args) _ _ _ :=
        account.congr rfl
      simpa [Node.bound, Node.uses, Call.locals, Call.reads] using counted
  | .invoke callee args ty => by
      intro h
      obtain ⟨⟨ts, f⟩, σ₁, first, h⟩ := ok_of_run_bind h
      obtain ⟨⟨us, xs⟩, σ₂, operands, h⟩ := ok_of_run_bind h
      obtain ⟨account, k, linked, read⟩ := accounts_of_writeNode callee first
      obtain ⟨account', ks, linked', read'⟩ := accounts_of_writeNodes args operands
      rw [Linked.node, linked, linked']
      refine ⟨.finish ?_ h, _, rfl, read.append read'⟩
      simpa [Node.bound, Node.uses, Call.locals, Call.reads, Stmt.localsAll_append,
        Stmt.readsAll_append] using account.append account'
  | .decl bindings body => by
      intro h
      obtain ⟨ts, σ₁, first, h⟩ := ok_of_run_bind h
      obtain ⟨⟨us, y⟩, σ₂, second, h⟩ := ok_of_run_bind h
      obtain ⟨same, rfl⟩ := eq_of_run_pure h
      obtain ⟨rfl, rfl⟩ := Prod.mk.inj same
      obtain ⟨account, ks, linked, read⟩ := accounts_of_writeBindings bindings first
      obtain ⟨account', k, linked', read'⟩ := accounts_of_writeNode body second
      rw [Linked.node, linked, ok_bind, linked', Stmt.localsAll_append, Stmt.readsAll_append]
      exact ⟨account.append account', _, rfl, read.append read'⟩
  | .cond test yes no ty => by
      intro h
      obtain ⟨⟨ts, c⟩, σ₁, first, h⟩ := ok_of_run_bind h
      obtain ⟨⟨ys, y⟩, σ₂, second, h⟩ := ok_of_run_bind h
      obtain ⟨⟨ns, n⟩, σ₃, third, h⟩ := ok_of_run_bind h
      obtain ⟨account, k, linked, read⟩ := accounts_of_writeNode test first
      obtain ⟨account₁, k₁, linked₁, read₁⟩ := accounts_of_writeNode yes second
      obtain ⟨account₂, k₂, linked₂, read₂⟩ := accounts_of_writeNode no third
      rw [Linked.node, linked, ok_bind, linked₁, ok_bind, linked₂]
      exact ⟨(account.append (account₁.append account₂)).finish h, _, rfl,
        read.append (read₁.append read₂)⟩
  | .tuple fields ty => by
      intro h
      obtain ⟨⟨ts, xs⟩, σ₁, operands, h⟩ := ok_of_run_bind h
      obtain ⟨y, σ₂, named, h⟩ := ok_of_run_bind h
      obtain ⟨same, rfl⟩ := eq_of_run_pure h
      obtain ⟨rfl, rfl⟩ := Prod.mk.inj same
      obtain ⟨account, ks, linked, read⟩ := accounts_of_writeNodes fields operands
      rw [Linked.node, linked, Stmt.localsAll_append, Stmt.readsAll_append]
      refine ⟨?_, _, rfl, read⟩
      simpa [Node.bound, Node.uses, Stmt.localsAll, Stmt.locals, Stmt.readsAll, Stmt.reads] using
        account.result named
  | .proj n index ty => by
      intro h
      obtain ⟨⟨ts, t⟩, σ₁, first, h⟩ := ok_of_run_bind h
      obtain ⟨account, k, linked, read⟩ := accounts_of_writeNode n first
      rw [Linked.node, linked]
      refine ⟨.finish ?_ h, _, rfl, read⟩
      simpa [Node.bound, Node.uses, Call.locals, Call.reads] using account
  | .cases data clauses ty => by
      intro h
      obtain ⟨⟨ts, d⟩, σ₁, first, h⟩ := ok_of_run_bind h
      obtain ⟨cs, σ₂, second, h⟩ := ok_of_run_bind h
      obtain ⟨account, k, linked, read⟩ := accounts_of_writeNode data first
      obtain ⟨account', ks, linked', read'⟩ := accounts_of_writeClauses clauses second
      rw [Linked.node, linked, ok_bind, linked']
      exact ⟨(account.append account').finish h, _, rfl, read.append read'⟩
  | .fn params body ret => by
      intro h
      obtain ⟨bs, σ₁, first, h⟩ := ok_of_run_bind h
      obtain ⟨⟨ts, y⟩, σ₂, second, h⟩ := ok_of_run_bind h
      obtain ⟨z, σ₃, named, h⟩ := ok_of_run_bind h
      obtain ⟨same, rfl⟩ := eq_of_run_pure h
      obtain ⟨rfl, rfl⟩ := Prod.mk.inj same
      obtain ⟨account, k, linked, read⟩ := accounts_of_writeNode body second
      rw [Linked.node, linked]
      refine ⟨?_, _, rfl, read⟩
      have all := ((accounts_bindVars first).append account).result named
      simpa [Node.bound, Node.uses, Stmt.localsAll, Stmt.locals, Stmt.readsAll, Stmt.reads,
        Block.locals, Block.reads, Stmt.localsAll_append, Stmt.readsAll_append] using all
  | .construct c tag args => by
      intro h
      obtain ⟨⟨ts, xs⟩, σ₁, operands, h⟩ := ok_of_run_bind h
      obtain ⟨account, ks, linked, read⟩ := accounts_of_writeNodes args operands
      rw [Linked.node, linked]
      refine ⟨.finish ?_ h, _, rfl, read⟩
      have counted : Accounts consts _ _ (.data c.data :: Node.usesAll args) _ _ _ :=
        account.congr rfl
      simpa [Node.bound, Node.uses, Call.locals, Call.reads] using counted

theorem accounts_of_writeNodes : (ns : List Node) → ∀ {σ ss xs σ'},
    (writeNodes consts ns).run σ = .ok ((ss, xs), σ') →
      Accounts consts σ (Node.boundAll ns) (Node.usesAll ns) (Stmt.localsAll ss)
          (Stmt.readsAll ss) σ' ∧
        ∃ ks, Linked.nodes consts ns = .ok ks ∧
          Reads consts (Node.usesAll ns) (Linked.Node.readsAll ks)
  | [] => by
      intro h
      obtain ⟨same, rfl⟩ := eq_of_run_pure h
      obtain ⟨rfl, rfl⟩ := Prod.mk.inj same
      exact ⟨.nil _, _, rfl, .nil⟩
  | n :: ns => by
      intro h
      obtain ⟨⟨ts, x⟩, σ₁, first, h⟩ := ok_of_run_bind h
      obtain ⟨⟨us, ys⟩, σ₂, rest, h⟩ := ok_of_run_bind h
      obtain ⟨same, rfl⟩ := eq_of_run_pure h
      obtain ⟨rfl, rfl⟩ := Prod.mk.inj same
      obtain ⟨account, k, linked, read⟩ := accounts_of_writeNode n first
      obtain ⟨account', ks, linked', read'⟩ := accounts_of_writeNodes ns rest
      rw [Linked.nodes, linked, ok_bind, linked', Stmt.localsAll_append, Stmt.readsAll_append]
      exact ⟨account.append account', _, rfl, read.append read'⟩

theorem accounts_of_writeBindings : (bs : List (Var × Node)) → ∀ {σ ss σ'},
    (writeBindings consts bs).run σ = .ok (ss, σ') →
      Accounts consts σ (Node.boundBindings bs) (Node.usesBindings bs) (Stmt.localsAll ss)
          (Stmt.readsAll ss) σ' ∧
        ∃ ks, Linked.nodeBindings consts bs = .ok ks ∧
          Reads consts (Node.usesBindings bs) (Linked.Node.readsBindings ks)
  | [] => by
      intro h
      obtain ⟨rfl, rfl⟩ := eq_of_run_pure h
      exact ⟨.nil _, _, rfl, .nil⟩
  | (v, n) :: rest => by
      intro h
      obtain ⟨⟨ts, x⟩, σ₁, first, h⟩ := ok_of_run_bind h
      obtain ⟨st, σ₂, bound, h⟩ := ok_of_run_bind h
      obtain ⟨us, σ₃, others, h⟩ := ok_of_run_bind h
      obtain ⟨rfl, rfl⟩ := eq_of_run_pure h
      obtain ⟨account, k, linked, read⟩ := accounts_of_writeNode n first
      obtain ⟨account', ks, linked', read'⟩ := accounts_of_writeBindings rest others
      rw [Linked.nodeBindings, linked, ok_bind, linked', Stmt.localsAll_append,
        Stmt.readsAll_append]
      exact ⟨account.append ((accounts_bindVar bound).append account'), _, rfl, read.append read'⟩

theorem accounts_of_writeClauses : (cs : List (Pattern × Node)) → ∀ {σ bs σ'},
    (writeClauses consts cs).run σ = .ok (bs, σ') →
      Accounts consts σ (Node.boundClauses cs) (Node.usesClauses cs) (Block.localsClauses bs)
          (Block.readsClauses bs) σ' ∧
        ∃ ks, Linked.nodeClauses consts cs = .ok ks ∧
          Reads consts (Node.usesClauses cs) (Linked.Node.readsClauses ks)
  | [] => by
      intro h
      obtain ⟨rfl, rfl⟩ := eq_of_run_pure h
      exact ⟨.nil _, _, rfl, .nil⟩
  | (p, n) :: rest => by
      intro h
      rw [writeClauses] at h
      rw [Linked.nodeClauses]
      cases pattern : Matcher.ofPattern p with
      | error e =>
          rw [pattern] at h
          cases h
      | ok m =>
          rw [pattern] at h
          obtain ⟨vs, σ₁, first, h⟩ := ok_of_run_bind h
          obtain ⟨⟨ts, x⟩, σ₂, second, h⟩ := ok_of_run_bind h
          obtain ⟨us, σ₃, others, h⟩ := ok_of_run_bind h
          obtain ⟨rfl, rfl⟩ := eq_of_run_pure h
          obtain ⟨account, k, linked, read⟩ := accounts_of_writeNode n second
          obtain ⟨account', ks, linked', read'⟩ := accounts_of_writeClauses rest others
          -- the inventory meets the pattern first, but only constants are read
          have plain : constantsOf (Node.usesClauses ((p, n) :: rest)) =
              constantsOf (n.uses ++ Node.usesClauses rest) := by
            rw [Node.usesClauses, constantsOf, List.filterMap_append]
            exact congrArg (· ++ _) (constantsOf_pattern p)
          simp only [linked, ok_bind, linked']
          have all := ((accounts_bindVars first).append account).append account'
          refine ⟨.congr ?_ plain, _, rfl, ?_⟩
          · simpa [Node.boundClauses, Block.localsClauses, Block.readsClauses, Block.locals,
              Block.reads, Stmt.localsAll_append, Stmt.readsAll_append] using all
          · rw [Reads, plain]
            exact read.append read'

end

/-- The account of a function that is written. -/
theorem accounts_of_writeRoutine {r : Lowered.Routine} {block : Block}
    (written : writeRoutine consts r = .ok block) :
    ∃ σ', Accounts consts .start (r.params ++ r.body.bound) r.body.uses block.locals
        block.reads σ' ∧
      ∃ k, Linked.routine consts r = .ok ⟨r.params, k⟩ ∧ Reads consts r.body.uses k.reads := by
  obtain ⟨⟨b, σ'⟩, run, same⟩ := ok_of_bind_ok written
  cases same
  obtain ⟨bs, σ₁, first, run⟩ := ok_of_run_bind run
  obtain ⟨⟨ss, x⟩, σ₂, second, run⟩ := ok_of_run_bind run
  obtain ⟨rfl, rfl⟩ := eq_of_run_pure run
  obtain ⟨account, k, linked, read⟩ := accounts_of_writeNode r.body second
  refine ⟨σ', ?_, k, ?_, read⟩
  · simpa [Block.locals, Block.reads, Stmt.localsAll_append, Stmt.readsAll_append] using
      (accounts_bindVars first).append account
  · rw [Linked.routine, linked]
    rfl

end

end Emit
end TensorCompiler
