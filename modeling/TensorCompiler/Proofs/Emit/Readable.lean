import TensorCompiler.Proofs.Emit.Hygiene
import TensorCompiler.Proofs.Emit.SourceText

/-!
# Reading emitted programs

Every local that a written function mentions is an identifier, whatever the names of its variables:
new locals are, and the text mentions no others.

Main statement: the text of an emitted program says its functions, the names it registers them
under, its kernels and the number of its captured parameters.
-/

namespace TensorCompiler

open Lowered (Node)

namespace Emit

open Reader

/-- The locals of the variables in scope. -/
def Scope.places (σ : Scope) : List String :=
  σ.locals.map Prod.snd

/-- A step of the writer that mentions some names: if the locals in scope are identifiers, so are
the names and the locals in the scope after the step. -/
def Mentions (σ : Scope) (names : List String) (σ' : Scope) : Prop :=
  Identifiers σ.places → Identifiers names ∧ Identifiers σ'.places

section

variable {σ σ₁ σ' : Scope} {names names' : List String} {x : String}

theorem Mentions.nil (σ : Scope) : Mentions σ [] σ :=
  fun scope => ⟨fun _ member => absurd member List.not_mem_nil, scope⟩

theorem Mentions.append (h : Mentions σ names σ₁) (h' : Mentions σ₁ names' σ') :
    Mentions σ (names ++ names') σ' := by
  intro scope
  obtain ⟨first, scope₁⟩ := h scope
  obtain ⟨second, scope'⟩ := h' scope₁
  exact ⟨List.forall_mem_append.mpr ⟨first, second⟩, scope'⟩

/-- Names that were mentioned are mentioned again. -/
theorem Mentions.subset (h : Mentions σ names σ') (sub : names' ⊆ names) :
    Mentions σ names' σ' :=
  fun scope => ⟨fun s member => (h scope).1 s (sub member), (h scope).2⟩

/-- The local of a variable is in scope. -/
theorem mentions_localOf {v : Var} (h : (localOf v).run σ = .ok (x, σ')) :
    Mentions σ [x] σ' := by
  obtain ⟨place, rfl⟩ := ok_of_localOf h
  obtain ⟨p, found, rfl⟩ := Option.map_eq_some_iff.mp place
  intro scope
  have member := List.mem_map_of_mem (f := Prod.snd) (List.mem_of_find?_eq_some found)
  exact ⟨List.forall_mem_singleton.mpr (scope p.2 member), scope⟩

theorem mentions_freshResult (h : freshResult.run σ = .ok (x, σ')) : Mentions σ [x] σ' := by
  cases h
  exact fun scope => ⟨List.forall_mem_singleton.mpr (NameSupply.isIdentifier_fresh _ _), scope⟩

/-- The last step of a node mentions what its call mentions, and the result. -/
theorem Mentions.finish {before ss : List Stmt} {c : Call}
    (h : Mentions σ (stmtsNames before ++ callNames c) σ₁)
    (run : (Emit.finish before c).run σ₁ = .ok ((ss, x), σ')) :
    Mentions σ (stmtsNames ss ++ [x]) σ' := by
  obtain ⟨y, σ₂, named, run⟩ := ok_of_run_bind run
  obtain ⟨same, rfl⟩ := eq_of_run_pure run
  obtain ⟨rfl, rfl⟩ := Prod.mk.inj same
  refine (h.append (mentions_freshResult named)).subset ?_
  intro name member
  simp only [stmtsNames_append, stmtsNames, stmtNames, List.mem_append, List.mem_cons] at member ⊢
  tauto

/-- A bound variable mentions its local, and a local that was mentioned before. -/
theorem Mentions.bindVar {v : Var} {origin : Origin} {st : Stmt} (h : Mentions σ names σ₁)
    (sub : ∀ name, stmtNames (.bind name origin) ⊆ name :: names)
    (run : (Emit.bindVar v origin).run σ₁ = .ok (st, σ')) :
    Mentions σ (names ++ stmtNames st) σ' := by
  cases run
  intro scope
  obtain ⟨before, scope₁⟩ := h scope
  have named := NameSupply.isIdentifier_fresh σ₁.names v.name
  have all : Identifiers ((σ₁.names.fresh v.name).1 :: names) :=
    List.forall_mem_cons.mpr ⟨named, before⟩
  exact ⟨List.forall_mem_append.mpr ⟨before, fun name member => all name (sub _ member)⟩,
    List.forall_mem_cons.mpr ⟨named, scope₁⟩⟩

/-- Variables that are bound in order to numbered origins. -/
theorem mentions_bindVars {origin : Nat → Origin}
    (numbered : ∀ name i, stmtNames (.bind name (origin i)) = [name]) {vs : List Var} {i : Nat}
    {σ : Scope} {ss : List Stmt} (h : (bindVars origin i vs).run σ = .ok (ss, σ')) :
    Mentions σ (stmtsNames ss) σ' := by
  induction vs generalizing i σ ss with
  | nil =>
      obtain ⟨rfl, rfl⟩ := eq_of_run_pure h
      exact .nil _
  | cons v vs ih =>
      obtain ⟨st, σ₁, first, h⟩ := ok_of_run_bind h
      obtain ⟨ts, σ₂, rest, h⟩ := ok_of_run_bind h
      obtain ⟨rfl, rfl⟩ := eq_of_run_pure h
      have named (name : String) : stmtNames (.bind name (origin i)) ⊆ [name] := by
        rw [numbered]
        exact List.Subset.refl _
      exact ((Mentions.nil σ).bindVar named first).append (ih rest)

end

/-! ### What the writer mentions -/

section

variable {consts : List Constant}

mutual

/-- What is written for a node mentions identifiers. -/
theorem mentions_of_writeNode : (n : Node) → ∀ {σ ss x σ'},
    (writeNode consts n).run σ = .ok ((ss, x), σ') → Mentions σ (stmtsNames ss ++ [x]) σ'
  | .hole => by
      intro h
      cases h
  | .var v => by
      intro h
      obtain ⟨y, σ₁, found, h⟩ := ok_of_run_bind h
      obtain ⟨same, rfl⟩ := eq_of_run_pure h
      obtain ⟨rfl, rfl⟩ := Prod.mk.inj same
      exact mentions_localOf found
  | .const c => by
      intro h
      rw [writeNode] at h
      cases place : consts.findIdx? (· == c) with
      | none =>
          rw [place] at h
          cases h
      | some i =>
          rw [place] at h
          exact .finish (.nil _) h
  | .global g => by
      intro h
      exact .finish (.nil _) h
  | .packed kernel arity conv args ty => by
      intro h
      obtain ⟨⟨ts, xs⟩, σ₁, operands, h⟩ := ok_of_run_bind h
      exact (mentions_of_writeNodes args operands).finish h
  | .invoke callee args ty => by
      intro h
      obtain ⟨⟨ts, f⟩, σ₁, first, h⟩ := ok_of_run_bind h
      obtain ⟨⟨us, xs⟩, σ₂, operands, h⟩ := ok_of_run_bind h
      have both := (mentions_of_writeNode callee first).append
        (mentions_of_writeNodes args operands)
      refine (both.subset fun name => ?_).finish h
      simp only [callNames, stmtsNames_append, List.mem_append, List.mem_cons]
      tauto
  | .decl bindings body => by
      intro h
      obtain ⟨ts, σ₁, first, h⟩ := ok_of_run_bind h
      obtain ⟨⟨us, y⟩, σ₂, second, h⟩ := ok_of_run_bind h
      obtain ⟨same, rfl⟩ := eq_of_run_pure h
      obtain ⟨rfl, rfl⟩ := Prod.mk.inj same
      rw [stmtsNames_append, List.append_assoc]
      exact (mentions_of_writeBindings bindings first).append (mentions_of_writeNode body second)
  | .cond test yes no ty => by
      intro h
      obtain ⟨⟨ts, c⟩, σ₁, first, h⟩ := ok_of_run_bind h
      obtain ⟨⟨ys, y⟩, σ₂, second, h⟩ := ok_of_run_bind h
      obtain ⟨⟨ns, n⟩, σ₃, third, h⟩ := ok_of_run_bind h
      have all := (mentions_of_writeNode test first).append
        ((mentions_of_writeNode yes second).append (mentions_of_writeNode no third))
      refine (all.subset ?_).finish h
      simp [callNames, blockNames]
  | .tuple fields ty => by
      intro h
      obtain ⟨⟨ts, xs⟩, σ₁, operands, h⟩ := ok_of_run_bind h
      obtain ⟨y, σ₂, named, h⟩ := ok_of_run_bind h
      obtain ⟨same, rfl⟩ := eq_of_run_pure h
      obtain ⟨rfl, rfl⟩ := Prod.mk.inj same
      refine ((mentions_of_writeNodes fields operands).append
        (mentions_freshResult named)).subset ?_
      simp [stmtsNames_append, stmtsNames, stmtNames]
  | .proj n index ty => by
      intro h
      obtain ⟨⟨ts, t⟩, σ₁, first, h⟩ := ok_of_run_bind h
      exact (mentions_of_writeNode n first).finish h
  | .cases data clauses ty => by
      intro h
      obtain ⟨⟨ts, d⟩, σ₁, first, h⟩ := ok_of_run_bind h
      obtain ⟨cs, σ₂, second, h⟩ := ok_of_run_bind h
      have both := (mentions_of_writeNode data first).append
        (mentions_of_writeClauses clauses second)
      refine (both.subset ?_).finish h
      simp [callNames]
  | .fn params body ret => by
      intro h
      obtain ⟨bs, σ₁, first, h⟩ := ok_of_run_bind h
      obtain ⟨⟨ts, y⟩, σ₂, second, h⟩ := ok_of_run_bind h
      obtain ⟨z, σ₃, named, h⟩ := ok_of_run_bind h
      obtain ⟨same, rfl⟩ := eq_of_run_pure h
      obtain ⟨rfl, rfl⟩ := Prod.mk.inj same
      have all := ((mentions_bindVars (fun _ _ => rfl) first).append
        (mentions_of_writeNode body second)).append (mentions_freshResult named)
      refine all.subset ?_
      simp [stmtsNames_append, stmtsNames, stmtNames, blockNames]
  | .construct c tag args => by
      intro h
      obtain ⟨⟨ts, xs⟩, σ₁, operands, h⟩ := ok_of_run_bind h
      exact (mentions_of_writeNodes args operands).finish h

theorem mentions_of_writeNodes : (ns : List Node) → ∀ {σ ss xs σ'},
    (writeNodes consts ns).run σ = .ok ((ss, xs), σ') → Mentions σ (stmtsNames ss ++ xs) σ'
  | [] => by
      intro h
      obtain ⟨same, rfl⟩ := eq_of_run_pure h
      obtain ⟨rfl, rfl⟩ := Prod.mk.inj same
      exact .nil _
  | n :: ns => by
      intro h
      obtain ⟨⟨ts, x⟩, σ₁, first, h⟩ := ok_of_run_bind h
      obtain ⟨⟨us, ys⟩, σ₂, rest, h⟩ := ok_of_run_bind h
      obtain ⟨same, rfl⟩ := eq_of_run_pure h
      obtain ⟨rfl, rfl⟩ := Prod.mk.inj same
      have both := (mentions_of_writeNode n first).append (mentions_of_writeNodes ns rest)
      refine both.subset fun name => ?_
      simp only [stmtsNames_append, List.mem_append, List.mem_cons]
      tauto

theorem mentions_of_writeBindings : (bs : List (Var × Node)) → ∀ {σ ss σ'},
    (writeBindings consts bs).run σ = .ok (ss, σ') → Mentions σ (stmtsNames ss) σ'
  | [] => by
      intro h
      obtain ⟨rfl, rfl⟩ := eq_of_run_pure h
      exact .nil _
  | (v, n) :: rest => by
      intro h
      obtain ⟨⟨ts, x⟩, σ₁, first, h⟩ := ok_of_run_bind h
      obtain ⟨st, σ₂, bound, h⟩ := ok_of_run_bind h
      obtain ⟨us, σ₃, others, h⟩ := ok_of_run_bind h
      obtain ⟨rfl, rfl⟩ := eq_of_run_pure h
      have named := (mentions_of_writeNode n first).bindVar (by simp [stmtNames]) bound
      refine (named.append (mentions_of_writeBindings rest others)).subset ?_
      simp [stmtsNames_append, stmtsNames]

theorem mentions_of_writeClauses : (cs : List (Pattern × Node)) → ∀ {σ bs σ'},
    (writeClauses consts cs).run σ = .ok (bs, σ') → Mentions σ (clauseNames bs) σ'
  | [] => by
      intro h
      obtain ⟨rfl, rfl⟩ := eq_of_run_pure h
      exact .nil _
  | (p, n) :: rest => by
      intro h
      rw [writeClauses] at h
      cases pattern : Matcher.ofPattern p with
      | error e =>
          rw [pattern] at h
          cases h
      | ok m =>
          rw [pattern] at h
          obtain ⟨vs, σ₁, first, h⟩ := ok_of_run_bind h
          obtain ⟨⟨ts, x⟩, σ₂, second, h⟩ := ok_of_run_bind h
          obtain ⟨us, σ₃, others, h⟩ := ok_of_run_bind h
          obtain ⟨rfl, rfl⟩ := eq_of_run_pure h
          have all := ((mentions_bindVars (fun _ _ => rfl) first).append
            (mentions_of_writeNode n second)).append (mentions_of_writeClauses rest others)
          rw [clauseNames, blockNames, stmtsNames_append]
          rwa [← List.append_assoc (stmtsNames vs)] at all

end

/-- A function that is written mentions identifiers only. -/
theorem identifiers_of_writeRoutine {r : Lowered.Routine} {block : Block}
    (written : writeRoutine consts r = .ok block) : Identifiers (blockNames block) := by
  obtain ⟨⟨b, σ'⟩, run, same⟩ := ok_of_bind_ok written
  cases same
  obtain ⟨bs, σ₁, first, run⟩ := ok_of_run_bind run
  obtain ⟨⟨ss, x⟩, σ₂, second, run⟩ := ok_of_run_bind run
  obtain ⟨rfl, rfl⟩ := eq_of_run_pure run
  have all := (mentions_bindVars (fun _ _ => rfl) first).append
    (mentions_of_writeNode r.body second)
  rw [blockNames, stmtsNames_append, List.append_assoc]
  exact (all (by rintro _ ⟨⟩)).1

end

/-- The text of an emitted program is read as the package that it was laid out from. -/
theorem read?_of_renders {p : Program} {source : Source} {entry : Lowered.Routine}
    {inv : Inventory} {routines : List Routine} (renders : source.Renders p entry inv routines) :
    Package.read? source.text = some (packageOf source.package p.name source.params.length
      source.kernels (definitions p entry) routines) := by
  obtain ⟨-, symbols⟩ := symbols_definitions p entry
  have bodies := forall₂_of_writeDefinitions renders.written
  rw [renders.text]
  refine read?_sourceLines renders.package
    (fun d hd => (symbols d.symbol (List.mem_map_of_mem hd)).1) ?_
  intro r hr
  obtain ⟨d, hd, symbol, written⟩ := exists_of_forall₂ (List.Forall₂.flip bodies) r hr
  exact ⟨symbol ▸ (symbols d.symbol (List.mem_map_of_mem hd)).1,
    identifiers_of_writeRoutine written⟩

/-- A function is found under its symbol, if the symbols are different. -/
theorem find?_symbol {consts : List Constant} {defs : List Definition} {rs : List Routine}
    (written : List.Forall₂ (fun d r => r.name = d.symbol ∧
      writeRoutine consts d.routine = .ok r.body) defs rs)
    (once : (defs.map Definition.symbol).Nodup) :
    List.Forall₂ (fun d r => rs.find? (·.name == d.symbol) = some r ∧
      writeRoutine consts d.routine = .ok r.body) defs rs := by
  induction written with
  | nil => exact .nil
  | @cons d r defs rs head tail ih =>
      obtain ⟨new, once⟩ := List.nodup_cons.mp once
      have other : ∀ d' ∈ defs, d.symbol ≠ d'.symbol :=
        fun d' hd' same => new (same ▸ List.mem_map_of_mem hd')
      have rest := (List.forall₂_and_left ..).mpr ⟨other, ih once⟩
      refine .cons ⟨by simp [head.1], head.2⟩ (rest.imp ?_)
      rintro d' r' ⟨other, found, written⟩
      rw [List.find?_cons_of_neg (by rw [beq_iff_eq, head.1]; exact other)]
      exact ⟨found, written⟩

/-- The function of a package with a symbol. -/
def Package.function? (file : Package) (symbol : String) : Option Routine :=
  file.functions.find? (·.name == symbol)

/-- The written functions are found under the symbols of their definitions. -/
theorem functions_found {p : Program} {source : Source} {entry : Lowered.Routine}
    {inv : Inventory} {routines : List Routine} (renders : source.Renders p entry inv routines) :
    List.Forall₂ (fun d r => routines.find? (·.name == d.symbol) = some r ∧
      writeRoutine source.params d.routine = .ok r.body) (definitions p entry) routines :=
  find?_symbol (forall₂_of_writeDefinitions renders.written) (symbols_definitions p entry).1

end Emit
end TensorCompiler
