import TensorCompiler.Proofs.Lowering.Compilations

/-!
# The order in which globals are finished

The finished globals are listed in the order in which their resolution ended. This is the finishing
order of a depth-first search, kept over many searches, some of which fail and take back what they
finished.

Main statement: in the list a global comes after each global it refers to, unless this one refers
back to it, over any number of globals.

## Implementation notes

While a global is finished, the globals it refers to are finished or under way. Those under way were
begun one inside the other, the global itself innermost, so each of them reaches it. The conduct
that carries this fixes the list of globals under way; that all of them reach the global to be
resolved is asked of each node that refers to one.
-/

namespace TensorCompiler

open Lowered

/-! ### References of a node and of its source -/

namespace Expr

/-- The global a node of an expression refers to. -/
def global? : Expr → Option GlobalRef
  | .global g => some g
  | _ => none

end Expr

namespace Lowering

variable {prim : PrimJudgement} {known : GlobalRef → Prop}

mutual

/-- A translation refers to the globals of its source, in the same order. -/
theorem Translates.globalRefs_eq {e : Expr} {n : Node} :
    Translates prim known e n → n.globalRefs = e.parts.filterMap Expr.global?
  | .var _ | .const _ | .global _ => rfl
  | .primCall _ fields => by
      simp [PackedForm.node, Node.globalRefs, Expr.parts, List.filterMap_cons, Expr.global?,
        Expr.isHead, Expr.isPrimitive, TranslatesAll.globalRefs_eq fields]
  | .ctorCall _ fields => by
      simp [Node.globalRefs, Expr.parts, List.filterMap_cons, Expr.global?, Expr.isHead,
        TranslatesAll.globalRefs_eq fields]
  | .call plain head fields => by
      simp [Node.globalRefs, Expr.parts, List.filterMap_cons, Expr.global?, head.isHead_eq, plain,
        Translates.globalRefs_eq head, TranslatesAll.globalRefs_eq fields]
  | .bind head tail => by
      simp [Node.globalRefs_bindBefore, Expr.parts, List.filterMap_cons, Expr.global?,
        Translates.globalRefs_eq head, Translates.globalRefs_eq tail]
  | .cond head left right => by
      simp [Node.globalRefs, Expr.parts, List.filterMap_cons, Expr.global?,
        Translates.globalRefs_eq head, Translates.globalRefs_eq left,
        Translates.globalRefs_eq right]
  | .tuple all => by
      simp [Node.globalRefs, Expr.parts, List.filterMap_cons, Expr.global?,
        TranslatesAll.globalRefs_eq all]
  | .proj head => by
      simp [Node.globalRefs, Expr.parts, List.filterMap_cons, Expr.global?,
        Translates.globalRefs_eq head]
  | .cases head all => by
      simp [Node.globalRefs, Expr.parts, List.filterMap_cons, Expr.global?,
        Translates.globalRefs_eq head, TranslatesClauses.globalRefs_eq all]
  | .primFn _ => by
      simp [PackedForm.node, Node.globalRefs, Node.globalRefsAll_vars, Expr.parts,
        List.filterMap_cons, Expr.global?]
  | .fn head => by
      simp [Node.globalRefs, Expr.parts, List.filterMap_cons, Expr.global?,
        Translates.globalRefs_eq head]

/-- Translations of several expressions refer to the globals of their sources. -/
theorem TranslatesAll.globalRefs_eq {es : List Expr} {ns : List Node} :
    TranslatesAll prim known es ns →
      Node.globalRefsAll ns = (Expr.partsAll es).filterMap Expr.global?
  | .nil => rfl
  | .cons head tail => by
      simp [Node.globalRefsAll, Expr.partsAll, Translates.globalRefs_eq head,
        TranslatesAll.globalRefs_eq tail]

/-- Translations of clauses refer to the globals of their sources. -/
theorem TranslatesClauses.globalRefs_eq {es : List (Pattern × Expr)}
    {ns : List (Pattern × Node)} :
    TranslatesClauses prim known es ns →
      Node.globalRefsClauses ns = (Expr.partsClauses es).filterMap Expr.global?
  | .nil => rfl
  | .cons head tail => by
      simp [Node.globalRefsClauses, Expr.partsClauses, Translates.globalRefs_eq head,
        TranslatesClauses.globalRefs_eq tail]

end

/-- The references of a lowered function stand in its definition. -/
theorem TranslatesFunction.part_of_mem {f : Function} {r : Routine}
    (h : TranslatesFunction prim known f r) {ref : GlobalRef} (member : ref ∈ r.body.globalRefs) :
    .global ref ∈ f.toExpr.parts := by
  have whole : r.body.globalRefs = f.toExpr.parts.filterMap Expr.global? := by
    cases h with
    | prim ok =>
        have asNode : Translates prim known _ _ := .primFn ok
        exact asNode.globalRefs_eq
    | plain head => exact (Translates.fn head).globalRefs_eq
  rw [whole] at member
  obtain ⟨x, hx, same⟩ := List.mem_filterMap.mp member
  unfold Expr.global? at same
  split at same
  · cases same
    exact hx
  · cases same

end Lowering

/-! ### What grows with a module -/

namespace Module

variable {m n : Module}

/-- A defined global keeps its function. -/
theorem Extends.functionNamed (h : m.Extends n) {name : String} {f : Function}
    (named : m.functionNamed name = some f) : n.functionNamed name = some f := by
  obtain ⟨id, hl, hf⟩ := m.functionNamed_eq_some named
  exact Option.bind_eq_some_iff.mpr ⟨id, h.lookup hl, h.function hf⟩

/-- What can be reached is reached in every later state of the module. -/
theorem Extends.reaches (h : m.Extends n) {g k : String} (reach : m.Reaches g k) :
    n.Reaches g k := by
  refine Relation.ReflTransGen.mono ?_ _ _ reach
  rintro a c ⟨f, ref, named, part, rfl⟩
  exact ⟨f, ref, h.functionNamed named, part, rfl⟩

end Module

/-! ### The order of a session -/

variable {κ : Type}

/-- A finished global at its place: what it refers to was finished in front of it, or reaches it. -/
def Module.Places (m : Module) (before : List (Nat × Routine)) (p : Nat × Routine) : Prop :=
  ∀ ref ∈ p.2.body.globalRefs, ∃ id, m.lookup ref.name = some id ∧
    (id ∈ before.map Prod.fst ∨ ∃ g, m.lookup g = some p.1 ∧ m.Reaches ref.name g)

/-- The finished globals are listed in their order. -/
def Module.Orders (m : Module) (finished : List (Nat × Routine)) : Prop :=
  ∀ before p after, finished = before ++ p :: after → m.Places before p

namespace Module.Orders

variable {m n : Module} {finished : List (Nat × Routine)}

/-- What was finished last may be forgotten. -/
theorem of_prefix {shorter : List (Nat × Routine)} (h : m.Orders finished)
    (front : shorter <+: finished) : m.Orders shorter := by
  obtain ⟨rest, rfl⟩ := front
  rintro before p after rfl
  exact h before p (after ++ rest) (by simp)

/-- One more global is finished. -/
theorem snoc (h : m.Orders finished) {p : Nat × Routine} (last : m.Places finished p) :
    m.Orders (finished ++ [p]) := by
  intro before q after same
  rcases List.eq_nil_or_concat after with rfl | ⟨rest, r, rfl⟩
  · obtain ⟨rfl, rfl⟩ := List.append_inj' same rfl |>.imp_right (List.cons.inj · |>.1)
    exact last
  · have split : finished ++ [p] = (before ++ q :: rest) ++ [r] := by simpa using same
    obtain ⟨rfl, -⟩ := List.append_inj' split rfl
    exact h before q rest rfl

/-- The order is kept when the module grows. -/
theorem of_extends (h : m.Orders finished) (ext : m.Extends n) : n.Orders finished := by
  intro before p after same ref member
  obtain ⟨id, hl, place⟩ := h before p after same ref member
  refine ⟨id, ext.lookup hl, place.imp_right ?_⟩
  rintro ⟨g, hg, reach⟩
  exact ⟨g, ext.lookup hg, ext.reaches reach⟩

end Module.Orders

variable [CompiledKernel κ]

namespace Lowering

variable {b : Backend κ} {m : Module}

/-- A session between whose globals under way something is resolved. -/
structure Finishing (b : Backend κ) (m : Module) (active : List Nat) (s : Session κ) : Prop where
  table : Table (plainView b) m s
  orders : m.Orders s.resolved
  active : s.active = active

/-- Packing finishes no global. -/
theorem packedCall_finishing (active : List Nat) (site : Expr) (f : Function) (tys : List Ty) :
    (Conduct.keeping (Finishing b m active)).Follows (packedCall b site f tys) := by
  refine Conduct.follows_keeping_iff.mpr fun s hs => ?_
  have table := (packedCall_keeps (plainView b) m site f tys s hs.table).1
  obtain ⟨reports, -, ⟨same, -⟩ | ⟨fp, k, -, -, same⟩⟩ := packedCall_cases b site f tys s
  all_goals
    rw [same] at table ⊢
    exact ⟨table, hs.orders, hs.active⟩

/-- The nodes of an expression keep the order if the globals they refer to do. -/
theorem guides_finishing {active : List Nat} {resolve : GlobalRef → LowerM κ Unit}
    {nodes : List Expr}
    (inner : ∀ g, .global g ∈ nodes →
      (Conduct.keeping (Finishing b m active)).Follows (resolve g)) :
    (Conduct.keeping (Finishing b m active)).Guides b resolve nodes where
  refuse _ _ _ _ := id
  resolve := inner
  pack x _ f tys _ := packedCall_finishing active x f tys

omit [CompiledKernel κ] in
/-- A global that is lowered completely comes behind what it refers to, or was begun inside it. -/
theorem places_of_translation {s : Session κ} {prim : PrimJudgement} {f : Function} {r : Routine}
    (tr : TranslatesFunction prim (Known m s) f r) {g : String} {id : Nat}
    (hl : m.lookup g = some id)
    (chain : ∀ j ∈ s.active, ∀ h, m.lookup h = some j → m.Reaches h g) :
    m.Places s.resolved (id, r) := by
  intro ref member
  obtain ⟨j, hj, active | finished⟩ := tr.known_of_mem ref member
  · exact ⟨j, hj, Or.inr ⟨g, hl, chain j active ref.name hj⟩⟩
  · exact ⟨j, hj, Or.inl finished⟩

/-- The resolution of a global that all globals under way reach keeps the order. -/
theorem resolve_finishing (depth : Nat) (active : List Nat) (g : GlobalRef)
    (chain : ∀ j ∈ active, ∀ h, m.lookup h = some j → m.Reaches h g.name) :
    (Conduct.keeping (Finishing b m active)).Follows (resolve m b depth g) := by
  induction depth using Nat.strong_induction_on generalizing active g with
  | _ depth ih =>
      refine Conduct.follows_keeping_iff.mpr fun s hs => ?_
      have kept := (resolve_admits (plainView b) m depth).resolve g s hs.table
      rcases resolve_cases m b depth g s with ⟨e, run⟩ | ⟨id, hl, under, run⟩ |
        ⟨id, hl, finished, run⟩ | ⟨d, id, f, rfl, hl, hf, fresh, new, run⟩
      · rwa [run]
      · rw [run] at kept ⊢
        exact ⟨kept.1, hs.orders, hs.active⟩
      · rwa [run]
      · -- The globals under way reach this one, and over it what its definition refers to.
        have named : m.functionNamed g.name = some f := Option.bind_eq_some_iff.mpr ⟨id, hl, hf⟩
        have longer : ∀ j ∈ id :: active, ∀ h, m.lookup h = some j → m.Reaches h g.name := by
          intro j hj h hh
          rcases List.mem_cons.mp hj with rfl | hj
          · obtain rfl := m.lookup_inj hh hl
            exact .refl
          · exact chain j hj h hh
        have guides : (Conduct.keeping (Finishing b m (id :: active))).Guides b (resolve m b d)
            f.toExpr.parts := by
          refine guides_finishing fun ref part => ih d d.lt_succ_self _ _ fun j hj h hh => ?_
          exact (longer j hj h hh).tail ⟨f, ref, named, part, rfl⟩
        have begun : Finishing b m (id :: active)
            { s with active := id :: s.active, log := s.log ++ [.resolving g.name] } :=
          ⟨hs.table.enter new _, hs.orders, congrArg (id :: ·) hs.active⟩
        have inner := Conduct.follows_keeping_iff.mp (Conduct.lowerFunction_follows guides) _ begun
        obtain ⟨-, -, lowered⟩ := lowerFunction_keeps (plainView b) m
          (resolve_admits (plainView b) m d) f _ begun.table
        refine ⟨kept.1, ?_, kept.2.1.active.trans hs.active⟩
        rw [run, run_complete]
        rcases hrun : (lowerFunction b (resolve m b d) f : LowerM κ Routine).run
            { s with active := id :: s.active, log := s.log ++ [.resolving g.name] } with ⟨e | r, t⟩
        · rw [hrun] at inner
          exact inner.orders.of_prefix (List.take_prefix _ _)
        · rw [hrun] at inner lowered
          refine inner.orders.snoc (places_of_translation (lowered r rfl) hl ?_)
          rw [inner.active]
          exact longer

end Lowering

namespace Workspace

open Lowering

/-- A command keeps the order, whether it fails or not. -/
theorem step_orders {w : Workspace κ} (inv : w.Inv) (h : w.module.Orders w.session.resolved)
    (cmd : Command κ) : (w.step cmd).2.module.Orders (w.step cmd).2.session.resolved := by
  have lowers (b : Backend κ) := inv.lowerings_follow (b := b)
    (C := Conduct.keeping (Finishing b w.module [])) (fun _ => id)
    (fun g => resolve_finishing _ [] g fun _ hj => absurd hj List.not_mem_nil)
    (packedCall_finishing [])
  have before (b : Backend κ) : Finishing b w.module [] w.session :=
    ⟨inv.table.change rfl rfl, h, inv.idle⟩
  cases cmd with
  | lower b e =>
      exact (Conduct.outcome_keeping_iff.mp ((lowers b).1 e) (before b)).orders
  | lowerFunction b f =>
      exact (Conduct.outcome_keeping_iff.mp ((lowers b).2.1 f) (before b)).orders
  | lowerGlobal b g =>
      exact (Conduct.outcome_keeping_iff.mp ((lowers b).2.2 g) (before b)).orders
  | share registry => exact h
  | add | declare | define =>
      rcases step_forms inv _ with ⟨m, ext, same⟩ | ⟨_, other, -⟩ | ⟨_, _, other, -⟩
      · rw [same]
        exact h.of_extends ext
      · cases other
      · cases other

/-- Commands keep the order. -/
theorem run_orders {w : Workspace κ} (inv : w.Inv) (h : w.module.Orders w.session.resolved)
    (cmds : List (Command κ)) : (w.run cmds).module.Orders (w.run cmds).session.resolved := by
  induction cmds generalizing w with
  | nil => exact h
  | cons cmd cmds ih => exact ih (step_spec inv cmd).1 (step_orders inv h cmd)

/-- The list of globals is a dependency order up to recursion. After any history, each resolved
global has one place in it, and a global that its lowered function refers to has its place strictly
in front, or reaches it and is reached from it, so that both belong to one recursive group. -/
theorem globals_in_dependency_order (name : String) (registry : Registry κ)
    (cmds : List (Command κ)) :
    let w := (start name registry).run cmds
    ∀ g r, w.session.global? w.module g = some r →
      ∃ before p after, w.session.globals w.module = before ++ p :: after ∧
        p.name = g ∧ p.routine = r ∧ g ∉ (before ++ after).map ResolvedGlobal.name ∧
        ∀ ref ∈ r.body.globalRefs, ref.name ∈ before.map ResolvedGlobal.name ∨
          w.module.Reaches ref.name g ∧ w.module.Reaches g ref.name := by
  intro w g r found
  have inv : w.Inv := run_inv (start_inv name registry) cmds
  have orders : w.module.Orders w.session.resolved := by
    refine run_orders (start_inv name registry) ?_ cmds
    intro before p after same
    cases before <;> cases same
  obtain ⟨id, hl, hid⟩ := Option.bind_eq_some_iff.mp found
  have finished := inv.routine?_iff.mp hid
  obtain ⟨f, hf, tr⟩ := inv.table.finished _ finished
  obtain ⟨before, after, split⟩ := List.append_of_mem finished
  -- The list of globals shows the finished ones by name, each in its place.
  let shown (p : Nat × Routine) : ResolvedGlobal :=
    ⟨p.1, ((w.module.definition p.1).map Definition.name).getD "", p.2⟩
  have whole : w.session.globals w.module =
      before.map shown ++ shown (id, r) :: after.map shown := by
    rw [Session.globals, split, List.map_append, List.map_cons]
  have own : (shown (id, r)).name = g := by
    simp only [shown, Module.name_of_lookup hl, Option.getD_some]
  refine ⟨before.map shown, shown (id, r), after.map shown, whole, own, rfl, ?_, ?_⟩
  · have once := inv.closed.once
    rw [whole, List.map_append, List.map_cons, own] at once
    rw [List.map_append]
    exact (List.nodup_middle.mp once).notMem
  · intro ref member
    obtain ⟨j, hj, front | ⟨g', hg', reach⟩⟩ := orders before (id, r) after split ref member
    · left
      obtain ⟨p, hp, rfl⟩ := List.mem_map.mp front
      refine List.mem_map.mpr ⟨shown p, List.mem_map_of_mem hp, ?_⟩
      simp only [shown, Module.name_of_lookup hj, Option.getD_some]
    · right
      obtain rfl := w.module.lookup_inj hg' hl
      have named : w.module.functionNamed g' = some f := Option.bind_eq_some_iff.mpr ⟨id, hl, hf⟩
      exact ⟨reach, .single ⟨f, ref, named, tr.part_of_mem member, rfl⟩⟩

/-- Two globals that call each other: the one that was begun inside the other one stands in front of
it, and refers back to it. -/
theorem tangled_ordered :
    let w := (start "tangled" Registry.empty).run
      (tangled ++ [.lowerGlobal withoutTanh "first", .lowerGlobal unary "first"])
    (w.session.globals w.module).map ResolvedGlobal.name = ["second", "first"] ∧
      ∃ r, w.session.global? w.module "second" = some r ∧
        r.body.globalRefs = [⟨"first", numeric⟩] ∧
        w.module.Reaches "first" "second" ∧ w.module.Reaches "second" "first" := by
  intro w
  have ran : (w.session.globals w.module).map ResolvedGlobal.name = ["second", "first"] ∧
      (w.session.global? w.module "second").map (fun r => r.body.globalRefs) =
        some [⟨"first", numeric⟩] := by
    decide +kernel
  obtain ⟨names, found⟩ := ran
  obtain ⟨r, hr, refs⟩ := Option.map_eq_some_iff.mp found
  obtain ⟨before, p, after, whole, own, -, once, placed⟩ :=
    globals_in_dependency_order "tangled" Registry.empty _ "second" r hr
  refine ⟨names, r, hr, refs, ?_⟩
  have called : (⟨"first", numeric⟩ : GlobalRef) ∈ r.body.globalRefs := by
    rw [refs]
    exact List.mem_singleton_self _
  rcases placed _ called with front | both
  · rw [whole] at names
    cases before with
    | nil => cases front
    | cons q before =>
        have second : q.name = "second" := (List.cons.inj names).1
        exact absurd (List.mem_cons.mpr (Or.inl second.symm)) once
  · exact both

end Workspace
end TensorCompiler
