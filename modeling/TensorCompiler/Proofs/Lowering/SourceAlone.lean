import TensorCompiler.Proofs.Lowering.LoweredForm
import TensorCompiler.Proofs.Lowering.Reachability

/-!
# Lowering depends on the source alone

A session decides whether an expression is lowered at all. What it has done before, which globals it
resolved in which order, which failures it met, with whom it shares its registry: none of this shows
in the node that it returns.

Main statement: whenever a session lowers an expression or finishes a global, the node is the
lowered form of the source, if kernels bear the name they are compiled under.
-/

namespace TensorCompiler

open Lowered

/-! ### Kernels that bear their names -/

variable {κ : Type} [CompiledKernel κ]

/-- A backend whose kernels bear the name they are compiled under. -/
def Backend.Labels (b : Backend κ) : Prop :=
  ∀ name f k, b.compile name f = .ok (some k) → CompiledKernel.name k = name

/-- A registry whose kernels bear the name of their entry. -/
def Registry.Labelled (r : Registry κ) : Prop :=
  ∀ e ∈ r.entries, CompiledKernel.name e.kernel = e.name

/-- A command that brings only kernels that bear their names. -/
def Command.Labels : Command κ → Prop
  | .lower b _ | .lowerFunction b _ | .lowerGlobal b _ => b.Labels
  | .share registry => registry.Labelled
  | .add _ _ | .declare _ _ | .define _ _ => True

/-- A command that brings only kernels that bear their names has such a backend. -/
theorem Command.Labels.backend {cmd : Command κ} (labels : cmd.Labels) {b : Backend κ}
    (own : cmd.backend? = some b) : b.Labels := by
  cases cmd with
  | lower | lowerFunction | lowerGlobal =>
      obtain rfl := Option.some.inj own
      exact labels
  | _ => cases own

namespace Lowering

/-- A view of kernels in which a packed call is the one that the lowered form has. -/
def labelledView {b : Backend κ} (labels : b.Labels) : KernelView b where
  Inv := Registry.Labelled
  prim r f types form := r.Labelled → f.packedForm? types = some form
  mono ext _ _ _ h labelled := h fun e he => labelled e (ext.subset he)
  insert {r f fp k} labelled _ _ compiled e he := by
    rcases List.mem_append.mp he with he | he
    · exact labelled e he
    · obtain rfl := List.mem_singleton.mp he
      exact labels _ _ _ compiled
  packs := by
    rintro r f types ⟨kernel, inputs, conv⟩ ⟨site, fp, e, hf, found, -, named, -, fits⟩ labelled
    have name : CompiledKernel.name e.kernel = fp.kernelName := by
      rw [labelled e (List.mem_of_find?_eq_some found)]
      simpa using List.find?_some found
    obtain rfl : kernel = fp.kernelName := named.symm.trans name
    rw [Function.packedForm?, hf]
    exact congrArg some (ofTypes_of_convention fits _)

/-- The kernels of a session may be exchanged for others that bear their names. -/
theorem Table.relabel {b c : Backend κ} {labels : b.Labels} {labels' : c.Labels} {m : Module}
    {s : Session κ} (h : Table (labelledView labels) m s) {registry : Registry κ}
    (labelled : registry.Labelled) :
    Table (labelledView labels') m { s with registry := registry } := by
  refine ⟨labelled, h.nodup, h.apart, ?_⟩
  intro p hp
  obtain ⟨f, hf, tr⟩ := h.finished p hp
  exact ⟨f, hf, tr.mono (fun _ _ _ packs _ => packs h.registry) fun _ => id⟩

end Lowering

namespace Workspace

open Lowering

/-- A workspace after some commands in which all kernels bear their names. -/
def Labelled (w : Workspace κ) : Prop :=
  ∃ name registry cmds, registry.Labelled ∧ (∀ cmd ∈ cmds, Command.Labels cmd) ∧
    w = (start name registry).run cmds

/-- Commands keep the table of labelled kernels. -/
theorem run_labelled {b : Backend κ} (labels : b.Labels) {w : Workspace κ} (inv : w.Inv)
    (h : Table (labelledView labels) w.module w.session) {cmds : List (Command κ)}
    (brings : ∀ cmd ∈ cmds, cmd.Labels) :
    Table (labelledView labels) (w.run cmds).module (w.run cmds).session := by
  induction cmds generalizing w with
  | nil => exact h
  | cons cmd cmds ih =>
      have own := brings cmd List.mem_cons_self
      have stepped : Table (labelledView labels) (w.step cmd).2.module (w.step cmd).2.session := by
        rcases step_forms inv cmd with ⟨m, ext, same⟩ | ⟨registry, rfl, same⟩ |
          ⟨c, s, brought, same, kept⟩
        · rw [same]
          exact h.extends ext
        · rw [same]
          exact h.relabel own
        · rw [same]
          have table := kept (labelledView (own.backend brought)) (h.relabel h.registry)
          exact table.relabel table.registry
      exact ih (step_spec inv cmd).1 stepped fun c hc => brings c (List.mem_cons_of_mem cmd hc)

/-- A labelled workspace has the table of labelled kernels. -/
theorem Labelled.table {w : Workspace κ} (h : w.Labelled) {b : Backend κ} (labels : b.Labels) :
    w.Inv ∧ Table (labelledView labels) w.module w.session := by
  obtain ⟨name, registry, cmds, labelled, brings, rfl⟩ := h
  exact ⟨run_inv (start_inv name registry) cmds,
    run_labelled labels (start_inv name registry) (start_table _ name labelled) brings⟩

/-- A finished global holds the lowered form of its definition. -/
theorem lowered_of_global {b : Backend κ} {labels : b.Labels} {w : Workspace κ} (inv : w.Inv)
    (h : Table (labelledView labels) w.module w.session) {g : String} {r : Routine}
    (found : w.session.global? w.module g = some r) :
    ∃ f, w.module.functionNamed g = some f ∧ f.lowered? = some r := by
  obtain ⟨id, hl, hid⟩ := Option.bind_eq_some_iff.mp found
  obtain ⟨f, hf, tr⟩ := h.finished _ (inv.routine?_iff.mp hid)
  exact ⟨f, Option.bind_eq_some_iff.mpr ⟨id, hl, hf⟩,
    tr.lowered? fun _ _ _ packs => packs h.registry⟩

/-- What lowering returns depends on the source alone. -/
theorem lowered_of_lower {w : Workspace κ} (h : w.Labelled) {b : Backend κ} (labels : b.Labels)
    {e : Expr} {n : Node} {t : Session κ} (run : w.session.lower w.module b e = (.ok n, t)) :
    e.lowered? = some n := by
  have table := (h.table labels).2
  have kept := Discipline.lower_keeps
    (resolve_admits (labelledView labels) w.module w.module.defs.length) e
  obtain ⟨table', -, translates⟩ := kept w.session table
  rw [Session.lower, SessionState.lower] at run
  rw [run] at table' translates
  exact (translates n rfl).lowered? fun _ _ _ packs => packs table'.registry

/-- What lowering a function returns depends on the source alone. -/
theorem lowered_of_lowerFunction {w : Workspace κ} (h : w.Labelled) {b : Backend κ}
    (labels : b.Labels) {f : Function} {r : Routine} {t : Session κ}
    (run : w.session.lowerFunction w.module b f = (.ok r, t)) : f.lowered? = some r := by
  have table := (h.table labels).2
  have kept := lowerFunction_keeps (labelledView labels) w.module
    (resolve_admits (labelledView labels) w.module w.module.defs.length) f
  obtain ⟨table', -, translates⟩ := kept w.session table
  rw [Session.lowerFunction, SessionState.lowerFunction] at run
  rw [run] at table' translates
  exact (translates r rfl).lowered? fun _ _ _ packs => packs table'.registry

/-- The result of a lowering depends on the source alone, if kernels bear the names they are
compiled under: after any history it is the lowered form of the expression, and a finished global
holds that of its definition. So two lowerings of one expression agree, whatever came before each of
them. In a lowered form a chain of bindings is one block. Where no primitive function is used,
nothing is lost but the types of constructor calls: the node is read back as the retyped expression,
and the expressions of this lowered form are those with this retyped one. -/
theorem lowering_depends_on_source {w : Workspace κ} (labelled : w.Labelled) {b : Backend κ}
    (labels : b.Labels) :
    (∀ e n t, w.session.lower w.module b e = (.ok n, t) → e.lowered? = some n) ∧
    (∀ f r t, w.session.lowerFunction w.module b f = (.ok r, t) → f.lowered? = some r) ∧
    (∀ g r t, w.session.lowerGlobal w.module b g = (.ok r, t) →
      ∃ f, w.module.functionNamed g = some f ∧ f.lowered? = some r) ∧
    (∀ g r, w.session.global? w.module g = some r →
      ∃ f, w.module.functionNamed g = some f ∧ f.lowered? = some r) ∧
    (∀ (w' : Workspace κ) (b' : Backend κ), w'.Labelled → b'.Labels → ∀ e n n' t t',
      w.session.lower w.module b e = (.ok n, t) →
      w'.session.lower w'.module b' e = (.ok n', t') → n = n') ∧
    (∀ bindings body, bindings ≠ [] → body.isBind = false →
      (Expr.bindAll bindings body).lowered? = (do
        let values ← Expr.loweredAll? (bindings.map Prod.snd)
        let n ← body.lowered?
        some (.decl ((bindings.map Prod.fst).zip values) n))) ∧
    ∀ (e : Expr) n, e.PrimitiveFree → e.lowered? = some n → n.source = e.retyped ∧
      ∀ e' : Expr, e'.PrimitiveFree → (e'.lowered? = some n ↔ e'.retyped = e.retyped) := by
  obtain ⟨inv, table⟩ := labelled.table labels
  refine ⟨?_, ?_, ?_, ?_, ?_, ?_, ?_⟩
  · exact fun e n t run => lowered_of_lower labelled labels run
  · exact fun f r t run => lowered_of_lowerFunction labelled labels run
  · intro g r t run
    obtain ⟨inv', table', -, found⟩ := inv.after_lowerGlobal _ table run
    exact lowered_of_global (w := { w with session := t }) inv' table' found
  · exact fun g r found => lowered_of_global inv table found
  · intro w' b' labelled' labels' e n n' t t' run run'
    have first := lowered_of_lower labelled labels run
    rw [lowered_of_lower labelled' labels' run'] at first
    exact (Option.some.inj first).symm
  · exact fun bindings body nonempty last => Expr.lowered?_bindAll last nonempty
  · intro e n free lowered
    refine ⟨e.source_of_lowered? free n lowered, fun e' free' => ⟨?_, ?_⟩⟩
    · intro lowered'
      rw [← e'.source_of_lowered? free' n lowered', e.source_of_lowered? free n lowered]
    · intro same
      rw [← e'.lowered?_retyped free', same, e.lowered?_retyped free, lowered]

/-! ### Two globals that call each other, lowered -/

/-- After a resolution that failed and one that did not, the first global holds its lowered form. A
chain of two bindings gets its lowered form, which is read back as the chain. -/
theorem tangled_lowered :
    let w := (start "tangled" Registry.empty).run
      (tangled ++ [.lowerGlobal withoutTanh "first", .lowerGlobal unary "first"])
    let x : Var := ⟨0, "x", .scalar .float32⟩
    let y : Var := ⟨1, "y", .scalar .float32⟩
    let z : Var := ⟨2, "z", .scalar .float32⟩
    let call (name : String) (v : Var) : Expr := .call (.global ⟨name, numeric⟩) [.var v] v.ty
    let e : Expr := .bind y (call "first" x) (.bind z (call "same" y) (.var z))
    (∃ f r, w.session.global? w.module "first" = some r ∧
      w.module.functionNamed "first" = some f ∧ f.lowered? = some r) ∧
    ∃ n t, w.session.lower w.module unary e = (.ok n, t) ∧ e.lowered? = some n ∧ n.source = e := by
  intro w x y z call e
  have unaryLabels : unary.Labels := by
    rintro name f k ⟨⟩
    rfl
  have plannedLabels : withoutTanh.Labels := by
    intro name f k compiled
    simp only [withoutTanh, BackendPlan.backend] at compiled
    split at compiled
    · cases compiled
    · cases compiled
      rfl
  have labelled : w.Labelled := by
    refine ⟨"tangled", _, _, ?_, ?_, rfl⟩
    · exact fun entry member => absurd member List.not_mem_nil
    · intro cmd hc
      simp only [tangled, List.cons_append, List.nil_append, List.mem_cons, List.not_mem_nil,
        or_false] at hc
      rcases hc with rfl | rfl | rfl | rfl | rfl | rfl | rfl
      case inr.inr.inr.inr.inr.inl => exact plannedLabels
      case inr.inr.inr.inr.inr.inr => exact unaryLabels
      all_goals trivial
  obtain ⟨nodes, -, -, finished, -, -, read⟩ := lowering_depends_on_source labelled unaryLabels
  have ran : (w.session.global? w.module "first").isSome = true ∧
      (w.session.lower w.module unary e).1.toOption.isSome = true := by
    decide +kernel
  obtain ⟨found, returns⟩ := ran
  constructor
  · obtain ⟨r, hr⟩ := Option.isSome_iff_exists.mp found
    obtain ⟨f, named, lowered⟩ := finished "first" r hr
    exact ⟨f, r, hr, named, lowered⟩
  · obtain ⟨n, hn⟩ := Option.isSome_iff_exists.mp returns
    have run := Prod.ext (y := (Except.ok n, _)) (ok_of_toOption hn) rfl
    have free : e.PrimitiveFree := by
      intro part member
      simp only [e, call, Expr.parts, Expr.partsAll, Expr.isHead, Expr.isPrimitive, List.mem_cons,
        List.mem_append, List.not_mem_nil, or_false, if_false, Bool.false_eq_true] at member
      rcases member with rfl | (rfl | rfl | rfl) | rfl | (rfl | rfl | rfl) | rfl <;> rfl
    have lowered := nodes e n _ run
    exact ⟨n, _, run, lowered, (read e n free lowered).1⟩

end Workspace
end TensorCompiler
