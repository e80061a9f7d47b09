import TensorCompiler.Lowering.Outline
import TensorCompiler.Proofs.Lowering.Workspace

/-!
# Failed lowerings

A resolution may fail at any depth, after other globals were finished inside it or on the way to
it. Each global that was under way then forgets what was finished since it began.

Main statement: if the resolution of a global fails, then the global table is what it was before;
if the lowering of an expression or a function fails, then the table has at most grown, and only by
globals that are complete.

## Implementation notes

A backend that changes its mind needs no state of its own here. A failure ends the whole call, and
a kernel that was compiled is registered under its name, so within one call no name is compiled
twice: whatever a backend does during a call is a function of the name. The next call may bring
another backend.
-/

namespace TensorCompiler

open Lowered

variable {κ : Type} [CompiledKernel κ]

/-! ### Names of a module -/

namespace Module

/-- The function defined under a name. -/
def functionNamed (m : Module) (name : String) : Option Function :=
  (m.lookup name).bind m.function?

/-- A name leads to its definition by its handle. -/
theorem find_eq_lookup (m : Module) (name : String) :
    m.find name = (m.lookup name).bind m.definition := by
  have place : m.find name = (m.defs.findIdx? (·.name == name)).bind (m.defs[·]?) :=
    List.find?_eq_bind_findIdx?_getElem?
  rw [place, lookup, Option.bind_map]
  rfl

/-- A global can be referred to exactly if its function is defined. -/
theorem global_eq (m : Module) (name : String) :
    m.global name = (m.functionNamed name).map fun f => ⟨name, f.ty⟩ := by
  have function : m.functionNamed name = (m.find name).bind Definition.function := by
    rw [find_eq_lookup, Option.bind_assoc]
    rfl
  rw [function, global]
  cases found : m.find name with
  | none => rfl
  | some d =>
      obtain ⟨n, f⟩ := d
      have same : n = name := by
        simpa using List.find?_some found
      subst same
      cases f <;> rfl

end Module

/-! ### Failed resolutions -/

namespace Lowering

variable {b : Backend κ}

/-- A resolution that fails leaves no more finished globals than there were. -/
theorem length_resolved_of_error (m : Module) (depth : Nat) (g : GlobalRef) {s t : Session κ}
    {e : LowerError} (h : (resolve m b depth g).run s = (.error e, t)) :
    t.resolved.length ≤ s.resolved.length := by
  rcases resolve_cases m b depth g s with ⟨_, run⟩ | ⟨id, -, -, run⟩ | ⟨id, -, -, run⟩ |
    ⟨d, id, f, -, -, -, -, -, run⟩
  · rw [run] at h
    cases h
    exact Nat.le_refl _
  · rw [run] at h
    cases h
  · rw [run] at h
    cases h
  · rw [run, run_complete] at h
    split at h
    · cases h
    · cases h
      exact List.length_take_le _ _

/-- A resolution that fails leaves the finished globals as they were. -/
theorem resolved_of_error (V : KernelView b) {m : Module} (depth : Nat) (g : GlobalRef)
    {s t : Session κ} (hs : Table V m s) {e : LowerError}
    (h : (resolve m b depth g).run s = (.error e, t)) : t.resolved = s.resolved := by
  obtain ⟨-, grows, -⟩ := (resolve_admits V m depth).resolve g s hs
  rw [h] at grows
  have length := length_resolved_of_error m depth g h
  exact (grows.resolved.eq_of_length_le length).symm

end Lowering

namespace Workspace

/-- What the resolution of a name comes to between calls: there is no such function, or resolving
it fails, or it is finished afterwards. -/
theorem Inv.lowerGlobal_cases {w : Workspace κ} (h : w.Inv) (b : Backend κ) (name : String) :
    (w.module.functionNamed name = none ∧
      ∃ e, w.session.lowerGlobal w.module b name = (.error e, w.session)) ∨
    ∃ f, w.module.functionNamed name = some f ∧
      let act := Lowering.resolve w.module b w.module.defs.length ⟨name, f.ty⟩
      ((∃ e t, act.run w.session = (.error e, t) ∧
          w.session.lowerGlobal w.module b name = (.error e, t)) ∨
        ∃ r t, act.run w.session = (.ok (), t) ∧ t.global? w.module name = some r ∧
          w.session.lowerGlobal w.module b name = (.ok r, t)) := by
  unfold Session.lowerGlobal SessionState.lowerGlobal SessionState.lowerGlobalBy
  simp only [Lowering.global?_session]
  rw [w.module.global_eq name]
  cases hf : w.module.functionNamed name with
  | none => exact Or.inl ⟨rfl, _, rfl⟩
  | some f =>
      refine Or.inr ⟨f, rfl, ?_⟩
      simp only [Option.map_some]
      have admits := Lowering.resolve_admits (Lowering.plainView b) w.module w.module.defs.length
      obtain ⟨inv, known⟩ := h.of_keeps (admits.resolve ⟨name, f.ty⟩)
      rcases hrun : (Lowering.resolve w.module b w.module.defs.length ⟨name, f.ty⟩).run w.session
        with ⟨e | u, t⟩
      · exact Or.inl ⟨e, t, rfl, rfl⟩
      · rw [hrun] at inv known
        obtain ⟨r, hr⟩ := resolves_of_known inv.idle (known u rfl)
        simp only at hr
        refine Or.inr ⟨r, t, rfl, hr, ?_⟩
        simp only [hr]

end Workspace

/-! ### What a host sees of the global table -/

/-- Two sessions of a module that show the same globals. -/
structure Session.SameGlobals (m : Module) (s t : Session κ) : Prop where
  listed : t.globals m = s.globals m
  found : ∀ name, t.global? m name = s.global? m name

/-- A session that shows the globals of an earlier one, and perhaps more, all of them complete:
each is found with its function, and so is every global that the function refers to. -/
structure Session.Completes (m : Module) (s t : Session κ) : Prop where
  kept : s.globals m <+: t.globals m
  found : ∀ g ∈ t.globals m, t.global? m g.name = some g.routine
  references : ∀ g ∈ t.globals m, ∀ ref ∈ g.routine.body.globalRefs,
    ∃ r, t.global? m ref.name = some r

namespace Workspace

omit [CompiledKernel κ] in
/-- The table is read off the finished globals. -/
theorem sameGlobals_of_resolved (m : Module) {s t : Session κ} (h : t.resolved = s.resolved) :
    Session.SameGlobals m s t := by
  have routines : t.routine? = s.routine? := by
    funext id
    rw [Session.routine?, h, Session.routine?]
  refine ⟨?_, ?_⟩
  · rw [Session.globals, h, Session.globals]
  · intro name
    rw [Session.global?, routines, Session.global?]

/-- A lowering that keeps the table completes what it adds, whether it fails or not. -/
theorem Inv.completes {w : Workspace κ} (h : w.Inv) {b : Backend κ} {α : Type}
    {x : LowerM κ α} {Q : α → Session κ → Prop}
    (hx : (Lowering.tableDiscipline (Lowering.plainView b) w.module).Keeps x Q) :
    Session.Completes w.module w.session (x.run w.session).2 := by
  have closed := (h.of_keeps hx).1.closed
  obtain ⟨-, grows, -⟩ := hx w.session (h.table.change rfl rfl)
  refine ⟨?_, ?_, closed.resolves⟩
  · exact List.IsPrefix.map _ grows.resolved
  · intro g hg
    exact (closed.listed g.name g.routine).mpr ⟨g, hg, rfl, rfl⟩

/-- A failure leaves no trace in the global table. After any history and with any backend, if the
resolution of a global fails then the host sees the globals it saw before; if the lowering of an
expression or of a function fails then the globals seen before stay in front, and those added are
complete. -/
theorem failure_keeps_lists (name : String) (registry : Registry κ) (cmds : List (Command κ))
    (b : Backend κ) :
    let w := (start name registry).run cmds
    (∀ g e t, w.session.lowerGlobal w.module b g = (.error e, t) →
      Session.SameGlobals w.module w.session t) ∧
    (∀ x e t, w.session.lower w.module b x = (.error e, t) →
      Session.Completes w.module w.session t) ∧
    ∀ f e t, w.session.lowerFunction w.module b f = (.error e, t) →
      Session.Completes w.module w.session t := by
  intro w
  have inv : w.Inv := run_inv (start_inv name registry) cmds
  have admits := Lowering.resolve_admits (Lowering.plainView b) w.module w.module.defs.length
  refine ⟨?_, ?_, ?_⟩
  · intro g e t failed
    rcases inv.lowerGlobal_cases b g with ⟨-, e', same⟩ | ⟨f, -, outcome⟩
    · rw [same] at failed
      cases failed
      exact sameGlobals_of_resolved w.module rfl
    · rcases outcome with ⟨e', t', run, same⟩ | ⟨r, t', -, -, same⟩
      · rw [same] at failed
        cases failed
        have table := inv.table.change (c := b) (t := w.session) rfl rfl
        exact sameGlobals_of_resolved w.module (Lowering.resolved_of_error _ _ _ table run)
      · rw [same] at failed
        cases failed
  · intro x e t failed
    have completes := inv.completes (Lowering.Discipline.lower_keeps admits x)
    rw [Session.lower, SessionState.lower] at failed
    rwa [failed] at completes
  · intro f e t failed
    have completes := inv.completes
      (Lowering.lowerFunction_keeps (Lowering.plainView b) w.module admits f)
    rw [Session.lowerFunction, SessionState.lowerFunction] at failed
    rwa [failed] at completes

/-! ### Two globals that call each other -/

/-- The type of functions from a number to a number. -/
def numeric : Ty :=
  .func [.scalar .float32] (.scalar .float32)

/-- Three globals: one that calls the next and applies an operator to what this returns, one that
calls the first, and one that returns its argument. -/
def tangled {ρ : Type} : List (CommandOf KernelOutline ρ) :=
  let x : Var := ⟨0, "x", .scalar .float32⟩
  let y : Var := ⟨1, "y", .scalar .float32⟩
  let tanh : Expr := .fn [x] (.call (.op "tanh") [.var x] x.ty) x.ty true
  let call (name : String) : Expr := .call (.global ⟨name, numeric⟩) [.var x] x.ty
  [.declare "first" numeric, .declare "second" numeric,
    .define ⟨"first", numeric⟩
      ⟨[x], .bind y (call "second") (.call tanh [.var y] y.ty), x.ty, false⟩,
    .define ⟨"second", numeric⟩ ⟨[x], call "first", x.ty, false⟩,
    .add "same" ⟨[x], .var x, x.ty, false⟩]

/-- A backend that has no kernel for one operator. -/
def withoutTanh : Backend KernelOutline :=
  BackendPlan.backend ⟨["tanh"], false, 0⟩

end Workspace
end TensorCompiler
