import TensorCompiler.Proofs.Lowering.Compilations

/-!
# Lowering ends

The body of a global is lowered when the global is first referred to, inside of the body that refers
to it. What this recursion descends into is no part of what it comes from, and it may come back to
a global that it left: a failure makes a global new again.

Main statement: no recursion goes deeper than the module has definitions, and a call enters the body
of a global at most once, none that was finished before.

## Implementation notes

The resolution of a session carries a bound of its depth, which the program it models does not have.
Here the recursion is opened: one resolution with those inside of it left to another function, and
this unfolded a number of times over a function that stands for all that is deeper. A call that
comes to the same whatever this function does never reaches it.

The globals under way are different definitions of the module, so the recursion ends. That none is
entered twice is another matter, since it may be new twice: a failure ends the whole call, so what
was entered and is new again is not met again.
-/

namespace TensorCompiler

open Lowered

variable {κ : Type} [CompiledKernel κ]

/-! ### The recursion opened -/

namespace Lowering

/-- One resolution. The resolutions inside of it are left to `inner`. -/
def resolveOnce (m : Module) (b : Backend κ) (inner : GlobalRef → LowerM κ Unit)
    (g : GlobalRef) : LowerM κ Unit :=
  visit m (fun id f => complete id g.name (lowerFunction b inner f)) g

/-- The resolution unfolded to a depth. What is deeper is left to `rest`. -/
def unfolded (m : Module) (b : Backend κ) (depth : Nat) (rest : GlobalRef → LowerM κ Unit) :
    GlobalRef → LowerM κ Unit :=
  (resolveOnce m b)^[depth] rest

/-- A bounded resolution is one resolution over those with a smaller bound. -/
theorem resolve_succ (m : Module) (b : Backend κ) (depth : Nat) :
    resolve m b (depth + 1) = resolveOnce m b (resolve m b depth) := rfl

end Lowering

/-- Resolves a global by a given resolution and returns its lowered function. -/
def Session.lowerGlobalBy (s : Session κ) (m : Module) (resolve : GlobalRef → LowerM κ Unit)
    (name : String) : Except LowerError Routine × Session κ :=
  SessionState.lowerGlobalBy s m resolve name

/-- A session resolves by the bounded resolution. -/
theorem Session.lowerGlobal_eq (s : Session κ) (m : Module) (b : Backend κ) (name : String) :
    s.lowerGlobal m b name =
      s.lowerGlobalBy m (Lowering.resolve m b m.defs.length) name := rfl

/-! ### Steps that agree -/

namespace Lowering

omit [CompiledKernel κ] in
/-- Two steps that do the same in the sessions of an invariant, and keep it. -/
def agreeing (I : Session κ → Prop) : Congruence (Session κ) (Session κ) where
  rel x y := ∀ s, I s → x.run s = y.run s ∧ I (x.run s).2
  pure _ _ hs := ⟨rfl, hs⟩
  bind := by
    intro α β x y f g first second s hs
    obtain ⟨same, kept⟩ := first s hs
    rw [run_bind, run_bind, ← same]
    rcases hrun : x.run s with ⟨e | a, t⟩ <;> rw [hrun] at kept
    · exact ⟨rfl, kept⟩
    · exact second a t kept

omit [CompiledKernel κ] in
/-- A step agrees with itself if it keeps the invariant. -/
theorem agreeing_refl {I : Session κ → Prop} {α : Type} {x : LowerM κ α}
    (kept : ∀ s, I s → I (x.run s).2) : (agreeing I).rel x x :=
  fun s hs => ⟨rfl, kept s hs⟩

variable {m : Module} {b : Backend κ}

omit [CompiledKernel κ] in
/-- Two visits agree if what they do with a new global does. -/
theorem visit_agree {P : List Nat → Prop} {enter enter' : Nat → Function → LowerM κ Unit}
    {g : GlobalRef}
    (new : ∀ id f s, m.lookup g.name = some id → id ∉ s.active → P s.active →
      (enter id f).run s = (enter' id f).run s ∧ P ((enter id f).run s).2.active) :
    (agreeing fun s : Session κ => P s.active).rel (visit m enter g) (visit m enter' g) := by
  intro s hs
  rcases visit_cases m g s with ⟨e, run⟩ | ⟨id, -, -, run⟩ | ⟨id, -, -, run⟩ |
    ⟨id, f, hl, -, fresh, -, run⟩
  · rw [run, run]
    exact ⟨rfl, hs⟩
  · rw [run, run]
    exact ⟨rfl, hs⟩
  · rw [run, run]
    exact ⟨rfl, hs⟩
  · rw [run, run]
    exact new id f s hl fresh hs

/-- Packing leaves the globals under way alone. -/
theorem packedCall_active (b : Backend κ) (site : Expr) (f : Function) (tys : List Ty)
    (s : Session κ) : ((packedCall b site f tys).run s).2.active = s.active := by
  obtain ⟨reports, -, ⟨same, -⟩ | ⟨fp, k, -, -, same⟩⟩ := packedCall_cases b site f tys s <;>
    rw [same]

/-- Two resolutions that agree at a depth guide lowerings that do. -/
theorem guides_agreeing {depth : Nat} {R R' : GlobalRef → LowerM κ Unit}
    (inner : ∀ g, (agreeing fun s => Descent m depth s.active).rel (R g) (R' g))
    (nodes : List Expr) :
    (agreeing fun s => Descent m depth s.active).Guides b R R' nodes where
  refuse _ _ _ _ := agreeing_refl fun _ => id
  resolve g _ := inner g
  pack x _ f tys _ := agreeing_refl fun s hs => by rwa [packedCall_active]

/-- The resolution with a bound is the one without, if the bound is the room that is left: whatever
stands for what is deeper, it is not reached. -/
theorem resolve_agrees (rest : GlobalRef → LowerM κ Unit) (depth : Nat) (g : GlobalRef) :
    (agreeing fun s => Descent m depth s.active).rel (resolve m b depth g)
      (unfolded m b (depth + 1) rest g) := by
  induction depth generalizing g with
  | zero =>
      rw [resolve]
      refine visit_agree fun id f s hl fresh descent => ?_
      exact absurd (descent.mem_of_zero (m.mem_range_of_lookup hl)) fresh
  | succ depth ih =>
      rw [resolve_succ, unfolded, Function.iterate_succ_apply']
      refine visit_agree fun id f s hl fresh descent => ?_
      have inner := Congruence.lowerFunction_related (f := f) (guides_agreeing (b := b) ih _)
        { s with active := id :: s.active, log := s.log ++ [.resolving g.name] }
        (descent.enter hl fresh)
      rw [run_complete, run_complete, ← unfolded, ← inner.1]
      refine ⟨rfl, ?_⟩
      split <;> exact descent

end Lowering

/-! ### What a call enters -/

/-- The global whose body a report says was entered. -/
def LowerEvent.entered? : LowerEvent → Option String
  | .resolving g => some g
  | .compiling _ _ _ | .recursive _ => none

/-- The globals whose bodies were entered, in order. -/
def Session.entered (s : Session κ) : List String :=
  s.log.filterMap LowerEvent.entered?

/-- A call between two sessions entered the bodies of some globals, each of them once, and none that
was resolved before. -/
def Session.EntersOnce (m : Module) (s t : Session κ) : Prop :=
  ∃ gs, t.entered = s.entered ++ gs ∧ gs.Nodup ∧ ∀ g ∈ gs, s.global? m g = none

namespace Lowering

variable {m : Module} {b : Backend κ} {s t u : Session κ} {gs hs : List String}

omit [CompiledKernel κ] in
/-- Reports of other things enter nothing. -/
theorem entered_of_quiet {reports : List LowerEvent} (quiet : ∀ g, .resolving g ∉ reports)
    (h : t.log = s.log ++ reports) : t.entered = s.entered := by
  have none : reports.filterMap LowerEvent.entered? = [] := by
    refine List.filterMap_eq_nil_iff.mpr fun e he => ?_
    cases e with
    | resolving g => exact absurd he (quiet g)
    | compiling | recursive => rfl
  rw [Session.entered, h, List.filterMap_append, none, List.append_nil, Session.entered]

omit [CompiledKernel κ] in
/-- The globals that a step enters: each once, and new when the step begins. -/
structure Entered (m : Module) (s t : Session κ) (gs : List String) : Prop where
  reported : t.entered = s.entered ++ gs
  once : gs.Nodup
  new : ∀ g ∈ gs, ∀ id, m.lookup g = some id → id ∉ s.active ∧ id ∉ s.ids

omit [CompiledKernel κ] in
/-- What a step that returns has done with the globals it entered. -/
structure Settled (m : Module) (s t : Session κ) (gs : List String) : Prop where
  active : t.active = s.active
  kept : s.ids ⊆ t.ids
  finished : ∀ g ∈ gs, ∃ id, m.lookup g = some id ∧ id ∈ t.ids

namespace Entered

omit [CompiledKernel κ] in
/-- A step that reports no resolution. -/
theorem quiet (same : t.entered = s.entered) : Entered m s t [] :=
  ⟨by rw [same, List.append_nil], List.nodup_nil, nofun⟩

omit [CompiledKernel κ] in
/-- What a step entered and finished is not new to the next one. -/
theorem append (first : Entered m s t gs) (settled : Settled m s t gs)
    (second : Entered m t u hs) : Entered m s u (gs ++ hs) := by
  refine ⟨?_, List.nodup_append.mpr ⟨first.once, second.once, ?_⟩, ?_⟩
  · rw [second.reported, first.reported, List.append_assoc]
  · rintro g hg h hh rfl
    obtain ⟨id, hl, finished⟩ := settled.finished g hg
    exact (second.new g hh id hl).2 finished
  · intro g hg id hl
    rcases List.mem_append.mp hg with hg | hg
    · exact first.new g hg id hl
    · obtain ⟨apart, new⟩ := second.new g hg id hl
      exact ⟨settled.active ▸ apart, fun before => new (settled.kept before)⟩

omit [CompiledKernel κ] in
/-- A new global is entered, and inside of it others are. -/
theorem enter {g : String} {id : Nat} (hl : m.lookup g = some id) (fresh : id ∉ s.active)
    (new : id ∉ s.ids) {t u : Session κ}
    (inner : Entered m { s with active := id :: s.active, log := s.log ++ [.resolving g] } t gs)
    (same : u.log = t.log) : Entered m s u (g :: gs) := by
  refine ⟨?_, List.nodup_cons.mpr ⟨?_, inner.once⟩, ?_⟩
  · have reported := inner.reported
    simp only [Session.entered, List.filterMap_append, List.append_assoc] at reported
    rw [Session.entered, same, reported]
    rfl
  · intro hg
    exact (inner.new g hg id hl).1 List.mem_cons_self
  · intro h hh j hj
    rcases List.mem_cons.mp hh with rfl | hh
    · obtain rfl := Option.some.inj (hl.symm.trans hj)
      exact ⟨fresh, new⟩
    · obtain ⟨apart, before⟩ := inner.new h hh j hj
      exact ⟨fun later => apart (List.mem_cons_of_mem id later), before⟩

end Entered

namespace Settled

omit [CompiledKernel κ] in
theorem refl (s : Session κ) : Settled m s s [] :=
  ⟨rfl, List.Subset.refl _, nofun⟩

omit [CompiledKernel κ] in
theorem append (first : Settled m s t gs) (second : Settled m t u hs) :
    Settled m s u (gs ++ hs) := by
  refine ⟨second.active.trans first.active, fun _ hid => second.kept (first.kept hid), ?_⟩
  intro g hg
  rcases List.mem_append.mp hg with hg | hg
  · obtain ⟨id, hl, hid⟩ := first.finished g hg
    exact ⟨id, hl, second.kept hid⟩
  · exact second.finished g hg

omit [CompiledKernel κ] in
/-- A global is finished with what was entered inside of it. -/
theorem finish {g : String} {id : Nat} (hl : m.lookup g = some id) {log : List LowerEvent}
    (inner : Settled m { s with active := id :: s.active, log := log } t gs) (r : Routine) :
    Settled m s { t with active := s.active, resolved := t.resolved ++ [(id, r)] } (g :: gs) := by
  have grown : t.ids ⊆ Session.ids { t with
      active := s.active, resolved := t.resolved ++ [(id, r)] } :=
    List.map_subset _ (List.subset_append_left _ _)
  refine ⟨rfl, fun j hj => grown (inner.kept hj), ?_⟩
  intro h hh
  rcases List.mem_cons.mp hh with rfl | hh
  · exact ⟨id, hl, by simp [Session.ids]⟩
  · obtain ⟨j, hj, finished⟩ := inner.finished h hh
    exact ⟨j, hj, grown finished⟩

end Settled

omit [CompiledKernel κ] in
/-- To enter new globals only, each of them once, and to finish them or to fail. -/
def entering (m : Module) : Conduct κ where
  done s t := ∃ gs, Entered m s t gs ∧ Settled m s t gs
  failed s t := ∃ gs, Entered m s t gs
  refl s := ⟨[], .quiet rfl, .refl s⟩
  trans := by
    rintro s t u ⟨gs, first, settled⟩ ⟨hs, second, settled'⟩
    exact ⟨gs ++ hs, first.append settled second, settled.append settled'⟩
  after := by
    rintro s t u ⟨gs, first, settled⟩ ⟨hs, second⟩
    exact ⟨gs ++ hs, first.append settled second⟩

omit [CompiledKernel κ] in
/-- A run that enters nothing and leaves the globals alone may have returned or failed. -/
theorem outcome_entering {α : Type} {s : Session κ} {out : Except LowerError α × Session κ}
    (active : out.2.active = s.active) (resolved : out.2.resolved = s.resolved)
    (quiet : out.2.entered = s.entered) : (entering m).Outcome s out := by
  obtain ⟨e | a, t⟩ := out
  · exact ⟨[], .quiet quiet⟩
  · have ids : s.ids ⊆ t.ids := by rw [Session.ids, ← resolved, Session.ids]; exact fun _ => id
    exact ⟨[], .quiet quiet, active, ids, fun _ member => absurd member List.not_mem_nil⟩

/-- Packing enters no global. -/
theorem packedCall_enters (site : Expr) (f : Function) (tys : List Ty) :
    (entering m).Follows (packedCall b site f tys) := by
  intro s
  obtain ⟨reports, quiet, ⟨same, -⟩ | ⟨fp, k, -, -, same⟩⟩ := packedCall_cases b site f tys s
  all_goals
    refine outcome_entering ?_ ?_ (entered_of_quiet quiet ?_) <;> rw [same]

/-- A resolution enters new globals only, each of them once. -/
theorem resolve_enters (depth : Nat) (g : GlobalRef) :
    (entering m).Follows (resolve m b depth g) := by
  induction depth using Nat.strong_induction_on generalizing g with
  | _ depth ih =>
      intro s
      rcases resolve_cases m b depth g s with ⟨e, run⟩ | ⟨id, hl, active, run⟩ |
        ⟨id, hl, finished, run⟩ | ⟨d, id, f, rfl, hl, hf, fresh, new, run⟩
      · rw [run]
        exact ⟨[], .quiet rfl⟩
      · rw [run]
        have quiet : ∀ h, LowerEvent.resolving h ∉ [LowerEvent.recursive g.name] := by simp
        exact outcome_entering rfl rfl (entered_of_quiet quiet rfl)
      · rw [run]
        exact (entering m).refl s
      · have guides : (entering m).Guides b (resolve m b d) f.toExpr.parts :=
          ⟨fun _ _ _ s => ⟨[], .quiet rfl⟩, fun h _ => ih d d.lt_succ_self h,
            fun x _ p tys _ => packedCall_enters x p tys⟩
        have inner := Conduct.lowerFunction_follows guides
          { s with active := id :: s.active, log := s.log ++ [.resolving g.name] }
        rw [run, run_complete]
        rcases hrun : (lowerFunction b (resolve m b d) f : LowerM κ Routine).run
            { s with active := id :: s.active, log := s.log ++ [.resolving g.name] } with ⟨e | r, t⟩
        · rw [hrun] at inner
          obtain ⟨gs, entered⟩ := inner
          exact ⟨g.name :: gs, entered.enter hl fresh new rfl⟩
        · rw [hrun] at inner
          obtain ⟨gs, entered, settled⟩ := inner
          exact ⟨g.name :: gs, entered.enter hl fresh new rfl, settled.finish hl r⟩

omit [CompiledKernel κ] in
/-- A call enters what was not resolved before it. -/
theorem Entered.entersOnce (h : Entered m s t gs) : s.EntersOnce m t := by
  refine ⟨gs, h.reported, h.once, fun g hg => ?_⟩
  by_contra found
  obtain ⟨r, hr⟩ := Option.ne_none_iff_exists'.mp found
  obtain ⟨id, hl, before⟩ := Workspace.global?_isSome_iff.mp ⟨r, hr⟩
  exact (h.new g hg id hl).2 before

omit [CompiledKernel κ] in
/-- A call enters what was not resolved before it, whether it fails or not. -/
theorem entersOnce_of_outcome {α : Type} {out : Except LowerError α × Session κ}
    (h : (entering m).Outcome s out) : s.EntersOnce m out.2 := by
  obtain ⟨e | a, t⟩ := out
  · obtain ⟨gs, entered⟩ := h
    exact entered.entersOnce
  · obtain ⟨gs, entered, -⟩ := h
    exact entered.entersOnce

end Lowering

/-! ### Calls -/

namespace Workspace

open Lowering

/-- The calls of a workspace come to what they come to with a given resolution of globals. -/
structure Runs (w : Workspace κ) (b : Backend κ) (R : GlobalRef → LowerM κ Unit) : Prop where
  lower : ∀ e, (Lowering.lower b R e).run w.session = w.session.lower w.module b e
  lowerFunction : ∀ f,
    (Lowering.lowerFunction b R f).run w.session = w.session.lowerFunction w.module b f
  lowerGlobal : ∀ g, w.session.lowerGlobalBy w.module R g = w.session.lowerGlobal w.module b g

/-- Between calls the recursion does not go deeper than the module has definitions. -/
theorem Inv.runs_unfolded {w : Workspace κ} (inv : w.Inv) (b : Backend κ) {depth : Nat}
    (deep : w.module.defs.length < depth) (rest : GlobalRef → LowerM κ Unit) :
    w.Runs b (unfolded w.module b depth rest) := by
  obtain ⟨more, rfl⟩ := Nat.exists_eq_add_of_le (Nat.succ_le_of_lt deep)
  rw [unfolded, Function.iterate_add_apply, ← unfolded, ← unfolded]
  have agrees := resolve_agrees (m := w.module) (b := b) (unfolded w.module b more rest)
    w.module.defs.length
  have guides := guides_agreeing (b := b) agrees
  refine ⟨?_, ?_, ?_⟩
  · intro e
    exact (Congruence.lower_related e (guides _) w.session inv.descent).1.symm
  · intro f
    exact (Congruence.lowerFunction_related (guides _) w.session inv.descent).1.symm
  · intro name
    rw [Session.lowerGlobal_eq]
    unfold Session.lowerGlobalBy SessionState.lowerGlobalBy
    cases w.module.global name with
    | none => rfl
    | some g =>
        dsimp only
        rw [(agrees g w.session inv.descent).1]

/-- Lowering ends. After any history and with any backend, a call of the workspace comes to what it
comes to if the recursion is cut off anywhere below the number of definitions, whatever stands for
what is below: it is not reached. And a call that returns or fails enters the body of each global
at most once, and of none that was resolved before. -/
theorem lowering_ends (name : String) (registry : Registry κ) (cmds : List (Command κ))
    (b : Backend κ) :
    let w := (start name registry).run cmds
    (∀ depth > w.module.defs.length, ∀ rest, w.Runs b (unfolded w.module b depth rest)) ∧
      (∀ e, w.session.EntersOnce w.module (w.session.lower w.module b e).2) ∧
      (∀ f, w.session.EntersOnce w.module (w.session.lowerFunction w.module b f).2) ∧
      ∀ g, w.session.EntersOnce w.module (w.session.lowerGlobal w.module b g).2 := by
  intro w
  have inv : w.Inv := run_inv (start_inv name registry) cmds
  obtain ⟨lower, lowerFunction, lowerGlobal⟩ := inv.lowerings_follow (b := b)
    (C := entering w.module) (fun _ => ⟨[], .quiet rfl⟩) (resolve_enters _) packedCall_enters
  refine ⟨fun depth deep rest => inv.runs_unfolded b deep rest, ?_, ?_, ?_⟩
  · exact fun e => entersOnce_of_outcome (lower e)
  · exact fun f => entersOnce_of_outcome (lowerFunction f)
  · exact fun g => entersOnce_of_outcome (lowerGlobal g)

/-- Two globals that call each other, the first of which fails after the second one was finished. A
recursion cut off at four is cut off below what is reached, and one cut off at one is not. The
failed call entered both globals once. -/
theorem tangled_ends :
    let w := (start "tangled" Registry.empty).run tangled
    let lost (g : GlobalRef) : LowerM KernelOutline Unit := throw (.node (.global g) .missing)
    let failed := w.session.lowerGlobal w.module withoutTanh "first"
    failed.1.toOption.isNone = true ∧ failed.2.entered = ["first", "second"] ∧
      w.session.EntersOnce w.module failed.2 ∧
      w.Runs withoutTanh (unfolded w.module withoutTanh 4 lost) ∧
      ¬ w.Runs withoutTanh (unfolded w.module withoutTanh 1 lost) := by
  intro w lost failed
  obtain ⟨ends, -, -, once⟩ := lowering_ends "tangled" Registry.empty tangled withoutTanh
  have ran : failed.1.toOption.isNone = true ∧ failed.2.entered = ["first", "second"] := by
    decide +kernel
  refine ⟨ran.1, ran.2, once "first", ends 4 (by decide +kernel) lost, fun shallow => ?_⟩
  have cut : (w.session.lowerGlobalBy w.module (unfolded w.module withoutTanh 1 lost)
      "first").2.entered = ["first"] := by
    decide +kernel
  rw [shallow.lowerGlobal "first"] at cut
  exact absurd (ran.2.symm.trans cut) (by decide)

end Workspace
end TensorCompiler
