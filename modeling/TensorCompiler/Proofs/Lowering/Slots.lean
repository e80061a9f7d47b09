import TensorCompiler.Lowering.Slots
import TensorCompiler.Proofs.Kernel.History
import TensorCompiler.Proofs.Lowering.Failure
import TensorCompiler.Proofs.Lowering.Traversal

/-!
# The table of globals and what it comes to

A session with slots does what a session does that lists the globals completed and those under way.
Each of the nested resolutions that a failure ends clears the slots of what was completed since it
began, by the list of handles alone, and its own slot; together they come to the table there was.

Main statements: the commands of a workspace answer alike with slots and with lists, and the lists
are those that the slots come to; if the resolution of a global fails, then every slot is shown as
before, and if the lowering of an expression or a function fails, then the table has at most grown,
and only by globals that are complete.
-/

namespace TensorCompiler

open Lowered

variable {κ : Type}

/-- What the lists of a session say of a global. -/
def Session.slot (s : Session κ) (id : Nat) : GlobalSlot :=
  if id ∈ s.active then .resolving else ((s.routine? id).map GlobalSlot.resolved).getD .unvisited

/-- A handle that is not completed has no function. -/
theorem Session.routine?_eq_none_iff {s : Session κ} {id : Nat} :
    s.routine? id = none ↔ id ∉ s.ids := by
  rw [s.mem_ids_iff, Option.not_isSome_iff_eq_none]

namespace SlotSession

/-! ### Slots -/

/-- Only the slot that is changed changes, however long the table is. -/
theorem slot_put (s : SlotSession κ) {id other : Nat} (hid : 0 < id) (hother : 0 < other)
    (x : GlobalSlot) : (s.put id x).slot other = if other = id then x else s.slot other := by
  unfold slot put
  by_cases same : other = id
  · subst same
    rw [if_pos rfl, List.getElem?_set_self (by simp; omega)]
    rfl
  · rw [if_neg same, List.getElem?_set_ne (by omega), List.getElem?_append]
    split
    · rfl
    · rename_i beyond
      rw [List.getElem?_eq_none (Nat.le_of_not_lt beyond)]
      rw [List.getElem?_replicate]
      split <;> rfl

/-- The slots of a list of handles are cleared, and no others. -/
theorem getD_clear (slots : List GlobalSlot) (ids : List Nat) (i : Nat) :
    ((ids.foldl (fun (slots : List GlobalSlot) id => slots.set (id - 1) .unvisited) slots)[i]?).getD
        .unvisited =
      if i ∈ ids.map (· - 1) then .unvisited else (slots[i]?).getD .unvisited := by
  induction ids generalizing slots with
  | nil => simp
  | cons id ids ih =>
      simp only [List.foldl_cons, ih, List.map_cons, List.mem_cons]
      by_cases later : i ∈ ids.map (· - 1)
      · rw [if_pos later, if_pos (Or.inr later)]
      · rw [if_neg later]
        by_cases same : i = id - 1
        · rw [if_pos (Or.inl same), same, List.getElem?_set]
          split
          · split <;> rfl
          · contradiction
        · rw [if_neg (by simp [same, later]), List.getElem?_set_ne (Ne.symm same)]

/-- A rollback clears the slots of the handles that were added, and no others. -/
theorem slot_rollback (s : SlotSession κ) (start : Nat) (positive : ∀ id ∈ s.order, 0 < id)
    {id : Nat} (hid : 0 < id) :
    (s.rollback start).slot id =
      if id ∈ s.order.drop start then .unvisited else s.slot id := by
  have place : id - 1 ∈ (s.order.drop start).map (· - 1) ↔ id ∈ s.order.drop start := by
    refine ⟨fun member => ?_, List.mem_map_of_mem⟩
    obtain ⟨other, listed, same⟩ := List.mem_map.mp member
    have := positive other (List.mem_of_mem_drop listed)
    obtain rfl : other = id := by omega
    exact listed
  rw [slot, rollback, getD_clear, slot]
  simp only [place]

/-! ### What the slots come to -/

/-- A session with slots shows a session with lists: the handles completed are the same in the same
order, each slot holds what the lists say of its global, and the kernels and reports agree. -/
structure Shows (f : SlotSession κ) (s : Session κ) : Prop where
  order : f.order = s.ids
  slot : ∀ id, 0 < id → f.slot id = s.slot id
  kernels : f.kernels.Refines s.registry
  log : f.log = s.log

variable {f : SlotSession κ} {s : Session κ}

/-- A new session shows one without globals. -/
theorem shows_start (definitions : Nat) (kernels : BuilderTable κ) :
    (start definitions kernels).Shows (.start kernels.registry) := by
  refine ⟨rfl, fun id _ => ?_, kernels.refines_registry, rfl⟩
  rw [slot, start, List.getElem?_replicate]
  split <;> rfl

theorem Shows.routine? (h : f.Shows s) {id : Nat} (hid : 0 < id) (fresh : id ∉ s.active) :
    (f.slot id).routine? = s.routine? id := by
  rw [h.slot id hid, Session.slot, if_neg fresh]
  cases s.routine? id <;> rfl

theorem Shows.resolving_iff (h : f.Shows s) {id : Nat} (hid : 0 < id) :
    SessionState.Resolving f id ↔ id ∈ s.active := by
  change (f.slot id).isResolving = true ↔ _
  rw [h.slot id hid, Session.slot]
  split
  · simpa [GlobalSlot.isResolving]
  · cases s.routine? id <;> simpa [GlobalSlot.isResolving]

/-- Reports are shown. -/
theorem Shows.report (h : f.Shows s) (e : LowerEvent) :
    Shows { f with log := f.log ++ [e] } { s with log := s.log ++ [e] } :=
  ⟨h.order, h.slot, h.kernels, by rw [h.log]⟩

/-- A global that is begun is under way. -/
theorem Shows.begin (h : f.Shows s) {id : Nat} (hid : 0 < id) :
    (f.put id .resolving).Shows { s with active := id :: s.active } := by
  refine ⟨h.order, fun other hother => ?_, h.kernels, h.log⟩
  rw [slot_put f hid hother]
  by_cases same : other = id
  · rw [if_pos same, Session.slot, if_pos (same ▸ List.mem_cons_self)]
  · have active : other ∈ id :: s.active ↔ other ∈ s.active := by simp [same]
    rw [if_neg same, h.slot other hother, Session.slot, Session.slot]
    simp only [active]
    rfl

/-- A global that is finished is entered behind the others. -/
theorem Shows.finish (h : f.Shows s) {id : Nat} (hid : 0 < id) {active : List Nat}
    (under : s.active = id :: active) (fresh : id ∉ active) (new : id ∉ s.ids) (r : Routine) :
    Shows { f.put id (.resolved r) with order := f.order ++ [id] }
      { s with active := active, resolved := s.resolved ++ [(id, r)] } := by
  refine ⟨?_, fun other hother => ?_, h.kernels, h.log⟩
  · simp [Session.ids, h.order]
  · refine (slot_put f hid hother _).trans ?_
    by_cases same : other = id
    · subst same
      have none : s.resolved.find? (·.1 == other) = none :=
        Option.map_eq_none_iff.mp (Session.routine?_eq_none_iff.mpr new)
      simp [Session.slot, Session.routine?, fresh, List.find?_append, none]
    · rw [if_neg same, h.slot other hother]
      simp [Session.slot, Session.routine?, under, same, Ne.symm same, List.find?_append]

/-- A failure forgets what was finished since the global was begun, and the global. -/
theorem Shows.abandon (h : f.Shows s) (positive : ∀ id ∈ s.ids, 0 < id) (once : s.ids.Nodup)
    (apart : ∀ id ∈ s.active, id ∉ s.ids) {id : Nat} (hid : 0 < id) {active : List Nat}
    (under : s.active = id :: active) (fresh : id ∉ active) (n : Nat) :
    ((f.rollback n).put id .unvisited).Shows
      { s with active := active, resolved := s.resolved.take n } := by
  refine ⟨?_, fun other hother => ?_, h.kernels, h.log⟩
  · simp [put, rollback, Session.ids, h.order, List.map_take]
  · rw [slot_put _ hid hother, slot_rollback f n (h.order ▸ positive) hother]
    have completed :
        { s with active := active, resolved := s.resolved.take n }.ids = s.ids.take n := by
      simp [Session.ids, List.map_take]
    have forgotten (gone : other ∉ active) (absent : other ∉ s.ids.take n) :
        GlobalSlot.unvisited =
          Session.slot { s with active := active, resolved := s.resolved.take n } other := by
      rw [Session.slot, if_neg gone, Session.routine?_eq_none_iff.mpr (completed ▸ absent)]
      rfl
    by_cases same : other = id
    · subst same
      have absent := apart other (under ▸ List.mem_cons_self)
      rw [if_pos rfl]
      exact forgotten fresh fun member => absent (List.mem_of_mem_take member)
    · rw [if_neg same, h.order]
      by_cases later : other ∈ s.ids.drop n
      · have gone : other ∉ active := fun member =>
          apart other (under ▸ List.mem_cons_of_mem id member) (List.mem_of_mem_drop later)
        rw [if_pos later]
        have apart := List.disjoint_take_drop once (Nat.le_refl n)
        exact forgotten gone fun member => apart member later
      · have still :
            s.resolved.find? (·.1 == other) = (s.resolved.take n).find? (·.1 == other) := by
          have none : (s.resolved.drop n).find? (·.1 == other) = none := by
            simp only [List.find?_eq_none, beq_iff_eq]
            rintro p member rfl
            exact later (by rw [Session.ids, ← List.map_drop]; exact List.mem_map_of_mem member)
          rw [← List.take_append_drop n s.resolved, List.find?_append, none, Option.or_none,
            List.take_append_drop]
        rw [if_neg later, h.slot other hother]
        simp [Session.slot, Session.routine?, under, same, still]

end SlotSession

/-! ### Steps with slots and steps with lists -/

namespace Lowering

variable {b : Backend κ} {m : Module} {f : SlotSession κ} {s : Session κ}

/-- Two steps that return the same where the lists have a property, and keep it and what is shown.
-/
def tracking (P : Session κ → Prop) : Congruence (SlotSession κ) (Session κ) where
  rel x y := ∀ f s, f.Shows s → P s →
    (x.run f).1 = (y.run s).1 ∧ (x.run f).2.Shows (y.run s).2 ∧ P (y.run s).2
  pure _ _ _ h hs := ⟨rfl, h, hs⟩
  bind := by
    intro α β x y k l first second f s h hs
    obtain ⟨same, shows, kept⟩ := first f s h hs
    rw [run_bind, run_bind]
    rcases hx : x.run f with ⟨r, f'⟩
    rcases hy : y.run s with ⟨r', t⟩
    rw [hx, hy] at same shows
    rw [hy] at kept
    obtain rfl : r = r' := same
    cases r with
    | error e => exact ⟨rfl, shows, kept⟩
    | ok a => exact second a f' t shows kept

/-- A step that keeps a property by itself may be tracked without it. -/
theorem tracking_of_kept {P : Session κ → Prop} {α : Type} {x : LowerIn (SlotSession κ) α}
    {y : LowerM κ α} (alike : (tracking fun _ => True).rel x y)
    (kept : ∀ s, P s → P (y.run s).2) : (tracking P).rel x y := by
  intro f s h hs
  obtain ⟨same, shows, -⟩ := alike f s h trivial
  exact ⟨same, shows, kept s hs⟩

theorem tracking_throw {P : Session κ → Prop} {α : Type} (e : LowerError) :
    (tracking P).rel (throw e : LowerIn (SlotSession κ) α) (throw e : LowerM κ α) :=
  fun _ _ h hs => ⟨rfl, h, hs⟩

/-- A step that is decided without a session. -/
theorem tracking_lift {P : Session κ → Prop} {α : Type} (x : Except LowerError α) :
    (tracking P).rel (liftM x : LowerIn (SlotSession κ) α) (liftM x : LowerM κ α) := by
  intro f s h hs
  cases x <;> exact ⟨rfl, h, hs⟩

/-- A compilation is announced alike. -/
theorem announce_tracked (fp : Fingerprint) (conv : Convention) (arity : Nat) :
    (tracking fun _ => True).rel (announce fp conv arity : LowerIn (SlotSession κ) Unit)
      (announce fp conv arity : LowerM κ Unit) := by
  intro f s h _
  have same : SessionState.compiles f fp = SessionState.compiles s fp := by
    change (f.kernels.lookup fp.kernelName).isNone = (s.registry.find? fp.kernelName).isNone
    rw [h.kernels.lookup, Registry.lookup, Option.isNone_map]
  unfold announce
  simp only [run_bind, run_get, same]
  split
  · exact ⟨rfl, h.report _, trivial⟩
  · exact ⟨rfl, h, trivial⟩

/-- A kernel is loaded alike. -/
theorem loadKernel_tracked (fp : Fingerprint) (compile : String → Except String (Option κ)) :
    (tracking fun _ => True).rel (loadKernel fp compile : LowerIn (SlotSession κ) κ)
      (loadKernel fp compile : LowerM κ κ) := by
  intro f s h _
  obtain ⟨same, refines⟩ := h.kernels.load fp compile
  have shows : SlotSession.Shows { f with kernels := (f.kernels.load fp compile).2 }
      { s with registry := (s.registry.load fp compile).2 } :=
    ⟨h.order, h.slot, refines, h.log⟩
  rw [run_loadKernel]
  unfold loadKernel
  simp only [run_bind, run_get, run_set, SessionState.load, same]
  rcases (s.registry.load fp compile).1 with e | k
  · exact ⟨rfl, shows, trivial⟩
  · exact ⟨rfl, shows, trivial⟩

/-- The kernel of a primitive function is found alike. -/
theorem kernelFor_tracked (p : Function) (conv : Convention) (arity : Nat) :
    (tracking fun _ => True).rel (kernelFor b p conv arity : LowerIn (SlotSession κ) κ)
      (kernelFor b p conv arity : LowerM κ κ) := by
  unfold kernelFor
  cases p.fingerprint with
  | error e => exact tracking_throw _
  | ok fp =>
      exact (tracking _).bind (announce_tracked fp conv arity) fun _ => loadKernel_tracked fp _

variable [CompiledKernel κ]

/-- Primitive functions are packed alike. -/
theorem packedCall_tracked (site : Expr) (p : Function) (tys : List Ty) :
    (tracking fun _ => True).rel
      (packedCall b site p tys : LowerIn (SlotSession κ) (List Node → Node))
      (packedCall b site p tys : LowerM κ (List Node → Node)) := by
  unfold packedCall
  refine (tracking _).bind (tracking_lift _) fun (conv, inputs) => ?_
  refine (tracking _).bind (kernelFor_tracked p conv (inputs + 1)) fun k => ?_
  by_cases arity : CompiledKernel.arity k ≠ (inputs + 1 : Nat)
  · simp only [if_pos arity]
    exact tracking_throw _
  · simp only [if_neg arity]
    exact (tracking _).pure _

/-- What the lists of a module keep while globals are resolved. -/
abbrev Listed (b : Backend κ) (m : Module) : Session κ → Prop :=
  Table (plainView b) m

/-- Every handle of a name counts from one. -/
theorem pos_of_lookup {name : String} {id : Nat} (h : m.lookup name = some id) : 0 < id := by
  obtain ⟨i, -, rfl⟩ := Option.map_eq_some_iff.mp h
  exact Nat.succ_pos i

/-- Every handle completed counts from one. -/
theorem pos_of_finished (hs : Listed b m s) : ∀ id ∈ s.ids, 0 < id := by
  intro id member
  obtain ⟨p, hp, rfl⟩ := List.mem_map.mp member
  obtain ⟨f, hf, -⟩ := hs.finished p hp
  refine Nat.pos_of_ne_zero fun zero => ?_
  rw [zero] at hf
  cases hf

/-- Two visits are tracked if what they do with a new global is. -/
theorem visit_tracked {enter : Nat → Function → LowerIn (SlotSession κ) Unit}
    {enter' : Nat → Function → LowerM κ Unit} {g : GlobalRef}
    (new : ∀ id p f s, m.lookup g.name = some id → m.function? id = some p → id ∉ s.active →
      id ∉ s.ids → f.Shows s → Listed b m s →
      ((enter id p).run f).1 = ((enter' id p).run s).1 ∧
        ((enter id p).run f).2.Shows ((enter' id p).run s).2 ∧
        Listed b m ((enter' id p).run s).2) :
    (tracking (Listed b m)).rel (visit m enter g) (visit m enter' g) := by
  intro f s h hs
  cases hl : m.lookup g.name with
  | none =>
      unfold visit
      simp only [hl]
      exact ⟨rfl, h, hs⟩
  | some id =>
      cases hf : m.function? id with
      | none =>
          unfold visit
          simp only [hl, hf]
          exact ⟨rfl, h, hs⟩
      | some p =>
          have positive := pos_of_lookup hl
          rw [run_visit hl hf]
          unfold visit
          simp only [hl, hf, run_bind, run_get]
          by_cases active : id ∈ s.active
          · rw [if_pos ((h.resolving_iff positive).mpr active), if_pos active]
            exact ⟨rfl, h.report _, hs.change rfl rfl⟩
          · have same : SessionState.routine? f id = s.routine? id := h.routine? positive active
            rw [if_neg fun under => active ((h.resolving_iff positive).mp under), if_neg active,
              same]
            by_cases finished : (s.routine? id).isSome = true
            · rw [if_pos finished, if_pos finished]
              exact ⟨rfl, h, hs⟩
            · rw [if_neg finished, if_neg finished]
              have unlisted (member : id ∈ s.ids) := finished (s.mem_ids_iff.mp member)
              exact new id p f s hl hf active unlisted h hs

/-- The steps of a traversal are tracked if the resolutions inside it are. -/
theorem guides_tracked {depth : Nat}
    (inner : ∀ g, (tracking (Listed b m)).rel (resolve m b depth g) (resolve m b depth g))
    (nodes : List Expr) :
    (tracking (Listed b m)).Guides b (resolve m b depth) (resolve m b depth) nodes where
  refuse _ _ _ _ := tracking_throw _
  resolve g _ := inner g
  pack x _ p tys _ := tracking_of_kept (packedCall_tracked x p tys) fun s hs =>
    (packedCall_keeps (plainView b) m x p tys s hs).1

/-- Globals are resolved alike at every depth. -/
theorem resolve_tracked (b : Backend κ) (m : Module) (depth : Nat) (g : GlobalRef) :
    (tracking (Listed b m)).rel (resolve m b depth g) (resolve m b depth g) := by
  induction depth generalizing g with
  | zero =>
      rw [resolve, resolve]
      exact visit_tracked fun _ _ _ _ _ _ _ _ h hs => ⟨rfl, h, hs⟩
  | succ depth ih =>
      rw [resolve, resolve]
      refine visit_tracked fun id p f s hl hf fresh new h hs => ?_
      have positive := pos_of_lookup hl
      have table := hs.enter new (s.log ++ [.resolving g.name])
      have body := Congruence.lowerFunction_related (f := p) (guides_tracked ih _) _ _
        ((h.begin positive).report (.resolving g.name)) table
      obtain ⟨-, grows, -⟩ := lowerFunction_keeps (plainView b) m
        (resolve_admits (plainView b) m depth) p _ table
      obtain ⟨kept, -, -⟩ := complete_table (plainView b) (resolve_admits (plainView b) m depth) hf
        g.name hs fresh new
      refine and_assoc.mp ⟨?_, kept⟩
      rw [run_complete, run_complete_state]
      obtain ⟨same, shows, inside⟩ := body
      change ((lowerFunction b (resolve m b depth) p).run
        (SessionState.report (.resolving g.name) (SessionState.begin id f))).1 = _ at same
      change ((lowerFunction b (resolve m b depth) p).run
        (SessionState.report (.resolving g.name) (SessionState.begin id f))).2.Shows _ at shows
      rcases hx : (lowerFunction b (resolve m b depth) p : LowerIn (SlotSession κ) Routine).run
        (SessionState.report (.resolving g.name) (SessionState.begin id f)) with ⟨r, f'⟩
      rcases hy : (lowerFunction b (resolve m b depth) p : LowerM κ Routine).run
        { s with active := id :: s.active, log := s.log ++ [.resolving g.name] } with ⟨r', t⟩
      rw [hx, hy] at same shows
      rw [hy] at inside grows
      obtain rfl : r = r' := same
      have active : t.active = id :: s.active := grows.active
      cases r with
      | ok r =>
          exact ⟨rfl, shows.finish positive active fresh
            (inside.apart id (active ▸ List.mem_cons_self)) r⟩
      | error e =>
          have length : f.order.length = s.resolved.length := by simp [h.order, Session.ids]
          refine ⟨rfl, ?_⟩
          rw [← length]
          exact shows.abandon (pos_of_finished inside) inside.nodup inside.apart positive active
            fresh _

omit [CompiledKernel κ] in
/-- A finished global is found alike. -/
theorem global?_shown (h : f.Shows s) (apart : ∀ id ∈ s.active, id ∉ s.ids) (name : String) :
    SessionState.global? f m name = s.global? m name := by
  unfold SessionState.global? Session.global?
  refine Option.bind_congr fun id hl => ?_
  have positive := pos_of_lookup hl
  by_cases active : id ∈ s.active
  · change (f.slot id).routine? = _
    rw [h.slot id positive, Session.slot, if_pos active,
      Session.routine?_eq_none_iff.mpr (apart id active)]
    rfl
  · exact h.routine? positive active

/-- An expression is lowered alike. -/
theorem lower_shown (h : f.Shows s) (hs : Listed b m s) (e : Expr) :
    (SessionState.lower f m b e).1 = (s.lower m b e).1 ∧
      (SessionState.lower f m b e).2.Shows (s.lower m b e).2 := by
  obtain ⟨same, shows, -⟩ :=
    Congruence.lower_related e (guides_tracked (resolve_tracked b m m.defs.length) _) f s h hs
  exact ⟨same, shows⟩

/-- A function is lowered alike. -/
theorem lowerFunction_shown (h : f.Shows s) (hs : Listed b m s) (p : Function) :
    (SessionState.lowerFunction f m b p).1 = (s.lowerFunction m b p).1 ∧
      (SessionState.lowerFunction f m b p).2.Shows (s.lowerFunction m b p).2 := by
  have guides := guides_tracked (resolve_tracked b m m.defs.length) p.toExpr.parts
  obtain ⟨same, shows, -⟩ := Congruence.lowerFunction_related guides f s h hs
  exact ⟨same, shows⟩

/-- A global is resolved alike. -/
theorem lowerGlobal_shown (h : f.Shows s) (hs : Listed b m s) (name : String) :
    (SessionState.lowerGlobal f m b name).1 = (s.lowerGlobal m b name).1 ∧
      (SessionState.lowerGlobal f m b name).2.Shows (s.lowerGlobal m b name).2 := by
  unfold Session.lowerGlobal SessionState.lowerGlobal SessionState.lowerGlobalBy
  cases m.global name with
  | none => exact ⟨rfl, h⟩
  | some g =>
      obtain ⟨same, shows, table⟩ := resolve_tracked b m m.defs.length g f s h hs
      rcases hx : (resolve m b m.defs.length g : LowerIn (SlotSession κ) Unit).run f with ⟨r, f'⟩
      rcases hy : (resolve m b m.defs.length g : LowerM κ Unit).run s with ⟨r', t⟩
      rw [hx, hy] at same shows
      rw [hy] at table
      obtain rfl : r = r' := same
      simp only [global?_session, hx, hy]
      cases r with
      | error e => exact ⟨rfl, shows⟩
      | ok u =>
          simp only [global?_shown shows table.apart]
          cases t.global? m name <;> exact ⟨rfl, shows⟩

end Lowering

/-! ### Workspaces -/

/-- The commands of workspaces that share registries of other kinds. -/
def CommandOf.map {ρ ρ' : Type} (share : ρ → ρ') : CommandOf κ ρ → CommandOf κ ρ'
  | .add name f => .add name f
  | .declare name ty => .declare name ty
  | .define g f => .define g f
  | .lower b e => .lower b e
  | .lowerFunction b f => .lowerFunction b f
  | .lowerGlobal b name => .lowerGlobal b name
  | .share registry => .share (share registry)

/-- A workspace whose session has a table of slots. -/
abbrev SlotWorkspace (κ : Type) := WorkspaceOf (SlotSession κ)

/-- The entry of the list of globals for a global that is resolved. -/
def ResolvedGlobal.listed (g : ResolvedGlobal) : ListedGlobal :=
  ⟨g.id, g.name, some g.routine⟩

namespace SlotWorkspace

/-- A session opened for a number of definitions, of a module without globals. -/
def start (name : String) (definitions : Nat) (kernels : BuilderTable κ) : SlotWorkspace κ :=
  ⟨.empty name, .start definitions kernels⟩

variable [CompiledKernel κ]

/-- The workspace after several commands. -/
def run (w : SlotWorkspace κ) (cmds : List (CommandOf κ (BuilderTable κ))) : SlotWorkspace κ :=
  cmds.foldl (fun w cmd => (WorkspaceOf.step w cmd).2) w

/-- A workspace with slots shows one with lists. -/
structure Shows (w : SlotWorkspace κ) (v : Workspace κ) : Prop where
  module : w.module = v.module
  session : w.session.Shows v.session

variable {w : SlotWorkspace κ} {v : Workspace κ}

/-- The lists that the invariant speaks of, for any backend. -/
theorem listed_of_inv (inv : v.Inv) (b : Backend κ) : Lowering.Listed b v.module v.session :=
  inv.table.change rfl rfl

/-- One command answers alike with slots and with lists, and what is shown stays shown. -/
theorem step_shows (h : Shows w v) (inv : v.Inv) (cmd : CommandOf κ (BuilderTable κ)) :
    (WorkspaceOf.step w cmd).1 = (v.step (cmd.map BuilderTable.registry)).1 ∧
      Shows (WorkspaceOf.step w cmd).2 (v.step (cmd.map BuilderTable.registry)).2 := by
  obtain ⟨m, f⟩ := w
  obtain ⟨n, s⟩ := v
  obtain ⟨rfl, session⟩ := h
  cases cmd with
  | add name p =>
      simp only [Workspace.step, WorkspaceOf.step, CommandOf.map]
      cases m.add name p <;> exact ⟨rfl, rfl, session⟩
  | declare name ty =>
      simp only [Workspace.step, WorkspaceOf.step, CommandOf.map]
      cases m.declare name ty <;> exact ⟨rfl, rfl, session⟩
  | define g p =>
      simp only [Workspace.step, WorkspaceOf.step, CommandOf.map]
      cases m.define g p <;> exact ⟨rfl, rfl, session⟩
  | share kernels =>
      exact ⟨rfl, rfl, session.order, session.slot, kernels.refines_registry, session.log⟩
  | lower b e =>
      obtain ⟨same, shows⟩ := Lowering.lower_shown session (listed_of_inv inv b) e
      exact ⟨congrArg Except.toOption same, rfl, shows⟩
  | lowerFunction b p =>
      obtain ⟨same, shows⟩ := Lowering.lowerFunction_shown session (listed_of_inv inv b) p
      exact ⟨congrArg (fun r => (Except.toOption r).map Routine.toNode) same, rfl, shows⟩
  | lowerGlobal b name =>
      obtain ⟨same, shows⟩ := Lowering.lowerGlobal_shown session (listed_of_inv inv b) name
      exact ⟨congrArg (fun r => (Except.toOption r).map Routine.toNode) same, rfl, shows⟩

/-- Commands answer alike, one after the other. -/
theorem run_shows (h : Shows w v) (inv : v.Inv) (cmds : List (CommandOf κ (BuilderTable κ))) :
    Shows (run w cmds) (v.run (cmds.map (CommandOf.map BuilderTable.registry))) := by
  induction cmds generalizing w v with
  | nil => exact h
  | cons cmd cmds ih => exact ih (step_shows h inv cmd).2 (Workspace.step_spec inv _).1

/-- The list of globals shows each with its function, since the slot of a handle that was completed
is not cleared and not begun again. -/
theorem globals_shown (h : Shows w v) (inv : v.Inv) :
    w.session.globals w.module = (v.session.globals v.module).map ResolvedGlobal.listed := by
  rw [h.module, SlotSession.globals, h.session.order, Session.ids, Session.globals, List.map_map,
    List.map_map]
  refine List.map_congr_left fun p hp => ?_
  have positive := Lowering.pos_of_finished (listed_of_inv inv Lowering.absent) p.1
    (List.mem_map_of_mem hp)
  have fresh : p.1 ∉ v.session.active := by simp [inv.idle]
  have held : (w.session.slot p.1).routine? = some p.2 :=
    (h.session.routine? positive fresh).trans (inv.routine?_iff.mpr hp)
  simp [ResolvedGlobal.listed, held]

/-- A global is found alike. -/
theorem global?_shown (h : Shows w v) (inv : v.Inv) (name : String) :
    SessionState.global? w.session w.module name = v.session.global? v.module name := by
  rw [h.module]
  exact Lowering.global?_shown h.session inv.table.apart name

end SlotWorkspace

/-! ### Failures -/

/-- Two sessions of a module that show the same globals. -/
structure SlotSession.SameGlobals (m : Module) (s t : SlotSession κ) : Prop where
  listed : t.globals m = s.globals m
  found : ∀ name, SessionState.global? t m name = SessionState.global? s m name

/-- A session that shows the globals of an earlier one, and perhaps more, all of them complete:
each is listed and found with its function, and every global that the function refers to is found.
-/
structure SlotSession.Completes (m : Module) (s t : SlotSession κ) : Prop where
  kept : s.globals m <+: t.globals m
  complete : ∀ g ∈ t.globals m, ∃ r, g.routine = some r ∧ SessionState.global? t m g.name = some r ∧
    ∀ ref ∈ r.body.globalRefs, ∃ r', SessionState.global? t m ref.name = some r'

namespace SlotWorkspace

variable [CompiledKernel κ] {w : SlotWorkspace κ} {v : Workspace κ} {f : SlotSession κ}
  {t : Session κ}

/-- Lists that agree are shown by slots that agree. -/
theorem sameGlobals_of_lists (h : Shows w v) (inv : v.Inv)
    (h' : Shows { w with session := f } { v with session := t })
    (inv' : Workspace.Inv { v with session := t })
    (same : Session.SameGlobals v.module v.session t) :
    SlotSession.SameGlobals w.module w.session f := by
  refine ⟨?_, fun name => ?_⟩
  · exact ((globals_shown h' inv').trans (congrArg _ same.listed)).trans (globals_shown h inv).symm
  · have found := (global?_shown h' inv' name).trans (same.found name)
    exact found.trans (global?_shown h inv name).symm

/-- Lists that are complete are shown by slots that are complete. -/
theorem completes_of_lists (h : Shows w v) (inv : v.Inv)
    (h' : Shows { w with session := f } { v with session := t })
    (inv' : Workspace.Inv { v with session := t })
    (completes : Session.Completes v.module v.session t) :
    SlotSession.Completes w.module w.session f := by
  have listed : f.globals w.module = (t.globals v.module).map ResolvedGlobal.listed :=
    globals_shown h' inv'
  have found := global?_shown h' inv'
  refine ⟨?_, fun g member => ?_⟩
  · rw [listed, globals_shown h inv]
    exact List.IsPrefix.map _ completes.kept
  · rw [listed] at member
    obtain ⟨g, finished, rfl⟩ := List.mem_map.mp member
    refine ⟨g.routine, rfl, (found g.name).trans (completes.found g finished), fun ref href => ?_⟩
    obtain ⟨r, hr⟩ := completes.references g finished ref href
    exact ⟨r, (found ref.name).trans hr⟩

omit [CompiledKernel κ] in
/-- A call that fails with slots fails with lists, and leaves what shows what is left there. -/
theorem Shows.failed (h : Shows w v) {α : Type} {out : Except LowerError α × SlotSession κ}
    {out' : Except LowerError α × Session κ} (shown : out.1 = out'.1 ∧ out.2.Shows out'.2)
    {e : LowerError} (failed : out = (.error e, f)) :
    out' = (.error e, out'.2) ∧
      Shows { w with session := f } { v with session := out'.2 } := by
  obtain ⟨same, shows⟩ := shown
  rw [failed] at same shows
  exact ⟨Prod.ext same.symm rfl, h.module, shows⟩

/-- A failure leaves no trace in the table of slots. After any history and with any backend, if the
resolution of a global fails then the host sees the globals it saw before, in the list and by name;
if the lowering of an expression or of a function fails then the globals seen before stay in front,
and those added are complete. -/
theorem failure_leaves_no_trace (name : String) (definitions : Nat) (kernels : BuilderTable κ)
    (cmds : List (CommandOf κ (BuilderTable κ))) (b : Backend κ) :
    let w := run (start name definitions kernels) cmds
    (∀ g e t, SessionState.lowerGlobal w.session w.module b g = (.error e, t) →
      SlotSession.SameGlobals w.module w.session t) ∧
    (∀ x e t, SessionState.lower w.session w.module b x = (.error e, t) →
      SlotSession.Completes w.module w.session t) ∧
    ∀ f e t, SessionState.lowerFunction w.session w.module b f = (.error e, t) →
      SlotSession.Completes w.module w.session t := by
  intro w
  have shows : Shows w _ :=
    run_shows ⟨rfl, SlotSession.shows_start definitions kernels⟩
      (Workspace.start_inv name kernels.registry) cmds
  have inv := Workspace.run_inv (Workspace.start_inv name kernels.registry)
    (cmds.map (CommandOf.map BuilderTable.registry))
  obtain ⟨global, node, function⟩ := Workspace.failure_keeps_lists name kernels.registry
    (cmds.map (CommandOf.map BuilderTable.registry)) b
  generalize (Workspace.start name kernels.registry).run _ = v at shows inv global node function
  have listed := listed_of_inv inv b
  refine ⟨?_, ?_, ?_⟩
  · intro g e t failed
    rw [shows.module] at failed
    obtain ⟨failed', shown⟩ :=
      shows.failed (Lowering.lowerGlobal_shown shows.session listed g) failed
    exact sameGlobals_of_lists shows inv shown (Workspace.step_spec inv (.lowerGlobal b g)).1
      (global g e _ failed')
  · intro x e t failed
    rw [shows.module] at failed
    obtain ⟨failed', shown⟩ :=
      shows.failed (Lowering.lower_shown shows.session listed x) failed
    exact completes_of_lists shows inv shown (Workspace.step_spec inv (.lower b x)).1
      (node x e _ failed')
  · intro p e t failed
    rw [shows.module] at failed
    obtain ⟨failed', shown⟩ :=
      shows.failed (Lowering.lowerFunction_shown shows.session listed p) failed
    exact completes_of_lists shows inv shown (Workspace.step_spec inv (.lowerFunction b p)).1
      (function p e _ failed')

open Workspace in
/-- The first global fails after the second one was finished, and the table is empty as before. In a
tuple the global in front of it stays. -/
theorem tangled_traceless :
    let w := run (start "tangled" 0 .empty) tangled
    let pair : Expr := .tuple [.global ⟨"same", numeric⟩, .global ⟨"first", numeric⟩] .unknown
    let f : Function := ⟨[], pair, .unknown, false⟩
    (∃ e t, SessionState.lowerGlobal w.session w.module withoutTanh "first" = (.error e, t) ∧
      t.log.length = 4 ∧ t.slots.length = 2 ∧ SlotSession.SameGlobals w.module w.session t) ∧
    (∃ e t, SessionState.lower w.session w.module withoutTanh pair = (.error e, t) ∧
      (t.globals w.module).map ListedGlobal.name = ["same"] ∧
      SlotSession.Completes w.module w.session t) ∧
    ∃ e t, SessionState.lowerFunction w.session w.module withoutTanh f = (.error e, t) ∧
      (t.globals w.module).map ListedGlobal.name = ["same"] ∧
      SlotSession.Completes w.module w.session t := by
  intro w pair f
  obtain ⟨global, node, function⟩ := failure_leaves_no_trace "tangled" 0 .empty tangled withoutTanh
  have fails {α : Type} (out : Except LowerError α × SlotSession KernelOutline)
      (h : out.1.toOption.isNone = true) : ∃ e, out = (.error e, out.2) := by
    obtain ⟨e | a, t⟩ := out
    · exact ⟨e, rfl⟩
    · cases h
  refine ⟨?_, ?_, ?_⟩
  · obtain ⟨e, failed⟩ := fails
      (SessionState.lowerGlobal w.session w.module withoutTanh "first") (by decide +kernel)
    exact ⟨e, _, failed, by decide +kernel, by decide +kernel, global _ e _ failed⟩
  · obtain ⟨e, failed⟩ := fails
      (SessionState.lower w.session w.module withoutTanh pair) (by decide +kernel)
    exact ⟨e, _, failed, by decide +kernel, node _ e _ failed⟩
  · obtain ⟨e, failed⟩ := fails
      (SessionState.lowerFunction w.session w.module withoutTanh f) (by decide +kernel)
    exact ⟨e, _, failed, by decide +kernel, function _ e _ failed⟩

end SlotWorkspace
end TensorCompiler
