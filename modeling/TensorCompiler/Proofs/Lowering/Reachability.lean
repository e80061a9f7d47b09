import Mathlib.Data.List.Perm.Subperm
import Mathlib.Logic.Relation
import TensorCompiler.Proofs.Lowering.Failure
import TensorCompiler.Proofs.Lowering.Refusal

/-!
# Resolution is a search

The globals refer to each other, in cycles too. To resolve one is to search depth first from it: a
global under way is passed over, a global finished before is not entered again.

Main statement: the search succeeds exactly if every global it can reach is defined and holds no
refused node, and then it finishes just the globals it can reach.

## Implementation notes

A global that is passed over because it is under way may still fail. It is not sound then, and the
failure is met again where it began. A global that was finished before was sound with its
references; this is what the table of a view of kernels keeps between calls, whatever came between.

The other direction needs the depth of the search: the globals under way are different definitions
of the module, so a search that may begin as many of them inside one another as there are
definitions never has to stop.
-/

namespace TensorCompiler

open Lowered

/-! ### What can be reached -/

namespace Module

variable (m : Module)

/-- A global refers to another one in its definition, outside of primitive functions. -/
def Refers (g h : String) : Prop :=
  ∃ f ref, m.functionNamed g = some f ∧ .global ref ∈ f.toExpr.parts ∧ ref.name = h

/-- A global is the other one or refers to it over any number of globals. -/
def Reaches : String → String → Prop :=
  Relation.ReflTransGen m.Refers

/-- The definition of a global uses a primitive function with a given fingerprint. -/
def Applies (g : String) (fp : Fingerprint) : Prop :=
  ∃ f x p tys, m.functionNamed g = some f ∧ x ∈ f.toExpr.parts ∧
    x.primitiveUse? = some (p, tys) ∧ p.fingerprint = .ok fp

/-- The handle of a defined global. -/
theorem functionNamed_eq_some {name : String} {f : Function} (h : m.functionNamed name = some f) :
    ∃ id, m.lookup name = some id ∧ m.function? id = some f :=
  Option.bind_eq_some_iff.mp h

/-- A handle belongs to one name. -/
theorem lookup_inj {g h : String} {id : Nat} (hg : m.lookup g = some id)
    (hh : m.lookup h = some id) : g = h := by
  have name := name_of_lookup hg
  rw [name_of_lookup hh] at name
  exact (Option.some.inj name).symm

/-- Handles count the definitions from one. -/
theorem mem_range_of_lookup {name : String} {id : Nat} (h : m.lookup name = some id) :
    id ∈ List.range' 1 m.defs.length := by
  obtain ⟨i, hi, rfl⟩ := Option.map_eq_some_iff.mp h
  obtain ⟨bound, -⟩ := List.findIdx?_eq_some_iff_getElem.mp hi
  exact List.mem_range'_1.mpr ⟨by omega, by omega⟩

end Module

variable {κ : Type} [CompiledKernel κ]

/-- A backend whose answer, no kernel or a kernel of some arity, depends on the encoding of a
function alone. -/
def Backend.Canonical (b : Backend κ) : Prop :=
  ∀ f g fp gp, f.fingerprint = .ok fp → g.fingerprint = .ok gp → fp.encoding = gp.encoding →
    b.arity? fp.kernelName f = b.arity? gp.kernelName g

omit [CompiledKernel κ] in
/-- A registry whose kernels were all compiled by a backend. -/
def Registry.FilledBy (b : Backend κ) (r : Registry κ) : Prop :=
  ∀ e ∈ r.entries, ∃ f fp, f.fingerprint = .ok fp ∧ fp.kernelName = e.name ∧
    fp.encoding = e.encoding ∧ b.compile e.name f = .ok (some e.kernel)

/-- A defined global without refused nodes. -/
def Module.Sound (m : Module) (b : Backend κ) (g : String) : Prop :=
  ∃ f, m.functionNamed g = some f ∧ ∀ x ∈ f.toExpr.parts, ¬ Lowering.Refused b x

omit [CompiledKernel κ] in
/-- The kernel names with their encodings that a search can meet: those of the registry and those of
the primitive functions that reachable globals use. -/
def Session.Meets (s : Session κ) (m : Module) (g name encoding : String) : Prop :=
  (∃ e ∈ s.registry.entries, e.name = name ∧ e.encoding = encoding) ∨
    ∃ h fp, m.Reaches g h ∧ m.Applies h fp ∧ fp.kernelName = name ∧ fp.encoding = encoding

omit [CompiledKernel κ] in
/-- No two encodings that a search can meet share a kernel name. -/
def Session.Distinct (s : Session κ) (m : Module) (g : String) : Prop :=
  ∀ name encoding encoding', s.Meets m g name encoding → s.Meets m g name encoding' →
    encoding = encoding'

/-- A command that lowers with a given backend, and brings no kernels of others. -/
def Command.Uses (b : Backend κ) : Command κ → Prop
  | .lower c _ | .lowerFunction c _ | .lowerGlobal c _ => c = b
  | .share registry => registry.FilledBy b
  | .add _ _ | .declare _ _ | .define _ _ => True

/-- The backend a command brings. -/
def Command.backend? : Command κ → Option (Backend κ)
  | .lower b _ | .lowerFunction b _ | .lowerGlobal b _ => some b
  | .add _ _ | .declare _ _ | .define _ _ | .share _ => none

omit [CompiledKernel κ] in
/-- A command brings no backend but the one it uses. -/
theorem Command.Uses.backend {b c : Backend κ} {cmd : Command κ} (uses : cmd.Uses b)
    (own : cmd.backend? = some c) : b = c := by
  cases cmd with
  | lower | lowerFunction | lowerGlobal =>
      obtain rfl := Option.some.inj own
      exact Eq.symm uses
  | _ => cases own

/-- The kernels that a search in a module can meet, by name and encoding, wherever it begins. -/
def Session.named (s : Session κ) (m : Module) : List (String × String) :=
  s.registry.entries.map (fun e => (e.name, e.encoding)) ++
    (m.defs.filterMap Definition.function).flatMap fun f =>
      (f.toExpr.parts.filterMap Expr.primitiveUse?).filterMap fun use =>
        use.1.fingerprint.toOption.map fun fp => (fp.kernelName, fp.encoding)

omit [CompiledKernel κ] in
/-- No search meets two encodings under one name if the module has none. -/
theorem Session.distinct_of_named {s : Session κ} {m : Module}
    (h : ∀ p ∈ s.named m, ∀ q ∈ s.named m, p.1 = q.1 → p.2 = q.2) (g : String) :
    s.Distinct m g := by
  have listed {name encoding : String} (met : s.Meets m g name encoding) :
      (name, encoding) ∈ s.named m := by
    rcases met with ⟨e, he, rfl, rfl⟩ | ⟨k, fp, -, ⟨f, x, p, tys, hf, hx, use, hp⟩, rfl, rfl⟩
    · exact List.mem_append_left _ (List.mem_map_of_mem he)
    · obtain ⟨id, -, function⟩ := m.functionNamed_eq_some hf
      obtain ⟨d, hd, defined⟩ := Option.bind_eq_some_iff.mp function
      have stored : d ∈ m.defs := by
        cases id with
        | zero => cases hd
        | succ i => exact List.mem_of_getElem? hd
      refine List.mem_append_right _ (List.mem_flatMap.mpr ⟨f, ?_, ?_⟩)
      · exact List.mem_filterMap.mpr ⟨d, stored, defined⟩
      · refine List.mem_filterMap.mpr ⟨(p, tys), List.mem_filterMap.mpr ⟨x, hx, use⟩, ?_⟩
        rw [hp]
        rfl
  intro name encoding encoding' met met'
  exact h _ (listed met) _ (listed met') rfl

/-! ### Kernels of one backend -/

namespace Registry

variable {b : Backend κ} {r t : Registry κ}

omit [CompiledKernel κ] in
/-- Fewer kernels are filled by the backend too. -/
theorem FilledBy.anti (h : t.FilledBy b) (ext : r.Extends t) : r.FilledBy b := by
  intro e he
  exact h e (ext.subset he)

omit [CompiledKernel κ] in
/-- A kernel the backend has just compiled. -/
theorem FilledBy.insert (h : r.FilledBy b) {f : Function} {fp : Fingerprint} {k : κ}
    (hf : f.fingerprint = .ok fp) (hk : b.compile fp.kernelName f = .ok (some k)) :
    (r.insert fp.kernelName fp.encoding k).FilledBy b := by
  intro e he
  rcases List.mem_append.mp he with he | he
  · exact h e he
  · obtain rfl := List.mem_singleton.mp he
    exact ⟨f, fp, hf, rfl, rfl, hk⟩

/-- A kernel of the registry has the arity that the backend gives for every function with its
encoding. -/
theorem FilledBy.arity (h : r.FilledBy b) (canonical : b.Canonical) {e : RegistryEntry κ}
    (he : e ∈ r.entries) {f : Function} {fp : Fingerprint} (hf : f.fingerprint = .ok fp)
    (same : e.encoding = fp.encoding) :
    b.arity? fp.kernelName f = some (CompiledKernel.arity e.kernel) := by
  obtain ⟨g, gp, hg, name, encoding, compiled⟩ := h e he
  have equal := canonical f g fp gp hf hg (same.symm.trans encoding.symm)
  rw [equal, name, Backend.arity?, compiled]

end Registry

namespace Lowering

variable {b : Backend κ}

omit [CompiledKernel κ] in
/-- A step that is decided without the session. -/
theorem run_lift {α : Type} (x : Except LowerError α) (s : Session κ) :
    (liftM x : LowerM κ α).run s = (x, s) := by
  cases x <;> rfl

/-- The call site only stands in the error. -/
theorem convention_site {site : Expr} {params : Nat} {tys : List Ty} {out : Convention × Nat}
    (h : convention site params tys = .ok out) (other : Expr) :
    convention other params tys = .ok out := by
  unfold convention at h ⊢
  split at h
  · split at h
    · cases h
    · exact h
  · split at h
    · cases h
    · split at h
      · rename_i count
        rw [if_pos count]
        exact h
      · cases h

/-- A view of kernels in which a packed primitive function fits its use. -/
def packableView (canonical : b.Canonical) : KernelView b where
  Inv := Registry.FilledBy b
  prim r f tys _ := r.FilledBy b → Packable b f tys
  mono ext _ _ _ h filled := h (filled.anti ext)
  insert filled hf _ hk := filled.insert hf hk
  packs := by
    rintro r f tys form ⟨site, fp, e, hf, he, encoding, -, arity, conv⟩ filled
    refine ⟨site, form.conv, form.inputs, fp, conv, hf, ?_⟩
    rw [filled.arity canonical (List.mem_of_find?_eq_some he) hf encoding, arity]

/-- The kernels of a session may be exchanged for others of the backend. -/
theorem Table.share {canonical : b.Canonical} {m : Module} {s : Session κ}
    (h : Table (packableView canonical) m s) {registry : Registry κ}
    (filled : registry.FilledBy b) :
    Table (packableView canonical) m { s with registry := registry } := by
  refine ⟨filled, h.nodup, h.apart, ?_⟩
  intro p hp
  obtain ⟨f, hf, tr⟩ := h.finished p hp
  exact ⟨f, hf, tr.mono (fun _ _ _ packable _ => packable h.registry) fun _ => id⟩

end Lowering

namespace Workspace

open Lowering

variable {b : Backend κ} (canonical : b.Canonical)

/-- The resolution of a name keeps every table. -/
theorem lowerGlobal_table (V : KernelView b) {w : Workspace κ}
    (h : Table V w.module w.session) (name : String) :
    Table V w.module (w.session.lowerGlobal w.module b name).2 := by
  unfold Session.lowerGlobal SessionState.lowerGlobal SessionState.lowerGlobalBy
  simp only [global?_session]
  cases w.module.global name with
  | none => exact h
  | some g =>
      obtain ⟨table, -⟩ := (resolve_admits V w.module w.module.defs.length).resolve g w.session h
      dsimp only
      rcases hrun : (resolve w.module b w.module.defs.length g).run w.session with ⟨e | u, t⟩
      · rw [hrun] at table
        exact table
      · rw [hrun] at table
        simp only
        cases t.global? w.module name <;> exact table

/-- The lowerings of a workspace follow a conduct if all resolutions and all packings do, and
nothing has to be done to fail. -/
theorem Inv.lowerings_follow {w : Workspace κ} (inv : w.Inv) {C : Conduct κ}
    (refuse : ∀ s, C.failed s s)
    (resolves : ∀ g, C.Follows (resolve w.module b w.module.defs.length g))
    (packs : ∀ site f tys, C.Follows (packedCall b site f tys)) :
    (∀ e, C.Outcome w.session (w.session.lower w.module b e)) ∧
      (∀ f, C.Outcome w.session (w.session.lowerFunction w.module b f)) ∧
      ∀ g, C.Outcome w.session (w.session.lowerGlobal w.module b g) := by
  have guides (nodes : List Expr) :
      C.Guides b (resolve w.module b w.module.defs.length) nodes :=
    ⟨fun _ _ _ => refuse, fun g _ => resolves g, fun x _ f tys _ => packs x f tys⟩
  refine ⟨?_, ?_, ?_⟩
  · exact fun e => Conduct.lower_follows e (guides _) w.session
  · exact fun f => Conduct.lowerFunction_follows (guides _) w.session
  · intro g
    rcases inv.lowerGlobal_cases b g with ⟨-, e, same⟩ | ⟨f, -, outcome⟩
    · rw [same]
      exact refuse _
    · have done := resolves ⟨g, f.ty⟩ w.session
      rcases outcome with ⟨e, t, run, same⟩ | ⟨r, t, run, -, same⟩
      all_goals
        rw [run] at done
        rw [same]
        exact done

/-- What a command does to a workspace: it extends the module, exchanges the registry, or lowers
with its backend, which keeps every table. -/
theorem step_forms {w : Workspace κ} (inv : w.Inv) (cmd : Command κ) :
    (∃ m, w.module.Extends m ∧ (w.step cmd).2 = { w with module := m }) ∨
    (∃ registry, cmd = .share registry ∧
      (w.step cmd).2 = { w with session := { w.session with registry := registry } }) ∨
    ∃ c s, cmd.backend? = some c ∧ (w.step cmd).2 = { w with session := s } ∧
      ∀ V : KernelView c, Table V w.module w.session → Table V w.module s := by
  have idle : w.module.Extends w.module := .refl inv.names
  have admits {c : Backend κ} (V : KernelView c) :=
    resolve_admits V w.module w.module.defs.length
  cases cmd with
  | add name f =>
      simp only [step, WorkspaceOf.step]
      cases ha : w.module.add name f with
      | error e => exact Or.inl ⟨_, idle, rfl⟩
      | ok p => exact Or.inl ⟨_, Module.extends_add inv.names ha, rfl⟩
  | declare name ty =>
      simp only [step, WorkspaceOf.step]
      cases hd : w.module.declare name ty with
      | error e => exact Or.inl ⟨_, idle, rfl⟩
      | ok p => exact Or.inl ⟨_, Module.extends_declare inv.names hd, rfl⟩
  | define g f =>
      simp only [step, WorkspaceOf.step]
      cases hd : w.module.define g f with
      | error e => exact Or.inl ⟨_, idle, rfl⟩
      | ok m => exact Or.inl ⟨_, Module.extends_define inv.names hd, rfl⟩
  | share registry => exact Or.inr (Or.inl ⟨registry, rfl, rfl⟩)
  | lower c e =>
      exact Or.inr (Or.inr ⟨c, _, rfl, rfl, fun V h =>
        (Discipline.lower_keeps (admits V) e w.session h).1⟩)
  | lowerFunction c f =>
      exact Or.inr (Or.inr ⟨c, _, rfl, rfl, fun V h =>
        (lowerFunction_keeps V w.module (admits V) f w.session h).1⟩)
  | lowerGlobal c name =>
      exact Or.inr (Or.inr ⟨c, _, rfl, rfl, fun V h => lowerGlobal_table V h name⟩)

/-- A command that uses the backend keeps the table. -/
theorem step_table {w : Workspace κ} (inv : w.Inv)
    (h : Table (packableView canonical) w.module w.session) {cmd : Command κ} (uses : cmd.Uses b) :
    Table (packableView canonical) (w.step cmd).2.module (w.step cmd).2.session := by
  rcases step_forms inv cmd with ⟨m, ext, same⟩ | ⟨registry, rfl, same⟩ | ⟨c, s, own, same, kept⟩
  · rw [same]
    exact h.extends ext
  · rw [same]
    exact h.share uses
  · rw [same]
    obtain rfl := uses.backend own
    exact kept _ h

/-- Commands that use the backend keep the table. -/
theorem run_table {w : Workspace κ} (inv : w.Inv)
    (h : Table (packableView canonical) w.module w.session) {cmds : List (Command κ)}
    (uses : ∀ cmd ∈ cmds, cmd.Uses b) :
    Table (packableView canonical) (w.run cmds).module (w.run cmds).session := by
  induction cmds generalizing w with
  | nil => exact h
  | cons cmd cmds ih =>
      have stepped := step_table canonical inv h (uses cmd List.mem_cons_self)
      exact ih (step_spec inv cmd).1 stepped fun c hc => uses c (List.mem_cons_of_mem cmd hc)

/-! ### What is resolved is sound -/

variable {canonical} {w : Workspace κ}

omit [CompiledKernel κ] in
/-- A resolved global has a handle, and this handle is finished. -/
theorem global?_isSome_iff {m : Module} {s : Session κ} {name : String} :
    (∃ r, s.global? m name = some r) ↔ ∃ id, m.lookup name = some id ∧ id ∈ s.ids := by
  rw [← Option.isSome_iff_exists, Session.global?, Option.isSome_bind, Option.any_eq_true]
  exact exists_congr fun id => and_congr_right fun _ => s.mem_ids_iff.symm

/-- The nodes of a resolved global are accepted. -/
theorem accepted_of_resolved (h : Table (packableView canonical) w.module w.session)
    {name : String} (resolved : ∃ r, w.session.global? w.module name = some r) :
    ∃ f, w.module.functionNamed name = some f ∧
      ∀ x ∈ f.toExpr.parts, Accepted b (Known w.module w.session) x := by
  obtain ⟨id, hl, hid⟩ := global?_isSome_iff.mp resolved
  obtain ⟨p, hp, rfl⟩ := List.mem_map.mp hid
  obtain ⟨f, hf, tr⟩ := h.finished p hp
  refine ⟨f, Option.bind_eq_some_iff.mpr ⟨p.1, hl, hf⟩, ?_⟩
  exact tr.accepted fun _ _ _ packable => packable h.registry

/-- With no global under way, a resolved global is sound. -/
theorem sound_of_resolved (h : Table (packableView canonical) w.module w.session)
    {name : String} (resolved : ∃ r, w.session.global? w.module name = some r) :
    w.module.Sound b name := by
  obtain ⟨f, hf, accepted⟩ := accepted_of_resolved h resolved
  exact ⟨f, hf, fun x hx => (accepted x hx).fits⟩

/-- With no global under way, what can be reached from a resolved global is resolved. -/
theorem resolved_of_reaches (idle : w.session.active = [])
    (h : Table (packableView canonical) w.module w.session) {g k : String}
    (resolved : ∃ r, w.session.global? w.module g = some r) (reach : w.module.Reaches g k) :
    ∃ r, w.session.global? w.module k = some r := by
  induction reach with
  | refl => exact resolved
  | tail _ edge ih =>
      obtain ⟨f, ref, hf, part, rfl⟩ := edge
      obtain ⟨f', hf', accepted⟩ := accepted_of_resolved h ih
      obtain rfl : f = f' := Option.some.inj (hf.symm.trans hf')
      exact resolves_of_known idle ((accepted _ part).known ref rfl)

end Workspace

/-! ### The depth of a search -/

namespace Lowering

/-- The globals under way are different definitions of the module, and as many more as the depth
says may be begun inside them. -/
structure Descent (m : Module) (depth : Nat) (active : List Nat) : Prop where
  once : active.Nodup
  handles : ∀ id ∈ active, id ∈ List.range' 1 m.defs.length
  room : active.length + depth = m.defs.length

namespace Descent

variable {m : Module} {depth : Nat} {active : List Nat}

/-- Nothing is under way. -/
theorem start (m : Module) : Descent m m.defs.length [] :=
  ⟨List.nodup_nil, fun _ hid => absurd hid List.not_mem_nil, Nat.zero_add _⟩

/-- Where no other global may be begun, all of them are under way. -/
theorem mem_of_zero (h : Descent m 0 active) {id : Nat}
    (handle : id ∈ List.range' 1 m.defs.length) : id ∈ active := by
  by_contra fresh
  have once : (id :: active).Nodup := List.nodup_cons.mpr ⟨fresh, h.once⟩
  have handles : id :: active ⊆ List.range' 1 m.defs.length := by
    intro j hj
    rcases List.mem_cons.mp hj with rfl | hj
    · exact handle
    · exact h.handles j hj
  have bound := (List.subperm_of_subset once handles).length_le
  have room := h.room
  simp only [List.length_cons, List.length_range'] at bound
  omega

/-- A global is begun. -/
theorem enter (h : Descent m (depth + 1) active) {id : Nat} {name : String}
    (hl : m.lookup name = some id) (fresh : id ∉ active) : Descent m depth (id :: active) := by
  refine ⟨List.nodup_cons.mpr ⟨fresh, h.once⟩, ?_, ?_⟩
  · intro j hj
    rcases List.mem_cons.mp hj with rfl | hj
    · exact m.mem_range_of_lookup hl
    · exact h.handles j hj
  · have room := h.room
    simp only [List.length_cons]
    omega

end Descent

/-! ### The search -/

variable {b : Backend κ} {m : Module} {s₀ : Session κ} {g : String}

/-- The state of a search from `g` that began in the session `s₀` and may begin `depth` globals
inside one another. -/
structure Searching (b : Backend κ) (m : Module) (s₀ : Session κ) (g : String) (depth : Nat)
    (s : Session κ) : Prop where
  filled : s.registry.FilledBy b
  met : ∀ e ∈ s.registry.entries, s₀.Meets m g e.name e.encoding
  once : s.active.Nodup
  handles : ∀ id ∈ s.active, id ∈ List.range' 1 m.defs.length
  room : s.active.length + depth = m.defs.length
  found : ∀ id ∈ s.ids, id ∈ s₀.ids ∨ ∃ h, m.Reaches g h ∧ m.lookup h = some id

namespace Searching

variable {depth : Nat} {s : Session κ}

omit [CompiledKernel κ] in
/-- The state of a search has no part in the reports. -/
theorem logged (h : Searching b m s₀ g depth s) (log : List LowerEvent) :
    Searching b m s₀ g depth { s with log := log } :=
  ⟨h.filled, h.met, h.once, h.handles, h.room, h.found⟩

omit [CompiledKernel κ] in
/-- The depth a search has left. -/
theorem descent (h : Searching b m s₀ g depth s) : Descent m depth s.active :=
  ⟨h.once, h.handles, h.room⟩

omit [CompiledKernel κ] in
/-- A global is begun. -/
theorem enter (h : Searching b m s₀ g (depth + 1) s) {id : Nat} {name : String}
    (hl : m.lookup name = some id) (fresh : id ∉ s.active) (log : List LowerEvent) :
    Searching b m s₀ g depth { s with active := id :: s.active, log := log } :=
  have deeper := h.descent.enter hl fresh
  ⟨h.filled, h.met, deeper.once, deeper.handles, deeper.room, h.found⟩

omit [CompiledKernel κ] in
/-- A global is finished, and the search is back where it began it. -/
theorem leave {t : Session κ} (h : Searching b m s₀ g (depth + 1) s)
    (inner : Searching b m s₀ g depth t) {id : Nat} {name : String}
    (hl : m.lookup name = some id) (reach : m.Reaches g name) (r : Routine) :
    Searching b m s₀ g (depth + 1)
      { t with active := s.active, resolved := t.resolved ++ [(id, r)] } := by
  refine ⟨inner.filled, inner.met, h.once, h.handles, h.room, ?_⟩
  intro j hj
  simp only [Session.ids, List.map_append, List.mem_append, List.map_cons, List.map_nil,
    List.mem_singleton] at hj
  rcases hj with hj | rfl
  · exact inner.found j hj
  · exact Or.inr ⟨name, reach, hl⟩

end Searching

variable (canonical : b.Canonical) (distinct : s₀.Distinct m g)

include canonical distinct

/-- A reachable primitive function that fits its use gets its kernel. -/
theorem kernelFor_searching {depth : Nat} {h : String} (reach : m.Reaches g h) {f : Function}
    {fp : Fingerprint} (hf : f.fingerprint = .ok fp) (applies : m.Applies h fp) {n : Int}
    (arity : b.arity? fp.kernelName f = some n) (conv : Convention) (inputs : Nat)
    {s : Session κ} (hs : Searching b m s₀ g depth s) :
    ∃ k t, (kernelFor b f conv inputs).run s = (.ok k, t) ∧ CompiledKernel.arity k = n ∧
      Searching b m s₀ g depth t := by
  obtain ⟨reports, -, -, run⟩ := run_kernelFor b hf conv inputs s
  have asked : s₀.Meets m g fp.kernelName fp.encoding :=
    Or.inr ⟨h, fp, reach, applies, rfl, rfl⟩
  cases found : s.registry.find? fp.kernelName with
  | some e =>
      have mem : e ∈ s.registry.entries := List.mem_of_find?_eq_some found
      have name : e.name = fp.kernelName := by
        simpa using List.find?_some found
      have held : s₀.Meets m g fp.kernelName e.encoding := name ▸ hs.met e mem
      have same : e.encoding = fp.encoding := distinct _ _ _ held asked
      have load :
          s.registry.load fp (fun name => b.compile name f) = (.ok e.kernel, s.registry) := by
        simp only [Registry.load, found, same, if_true]
      rw [load] at run
      refine ⟨e.kernel, _, run, ?_, hs.logged _⟩
      rw [hs.filled.arity canonical mem hf same] at arity
      exact Option.some.inj arity
  | none =>
      have compiled : ∃ k, b.compile fp.kernelName f = .ok (some k) ∧
          CompiledKernel.arity k = n := by
        unfold Backend.arity? at arity
        split at arity
        · rename_i k hk
          exact ⟨k, hk, Option.some.inj arity⟩
        · cases arity
      obtain ⟨k, hk, arity⟩ := compiled
      have load : s.registry.load fp (fun name => b.compile name f) =
          (.ok k, s.registry.insert fp.kernelName fp.encoding k) := by
        simp only [Registry.load, found, hk]
      rw [load] at run
      refine ⟨k, _, run, arity, ?_⟩
      refine ⟨hs.filled.insert hf hk, ?_, hs.once, hs.handles, hs.room, hs.found⟩
      intro e he
      rcases List.mem_append.mp he with he | he
      · exact hs.met e he
      · obtain rfl := List.mem_singleton.mp he
        exact asked

/-- A reachable primitive function that fits its use is packed. -/
theorem packedCall_searching {depth : Nat} {h : String} (reach : m.Reaches g h) {f : Function}
    {tys : List Ty} (applies : ∀ fp, f.fingerprint = .ok fp → m.Applies h fp)
    (packable : Packable b f tys) (site : Expr) :
    Returns (Searching b m s₀ g depth) (packedCall b site f tys) := by
  intro s hs
  obtain ⟨other, conv, inputs, fp, fits, hf, arity⟩ := packable
  obtain ⟨k, t, run, arity, ht⟩ :=
    kernelFor_searching canonical distinct reach hf (applies fp hf) arity conv (inputs + 1) hs
  have convention := convention_site fits site
  unfold packedCall
  simp only [convention, run_bind, run_lift, run, arity, ne_eq, not_true_eq_false, if_false]
  exact ⟨_, t, rfl, ht⟩

/-- The search finishes every global it can reach if all of them are sound. -/
theorem resolve_searching (sound : ∀ h, m.Reaches g h → m.Sound b h) (depth : Nat)
    (ref : GlobalRef) (reach : m.Reaches g ref.name) :
    Returns (Searching b m s₀ g depth) (resolve m b depth ref) := by
  induction depth generalizing ref with
  | zero =>
      intro s hs
      obtain ⟨f, hf, -⟩ := sound ref.name reach
      obtain ⟨id, hl, hf⟩ := m.functionNamed_eq_some hf
      have active := hs.descent.mem_of_zero (m.mem_range_of_lookup hl)
      rw [resolve, run_visit hl hf, if_pos active]
      exact ⟨(), _, rfl, hs.logged _⟩
  | succ depth ih =>
      intro s hs
      obtain ⟨f, named, fits⟩ := sound ref.name reach
      obtain ⟨id, hl, hf⟩ := m.functionNamed_eq_some named
      rw [resolve, run_visit hl hf]
      by_cases active : id ∈ s.active
      · rw [if_pos active]
        exact ⟨(), _, rfl, hs.logged _⟩
      · rw [if_neg active]
        by_cases finished : (s.routine? id).isSome = true
        · rw [if_pos finished]
          exact ⟨(), s, rfl, hs⟩
        · rw [if_neg finished]
          have supplies : Supplies (Searching b m s₀ g depth) b (resolve m b depth)
              f.toExpr.parts := by
            refine ⟨fits, ?_, ?_⟩
            · intro inner part
              exact ih inner (reach.tail ⟨f, inner, named, part, rfl⟩)
            · intro x part p tys use
              exact packedCall_searching canonical distinct reach
                (fun fp hp => ⟨f, x, p, tys, named, part, use, hp⟩) (.of_use (fits x part) use) x
          obtain ⟨r, t, run, inner⟩ := lowerFunction_returns supplies _
            (hs.enter hl active (s.log ++ [.resolving ref.name]))
          rw [run_complete, run]
          exact ⟨(), _, rfl, hs.leave inner hl reach r⟩

end Lowering

namespace Workspace

open Lowering

variable {b : Backend κ}

/-- A new workspace has the table of every view of its kernels. -/
theorem start_table (V : KernelView b) (name : String) {registry : Registry κ}
    (inv : V.Inv registry) :
    Table V (start name registry).module (start name registry).session := by
  refine ⟨inv, List.nodup_nil, ?_, ?_⟩
  · intro id hid
    cases hid
  · intro p hp
    cases hp

section

variable {w : Workspace κ} {g : String} {r : Routine} {t : Session κ}

/-- Between calls the listed globals are those that are found. -/
theorem Inv.mem_globals_iff (h : w.Inv) {name : String} :
    name ∈ (w.session.globals w.module).map ResolvedGlobal.name ↔
      ∃ r, w.session.global? w.module name = some r := by
  rw [List.mem_map]
  constructor
  · rintro ⟨g, hg, rfl⟩
    exact ⟨g.routine, (h.closed.listed g.name g.routine).mpr ⟨g, hg, rfl, rfl⟩⟩
  · rintro ⟨r, hr⟩
    obtain ⟨g, hg, same, -⟩ := (h.closed.listed name r).mp hr
    exact ⟨g, hg, same⟩

/-- Between calls every global of the module may be begun. -/
theorem Inv.descent (h : w.Inv) :
    Descent w.module w.module.defs.length w.session.active := by
  rw [h.idle]
  exact .start w.module

/-- A search begins between calls. -/
theorem Inv.searching (h : w.Inv) (filled : w.session.registry.FilledBy b) (g : String) :
    Searching b w.module w.session g w.module.defs.length w.session :=
  have begun := h.descent
  ⟨filled, fun e he => Or.inl ⟨e, he, rfl, rfl⟩, begun.once, begun.handles, begun.room,
    fun _ => Or.inl⟩

omit [CompiledKernel κ] in
/-- The globals a search finishes, seen by their names. -/
theorem resolved_of_searching {depth : Nat}
    (h : Searching b w.module w.session g depth t) {k : String}
    (resolved : ∃ r, t.global? w.module k = some r) :
    (∃ r, w.session.global? w.module k = some r) ∨ w.module.Reaches g k := by
  obtain ⟨id, hl, hid⟩ := global?_isSome_iff.mp resolved
  rcases h.found id hid with before | ⟨k', reach, hl'⟩
  · exact Or.inl (global?_isSome_iff.mpr ⟨id, hl, before⟩)
  · exact Or.inr (w.module.lookup_inj hl hl' ▸ reach)

/-- What a successful resolution leaves behind. -/
theorem Inv.after_lowerGlobal (inv : w.Inv) (V : KernelView b)
    (table : Table V w.module w.session)
    (run : w.session.lowerGlobal w.module b g = (.ok r, t)) :
    Inv { w with session := t } ∧ Table V w.module t ∧ Grows w.session t ∧
      t.global? w.module g = some r := by
  have inv' : Inv { w with session := (w.session.lowerGlobal w.module b g).2 } :=
    (step_spec inv (.lowerGlobal b g)).1
  have table' := lowerGlobal_table V table g
  rw [run] at inv' table'
  rcases inv.lowerGlobal_cases b g with ⟨-, e, failed⟩ | ⟨f, -, outcome⟩
  · rw [failed] at run
    cases run
  · rcases outcome with ⟨e, t', -, failed⟩ | ⟨r', t', resolved, found, same⟩
    · rw [failed] at run
      cases run
    · rw [same] at run
      cases run
      have admits := resolve_admits V w.module w.module.defs.length
      obtain ⟨-, grows, -⟩ := admits.resolve ⟨g, f.ty⟩ w.session table
      rw [resolved] at grows
      exact ⟨inv', table', grows, found⟩

variable (canonical : b.Canonical)

/-- After a successful resolution everything in reach is resolved, and sound. -/
theorem Inv.reached_of_lowerGlobal (inv : w.Inv)
    (table : Table (packableView canonical) w.module w.session)
    (run : w.session.lowerGlobal w.module b g = (.ok r, t)) {h : String}
    (reach : w.module.Reaches g h) :
    (∃ r, t.global? w.module h = some r) ∧ w.module.Sound b h := by
  obtain ⟨inv', table', -, found⟩ := inv.after_lowerGlobal _ table run
  have resolved := resolved_of_reaches (w := { w with session := t }) inv'.idle table'
    ⟨r, found⟩ reach
  exact ⟨resolved, sound_of_resolved (w := { w with session := t }) table' resolved⟩

include canonical in
/-- The resolution succeeds if everything in reach is sound, and then it was a search. -/
theorem Inv.lowerGlobal_of_sound (inv : w.Inv) (filled : w.session.registry.FilledBy b)
    (distinct : w.session.Distinct w.module g)
    (sound : ∀ h, w.module.Reaches g h → w.module.Sound b h) :
    ∃ r t, w.session.lowerGlobal w.module b g = (.ok r, t) ∧
      Searching b w.module w.session g w.module.defs.length t := by
  obtain ⟨f, named, -⟩ := sound g .refl
  obtain ⟨u, t, run, searching⟩ := resolve_searching canonical distinct sound
    w.module.defs.length ⟨g, f.ty⟩ .refl w.session (inv.searching filled g)
  rcases inv.lowerGlobal_cases b g with ⟨undefined, -⟩ | ⟨f', named', outcome⟩
  · rw [named] at undefined
    cases undefined
  · obtain rfl : f = f' := Option.some.inj (named.symm.trans named')
    rcases outcome with ⟨e, t', failed, -⟩ | ⟨r, t', resolved, -, same⟩
    · rw [run] at failed
      cases failed
    · rw [run] at resolved
      cases resolved
      exact ⟨r, t, same, searching⟩

end

/-- Lazy resolution is an exact search. After any history with one backend, whose answers depend on
encodings only, and with no two encodings under one kernel name in reach, a global is resolved
exactly if every global it can reach is defined and holds no refused node, and then the resolved
globals are those of before and those it can reach. -/
theorem lowerGlobal_iff_reachable (canonical : b.Canonical) (name : String)
    {registry : Registry κ} (filled : registry.FilledBy b) {cmds : List (Command κ)}
    (uses : ∀ cmd ∈ cmds, cmd.Uses b) (g : String) :
    let w := (start name registry).run cmds
    w.session.Distinct w.module g →
    ((∃ r t, w.session.lowerGlobal w.module b g = (.ok r, t)) ↔
      ∀ h, w.module.Reaches g h → w.module.Sound b h) ∧
    ∀ r t, w.session.lowerGlobal w.module b g = (.ok r, t) →
      ∀ h, h ∈ (t.globals w.module).map ResolvedGlobal.name ↔
        h ∈ (w.session.globals w.module).map ResolvedGlobal.name ∨ w.module.Reaches g h := by
  intro w distinct
  have inv : w.Inv := run_inv (start_inv name registry) cmds
  have table : Table (packableView canonical) w.module w.session :=
    run_table canonical (start_inv name registry) (start_table _ name filled) uses
  refine ⟨⟨?_, ?_⟩, ?_⟩
  · rintro ⟨r, t, run⟩ h reach
    exact (inv.reached_of_lowerGlobal canonical table run reach).2
  · intro sound
    obtain ⟨r, t, run, -⟩ := inv.lowerGlobal_of_sound canonical table.registry distinct sound
    exact ⟨r, t, run⟩
  · intro r t run h
    have reached {k : String} := inv.reached_of_lowerGlobal canonical table run (h := k)
    obtain ⟨inv', -, grows, -⟩ := inv.after_lowerGlobal _ table run
    rw [inv'.mem_globals_iff, inv.mem_globals_iff]
    constructor
    · intro resolved
      obtain ⟨r', t', run', searching⟩ :=
        inv.lowerGlobal_of_sound canonical table.registry distinct fun k reach => (reached reach).2
      rw [run] at run'
      cases run'
      exact resolved_of_searching searching resolved
    · rintro (before | reach)
      · obtain ⟨id, hl, hid⟩ := global?_isSome_iff.mp before
        exact global?_isSome_iff.mpr ⟨id, hl, grows.ids_subset hid⟩
      · exact (reached reach).1

/-! ### Two globals that call each other, again -/

/-- A backend whose kernels all have one input. -/
def unary : Backend KernelOutline :=
  ⟨fun name _ => .ok (some ⟨name, 2⟩)⟩

/-- The first global reaches itself and the second one, and both are resolved with it. Without any
kernels it is not, so something in reach is refused. -/
theorem tangled_searched :
    let w := (start "tangled" Registry.empty).run tangled
    (∃ r t, w.session.lowerGlobal w.module unary "first" = (.ok r, t) ∧
      (t.globals w.module).map ResolvedGlobal.name = ["second", "first"] ∧
      (∀ h, w.module.Reaches "first" h ↔ h ∈ ["second", "first"]) ∧
      ∀ h, w.module.Reaches "first" h → w.module.Sound unary h) ∧
    ¬ ∀ h, w.module.Reaches "first" h → w.module.Sound (absent : Backend KernelOutline) h := by
  intro w
  have empty (b : Backend KernelOutline) : Registry.FilledBy b Registry.empty :=
    fun e he => absurd he List.not_mem_nil
  have uses (b : Backend KernelOutline) : ∀ cmd ∈ tangled, Command.Uses b cmd := by
    intro cmd hc
    simp only [tangled, List.mem_cons, List.not_mem_nil, or_false] at hc
    rcases hc with rfl | rfl | rfl | rfl | rfl <;> exact trivial
  have distinct : w.session.Distinct w.module "first" :=
    Session.distinct_of_named (by decide +kernel) "first"
  obtain ⟨whole, grown⟩ := lowerGlobal_iff_reachable (b := unary)
    (fun _ _ _ _ _ _ _ => rfl) "tangled" (empty unary) (uses unary) "first" distinct
  obtain ⟨without, -⟩ := lowerGlobal_iff_reachable (b := (absent : Backend KernelOutline))
    (fun _ _ _ _ _ _ _ => rfl) "tangled" (empty _) (uses _) "first" distinct
  constructor
  · have succeeds : ∃ r t, w.session.lowerGlobal w.module unary "first" = (.ok r, t) ∧
        (t.globals w.module).map ResolvedGlobal.name = ["second", "first"] := by
      have names : (w.session.lowerGlobal w.module unary "first").1.toOption.isSome = true ∧
          ((w.session.lowerGlobal w.module unary "first").2.globals w.module).map
            ResolvedGlobal.name = ["second", "first"] := by
        decide +kernel
      obtain ⟨found, names⟩ := names
      obtain ⟨r, hr⟩ := Option.isSome_iff_exists.mp found
      exact ⟨r, _, Prod.ext (ok_of_toOption hr) rfl, names⟩
    obtain ⟨r, t, run, names⟩ := succeeds
    have before : w.session.globals w.module = [] := rfl
    refine ⟨r, t, run, names, ?_, whole.mp ⟨r, t, run⟩⟩
    intro h
    have resolved := grown r t run h
    rw [names, before, List.map_nil] at resolved
    simpa using resolved.symm
  · intro sound
    obtain ⟨r, t, run⟩ := without.mpr sound
    have fails : (w.session.lowerGlobal w.module absent "first").1.toOption.isSome = false := by
      decide +kernel
    rw [run] at fails
    cases fails

end Workspace
end TensorCompiler
