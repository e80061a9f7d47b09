import Mathlib.Data.List.Nodup
import TensorCompiler.Proofs.Lowering.Resolution

/-!
# The global table between calls

A workspace is a module and a session that lowers its globals. Its commands add to the module,
lower expressions, functions and globals with any backend, and let others change the shared
registry. Commands may fail, and a failed one is followed by the next one.

Main statement: after every sequence of commands no global is under way, the list of globals holds
exactly the finished ones and each of them once, and every global that occurs in a finished
function or in a node handed out is finished.
-/

namespace TensorCompiler

open Lowered

/-! ### References in a node -/

namespace Lowered.Node

mutual

/-- The globals a node refers to, in the order of the text. -/
def globalRefs : Node → List GlobalRef
  | .hole | .var _ | .const _ => []
  | .global g => [g]
  | .packed _ _ _ args _ => globalRefsAll args
  | .invoke callee args _ => globalRefs callee ++ globalRefsAll args
  | .decl bindings body => globalRefsBindings bindings ++ globalRefs body
  | .cond test yes no _ => globalRefs test ++ globalRefs yes ++ globalRefs no
  | .tuple fields _ => globalRefsAll fields
  | .proj n _ _ => globalRefs n
  | .cases data clauses _ => globalRefs data ++ globalRefsClauses clauses
  | .fn _ body _ => globalRefs body
  | .construct _ _ args => globalRefsAll args

/-- The globals several nodes refer to. -/
def globalRefsAll : List Node → List GlobalRef
  | [] => []
  | n :: ns => globalRefs n ++ globalRefsAll ns

/-- The globals the values of bindings refer to. -/
def globalRefsBindings : List (Var × Node) → List GlobalRef
  | [] => []
  | (_, n) :: rest => globalRefs n ++ globalRefsBindings rest

/-- The globals the bodies of clauses refer to. -/
def globalRefsClauses : List (Pattern × Node) → List GlobalRef
  | [] => []
  | (_, n) :: rest => globalRefs n ++ globalRefsClauses rest

end

/-- A binding in front of a node adds the references of its value. -/
theorem globalRefs_bindBefore (v : Var) (x n : Node) :
    globalRefs (bindBefore v x n) = globalRefs x ++ globalRefs n := by
  cases n <;> simp [bindBefore, globalRefs, globalRefsBindings]

/-- Variables refer to no global. -/
theorem globalRefsAll_vars (vs : List Var) : globalRefsAll (vs.map Node.var) = [] := by
  induction vs with
  | nil => rfl
  | cons v vs ih => simp [globalRefsAll, globalRefs, ih]

end Lowered.Node

namespace Lowering

variable {prim : PrimJudgement} {known : GlobalRef → Prop}

mutual

/-- A translation refers only to globals that were accepted. -/
theorem Translates.known_of_mem {e : Expr} {n : Node} :
    Translates prim known e n → ∀ g ∈ n.globalRefs, known g
  | .var _ => by simp [Node.globalRefs]
  | .const _ => by simp [Node.globalRefs]
  | .global ok => by
      intro g hg
      obtain rfl := List.mem_singleton.mp hg
      exact ok
  | .primCall _ fields => by
      simp only [PackedForm.node, Node.globalRefs]
      exact TranslatesAll.known_of_mem fields
  | .ctorCall _ fields => by
      simp only [Node.globalRefs]
      exact TranslatesAll.known_of_mem fields
  | .call _ head fields => by
      simp only [Node.globalRefs, List.mem_append]
      exact fun g hg => hg.elim (Translates.known_of_mem head g)
        (TranslatesAll.known_of_mem fields g)
  | .bind head tail => by
      simp only [Node.globalRefs_bindBefore, List.mem_append]
      exact fun g hg => hg.elim (Translates.known_of_mem head g) (Translates.known_of_mem tail g)
  | .cond head left right => by
      simp only [Node.globalRefs, List.mem_append]
      exact fun g hg => hg.elim
        (fun hg => hg.elim (Translates.known_of_mem head g) (Translates.known_of_mem left g))
        (Translates.known_of_mem right g)
  | .tuple all => by
      simp only [Node.globalRefs]
      exact TranslatesAll.known_of_mem all
  | .proj head => by
      simp only [Node.globalRefs]
      exact Translates.known_of_mem head
  | .cases head all => by
      simp only [Node.globalRefs, List.mem_append]
      exact fun g hg => hg.elim (Translates.known_of_mem head g)
        (TranslatesClauses.known_of_mem all g)
  | .primFn _ => by simp [PackedForm.node, Node.globalRefs, Node.globalRefsAll_vars]
  | .fn head => by
      simp only [Node.globalRefs]
      exact Translates.known_of_mem head

/-- Translations of several expressions refer only to globals that were accepted. -/
theorem TranslatesAll.known_of_mem {es : List Expr} {ns : List Node} :
    TranslatesAll prim known es ns → ∀ g ∈ Node.globalRefsAll ns, known g
  | .nil => by simp [Node.globalRefsAll]
  | .cons head tail => by
      simp only [Node.globalRefsAll, List.mem_append]
      exact fun g hg => hg.elim (Translates.known_of_mem head g)
        (TranslatesAll.known_of_mem tail g)

/-- Translations of clauses refer only to globals that were accepted. -/
theorem TranslatesClauses.known_of_mem {es : List (Pattern × Expr)}
    {ns : List (Pattern × Node)} :
    TranslatesClauses prim known es ns → ∀ g ∈ Node.globalRefsClauses ns, known g
  | .nil => by simp [Node.globalRefsClauses]
  | .cons head tail => by
      simp only [Node.globalRefsClauses, List.mem_append]
      exact fun g hg => hg.elim (Translates.known_of_mem head g)
        (TranslatesClauses.known_of_mem tail g)

end

/-- The translation of a function refers only to globals that were accepted. -/
theorem TranslatesFunction.known_of_mem {f : Function} {r : Routine}
    (h : TranslatesFunction prim known f r) : ∀ g ∈ r.body.globalRefs, known g := by
  cases h with
  | prim _ => simp [PackedForm.node, Node.globalRefs, Node.globalRefsAll_vars]
  | plain head => exact head.known_of_mem

end Lowering

/-! ### Modules grow -/

namespace Module

/-- The names of the globals in the order of their handles. -/
def globalNames (m : Module) : List String :=
  m.defs.map Definition.name

/-- A later state of a module: handles and functions stay, no name is taken twice. -/
structure Extends (m n : Module) : Prop where
  names : m.globalNames <+: n.globalNames
  nodup : n.globalNames.Nodup
  function : ∀ {id f}, m.function? id = some f → n.function? id = some f

/-- The handle of a name is its place among the names. -/
theorem lookup_eq_findIdx? (m : Module) (name : String) :
    m.lookup name = (m.globalNames.findIdx? (· == name)).map (· + 1) := by
  rw [lookup, globalNames, List.findIdx?_map]
  rfl

/-- A name is declared exactly if it is found. -/
theorem find_eq_none_iff {m : Module} {name : String} :
    m.find name = none ↔ name ∉ m.globalNames := by
  simp [find, globalNames]

/-- The name of a handle. -/
theorem name_of_lookup {m : Module} {name : String} {id : Nat} (h : m.lookup name = some id) :
    (m.definition id).map Definition.name = some name := by
  obtain ⟨i, hi, rfl⟩ := Option.map_eq_some_iff.mp h
  obtain ⟨hlt, hname, -⟩ := List.findIdx?_eq_some_iff_getElem.mp hi
  simpa [definition, hlt] using hname

/-- If no name is taken twice, then a handle belongs to the name of its definition. -/
theorem lookup_of_name {m : Module} (h : m.globalNames.Nodup) {name : String} {id : Nat}
    (hid : (m.definition id).map Definition.name = some name) : m.lookup name = some id := by
  obtain ⟨d, hd, rfl⟩ := Option.map_eq_some_iff.mp hid
  cases id with
  | zero => cases hd
  | succ i =>
      obtain ⟨hlt, rfl⟩ := List.getElem?_eq_some_iff.mp hd
      refine Option.map_eq_some_iff.mpr ⟨i, ?_, rfl⟩
      rw [List.findIdx?_eq_some_iff_getElem]
      refine ⟨hlt, beq_self_eq_true _, ?_⟩
      intro j hj same
      have hi : i < m.globalNames.length := by simpa [globalNames] using hlt
      refine List.pairwise_iff_getElem.mp h j i (Nat.lt_trans hj hi) hi hj ?_
      simpa [globalNames] using same

/-- A global that is declared keeps its handle. -/
theorem Extends.lookup {m n : Module} (h : m.Extends n) {name : String} {id : Nat}
    (hl : m.lookup name = some id) : n.lookup name = some id := by
  obtain ⟨more, hmore⟩ := h.names
  rw [lookup_eq_findIdx?] at hl ⊢
  obtain ⟨i, hi, rfl⟩ := Option.map_eq_some_iff.mp hl
  rw [← hmore, List.findIdx?_append, hi]
  rfl

theorem Extends.refl {m : Module} (h : m.globalNames.Nodup) : m.Extends m :=
  ⟨List.prefix_refl _, h, id⟩

/-- A declaration takes a new handle. -/
theorem extends_declare {m n : Module} {name : String} {ty : Ty} {g : GlobalRef}
    (h : m.globalNames.Nodup) (hd : m.declare name ty = .ok (g, n)) : m.Extends n := by
  unfold declare at hd
  by_cases found : (m.find name).isSome = true
  · simp [found] at hd
  · simp only [found, Bool.false_eq_true, if_false, Except.ok.injEq, Prod.mk.injEq] at hd
    obtain ⟨-, rfl⟩ := hd
    have new : name ∉ m.globalNames := find_eq_none_iff.mp (by simpa using found)
    refine ⟨?_, ?_, ?_⟩
    · simp [globalNames]
    · have hn : (m.globalNames ++ [name]).Nodup :=
        List.nodup_append.mpr ⟨h, List.pairwise_singleton _ name, by
          rintro a ha c hc rfl
          exact new (List.mem_singleton.mp hc ▸ ha)⟩
      simpa [globalNames] using hn
    · intro id f hf
      cases id with
      | zero => cases hf
      | succ i =>
          obtain ⟨d, hd, hdf⟩ := Option.bind_eq_some_iff.mp hf
          refine Option.bind_eq_some_iff.mpr ⟨d, ?_, hdf⟩
          have hlt : i < m.defs.length := (List.getElem?_eq_some_iff.mp hd).1
          exact (List.getElem?_append_left hlt).trans hd

/-- Filling a place changes no name. -/
theorem fill_names (name : String) (f : Function) (ds : List Definition) :
    (fill name f ds).map Definition.name = ds.map Definition.name := by
  induction ds with
  | nil => rfl
  | cons d ds ih =>
      by_cases hd : d.name = name <;> simp [fill, hd, ih]

/-- Filling an empty place leaves every function that is there. -/
theorem fill_function {name : String} {f g : Function} {ds : List Definition} {d : Definition}
    (hfind : ds.find? (·.name == name) = some d) (hnone : d.function = none) {i : Nat}
    (hg : ds[i]?.bind Definition.function = some g) :
    (fill name f ds)[i]?.bind Definition.function = some g := by
  induction ds generalizing i with
  | nil => cases hfind
  | cons e ds ih =>
      by_cases he : e.name = name
      · simp only [List.find?_cons, he, beq_self_eq_true, Option.some.injEq] at hfind
        subst hfind
        cases i with
        | zero => simp [hnone] at hg
        | succ i => simpa [fill, he] using hg
      · have hrest : ds.find? (·.name == name) = some d := by
          simpa [List.find?_cons, he] using hfind
        cases i with
        | zero => simpa [fill, he] using hg
        | succ i => simpa [fill, he] using ih hrest (by simpa using hg)

/-- A definition fills an empty place. -/
theorem extends_define {m n : Module} {g : GlobalRef} {f : Function}
    (h : m.globalNames.Nodup) (hd : m.define g f = .ok n) : m.Extends n := by
  unfold define at hd
  rcases hfind : m.find g.name with _ | ⟨name, _ | old⟩
  · simp [hfind] at hd
  · simp only [hfind] at hd
    by_cases ty : g.ty = f.ty
    · simp only [ty, if_true, Except.ok.injEq] at hd
      subst hd
      refine ⟨?_, ?_, ?_⟩
      · simp [globalNames, fill_names]
      · simpa [globalNames, fill_names] using h
      · intro id k hk
        cases id with
        | zero => cases hk
        | succ i => exact fill_function hfind rfl hk
    · simp [ty] at hd
  · simp [hfind] at hd

/-- Adding a global is a declaration and a definition. -/
theorem extends_add {m n : Module} {name : String} {f : Function} {g : GlobalRef}
    (h : m.globalNames.Nodup) (ha : m.add name f = .ok (g, n)) : m.Extends n := by
  unfold add at ha
  cases hd : m.declare name f.ty with
  | error e => simp [hd, bind, Except.bind] at ha
  | ok p =>
      obtain ⟨g', m'⟩ := p
      cases hf : m'.define g' f with
      | error e => simp [hd, hf, bind, Except.bind] at ha
      | ok m'' =>
          simp only [hd, hf, bind, Except.bind, pure, Except.pure, Except.ok.injEq,
            Prod.mk.injEq] at ha
          obtain ⟨-, rfl⟩ := ha
          have first := extends_declare h hd
          have second := extends_define first.nodup hf
          exact ⟨first.names.trans second.names, second.nodup,
            fun hk => second.function (first.function hk)⟩

end Module

/-! ### Commands -/

variable {κ : Type} [CompiledKernel κ]

namespace Lowering

/-- The view of a proof that does not care for kernels. -/
def plainView (b : Backend κ) : KernelView b where
  Inv _ := True
  prim _ _ _ _ := True
  mono _ _ _ _ := id
  insert _ _ _ _ := trivial
  packs _ := trivial

/-- The backend that never has a kernel. -/
def absent : Backend κ :=
  ⟨fun _ _ => .ok none⟩

/-- Without a view of kernels the backend does not matter, and the registry may change. -/
theorem Table.change {b c : Backend κ} {m : Module} {s t : Session κ}
    (h : Table (plainView b) m s) (active : t.active = s.active)
    (resolved : t.resolved = s.resolved) : Table (plainView c) m t := by
  have ids : t.ids = s.ids := by rw [Session.ids, resolved, Session.ids]
  refine ⟨trivial, ids ▸ h.nodup, ?_, ?_⟩
  · rw [active, ids]
    exact h.apart
  · intro p hp
    obtain ⟨f, hf, tr⟩ := h.finished p (resolved ▸ hp)
    refine ⟨f, hf, tr.mono (fun _ _ _ => id) ?_⟩
    exact fun g hg => hg.imp (fun _ => active ▸ id) fun _ => ids ▸ id

/-- The table of a module is a table of every later state of the module. -/
theorem Table.extends {b : Backend κ} {V : KernelView b} {m n : Module} {s : Session κ}
    (h : Table V m s) (ext : m.Extends n) : Table V n s := by
  refine ⟨h.registry, h.nodup, h.apart, ?_⟩
  intro p hp
  obtain ⟨f, hf, tr⟩ := h.finished p hp
  refine ⟨f, ext.function hf, tr.mono (fun _ _ _ => id) ?_⟩
  rintro g ⟨id, hl, hid⟩
  exact ⟨id, ext.lookup hl, hid⟩

end Lowering

/-- A module and a session that lowers its globals. -/
structure WorkspaceOf (σ : Type) where
  module : Module
  session : σ

/-- A workspace whose session lists the globals completed. -/
abbrev Workspace (κ : Type) := WorkspaceOf (Session κ)

/-- What can be done to a workspace whose session shares a registry `ρ`. Every lowering brings its
backend. -/
inductive CommandOf (κ ρ : Type) where
  | add (name : String) (f : Function)
  | declare (name : String) (ty : Ty)
  | define (g : GlobalRef) (f : Function)
  | lower (b : Backend κ) (e : Expr)
  | lowerFunction (b : Backend κ) (f : Function)
  | lowerGlobal (b : Backend κ) (name : String)
  | share (registry : ρ)

/-- What can be done to a workspace whose session lists the globals completed. -/
abbrev Command (κ : Type) := CommandOf κ (Registry κ)

/-- One command. The first component is the node a successful lowering hands out. -/
def WorkspaceOf.step {σ ρ : Type} [SessionState σ κ ρ] (w : WorkspaceOf σ) :
    CommandOf κ ρ → Option Node × WorkspaceOf σ
  | .add name f =>
    match w.module.add name f with
    | .ok (_, m) => (none, { w with module := m })
    | .error _ => (none, w)
  | .declare name ty =>
    match w.module.declare name ty with
    | .ok (_, m) => (none, { w with module := m })
    | .error _ => (none, w)
  | .define g f =>
    match w.module.define g f with
    | .ok m => (none, { w with module := m })
    | .error _ => (none, w)
  | .lower b e =>
    let (r, s) := SessionState.lower w.session w.module b e
    (r.toOption, { w with session := s })
  | .lowerFunction b f =>
    let (r, s) := SessionState.lowerFunction w.session w.module b f
    (r.toOption.map Routine.toNode, { w with session := s })
  | .lowerGlobal b name =>
    let (r, s) := SessionState.lowerGlobal w.session w.module b name
    (r.toOption.map Routine.toNode, { w with session := s })
  | .share registry => (none, { w with session := SessionState.share registry w.session })

namespace Workspace

/-- A new session of a module without globals. -/
def start (name : String) (registry : Registry κ) : Workspace κ :=
  ⟨.empty name, .start registry⟩

/-- One command. -/
def step (w : Workspace κ) (cmd : Command κ) : Option Node × Workspace κ :=
  WorkspaceOf.step w cmd

/-- The workspace after several commands. -/
def run (w : Workspace κ) (cmds : List (Command κ)) : Workspace κ :=
  cmds.foldl (fun w cmd => (w.step cmd).2) w

/-- A reference to a finished global of the workspace. -/
def Resolves (w : Workspace κ) (g : GlobalRef) : Prop :=
  ∃ r, w.session.global? w.module g.name = some r

/-- A workspace whose global table is closed. -/
structure Closed (w : Workspace κ) : Prop where
  idle : w.session.active = []
  once : ((w.session.globals w.module).map ResolvedGlobal.name).Nodup
  listed : ∀ name r, w.session.global? w.module name = some r ↔
    ∃ g ∈ w.session.globals w.module, g.name = name ∧ g.routine = r
  resolves : ∀ g ∈ w.session.globals w.module, ∀ ref ∈ g.routine.body.globalRefs, w.Resolves ref

/-- What the commands keep. -/
structure Inv (w : Workspace κ) : Prop where
  names : w.module.globalNames.Nodup
  idle : w.session.active = []
  table : Lowering.Table (Lowering.plainView Lowering.absent) w.module w.session

omit [CompiledKernel κ] in
/-- With no global under way, a known reference is resolved. -/
theorem resolves_of_known {w : Workspace κ} (idle : w.session.active = []) {g : GlobalRef}
    (h : Lowering.Known w.module w.session g) : w.Resolves g := by
  obtain ⟨id, hl, hid⟩ := h
  rcases hid with ha | hi
  · rw [idle] at ha
    cases ha
  · obtain ⟨r, hr⟩ := Option.isSome_iff_exists.mp (w.session.mem_ids_iff.mp hi)
    exact ⟨r, by rw [Session.global?, hl]; exact hr⟩

namespace Inv

/-- A finished global is found by its handle alone, since no handle is finished twice. -/
theorem routine?_iff {w : Workspace κ} (h : w.Inv) {id : Nat} {r : Routine} :
    w.session.routine? id = some r ↔ (id, r) ∈ w.session.resolved := by
  rw [Session.routine?, Option.map_eq_some_iff]
  constructor
  · rintro ⟨⟨j, q⟩, hfind, rfl⟩
    obtain rfl : j = id := by simpa using List.find?_some hfind
    exact List.mem_of_find?_eq_some hfind
  · intro hmem
    have hsome : id ∈ w.session.ids := List.mem_map_of_mem hmem
    obtain ⟨q, hq⟩ := Option.isSome_iff_exists.mp (w.session.mem_ids_iff.mp hsome)
    obtain ⟨p, hfind, rfl⟩ := Option.map_eq_some_iff.mp hq
    have hid : p.1 = id := by simpa using List.find?_some hfind
    have same : p = (id, r) := List.inj_on_of_nodup_map h.table.nodup
      (List.mem_of_find?_eq_some hfind) hmem hid
    exact ⟨p, hfind, same ▸ rfl⟩

/-- The name under which a finished global is listed leads back to its handle. -/
theorem lookup_listed {w : Workspace κ} (h : w.Inv) {p : Nat × Routine}
    (hp : p ∈ w.session.resolved) :
    w.module.lookup (((w.module.definition p.1).map Definition.name).getD "") = some p.1 := by
  obtain ⟨f, hf, -⟩ := h.table.finished p hp
  obtain ⟨d, hd, -⟩ := Option.bind_eq_some_iff.mp hf
  refine Module.lookup_of_name h.names ?_
  rw [hd]
  rfl

/-- The invariant says what a closed table is. -/
theorem closed {w : Workspace κ} (h : w.Inv) : w.Closed := by
  refine ⟨h.idle, ?_, ?_, ?_⟩
  · rw [Session.globals, List.map_map]
    refine List.Nodup.map_on ?_ (List.Nodup.of_map Prod.fst h.table.nodup)
    intro p hp q hq same
    have hid : p.1 = q.1 := Option.some.inj <| by
      rw [← h.lookup_listed hp, ← h.lookup_listed hq]
      exact congrArg _ same
    exact List.inj_on_of_nodup_map h.table.nodup hp hq hid
  · intro name r
    constructor
    · intro hr
      obtain ⟨id, hl, hid⟩ := Option.bind_eq_some_iff.mp hr
      refine ⟨_, List.mem_map_of_mem (h.routine?_iff.mp hid), ?_, rfl⟩
      rw [Module.name_of_lookup hl]
      rfl
    · rintro ⟨g, hg, rfl, rfl⟩
      obtain ⟨p, hp, rfl⟩ := List.mem_map.mp hg
      exact Option.bind_eq_some_iff.mpr
        ⟨p.1, h.lookup_listed hp, h.routine?_iff.mpr hp⟩
  · intro g hg ref href
    obtain ⟨p, hp, rfl⟩ := List.mem_map.mp hg
    obtain ⟨f, -, tr⟩ := h.table.finished p hp
    exact resolves_of_known h.idle (tr.known_of_mem ref href)

/-- A change of the module that extends it keeps the invariant. -/
theorem of_extends {w : Workspace κ} (h : w.Inv) {m : Module} (ext : w.module.Extends m) :
    Inv { w with module := m } :=
  ⟨ext.nodup, h.idle, h.table.extends ext⟩

/-- A lowering keeps the invariant if it keeps the table, whether it fails or not. -/
theorem of_keeps {w : Workspace κ} (h : w.Inv) {b : Backend κ} {α : Type} {x : LowerM κ α}
    {Q : α → Session κ → Prop}
    (hx : (Lowering.tableDiscipline (Lowering.plainView b) w.module).Keeps x Q) :
    Inv { w with session := (x.run w.session).2 } ∧
      ∀ a, (x.run w.session).1 = .ok a → Q a (x.run w.session).2 := by
  obtain ⟨table, grows, hq⟩ := hx w.session (h.table.change rfl rfl)
  exact ⟨⟨h.names, grows.active.trans h.idle, table.change rfl rfl⟩, hq⟩

end Inv

/-- What a command answers refers to finished globals only. -/
def Answers (w : Workspace κ) (answer : Option Node) : Prop :=
  ∀ n, answer = some n → ∀ ref ∈ n.globalRefs, w.Resolves ref

/-- One command keeps the invariant, and a node it hands out refers to finished globals only. -/
theorem step_spec {w : Workspace κ} (h : w.Inv) (cmd : Command κ) :
    (w.step cmd).2.Inv ∧ (w.step cmd).2.Answers (w.step cmd).1 := by
  have silent (w : Workspace κ) : w.Answers none := by
    intro n hn
    cases hn
  cases cmd with
  | add name f =>
      simp only [step, WorkspaceOf.step]
      cases ha : w.module.add name f with
      | error e => exact ⟨h, silent _⟩
      | ok p => exact ⟨h.of_extends (Module.extends_add h.names ha), silent _⟩
  | declare name ty =>
      simp only [step, WorkspaceOf.step]
      cases hd : w.module.declare name ty with
      | error e => exact ⟨h, silent _⟩
      | ok p => exact ⟨h.of_extends (Module.extends_declare h.names hd), silent _⟩
  | define g f =>
      simp only [step, WorkspaceOf.step]
      cases hd : w.module.define g f with
      | error e => exact ⟨h, silent _⟩
      | ok m => exact ⟨h.of_extends (Module.extends_define h.names hd), silent _⟩
  | share registry =>
      exact ⟨⟨h.names, h.idle, h.table.change rfl rfl⟩, silent _⟩
  | lower b e =>
      obtain ⟨inv, lowered⟩ := h.of_keeps
        (Lowering.Discipline.lower_keeps
          (Lowering.resolve_admits (Lowering.plainView b) w.module _) e)
      refine ⟨inv, ?_⟩
      intro n hn ref href
      have tr := lowered n (ok_of_toOption hn)
      exact resolves_of_known inv.idle (tr.known_of_mem ref href)
  | lowerFunction b f =>
      obtain ⟨inv, lowered⟩ := h.of_keeps
        (Lowering.lowerFunction_keeps (Lowering.plainView b) w.module
          (Lowering.resolve_admits (Lowering.plainView b) w.module _) f)
      refine ⟨inv, ?_⟩
      intro n hn ref href
      obtain ⟨r, hr, rfl⟩ := Option.map_eq_some_iff.mp hn
      have tr := lowered r (ok_of_toOption hr)
      exact resolves_of_known inv.idle (tr.known_of_mem ref href)
  | lowerGlobal b name =>
      simp only [step, WorkspaceOf.step, SessionState.lowerGlobal, SessionState.lowerGlobalBy,
        Lowering.global?_session]
      cases hg : w.module.global name with
      | none => exact ⟨h, silent _⟩
      | some g =>
          have admits := Lowering.resolve_admits (Lowering.plainView b) w.module
            w.module.defs.length
          obtain ⟨inv, -⟩ := h.of_keeps (admits.resolve g)
          dsimp only
          rcases hrun : (Lowering.resolve w.module b w.module.defs.length g).run w.session with
            ⟨e | u, s⟩
          · rw [hrun] at inv
            exact ⟨inv, silent _⟩
          · rw [hrun] at inv
            cases hr : s.global? w.module name with
            | none =>
                simp only [hr]
                exact ⟨inv, silent _⟩
            | some r =>
                simp only [hr]
                refine ⟨inv, ?_⟩
                rintro n ⟨⟩ ref href
                obtain ⟨g, hmem, -, rfl⟩ := (inv.closed.listed name r).mp hr
                exact inv.closed.resolves g hmem ref href

/-- Commands keep the invariant. -/
theorem run_inv {w : Workspace κ} (h : w.Inv) (cmds : List (Command κ)) : (w.run cmds).Inv := by
  induction cmds generalizing w with
  | nil => exact h
  | cons cmd cmds ih => exact ih (step_spec h cmd).1

/-- A new workspace has the invariant. -/
theorem start_inv (name : String) (registry : Registry κ) : (start name registry).Inv := by
  refine ⟨List.nodup_nil, rfl, trivial, List.nodup_nil, ?_, ?_⟩
  · intro id hid
    cases hid
  · intro p hp
    cases hp

/-- The global table is closed between calls: whatever was done to a workspace, after one more
command no global is under way, the list of globals holds each finished one once, and what finished
functions and the node handed out refer to is finished. -/
theorem closed_after_each_command (name : String) (registry : Registry κ)
    (cmds : List (Command κ)) (cmd : Command κ) :
    (((start name registry).run cmds).step cmd).2.Closed ∧
      (((start name registry).run cmds).step cmd).2.Answers
        (((start name registry).run cmds).step cmd).1 := by
  obtain ⟨inv, answers⟩ := step_spec (run_inv (start_inv name registry) cmds) cmd
  exact ⟨inv.closed, answers⟩

end Workspace
end TensorCompiler
