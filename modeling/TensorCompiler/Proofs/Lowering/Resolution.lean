import TensorCompiler.Proofs.Lowering.Discipline
import TensorCompiler.Proofs.Outcome

/-!
# Resolution of globals

While a global is lowered, finished functions may refer to unfinished ones. The invariant `Table`
relates the three parts of a session that make this work: a reference in a finished function names
a global that is finished or under way, the two kinds are disjoint, and no global is finished
twice. A failed resolution goes back to the globals that were finished when it began, and none of
these refers to it, since it was neither finished nor under way at that time.

Main statement: the resolution of a global keeps the table, and so does every lowering in it.

## Implementation notes

`KernelView` fixes how much a proof wants to know about the kernels of packed calls. The resolution
of globals never looks at them, so it is proved once for all views.
-/

namespace TensorCompiler

open Lowered

/-- The handles of the finished globals. -/
def Session.ids {κ : Type} (s : Session κ) : List Nat :=
  s.resolved.map Prod.fst

/-- A handle has a lowered function exactly if it is finished. -/
theorem Session.mem_ids_iff {κ : Type} (s : Session κ) {id : Nat} :
    id ∈ s.ids ↔ (s.routine? id).isSome = true := by
  simp [Session.ids, Session.routine?]

/-- A registry keeps its entries and may have more of them. -/
def Registry.Extends {κ : Type} (r t : Registry κ) : Prop :=
  r.entries <+: t.entries

/-- An entry that is found is found in every larger registry. -/
theorem Registry.Extends.find? {κ : Type} {r t : Registry κ} (h : r.Extends t) {name : String}
    {e : RegistryEntry κ} (he : r.find? name = some e) : t.find? name = some e := by
  obtain ⟨more, hmore⟩ := h
  rw [Registry.find?, ← hmore, List.find?_append]
  simp only [Registry.find?] at he
  rw [he]
  rfl

/-- A request is answered from an entry with its encoding, or by a kernel that is compiled for it
and entered under a free name, or it fails and leaves the registry alone. -/
theorem Registry.load_forms {κ : Type} (r : Registry κ) (f : Fingerprint)
    (compile : String → Except String (Option κ)) :
    (∃ k, r.find? f.kernelName = some ⟨f.kernelName, f.encoding, k⟩ ∧
      r.load f compile = (.ok k, r)) ∨
    (∃ k, r.find? f.kernelName = none ∧ compile f.kernelName = .ok (some k) ∧
      r.load f compile = (.ok k, r.insert f.kernelName f.encoding k)) ∨
    ∃ e, r.load f compile = (.error e, r) ∧
      (r.find? f.kernelName = none → ∀ k, compile f.kernelName ≠ .ok (some k)) := by
  unfold load
  cases found : r.find? f.kernelName with
  | some e =>
      have name : e.name = f.kernelName := by simpa using List.find?_some found
      by_cases same : e.encoding = f.encoding
      · left
        exact ⟨e.kernel, by rw [← name, ← same], if_pos same⟩
      · right; right
        exact ⟨_, if_neg same, nofun⟩
  | none =>
      rcases answer : compile f.kernelName with reason | _ | k
      · right; right
        exact ⟨_, rfl, fun _ _ => nofun⟩
      · right; right
        exact ⟨_, rfl, fun _ _ => nofun⟩
      · right; left
        exact ⟨k, rfl, rfl, rfl⟩

namespace Lowering

variable {κ : Type}

/-- A reference to a global that is finished or under way. -/
def Known (m : Module) (s : Session κ) (g : GlobalRef) : Prop :=
  ∃ id, m.lookup g.name = some id ∧ (id ∈ s.active ∨ id ∈ s.ids)

theorem Known.imp {m : Module} {s t : Session κ} {g : GlobalRef} (h : Known m s g)
    (ha : ∀ id, id ∈ s.active → id ∈ t.active) (hi : ∀ id, id ∈ s.ids → id ∈ t.ids) :
    Known m t g := by
  obtain ⟨id, hl, hid⟩ := h
  exact ⟨id, hl, hid.imp (ha id) (hi id)⟩

/-- Growth within one call: the globals under way are the same, nothing finished is lost. -/
structure Grows (s t : Session κ) : Prop where
  active : t.active = s.active
  resolved : s.resolved <+: t.resolved
  registry : s.registry.Extends t.registry

namespace Grows

theorem refl (s : Session κ) : Grows s s :=
  ⟨rfl, List.prefix_refl _, List.prefix_refl _⟩

theorem trans {s t u : Session κ} (h : Grows s t) (h' : Grows t u) : Grows s u :=
  ⟨h'.active.trans h.active, h.resolved.trans h'.resolved,
    List.IsPrefix.trans h.registry h'.registry⟩

theorem ids_subset {s t : Session κ} (h : Grows s t) {id : Nat} (hid : id ∈ s.ids) :
    id ∈ t.ids :=
  List.map_subset _ h.resolved.subset hid

theorem known {m : Module} {s t : Session κ} (h : Grows s t) (g : GlobalRef) :
    Known m s g → Known m t g :=
  fun hg => hg.imp (fun _ => h.active ▸ id) fun _ => h.ids_subset

end Grows

/-! ### Steps that touch the kernels and the log -/

/-- Reports change nothing but the log. -/
@[simp]
theorem run_report (e : LowerEvent) (s : Session κ) :
    (report e : LowerM κ Unit).run s = (.ok (), { s with log := s.log ++ [e] }) := rfl

/-- A compilation is announced if it takes place. -/
theorem run_announce (fp : Fingerprint) (conv : Convention) (arity : Nat) (s : Session κ) :
    (announce fp conv arity : LowerM κ Unit).run s =
      (.ok (), if s.registry.compiles fp then
        { s with log := s.log ++ [.compiling fp.kernelName conv arity] } else s) := by
  unfold announce
  simp only [run_bind, run_get]
  change (if s.registry.compiles fp then _ else _ : LowerM κ Unit).run s = _
  split <;> rfl

/-- A kernel is loaded into the registry of the session. -/
theorem run_loadKernel (fp : Fingerprint) (compile : String → Except String (Option κ))
    (s : Session κ) :
    (loadKernel fp compile : LowerM κ κ).run s =
      ((s.registry.load fp compile).1.mapError .registry,
        { s with registry := (s.registry.load fp compile).2 }) := by
  unfold loadKernel
  simp only [run_bind, run_get, run_set, SessionState.load]
  cases (s.registry.load fp compile).1 <;> rfl

theorem global?_session (s : Session κ) (m : Module) (name : String) :
    SessionState.global? s m name = s.global? m name := rfl

/-- A new entry under a free name is found and extends the registry. -/
theorem insert_find? (r : Registry κ) {name : String} (free : r.find? name = none)
    (encoding : String) (k : κ) :
    (r.insert name encoding k).find? name = some ⟨name, encoding, k⟩ ∧
      r.Extends (r.insert name encoding k) := by
  constructor
  · simp only [Registry.find?] at free
    simp [Registry.insert, Registry.find?, List.find?_append, free]
  · exact List.prefix_append _ _

/-- A kernel is loaded into the registry of the session; the globals do not change, and what is
reported is no resolution. If the name has a kernel then nothing is reported. -/
theorem run_kernelFor (b : Backend κ) {f : Function} {fp : Fingerprint}
    (hf : f.fingerprint = .ok fp) (conv : Convention) (arity : Nat) (s : Session κ) :
    ∃ reports : List LowerEvent, (∀ g, .resolving g ∉ reports) ∧
      (s.registry.compiles fp = false → reports = []) ∧
      (kernelFor b f conv arity).run s =
        ((s.registry.load fp fun name => b.compile name f).1.mapError .registry,
          { s with
            registry := (s.registry.load fp fun name => b.compile name f).2
            log := s.log ++ reports }) := by
  unfold kernelFor
  rw [hf]
  simp only [run_bind, run_announce, run_loadKernel]
  by_cases hc : s.registry.compiles fp = true
  · exact ⟨[.compiling fp.kernelName conv arity], by simp, by simp [hc], by rw [if_pos hc]⟩
  · exact ⟨[], by simp, fun _ => rfl, by rw [if_neg hc]; simp⟩

/-- What a session does to complete a global: the global is begun, and then it is finished, or it is
abandoned on a failure. -/
theorem run_complete_state {σ ρ : Type} [SessionState σ κ ρ] (id : Nat) (name : String)
    (act : LowerIn σ Routine) (s : σ) :
    (complete id name act).run s =
      match act.run (SessionState.report (.resolving name) (SessionState.begin id s)) with
      | (.ok r, t) => (.ok (), SessionState.finish s id r t)
      | (.error e, t) => (.error e, SessionState.abandon s id t) := by
  unfold complete report
  simp only [run_bind, run_get, run_modify, run_tryCatch]
  rcases act.run (SessionState.report (.resolving name) (SessionState.begin id s)) with
    ⟨_ | _, _⟩ <;> rfl

/-- A global under way is finished on success; on failure what was finished since it began is
forgotten. -/
theorem run_complete (id : Nat) (name : String) (act : LowerM κ Routine) (s : Session κ) :
    (complete id name act).run s =
      match act.run { s with active := id :: s.active, log := s.log ++ [.resolving name] } with
      | (.ok r, t) => (.ok (), { t with
          active := s.active, resolved := t.resolved ++ [(id, r)] })
      | (.error e, t) => (.error e, { t with
          active := s.active, resolved := t.resolved.take s.resolved.length }) := by
  rw [run_complete_state]
  simp only [SessionState.report, SessionState.begin]
  rcases act.run { s with active := id :: s.active, log := s.log ++ [.resolving name] } with
    ⟨_ | _, _⟩ <;> rfl

variable [CompiledKernel κ]

/-- The registry holds a kernel for the encoding of a primitive function, of the arity that the
calling convention asks for. -/
def Packs (r : Registry κ) (f : Function) (tys : List Ty) (form : PackedForm) : Prop :=
  ∃ site fp entry, f.fingerprint = .ok fp ∧ r.find? fp.kernelName = some entry ∧
    entry.encoding = fp.encoding ∧ CompiledKernel.name entry.kernel = form.kernel ∧
    CompiledKernel.arity entry.kernel = (form.inputs + 1 : Nat) ∧
    convention site f.params.length tys = .ok (form.conv, form.inputs)

theorem Packs.mono {r t : Registry κ} (h : r.Extends t) {f : Function} {tys : List Ty}
    {form : PackedForm} : Packs r f tys form → Packs t f tys form := by
  rintro ⟨site, fp, entry, hf, he, rest⟩
  exact ⟨site, fp, entry, hf, h.find? he, rest⟩

/-- What a proof wants to know about the kernels of a session with a backend. -/
structure KernelView (b : Backend κ) where
  Inv : Registry κ → Prop
  prim : Registry κ → PrimJudgement
  mono : ∀ {r t : Registry κ}, r.Extends t → ∀ f tys form, prim r f tys form → prim t f tys form
  insert : ∀ {r : Registry κ} {f fp k}, Inv r → f.fingerprint = .ok fp →
    r.find? fp.kernelName = none → b.compile fp.kernelName f = .ok (some k) →
    Inv (r.insert fp.kernelName fp.encoding k)
  packs : ∀ {r : Registry κ} {f tys form}, Packs r f tys form → prim r f tys form

variable {b : Backend κ}

/-- A finished global holds the translation of its definition. -/
def Finished (V : KernelView b) (m : Module) (s : Session κ) (p : Nat × Routine) : Prop :=
  ∃ f, m.function? p.1 = some f ∧
    TranslatesFunction (V.prim s.registry) (Known m s) f p.2

/-- The invariant of a session while globals are resolved. -/
structure Table (V : KernelView b) (m : Module) (s : Session κ) : Prop where
  registry : V.Inv s.registry
  nodup : s.ids.Nodup
  apart : ∀ id ∈ s.active, id ∉ s.ids
  finished : ∀ p ∈ s.resolved, Finished V m s p

theorem Finished.imp {V : KernelView b} {m : Module} {s t : Session κ}
    (hr : s.registry.Extends t.registry) (hk : ∀ g, Known m s g → Known m t g)
    {p : Nat × Routine} : Finished V m s p → Finished V m t p := by
  rintro ⟨f, hf, h⟩
  exact ⟨f, hf, h.mono (V.mono hr) hk⟩

theorem Finished.mono {V : KernelView b} {m : Module} {s t : Session κ} (h : Grows s t)
    {p : Nat × Routine} : Finished V m s p → Finished V m t p :=
  Finished.imp h.registry h.known

/-- The discipline of lowering in a module. -/
def tableDiscipline (V : KernelView b) (m : Module) : Discipline κ where
  Inv := Table V m
  Grows := Grows
  prim s := V.prim s.registry
  known := Known m
  refl := Grows.refl
  trans := Grows.trans
  prim_mono h := V.mono h.registry
  known_mono h := h.known

/-- A change that leaves the globals as they are and extends the registry by entries that the view
accepts keeps the table. -/
theorem Table.of_registry {V : KernelView b} {m : Module} {s t : Session κ} (h : Table V m s)
    (active : t.active = s.active) (resolved : t.resolved = s.resolved)
    (extend : s.registry.Extends t.registry) (inv : V.Inv t.registry) :
    Table V m t ∧ Grows s t := by
  have grows : Grows s t := ⟨active, resolved ▸ List.prefix_refl _, extend⟩
  have ids : t.ids = s.ids := by rw [Session.ids, resolved, Session.ids]
  refine ⟨⟨inv, ids ▸ h.nodup, ?_, ?_⟩, grows⟩
  · rw [active, ids]
    exact h.apart
  · rw [resolved]
    exact fun p hp => (h.finished p hp).mono grows

/-- Loading a kernel keeps the table, and a kernel it returns is in the registry. -/
theorem kernelFor_keeps (V : KernelView b) (m : Module) (f : Function) (conv : Convention)
    (arity : Nat) : (tableDiscipline V m).Keeps (kernelFor b f conv arity) fun k s =>
      ∃ fp e, f.fingerprint = .ok fp ∧ s.registry.find? fp.kernelName = some e ∧
        e.encoding = fp.encoding ∧ e.kernel = k := by
  cases hf : f.fingerprint with
  | error e =>
      unfold kernelFor
      rw [hf]
      exact Discipline.Keeps.throw _
  | ok fp =>
      intro s hs
      obtain ⟨reports, -, -, hrun⟩ := run_kernelFor b hf conv arity s
      rw [hrun]
      rcases s.registry.load_forms fp fun name => b.compile name f with
        ⟨k, found, hload⟩ | ⟨k, free, hc, hload⟩ | ⟨e, hload, -⟩
      · rw [hload]
        obtain ⟨table, grows⟩ := Table.of_registry (V := V)
          (t := { s with log := s.log ++ reports }) hs rfl rfl (List.prefix_refl _) hs.registry
        refine ⟨table, grows, ?_⟩
        rintro _ ⟨⟩
        exact ⟨fp, _, rfl, found, rfl, rfl⟩
      · obtain ⟨found, extend⟩ := insert_find? s.registry free fp.encoding k
        rw [hload]
        obtain ⟨table, grows⟩ := Table.of_registry (V := V) (t := { s with
            registry := s.registry.insert fp.kernelName fp.encoding k, log := s.log ++ reports })
          hs rfl rfl extend (V.insert hs.registry hf free hc)
        refine ⟨table, grows, ?_⟩
        rintro _ ⟨⟩
        exact ⟨fp, _, rfl, found, rfl, rfl⟩
      · rw [hload]
        obtain ⟨table, grows⟩ := Table.of_registry (V := V)
          (t := { s with log := s.log ++ reports }) hs rfl rfl (List.prefix_refl _) hs.registry
        exact ⟨table, grows, nofun⟩

/-- Packing a primitive function keeps the table, and the form it returns packs the function. -/
theorem packedCall_keeps (V : KernelView b) (m : Module) (site : Expr) (f : Function)
    (tys : List Ty) : (tableDiscipline V m).Keeps (packedCall b site f tys) fun pack s =>
      ∃ form, V.prim s.registry f tys form ∧ pack = fun nodes => form.node nodes f.ret := by
  unfold packedCall
  cases hc : convention site f.params.length tys with
  | error e => exact Discipline.Keeps.throw e
  | ok p =>
      obtain ⟨conv, inputs⟩ := p
      have arity (k : κ) : (tableDiscipline V m).Keeps (do
          if CompiledKernel.arity k ≠ (inputs + 1 : Nat) then
            throw (.shape site (.kernelArity (CompiledKernel.name k) (CompiledKernel.arity k)
              (inputs + 1)))
          return fun nodes => Node.packed (CompiledKernel.name k) (inputs + 1 : Nat) conv nodes
            f.ret) fun pack _ => CompiledKernel.arity k = (inputs + 1 : Nat) ∧
          pack = fun nodes =>
            PackedForm.node ⟨CompiledKernel.name k, inputs, conv⟩ nodes f.ret := by
        by_cases ha : CompiledKernel.arity k = (inputs + 1 : Nat)
        · simp only [ha, ne_eq, not_true_eq_false, if_false]
          exact (Discipline.Keeps.pure _).mono fun pack s h => ⟨trivial, h⟩
        · simp only [ha, ne_eq, not_false_eq_true, if_true]
          exact Discipline.Keeps.throw _
      refine ((kernelFor_keeps V m f conv (inputs + 1)).bind ?_ arity).mono ?_
      · rintro k s t hg ⟨fp, e, hf, he, rest⟩
        exact ⟨fp, e, hf, hg.registry.find? he, rest⟩
      · rintro pack s ⟨k, ⟨fp, e, hf, he, henc, rfl⟩, ha, rfl⟩
        exact ⟨_, V.packs ⟨site, fp, e, hf, he, henc, rfl, ha, hc⟩, rfl⟩

/-! ### Resolution -/

/-- Lowering a function keeps the table if resolving globals does. -/
theorem lowerFunction_keeps (V : KernelView b) (m : Module)
    {resolve : GlobalRef → LowerM κ Unit} (h : (tableDiscipline V m).Admits b resolve)
    (f : Function) : (tableDiscipline V m).Keeps (lowerFunction b resolve f) fun r s =>
      TranslatesFunction (V.prim s.registry) (Known m s) f r := by
  obtain ⟨params, body, ret, primitive⟩ := f
  unfold lowerFunction
  cases primitive with
  | true =>
      refine ((h.pack _ ⟨params, body, ret, true⟩ _).bind ?_ fun pack =>
        Discipline.Keeps.pure _).mono ?_
      · rintro pack s t hg ⟨form, ok, rfl⟩
        exact ⟨form, V.mono hg.registry _ _ _ ok, rfl⟩
      · rintro r s ⟨pack, ⟨form, ok, rfl⟩, rfl⟩
        exact .prim ok
  | false =>
      refine ((Discipline.lower_keeps h body).bind
        (fun _ _ _ hg he => (tableDiscipline V m).lowers_mono hg he) fun n =>
          Discipline.Keeps.pure _).mono ?_
      rintro r s ⟨n, hn, rfl⟩
      exact .plain hn

/-- A global that is not finished is begun. -/
theorem Table.enter {V : KernelView b} {m : Module} {s : Session κ} (h : Table V m s) {id : Nat}
    (new : id ∉ s.ids) (log : List LowerEvent) :
    Table V m { s with active := id :: s.active, log := log } := by
  refine ⟨h.registry, h.nodup, ?_, ?_⟩
  · intro j hj
    rcases List.mem_cons.mp hj with rfl | hj
    · exact new
    · exact h.apart j hj
  · intro p hp
    refine Finished.imp ?_ ?_ (h.finished p hp)
    · exact List.prefix_refl _
    · exact fun g hg => hg.imp (fun _ => List.mem_cons_of_mem id) fun _ hj => hj

/-- Resolving a global that is neither finished nor under way keeps the table, whether it succeeds
or fails at any depth. -/
theorem complete_table (V : KernelView b) {m : Module} {resolve : GlobalRef → LowerM κ Unit}
    (h : (tableDiscipline V m).Admits b resolve) {id : Nat} {f : Function}
    (hf : m.function? id = some f) (name : String) {s : Session κ} (hs : Table V m s)
    (fresh : id ∉ s.active) (new : id ∉ s.ids) :
    Table V m ((complete id name (lowerFunction b resolve f)).run s).2 ∧
      Grows s ((complete id name (lowerFunction b resolve f)).run s).2 ∧
      (((complete id name (lowerFunction b resolve f)).run s).1 = .ok () →
        id ∈ ((complete id name (lowerFunction b resolve f)).run s).2.ids) := by
  obtain ⟨table, grows, hr⟩ :=
    lowerFunction_keeps V m h f _ (hs.enter new (s.log ++ [.resolving name]))
  rw [run_complete]
  rcases hrun : (lowerFunction b resolve f).run
      { s with active := id :: s.active, log := s.log ++ [.resolving name] } with ⟨e | r, t⟩
  · rw [hrun] at table grows
    have back : t.resolved.take s.resolved.length = s.resolved :=
      (List.prefix_iff_eq_take.mp grows.resolved).symm
    simp only [back]
    obtain ⟨table', grows'⟩ := hs.of_registry (t := { t with
      active := s.active, resolved := s.resolved }) rfl rfl grows.registry table.registry
    refine ⟨table', grows', ?_⟩
    intro hok
    cases hok
  · rw [hrun] at table grows hr
    have active : t.active = id :: s.active := grows.active
    have notYet : id ∉ t.ids := table.apart id (active ▸ List.mem_cons_self)
    have known : ∀ g, Known m t g → Known m { t with
        active := s.active, resolved := t.resolved ++ [(id, r)] } g := by
      rintro g ⟨j, hl, hj⟩
      refine ⟨j, hl, ?_⟩
      simp only [Session.ids, List.map_append, List.mem_append, List.map_cons, List.map_nil,
        List.mem_singleton]
      rcases hj with ha | hi
      · rw [active] at ha
        rcases List.mem_cons.mp ha with rfl | ha
        · exact Or.inr (Or.inr rfl)
        · exact Or.inl ha
      · exact Or.inr (Or.inl hi)
    refine ⟨⟨table.registry, ?_, ?_, ?_⟩, ⟨rfl, ?_, grows.registry⟩, ?_⟩
    · have hn : (t.ids ++ [id]).Nodup :=
        List.nodup_append.mpr ⟨table.nodup, List.pairwise_singleton _ id, by
          rintro a ha c hc rfl
          exact notYet (List.mem_singleton.mp hc ▸ ha)⟩
      simpa [Session.ids] using hn
    · intro j hj
      simp only [Session.ids, List.map_append, List.mem_append, List.map_cons, List.map_nil,
        List.mem_singleton, not_or]
      refine ⟨table.apart j (active ▸ List.mem_cons_of_mem id hj), ?_⟩
      rintro rfl
      exact fresh hj
    · intro p hp
      rcases List.mem_append.mp hp with hp | hp
      · refine Finished.imp ?_ known (table.finished p hp)
        exact List.prefix_refl _
      · obtain rfl := List.mem_singleton.mp hp
        exact ⟨f, hf, (hr r rfl).mono (fun _ _ _ h => h) known⟩
    · exact grows.resolved.trans (List.prefix_append _ _)
    · intro _
      simp [Session.ids]

omit [CompiledKernel κ] in
/-- A visit of a defined global returns at once if the global is under way or finished. -/
theorem run_visit {m : Module} {g : GlobalRef} {id : Nat} {f : Function}
    (hl : m.lookup g.name = some id) (hf : m.function? id = some f)
    (enter : Nat → Function → LowerM κ Unit) (s : Session κ) :
    (visit m enter g).run s =
      if id ∈ s.active then (.ok (), { s with log := s.log ++ [.recursive g.name] })
      else if (s.routine? id).isSome then (.ok (), s)
      else (enter id f).run s := by
  unfold visit
  simp only [hl, hf, run_bind, run_get]
  by_cases active : SessionState.Resolving s id
  · rw [if_pos active, if_pos (show id ∈ s.active from active)]
    rfl
  · rw [if_neg active, if_neg (show id ∉ s.active from active)]
    by_cases finished : (SessionState.routine? s id).isSome = true
    · rw [if_pos finished, if_pos (show (s.routine? id).isSome = true from finished)]
      rfl
    · rw [if_neg finished, if_neg (show ¬ (s.routine? id).isSome = true from finished)]

omit [CompiledKernel κ] in
/-- What a visit of a global comes to: a failure at once, a reference to a global that is under way
or finished, or the entry of one that is neither. -/
theorem visit_cases (m : Module) (g : GlobalRef) (s : Session κ) :
    (∃ e, ∀ enter : Nat → Function → LowerM κ Unit, (visit m enter g).run s = (.error e, s)) ∨
    (∃ id, m.lookup g.name = some id ∧ id ∈ s.active ∧
      ∀ enter : Nat → Function → LowerM κ Unit,
        (visit m enter g).run s = (.ok (), { s with log := s.log ++ [.recursive g.name] })) ∨
    (∃ id, m.lookup g.name = some id ∧ id ∈ s.ids ∧
      ∀ enter : Nat → Function → LowerM κ Unit, (visit m enter g).run s = (.ok (), s)) ∨
    ∃ id f, m.lookup g.name = some id ∧ m.function? id = some f ∧ id ∉ s.active ∧ id ∉ s.ids ∧
      ∀ enter : Nat → Function → LowerM κ Unit, (visit m enter g).run s = (enter id f).run s := by
  cases hl : m.lookup g.name with
  | none => exact Or.inl ⟨_, fun _ => by unfold visit; rw [hl]; rfl⟩
  | some id =>
      cases hf : m.function? id with
      | none => exact Or.inl ⟨_, fun _ => by unfold visit; simp only [hl, hf]; rfl⟩
      | some f =>
          by_cases active : id ∈ s.active
          · exact Or.inr (Or.inl ⟨id, rfl, active, fun enter => by
              rw [run_visit hl hf, if_pos active]⟩)
          · by_cases finished : (s.routine? id).isSome = true
            · exact Or.inr (Or.inr (Or.inl ⟨id, rfl, s.mem_ids_iff.mpr finished, fun enter => by
                rw [run_visit hl hf, if_neg active, if_pos finished]⟩))
            · have new : id ∉ s.ids := fun hi => finished (s.mem_ids_iff.mp hi)
              exact Or.inr (Or.inr (Or.inr ⟨id, f, rfl, hf, active, new, fun enter => by
                rw [run_visit hl hf, if_neg active, if_neg finished]⟩))

/-- What a resolution comes to: a failure at once, a reference to a global that is under way or
finished, or the completion of one that is neither. -/
theorem resolve_cases (m : Module) (b : Backend κ) (depth : Nat) (g : GlobalRef) (s : Session κ) :
    (∃ e, (resolve m b depth g).run s = (.error e, s)) ∨
    (∃ id, m.lookup g.name = some id ∧ id ∈ s.active ∧
      (resolve m b depth g).run s = (.ok (), { s with log := s.log ++ [.recursive g.name] })) ∨
    (∃ id, m.lookup g.name = some id ∧ id ∈ s.ids ∧
      (resolve m b depth g).run s = (.ok (), s)) ∨
    ∃ d id f, depth = d + 1 ∧ m.lookup g.name = some id ∧ m.function? id = some f ∧
      id ∉ s.active ∧ id ∉ s.ids ∧
      (resolve m b depth g).run s =
        (complete id g.name (lowerFunction b (resolve m b d) f)).run s := by
  rcases visit_cases m g s with ⟨e, run⟩ | ⟨id, hl, active, run⟩ | ⟨id, hl, finished, run⟩ |
    ⟨id, f, hl, hf, fresh, new, run⟩
  · exact Or.inl ⟨e, by cases depth <;> exact run _⟩
  · exact Or.inr (Or.inl ⟨id, hl, active, by cases depth <;> exact run _⟩)
  · exact Or.inr (Or.inr (Or.inl ⟨id, hl, finished, by cases depth <;> exact run _⟩))
  · cases depth with
    | zero => exact Or.inl ⟨_, run _⟩
    | succ d => exact Or.inr (Or.inr (Or.inr ⟨d, id, f, rfl, hl, hf, fresh, new, run _⟩))

/-- One resolution keeps the table if the resolutions inside it do. -/
theorem resolve_keeps (V : KernelView b) (m : Module) {depth : Nat}
    (inner : ∀ d, depth = d + 1 → (tableDiscipline V m).Admits b (resolve m b d))
    (g : GlobalRef) : (tableDiscipline V m).Keeps (resolve m b depth g) fun _ s => Known m s g := by
  intro s hs
  rcases resolve_cases m b depth g s with ⟨e, run⟩ | ⟨id, hl, active, run⟩ |
    ⟨id, hl, finished, run⟩ | ⟨d, id, f, hd, hl, hf, fresh, new, run⟩
  · rw [run]
    exact ⟨hs, Grows.refl s, nofun⟩
  · rw [run]
    obtain ⟨table, grows⟩ := hs.of_registry (t := { s with
      log := s.log ++ [.recursive g.name] }) rfl rfl (List.prefix_refl _) hs.registry
    exact ⟨table, grows, fun _ _ => ⟨id, hl, Or.inl active⟩⟩
  · rw [run]
    exact ⟨hs, Grows.refl s, fun _ _ => ⟨id, hl, Or.inr finished⟩⟩
  · rw [run]
    obtain ⟨table, grows, done⟩ := complete_table V (inner d hd) hf g.name hs fresh new
    exact ⟨table, grows, fun _ hok => ⟨id, hl, Or.inr (done hok)⟩⟩

/-- The resolution of globals of any depth keeps the table. -/
theorem resolve_admits (V : KernelView b) (m : Module) (depth : Nat) :
    (tableDiscipline V m).Admits b (resolve m b depth) := by
  induction depth with
  | zero => exact ⟨resolve_keeps V m (fun depth hd => by cases hd), packedCall_keeps V m⟩
  | succ depth ih =>
      refine ⟨resolve_keeps V m ?_, packedCall_keeps V m⟩
      intro d hd
      exact Nat.succ.inj hd ▸ ih

end Lowering
end TensorCompiler
