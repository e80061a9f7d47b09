import Mathlib.Data.Finset.Card
import TensorCompiler.Proofs.Kernel.History
import TensorCompiler.Proofs.Lowering.Reachability

/-!
# What lowering compiles

Lowering asks the registry for the kernel of each primitive function it visits, in the expression
and in every global whose resolution it begins. The registry compiles the kernels that it does not
have. A failure takes back the globals, but no kernel.

Main statement: lowering adds to the registry just the kernels of what it visits, each compiled
once, and after a success nothing is left to compile for the expression, neither in the session nor
in another one with the same registry.

## Implementation notes

That nothing else is added follows along the run, by a conduct that keeps account of what was added
and why. That nothing is missing is read off the state at the end: by the table of finished globals
each of them has its kernels in the registry, also the globals of earlier calls, as long as those
who share the registry take no kernel out of it.
-/

namespace TensorCompiler

open Lowered

/-! ### The kernels in use -/

/-- The names of the kernels that the nodes of an expression use. -/
def Expr.kernelNames (e : Expr) : List String :=
  e.parts.filterMap fun x => x.primitiveUse?.bind fun use =>
    use.1.fingerprint.toOption.map Fingerprint.kernelName

/-- The names of the kernels that the definition of a global uses. -/
def Module.kernelNames (m : Module) (g : String) : List String :=
  ((m.functionNamed g).map fun f => f.toExpr.kernelNames).getD []

/-- A kernel is in use exactly if it is that of a primitive function at some node. -/
theorem Expr.mem_kernelNames {e : Expr} {name : String} :
    name ∈ e.kernelNames ↔ ∃ x ∈ e.parts, ∃ f tys fp, x.primitiveUse? = some (f, tys) ∧
      f.fingerprint = .ok fp ∧ fp.kernelName = name := by
  rw [kernelNames, List.mem_filterMap]
  refine exists_congr fun x => and_congr_right fun _ => ?_
  constructor
  · intro h
    obtain ⟨⟨f, tys⟩, use, h⟩ := Option.bind_eq_some_iff.mp h
    obtain ⟨fp, hf, rfl⟩ := Option.map_eq_some_iff.mp h
    exact ⟨f, tys, fp, use, ok_of_toOption hf, rfl⟩
  · rintro ⟨f, tys, fp, use, hf, rfl⟩
    simp [use, hf, Except.toOption]

/-- The kernels that a global uses are those of its function. -/
theorem Module.kernelNames_eq {m : Module} {g : String} {f : Function}
    (named : m.functionNamed g = some f) : m.kernelNames g = f.toExpr.kernelNames := by
  rw [kernelNames, named]
  rfl

namespace Registry

variable {κ : Type}

/-- The names are those of the entries. -/
theorem mem_names_iff_entries (r : Registry κ) {name : String} :
    name ∈ r.names ↔ name ∈ r.entries.map RegistryEntry.name :=
  List.mem_mergeSort

/-- No entry is found under a name that is not listed. -/
theorem find?_eq_none_iff (r : Registry κ) {name : String} :
    r.find? name = none ↔ name ∉ r.names := by
  rw [r.mem_names, lookup, Option.isSome_map, Option.not_isSome_iff_eq_none]

/-- The backend that has the kernels of a registry and no others. -/
def backend (r : Registry κ) : Backend κ :=
  ⟨fun name _ => .ok (r.lookup name)⟩

end Registry

variable {κ : Type} [CompiledKernel κ]

namespace Lowering

variable {m : Module} {uses : List String}

/-! ### What packing adds -/

omit [CompiledKernel κ] in
/-- A second step that changes nothing. -/
theorem run_bind_snd {α β : Type} {x : LowerM κ α} {f : α → LowerM κ β}
    (idle : ∀ a t, ((f a).run t).2 = t) (s : Session κ) : ((x >>= f).run s).2 = (x.run s).2 := by
  rw [run_bind]
  rcases x.run s with ⟨e | a, t⟩
  · rfl
  · exact idle a t

/-- Packing changes a session as asking for the kernel does, unless there is no calling
convention. -/
theorem packedCall_snd (b : Backend κ) {site : Expr} {f : Function} {tys : List Ty}
    {conv : Convention} {inputs : Nat}
    (hc : convention site f.params.length tys = .ok (conv, inputs)) (s : Session κ) :
    ((packedCall b site f tys).run s).2 = ((kernelFor b f conv (inputs + 1)).run s).2 := by
  rw [packedCall, run_bind, hc, run_lift]
  refine run_bind_snd (fun k t => ?_) s
  dsimp only
  split <;> rfl

/-- Packing a primitive function adds no kernel, or one under a name that had none. What it reports
is no resolution, and if the name has a kernel then it reports nothing. -/
theorem packedCall_cases (b : Backend κ) (site : Expr) (f : Function) (tys : List Ty)
    (s : Session κ) :
    ∃ reports : List LowerEvent, (∀ g, .resolving g ∉ reports) ∧
      ((((packedCall b site f tys).run s).2 = { s with log := s.log ++ reports } ∧
          ∀ fp, f.fingerprint = .ok fp → s.registry.compiles fp = false → reports = []) ∨
        ∃ fp k, f.fingerprint = .ok fp ∧ s.registry.find? fp.kernelName = none ∧
          ((packedCall b site f tys).run s).2 = { s with
            registry := s.registry.insert fp.kernelName fp.encoding k
            log := s.log ++ reports }) := by
  cases hc : convention site f.params.length tys with
  | error e =>
      refine ⟨[], by simp, Or.inl ⟨?_, fun _ _ _ => rfl⟩⟩
      rw [packedCall, run_bind, hc, run_lift, List.append_nil]
  | ok p =>
      obtain ⟨conv, inputs⟩ := p
      rw [packedCall_snd b hc]
      cases hf : f.fingerprint with
      | error e =>
          refine ⟨[], by simp, Or.inl ⟨?_, fun _ _ _ => rfl⟩⟩
          rw [kernelFor, hf, List.append_nil]
          rfl
      | ok fp =>
          obtain ⟨reports, quiet, served, run⟩ := run_kernelFor b hf conv (inputs + 1) s
          rw [run]
          refine ⟨reports, quiet, ?_⟩
          have silent : ∀ fp', (.ok fp : Except EncodeError Fingerprint) = .ok fp' →
              s.registry.compiles fp' = false → reports = [] := by
            rintro _ ⟨⟩
            exact served
          rcases s.registry.load_forms fp fun name => b.compile name f with
            ⟨k, -, hload⟩ | ⟨k, free, -, hload⟩ | ⟨e, hload, -⟩
          · rw [hload]
            exact Or.inl ⟨rfl, silent⟩
          · rw [hload]
            exact Or.inr ⟨fp, k, rfl, free, rfl⟩
          · rw [hload]
            exact Or.inl ⟨rfl, silent⟩

/-! ### What a run adds -/

/-- What a run added to a session: reports, and kernels. Each kernel was compiled under a name that
had none, for a use that is expected or for a global whose resolution was reported. -/
structure Added (m : Module) (uses : List String) (s t : Session κ) (log : List LowerEvent)
    (kernels : List (RegistryEntry κ)) : Prop where
  reported : t.log = s.log ++ log
  entries : t.registry.entries = s.registry.entries ++ kernels
  count : t.registry.compilations = s.registry.compilations + kernels.length
  fresh : ∀ e ∈ kernels, e.name ∉ s.registry.names
  once : (kernels.map RegistryEntry.name).Nodup
  met : ∀ e ∈ kernels, e.name ∈ uses ∨ ∃ g, .resolving g ∈ log ∧ e.name ∈ m.kernelNames g

/-- A global that was resolved between two sessions. -/
def Newly (m : Module) (s t : Session κ) (g : String) : Prop :=
  s.global? m g = none ∧ ∃ r, t.global? m g = some r

omit [CompiledKernel κ] in
/-- A global was resolved if its handle was finished. -/
theorem newly_iff {s t : Session κ} {g : String} :
    Newly m s t g ↔ ∃ id, m.lookup g = some id ∧ id ∉ s.ids ∧ id ∈ t.ids := by
  rw [Newly, Workspace.global?_isSome_iff, Option.eq_none_iff_forall_ne_some]
  constructor
  · rintro ⟨new, id, hl, now⟩
    refine ⟨id, hl, fun before => ?_, now⟩
    obtain ⟨r, found⟩ := Workspace.global?_isSome_iff.mpr ⟨id, hl, before⟩
    exact new r found
  · rintro ⟨id, hl, new, now⟩
    refine ⟨fun r found => ?_, id, hl, now⟩
    obtain ⟨id', hl', before⟩ := Workspace.global?_isSome_iff.mp ⟨r, found⟩
    exact new (Option.some.inj (hl.symm.trans hl') ▸ before)

namespace Added

variable {s t u : Session κ} {log more : List LowerEvent} {kernels others : List (RegistryEntry κ)}

omit [CompiledKernel κ] in
/-- Nothing. -/
theorem refl (s : Session κ) : Added m uses s s [] [] :=
  ⟨(List.append_nil _).symm, (List.append_nil _).symm, rfl, nofun, List.nodup_nil, nofun⟩

omit [CompiledKernel κ] in
/-- Reports alone. -/
theorem reports (s : Session κ) (log : List LowerEvent) :
    Added m uses s { s with log := s.log ++ log } log [] :=
  ⟨rfl, (List.append_nil _).symm, rfl, nofun, List.nodup_nil, nofun⟩

omit [CompiledKernel κ] in
/-- One kernel. -/
theorem insert (s : Session κ) (log : List LowerEvent) {name : String} (encoding : String) (k : κ)
    (free : s.registry.find? name = none) (used : name ∈ uses) :
    Added m uses s
      { s with registry := s.registry.insert name encoding k, log := s.log ++ log } log
      [⟨name, encoding, k⟩] := by
  refine ⟨rfl, rfl, rfl, ?_, List.nodup_singleton _, ?_⟩
  · intro e he
    obtain rfl := List.mem_singleton.mp he
    exact s.registry.find?_eq_none_iff.mp free
  · intro e he
    obtain rfl := List.mem_singleton.mp he
    exact Or.inl used

omit [CompiledKernel κ] in
/-- The names afterwards. -/
theorem mem_names_iff (h : Added m uses s t log kernels) {name : String} :
    name ∈ t.registry.names ↔
      name ∈ s.registry.names ∨ name ∈ kernels.map RegistryEntry.name := by
  rw [t.registry.mem_names_iff_entries, h.entries, List.map_append, List.mem_append,
    s.registry.mem_names_iff_entries]

omit [CompiledKernel κ] in
/-- One run after another. -/
theorem trans (h : Added m uses s t log kernels) (h' : Added m uses t u more others) :
    Added m uses s u (log ++ more) (kernels ++ others) := by
  have apart (e) (he : e ∈ others) : e.name ∉ s.registry.names ∧
      e.name ∉ kernels.map RegistryEntry.name := by
    have fresh := h'.fresh e he
    rwa [h.mem_names_iff, not_or] at fresh
  refine ⟨?_, ?_, ?_, ?_, ?_, ?_⟩
  · rw [h'.reported, h.reported, List.append_assoc]
  · rw [h'.entries, h.entries, List.append_assoc]
  · rw [h'.count, h.count, List.length_append, Nat.add_assoc]
  · intro e he
    rcases List.mem_append.mp he with he | he
    · exact h.fresh e he
    · exact (apart e he).1
  · rw [List.map_append]
    refine List.nodup_append'.mpr ⟨h.once, h'.once, ?_⟩
    intro name first second
    obtain ⟨e, he, rfl⟩ := List.mem_map.mp second
    exact (apart e he).2 first
  · intro e he
    rcases List.mem_append.mp he with he | he
    · exact (h.met e he).imp_right fun ⟨g, hg, used⟩ => ⟨g, List.mem_append_left _ hg, used⟩
    · exact (h'.met e he).imp_right fun ⟨g, hg, used⟩ => ⟨g, List.mem_append_right _ hg, used⟩

omit [CompiledKernel κ] in
/-- What the definition of a global uses is compiled for this global. -/
theorem enter {id : Nat} {g : String}
    (h : Added m (m.kernelNames g)
      { s with active := id :: s.active, log := s.log ++ [.resolving g] } t log kernels)
    (active : List Nat) (resolved : List (Nat × Routine)) :
    Added m uses s { t with active := active, resolved := resolved } (.resolving g :: log)
      kernels := by
  refine ⟨?_, h.entries, h.count, h.fresh, h.once, ?_⟩
  · rw [h.reported, List.append_assoc]
    rfl
  · intro e he
    right
    rcases h.met e he with used | ⟨g', hg, used⟩
    · exact ⟨g, List.mem_cons_self, used⟩
    · exact ⟨g', List.mem_cons_of_mem _ hg, used⟩

omit [CompiledKernel κ] in
/-- There are as many compilations as new names. -/
theorem card_new (h : Added m uses s t log kernels) :
    (t.registry.names.toFinset \ s.registry.names.toFinset).card = kernels.length := by
  have new : t.registry.names.toFinset \ s.registry.names.toFinset =
      (kernels.map RegistryEntry.name).toFinset := by
    ext name
    rw [Finset.mem_sdiff, List.mem_toFinset, List.mem_toFinset, List.mem_toFinset, h.mem_names_iff]
    constructor
    · rintro ⟨before | added, apart⟩
      · exact absurd before apart
      · exact added
    · intro added
      obtain ⟨e, he, rfl⟩ := List.mem_map.mp added
      exact ⟨Or.inr added, h.fresh e he⟩
  rw [new, List.toFinset_card_of_nodup h.once, List.length_map]

end Added

/-- The conduct of compiling what is met: kernels are added as they should, and a run that returns
has finished every global whose resolution it reported. -/
def compiling (m : Module) (uses : List String) : Conduct κ where
  done s t := s.ids ⊆ t.ids ∧
    ∃ log kernels, Added m uses s t log kernels ∧ ∀ g, .resolving g ∈ log → Newly m s t g
  failed s t := ∃ log kernels, Added m uses s t log kernels
  refl s := ⟨List.Subset.refl _, [], [], .refl s, nofun⟩
  trans := by
    rintro s t u ⟨sub, log, kernels, added, newly⟩ ⟨sub', log', kernels', added', newly'⟩
    refine ⟨List.Subset.trans sub sub', _, _, added.trans added', ?_⟩
    intro g hg
    rcases List.mem_append.mp hg with hg | hg
    · obtain ⟨id, hl, new, now⟩ := newly_iff.mp (newly g hg)
      exact newly_iff.mpr ⟨id, hl, new, sub' now⟩
    · obtain ⟨id, hl, new, now⟩ := newly_iff.mp (newly' g hg)
      exact newly_iff.mpr ⟨id, hl, fun before => new (sub before), now⟩
  after := by
    rintro s t u ⟨-, log, kernels, added, -⟩ ⟨log', kernels', added'⟩
    exact ⟨_, _, added.trans added'⟩

omit [CompiledKernel κ] in
/-- A run that added what it should, with no resolution, may have returned or failed. -/
theorem outcome_compiling {α : Type} {s : Session κ} {out : Except LowerError α × Session κ}
    (ids : out.2.ids = s.ids) {log : List LowerEvent} {kernels : List (RegistryEntry κ)}
    (added : Added m uses s out.2 log kernels) (quiet : ∀ g, .resolving g ∉ log) :
    (compiling m uses).Outcome s out := by
  obtain ⟨e | a, t⟩ := out
  · exact ⟨log, kernels, added⟩
  · exact ⟨fun id before => ids ▸ before, log, kernels, added, fun g hg => absurd hg (quiet g)⟩

/-- Packing compiles the kernel of the primitive function, if it is expected. -/
theorem packedCall_compiles (b : Backend κ) (site : Expr) {f : Function} (tys : List Ty)
    (used : ∀ fp, f.fingerprint = .ok fp → fp.kernelName ∈ uses) :
    (compiling m uses).Follows (packedCall b site f tys) := by
  intro s
  obtain ⟨reports, quiet, ⟨same, -⟩ | ⟨fp, k, hf, free, same⟩⟩ := packedCall_cases b site f tys s
  · have added : Added m uses s ((packedCall b site f tys).run s).2 reports [] := by
      rw [same]
      exact .reports s reports
    exact outcome_compiling (by rw [same]; rfl) added quiet
  · have added : Added m uses s ((packedCall b site f tys).run s).2 reports
        [⟨fp.kernelName, fp.encoding, k⟩] := by
      rw [same]
      exact .insert s reports fp.encoding k free (used fp hf)
    exact outcome_compiling (by rw [same]; rfl) added quiet

/-- Nodes whose kernels are expected compile what is met, if the globals do. -/
theorem guides_compiling (b : Backend κ) {resolve : GlobalRef → LowerM κ Unit} {e : Expr}
    (inner : ∀ g, (compiling m e.kernelNames).Follows (resolve g)) :
    (compiling m e.kernelNames).Guides b resolve e.parts where
  refuse _ _ _ s := ⟨[], [], .refl s⟩
  resolve g _ := inner g
  pack x hx f tys use := packedCall_compiles b x tys fun fp hf =>
    Expr.mem_kernelNames.mpr ⟨x, hx, f, tys, fp, use, hf, rfl⟩

/-- Resolving a global compiles what its definition uses, and what the resolutions inside it do. -/
theorem resolve_compiles (b : Backend κ) (depth : Nat) (g : GlobalRef) :
    (compiling m uses).Follows (resolve m b depth g) := by
  induction depth using Nat.strong_induction_on generalizing g uses with
  | _ depth ih =>
      intro s
      rcases resolve_cases m b depth g s with ⟨e, run⟩ | ⟨id, hl, active, run⟩ |
        ⟨id, hl, finished, run⟩ | ⟨d, id, f, rfl, hl, hf, fresh, new, run⟩
      · rw [run]
        exact ⟨[], [], .refl s⟩
      · rw [run]
        exact outcome_compiling rfl (.reports s [.recursive g.name]) (by simp)
      · rw [run]
        exact (compiling m uses).refl s
      · have named : m.functionNamed g.name = some f := Option.bind_eq_some_iff.mpr ⟨id, hl, hf⟩
        have inner := Conduct.lowerFunction_follows (guides_compiling (m := m) (e := f.toExpr) b
          fun g => ih d d.lt_succ_self g)
          { s with active := id :: s.active, log := s.log ++ [.resolving g.name] }
        rw [← Module.kernelNames_eq named] at inner
        rw [run, run_complete]
        rcases hrun : (lowerFunction b (resolve m b d) f : LowerM κ Routine).run
            { s with active := id :: s.active, log := s.log ++ [.resolving g.name] } with ⟨e | r, t⟩
        · rw [hrun] at inner
          obtain ⟨log, kernels, added⟩ := inner
          exact ⟨_, _, added.enter _ _⟩
        · rw [hrun] at inner
          obtain ⟨sub, log, kernels, added, newly⟩ := inner
          have listed (j : Nat) : j ∈ Session.ids { t with
              active := s.active, resolved := t.resolved ++ [(id, r)] } ↔ j ∈ t.ids ∨ j = id := by
            simp [Session.ids]
          refine ⟨fun j before => (listed j).mpr (Or.inl (sub before)), _, _, added.enter _ _, ?_⟩
          intro h hh
          rcases List.mem_cons.mp hh with same | hh
          · cases same
            exact newly_iff.mpr ⟨id, hl, new, (listed id).mpr (Or.inr rfl)⟩
          · obtain ⟨j, hj, before, now⟩ := newly_iff.mp (newly h hh)
            exact newly_iff.mpr ⟨j, hj, before, (listed j).mpr (Or.inl now)⟩

/-! ### What a success leaves behind -/

/-- A view of kernels in which a packed primitive function has its kernel in the registry. -/
def packedView (b : Backend κ) : KernelView b where
  Inv _ := True
  prim := Packs
  mono ext _ _ _ := Packs.mono ext
  insert _ _ _ _ := trivial
  packs := id

/-- The backend does not matter to this view. -/
theorem Table.exchange {b c : Backend κ} {s : Session κ} (h : Table (packedView b) m s) :
    Table (packedView c) m s :=
  ⟨trivial, h.nodup, h.apart, h.finished⟩

/-- A registry serves the primitive functions that are packed in it. -/
theorem Packs.packable {r : Registry κ} {f : Function} {tys : List Ty} {form : PackedForm}
    (h : Packs r f tys form) : Packable r.backend f tys := by
  obtain ⟨site, fp, e, hf, found, -, -, arity, conv⟩ := h
  refine ⟨site, form.conv, form.inputs, fp, conv, hf, ?_⟩
  simp only [Backend.arity?, Registry.backend, Registry.lookup, found, Option.map_some, arity]

/-- A function that a registry serves has its name there. -/
theorem Packable.find? {r : Registry κ} {f : Function} {tys : List Ty}
    (h : Packable r.backend f tys) {fp : Fingerprint} (hf : f.fingerprint = .ok fp) :
    ∃ e, r.find? fp.kernelName = some e := by
  obtain ⟨site, conv, inputs, fp', -, hf', arity⟩ := h
  obtain rfl := Except.ok.inj (hf.symm.trans hf')
  cases found : r.find? fp.kernelName with
  | some e => exact ⟨e, rfl⟩
  | none => simp [Backend.arity?, Registry.backend, Registry.lookup, found] at arity

variable {known : GlobalRef → Prop} {x : Expr}

/-- The kernels that accepted nodes use are in the registry. -/
theorem kernelNames_of_accepted {r : Registry κ} {e : Expr}
    (h : ∀ x ∈ e.parts, Accepted r.backend known x) : e.kernelNames ⊆ r.names := by
  intro name used
  obtain ⟨x, hx, f, tys, fp, use, hf, rfl⟩ := Expr.mem_kernelNames.mp used
  obtain ⟨entry, found⟩ := (Packable.of_use (h x hx).fits use).find? hf
  by_contra free
  rw [r.find?_eq_none_iff.mpr free] at found
  cases found

/-- The nodes of a finished global are accepted by the kernels of the session. -/
theorem accepted_of_finished {b : Backend κ} {s : Session κ} (h : Table (packedView b) m s)
    {id : Nat} {f : Function} (hf : m.function? id = some f) (finished : id ∈ s.ids) :
    ∀ x ∈ f.toExpr.parts, Accepted s.registry.backend (Known m s) x := by
  obtain ⟨p, hp, rfl⟩ := List.mem_map.mp finished
  obtain ⟨f', hf', tr⟩ := h.finished p hp
  obtain rfl := Option.some.inj (hf.symm.trans hf')
  exact tr.accepted fun _ _ _ => Packs.packable

/-! ### Lowering again -/

/-- Packing changes nothing if the registry serves the primitive function. -/
theorem packedCall_again {r : Registry κ} {s : Session κ} (same : s.registry = r) (c : Backend κ)
    (site : Expr) {f : Function} {tys : List Ty} (packable : Packable r.backend f tys) :
    ((packedCall c site f tys).run s).2 = s := by
  subst same
  have ⟨_, _, _, fp, _, hf, _⟩ := packable
  obtain ⟨e, found⟩ := packable.find? hf
  obtain ⟨reports, -, ⟨run, silent⟩ | ⟨fp', k, hf', free, -⟩⟩ := packedCall_cases c site f tys s
  · rw [run, silent fp hf (by simp [Registry.compiles, found]), List.append_nil]
  · obtain rfl := Except.ok.inj (hf.symm.trans hf')
    rw [free] at found
    cases found

/-- Accepted nodes keep an invariant that fixes the registry, if the globals do. -/
theorem guides_again {I : Session κ → Prop} {r : Registry κ} (fixed : ∀ s, I s → s.registry = r)
    (c : Backend κ) {resolve : GlobalRef → LowerM κ Unit} {nodes : List Expr}
    (accepted : ∀ x ∈ nodes, Accepted r.backend known x)
    (inner : ∀ g, known g → (Conduct.keeping I).Follows (resolve g)) :
    (Conduct.keeping I).Guides c resolve nodes where
  refuse _ _ _ _ := id
  resolve g hg := inner g ((accepted _ hg).known g rfl)
  pack x hx f tys use := by
    refine Conduct.follows_keeping_iff.mpr fun s hs => ?_
    rwa [packedCall_again (fixed s hs) c x (.of_use (accepted x hx).fits use)]

/-- A finished global is not resolved again. -/
theorem resolve_again (c : Backend κ) (depth : Nat) {g : GlobalRef} {s : Session κ}
    (idle : s.active = []) (finished : Known m s g) : ((resolve m c depth g).run s).2 = s := by
  obtain ⟨id, hl, active | listed⟩ := finished
  · rw [idle] at active
    cases active
  · rcases resolve_cases m c depth g s with ⟨e, run⟩ | ⟨id', -, active, -⟩ | ⟨id', -, -, run⟩ |
      ⟨d, id', f, -, hl', -, -, new, -⟩
    · rw [run]
    · rw [idle] at active
      cases active
    · rw [run]
    · obtain rfl := Option.some.inj (hl.symm.trans hl')
      exact absurd listed new

/-- A global that is finished in one session is resolved in every other one without compiling
anything, if they share the registry. -/
theorem resolve_elsewhere {b : Backend κ} {t : Session κ} (h : Table (packedView b) m t)
    (idle : t.active = []) (c : Backend κ) (depth : Nat) {g : GlobalRef} (finished : Known m t g) :
    (Conduct.keeping (·.registry = t.registry)).Follows (resolve m c depth g) := by
  induction depth using Nat.strong_induction_on generalizing g with
  | _ depth ih =>
      refine Conduct.follows_keeping_iff.mpr fun s hs => ?_
      rcases resolve_cases m c depth g s with ⟨e, run⟩ | ⟨id, -, -, run⟩ | ⟨id, -, -, run⟩ |
        ⟨d, id, f, rfl, hl, hf, -, -, run⟩
      · rwa [run]
      · rwa [run]
      · rwa [run]
      · obtain ⟨id', hl', active | listed⟩ := finished
        · rw [idle] at active
          cases active
        · obtain rfl := Option.some.inj (hl.symm.trans hl')
          have inner := Conduct.follows_keeping_iff.mp
            (Conduct.lowerFunction_follows (guides_again (fun _ same => same) c
              (accepted_of_finished h hf listed) fun g => ih d d.lt_succ_self))
            { s with active := id :: s.active, log := s.log ++ [.resolving g.name] } hs
          rw [run, run_complete]
          rcases hrun : (lowerFunction c (resolve m c d) f : LowerM κ Routine).run
              { s with active := id :: s.active, log := s.log ++ [.resolving g.name] }
            with ⟨e | r, u⟩ <;> rwa [hrun] at inner

/-- An expression whose nodes are accepted is lowered again without a change of the session. -/
theorem lower_again {t : Session κ} {e : Expr} (idle : t.active = [])
    (accepted : ∀ x ∈ e.parts, Accepted t.registry.backend (Known m t) x) (c : Backend κ) :
    (t.lower m c e).2 = t := by
  have globals (g : GlobalRef) (finished : Known m t g) :
      (Conduct.keeping (· = t)).Follows (resolve m c m.defs.length g) := by
    refine Conduct.follows_keeping_iff.mpr ?_
    rintro _ rfl
    exact resolve_again c m.defs.length idle finished
  have guides := guides_again (I := (· = t)) (fun _ same => congrArg _ same) c accepted globals
  exact Conduct.follows_keeping_iff.mp (Conduct.lower_follows e guides) t rfl

/-- An expression whose nodes are accepted in one session is lowered in every other one without
compiling anything, if they share the registry. -/
theorem lower_elsewhere {b : Backend κ} {t : Session κ} (h : Table (packedView b) m t)
    (idle : t.active = []) {e : Expr}
    (accepted : ∀ x ∈ e.parts, Accepted t.registry.backend (Known m t) x) (c : Backend κ)
    {u : Session κ} (same : u.registry = t.registry) :
    (u.lower m c e).2.registry = t.registry := by
  have guides := guides_again (I := (·.registry = t.registry)) (fun _ same => same) c accepted
    fun g => resolve_elsewhere h idle c m.defs.length
  exact Conduct.follows_keeping_iff.mp (Conduct.lower_follows e guides) u same

/-- After a success the registry has the kernels of the expression and of every finished global, and
those added are among them. -/
theorem names_of_success {b : Backend κ} {s t : Session κ} {e : Expr}
    (h : Table (packedView b) m t)
    (accepted : ∀ x ∈ e.parts, Accepted t.registry.backend (Known m t) x)
    (compiled : (compiling m e.kernelNames).done s t) (name : String) :
    name ∈ t.registry.names ↔ name ∈ s.registry.names ∨ name ∈ e.kernelNames ∨
      ∃ g, Newly m s t g ∧ name ∈ m.kernelNames g := by
  obtain ⟨-, log, kernels, added, newly⟩ := compiled
  constructor
  · intro now
    refine (added.mem_names_iff.mp now).imp_right fun new => ?_
    obtain ⟨entry, he, rfl⟩ := List.mem_map.mp new
    exact (added.met entry he).imp_right fun ⟨g, hg, used⟩ => ⟨g, newly g hg, used⟩
  · rintro (before | used | ⟨g, resolved, used⟩)
    · exact added.mem_names_iff.mpr (Or.inl before)
    · exact kernelNames_of_accepted accepted used
    · obtain ⟨id, hl, -, finished⟩ := newly_iff.mp resolved
      obtain ⟨p, hp, rfl⟩ := List.mem_map.mp finished
      obtain ⟨f, hf, -⟩ := h.finished p hp
      rw [m.kernelNames_eq (Option.bind_eq_some_iff.mpr ⟨p.1, hl, hf⟩)] at used
      exact kernelNames_of_accepted (accepted_of_finished h hf finished) used

end Lowering

/-! ### Sessions that share a registry -/

/-- A command that takes no kernel out of a registry. -/
def Command.Adds (r : Registry κ) : Command κ → Prop
  | .share registry => r.Extends registry
  | _ => True

namespace Workspace

open Lowering

/-- Whenever others change the registry between the commands, they only add to it. -/
def AddsOnly (w : Workspace κ) : List (Command κ) → Prop
  | [] => True
  | cmd :: cmds => cmd.Adds w.session.registry ∧ (w.step cmd).2.AddsOnly cmds

variable {w : Workspace κ}

/-- A command that takes no kernel out of the registry keeps the table. -/
theorem step_packed (inv : w.Inv) (h : Table (packedView absent) w.module w.session)
    {cmd : Command κ} (adds : cmd.Adds w.session.registry) :
    Table (packedView absent) (w.step cmd).2.module (w.step cmd).2.session := by
  rcases step_forms inv cmd with ⟨m, ext, same⟩ | ⟨registry, rfl, same⟩ | ⟨c, s, -, same, kept⟩
  · rw [same]
    exact h.extends ext
  · rw [same]
    exact (h.of_registry (t := { w.session with registry := registry }) rfl rfl adds trivial).1
  · rw [same]
    exact (kept (packedView c) h.exchange).exchange

/-- Commands that take no kernel out of the registry keep the table. -/
theorem run_packed (inv : w.Inv) (h : Table (packedView absent) w.module w.session)
    {cmds : List (Command κ)} (adds : w.AddsOnly cmds) :
    Table (packedView absent) (w.run cmds).module (w.run cmds).session := by
  induction cmds generalizing w with
  | nil => exact h
  | cons cmd cmds ih => exact ih (step_spec inv cmd).1 (step_packed inv h adds.1) adds.2

/-- Lowering compiles just the kernels of what it meets, after any history in which those who share
the registry only add to it, and with any backend.

Every kernel stays, and there are as many compilations as new names. After a success the names are
those of before, those of the kernels that the expression uses, and those that the globals use which
were resolved by it; lowering the expression again changes nothing in the session, and compiles
nothing in any other session with the same registry. After a failure each new name is that of a
kernel in use in the expression or in a global whose resolution was begun. -/
theorem lower_compiles (name : String) (registry : Registry κ) {cmds : List (Command κ)}
    (adds : (start name registry).AddsOnly cmds) (b : Backend κ) (e : Expr) :
    let w := (start name registry).run cmds
    let m := w.module
    let s := w.session
    ∀ out t, s.lower m b e = (out, t) →
      s.registry.names ⊆ t.registry.names ∧
      t.registry.compilations = s.registry.compilations +
        (t.registry.names.toFinset \ s.registry.names.toFinset).card ∧
      (∀ n, out = .ok n →
        (∀ k, k ∈ t.registry.names ↔ k ∈ s.registry.names ∨ k ∈ e.kernelNames ∨
          ∃ g, Newly m s t g ∧ k ∈ m.kernelNames g) ∧
        ∀ c : Backend κ, (t.lower m c e).2 = t ∧
          ∀ u : Session κ, u.registry = t.registry →
            (u.lower m c e).2.registry = t.registry) ∧
      ∀ err, out = .error err → ∃ log, t.log = s.log ++ log ∧
        ∀ k ∈ t.registry.names, k ∈ s.registry.names ∨ k ∈ e.kernelNames ∨
          ∃ g, .resolving g ∈ log ∧ k ∈ m.kernelNames g := by
  intro w m s out t run
  have inv : w.Inv := run_inv (start_inv name registry) cmds
  have before : Table (packedView b) m s :=
    (run_packed (start_inv name registry) (start_table _ name trivial) adds).exchange
  have compiled : (compiling m e.kernelNames).Outcome s (s.lower m b e) :=
    Conduct.lower_follows e (guides_compiling b fun g => resolve_compiles b m.defs.length g) s
  have kept := Discipline.lower_keeps (resolve_admits (packedView b) m m.defs.length) e
  obtain ⟨table, grows, lowered⟩ := kept s before
  rw [Session.lower, SessionState.lower] at run compiled
  rw [run] at compiled table grows lowered
  have added : ∃ log kernels, Added m e.kernelNames s t log kernels := by
    cases out with
    | error err => exact compiled
    | ok n => exact compiled.2.imp fun _ => .imp fun _ => And.left
  obtain ⟨log, kernels, added⟩ := added
  refine ⟨?_, ?_, ?_, ?_⟩
  · exact fun k before => added.mem_names_iff.mpr (Or.inl before)
  · rw [added.count, added.card_new]
  · rintro n rfl
    have idle : t.active = [] := grows.active.trans inv.idle
    have accepted : ∀ x ∈ e.parts, Accepted t.registry.backend (Known m t) x :=
      (lowered n rfl).accepted fun _ _ _ => Packs.packable
    refine ⟨names_of_success table accepted compiled, fun c => ⟨lower_again idle accepted c, ?_⟩⟩
    exact fun u same => lower_elsewhere table idle accepted c same
  · rintro err rfl
    refine ⟨log, added.reported, fun k now => ?_⟩
    refine (added.mem_names_iff.mp now).imp_right fun new => ?_
    obtain ⟨entry, he, rfl⟩ := List.mem_map.mp new
    exact added.met entry he

/-! ### Two globals that call each other, once more -/

/-- A backend whose kernels have one input too many for an operator. -/
def widened : Backend KernelOutline :=
  BackendPlan.backend ⟨[], false, 1⟩

/-- The kernel of another session. -/
def visitor : Registry KernelOutline :=
  Registry.empty.insert "other" "" ⟨"other", 2⟩

/-- The first global needs one kernel, besides that of another session. It is compiled once. With a
backend whose kernel does not fit, it is compiled and the lowering fails. -/
theorem tangled_compiled :
    let w := (start "tangled" Registry.empty).run (tangled ++ [.share visitor])
    let e : Expr := .tuple [.global ⟨"same", numeric⟩, .global ⟨"first", numeric⟩] .unknown
    (∃ n t, w.session.lower w.module unary e = (.ok n, t) ∧ t.registry.compilations = 2 ∧
      w.module.kernelNames "first" ⊆ t.registry.names ∧
      (t.lower w.module widened e).2 = t ∧
      ((Session.start t.registry).lower w.module widened e).2.registry = t.registry) ∧
    ∃ err t, w.session.lower w.module widened e = (.error err, t) ∧
      t.registry.compilations = 2 ∧
      ∀ k ∈ t.registry.names, k ∈ w.session.registry.names ∨ ∃ g, k ∈ w.module.kernelNames g := by
  intro w e
  have adds : (start "tangled" Registry.empty).AddsOnly (tangled ++ [.share visitor]) :=
    ⟨trivial, trivial, trivial, trivial, trivial, List.nil_prefix, trivial⟩
  constructor
  · have returns : (w.session.lower w.module unary e).1.toOption.isSome = true ∧
        (w.session.lower w.module unary e).2.registry.compilations = 2 ∧
        (w.session.global? w.module "first").isNone = true ∧
        ((w.session.lower w.module unary e).2.global? w.module "first").isSome = true := by
      decide +kernel
    obtain ⟨found, count, new, now⟩ := returns
    obtain ⟨n, hn⟩ := Option.isSome_iff_exists.mp found
    have run := Prod.ext (y := (Except.ok n, _)) (ok_of_toOption hn) rfl
    obtain ⟨-, -, success, -⟩ := lower_compiles "tangled" Registry.empty adds unary e _ _ run
    obtain ⟨names, again⟩ := success n rfl
    obtain ⟨idle, elsewhere⟩ := again widened
    refine ⟨n, _, run, count, fun k used => ?_, idle, elsewhere _ rfl⟩
    exact (names k).mpr (Or.inr (Or.inr ⟨"first",
      ⟨Option.isNone_iff_eq_none.mp new, Option.isSome_iff_exists.mp now⟩, used⟩))
  · have fails : (w.session.lower w.module widened e).1.toOption.isNone = true ∧
        (w.session.lower w.module widened e).2.registry.compilations = 2 ∧
        e.kernelNames = [] := by
      decide +kernel
    obtain ⟨failed, count, unused⟩ := fails
    rcases run : w.session.lower w.module widened e with ⟨err | n, t⟩
    · rw [run] at count
      obtain ⟨-, -, -, failure⟩ := lower_compiles "tangled" Registry.empty adds widened e _ _ run
      obtain ⟨log, -, met⟩ := failure err rfl
      refine ⟨err, t, rfl, count, fun k now => (met k now).imp_right ?_⟩
      rintro (used | ⟨g, -, used⟩)
      · rw [unused] at used
        cases used
      · exact ⟨g, used⟩
    · rw [run] at failed
      cases failed

end Workspace
end TensorCompiler
