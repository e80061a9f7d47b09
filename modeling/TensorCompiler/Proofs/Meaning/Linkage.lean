import Mathlib.Data.List.Duplicate
import Mathlib.Data.List.Forall2
import TensorCompiler.Linked.Library
import TensorCompiler.Proofs.Linked.Registration
import TensorCompiler.Proofs.Meaning.Frames
import TensorCompiler.Proofs.Meaning.Relation
import TensorCompiler.Proofs.Outcome

/-!
# Linked libraries

Main statement: a linked library holds its kernels, finds the constructors of all data types of its
program and every function under its name, each linked with the captured constants.
-/

namespace TensorCompiler

namespace Library

open Linked

/-! ### Functions -/

/-- A function that is found under its name, linked with the captured constants. -/
structure Holds (lib : Library) (captured : List Constant) (name : String) (r : Lowered.Routine) :
    Prop where
  global : ∃ k, Linked.routine captured r = .ok k ∧
    lib.image.global? name = some ⟨name, r.params.length, .routine k⟩
  arity : lib.arity? name = some r.params.length

/-- A library grown by functions only. -/
structure Grows (lib lib' : Library) : Prop where
  source : lib'.source = lib.source
  kernels : lib'.image.kernels = lib.image.kernels
  device : lib'.image.device = lib.image.device
  host : lib'.image.host = lib.image.host
  ctors : lib'.image.ctors = lib.image.ctors
  kept : ∀ {captured name r}, lib.Holds captured name r → lib'.Holds captured name r

theorem Grows.refl (lib : Library) : lib.Grows lib :=
  ⟨rfl, rfl, rfl, rfl, rfl, id⟩

theorem Grows.trans {a b c : Library} (h : a.Grows b) (h' : b.Grows c) : a.Grows c :=
  ⟨h'.source.trans h.source, h'.kernels.trans h.kernels, h'.device.trans h.device,
    h'.host.trans h.host, h'.ctors.trans h.ctors, fun hr => h'.kept (h.kept hr)⟩

/-- A function that is defined is held, and others stay. -/
theorem define_spec {lib lib' : Library} {name : String} {r : Lowered.Routine}
    (h : lib.define name r = .ok lib') :
    lib.Grows lib' ∧ lib'.Holds lib.source.params name r := by
  unfold define at h
  split at h
  · cases h
  · rename_i k linked
    split at h
    · cases h
    · rename_i image defined
      cases h
      unfold Image.define at defined
      split at defined
      · cases defined
      · rename_i free
        cases defined
        simp only [Image.global?] at free
        refine ⟨⟨rfl, rfl, rfl, rfl, rfl, ?_⟩, ⟨k, linked, ?_⟩, ?_⟩
        · rintro captured other r' ⟨⟨k', linked', found⟩, arity⟩
          simp only [Image.global?] at found
          have ne : name ≠ other := by
            rintro rfl
            rw [free] at found
            cases found
          refine ⟨⟨k', linked', ?_⟩, ?_⟩
          · simp [Image.global?, List.find?_append, found]
          · simpa [arity?, ne] using arity
        · simp [Image.global?, List.find?_append, free]
        · simp [arity?]

/-- All functions that are defined are held. -/
theorem defineAll_spec {rs : List (String × Lowered.Routine)} {lib lib' : Library}
    (h : lib.defineAll rs = .ok lib') :
    lib.Grows lib' ∧ ∀ p ∈ rs, lib'.Holds lib.source.params p.1 p.2 := by
  induction rs generalizing lib with
  | nil =>
      cases h
      exact ⟨.refl _, by rintro _ ⟨⟩⟩
  | cons p rs ih =>
      obtain ⟨mid, first, h⟩ := ok_of_bind_ok h
      obtain ⟨grows, held⟩ := define_spec first
      obtain ⟨grows', all⟩ := ih h
      refine ⟨grows.trans grows', List.forall_mem_cons.mpr ⟨grows'.kept held, ?_⟩⟩
      exact grows.source ▸ all

/-- A function with the global it is linked to. -/
def LinkedAs (captured : List Constant) (p : String × Lowered.Routine) (g : Linked.Global) : Prop :=
  ∃ k, Linked.routine captured p.2 = .ok k ∧ g = ⟨p.1, p.2.params.length, .routine k⟩

/-! ### Names of functions -/

/-- The names of the functions of a library, in order. -/
def names (lib : Library) : List String :=
  lib.image.globals.map Linked.Global.name

theorem global?_eq_none_iff {img : Image} {name : String} :
    img.global? name = none ↔ name ∉ img.globals.map Linked.Global.name := by
  rw [Image.global?, List.find?_eq_none, List.mem_map, not_exists]
  exact forall_congr' fun g => by rw [not_and, beq_iff_eq]

/-- A function that is defined becomes the last global. Its name was free. -/
theorem define_globals {lib lib' : Library} {name : String} {r : Lowered.Routine}
    (h : lib.define name r = .ok lib') : ∃ g, LinkedAs lib.source.params (name, r) g ∧
      name ∉ lib.names ∧ lib'.image.globals = lib.image.globals ++ [g] ∧
        lib'.source = lib.source := by
  unfold define at h
  split at h
  · cases h
  · rename_i k linked
    split at h
    · cases h
    · rename_i image defined
      cases h
      unfold Image.define at defined
      split at defined
      · cases defined
      · rename_i free
        cases defined
        exact ⟨_, ⟨k, linked, rfl⟩, global?_eq_none_iff.mp free, rfl, rfl⟩

/-- Functions that are defined become globals in order. -/
theorem defineAll_globals {rs : List (String × Lowered.Routine)} {lib lib' : Library}
    (h : lib.defineAll rs = .ok lib') : ∃ gs, List.Forall₂ (LinkedAs lib.source.params) rs gs ∧
      lib'.image.globals = lib.image.globals ++ gs := by
  induction rs generalizing lib with
  | nil =>
      cases h
      exact ⟨[], .nil, (List.append_nil _).symm⟩
  | cons p rs ih =>
      obtain ⟨mid, first, h⟩ := ok_of_bind_ok h
      obtain ⟨g, linked, -, last, source⟩ := define_globals first
      obtain ⟨gs, all, globals⟩ := ih h
      refine ⟨g :: gs, .cons linked (source ▸ all), ?_⟩
      rw [globals, last, List.append_assoc, List.singleton_append]

/-- No two functions that are defined have one name. -/
theorem nodup_names_of_defineAll {rs : List (String × Lowered.Routine)} {lib lib' : Library}
    (h : lib.defineAll rs = .ok lib') (once : lib.names.Nodup) : lib'.names.Nodup := by
  induction rs generalizing lib with
  | nil =>
      cases h
      exact once
  | cons p rs ih =>
      obtain ⟨mid, first, h⟩ := ok_of_bind_ok h
      obtain ⟨g, ⟨k, -, rfl⟩, free, last, -⟩ := define_globals first
      refine ih h ?_
      have all := once.concat free
      rw [List.concat_eq_append] at all
      rw [names, last, List.map_append]
      exact all

/-- A function that can be linked is refused exactly if its name is taken. -/
theorem define_of_linked {lib : Library} (name : String) {r : Lowered.Routine} {k : Routine}
    (linked : Linked.routine lib.source.params r = .ok k) :
    (name ∉ lib.names ∧ ∃ lib', lib.define name r = .ok lib' ∧ lib'.names = lib.names ++ [name] ∧
      lib'.source = lib.source) ∨
    (name ∈ lib.names ∧ lib.define name r = .error (.image (.globalTaken name))) := by
  unfold define
  rw [linked]
  by_cases taken : name ∈ lib.names
  · have listed := mt global?_eq_none_iff.mp (not_not.mpr taken)
    obtain ⟨g, found⟩ := Option.ne_none_iff_exists'.mp listed
    refine Or.inr ⟨taken, ?_⟩
    simp only [Image.define, found]
  · have free := global?_eq_none_iff.mpr taken
    refine Or.inl ⟨taken, ?_⟩
    simp only [Image.define, free]
    exact ⟨_, rfl, List.map_append, rfl⟩

/-- Functions that can be linked are all defined if their names are different, and else one of them
is refused for its name. -/
theorem defineAll_of_linked {rs : List (String × Lowered.Routine)} {lib : Library}
    (linkable : ∀ r ∈ rs, ∃ k, Linked.routine lib.source.params r.2 = .ok k)
    (once : lib.names.Nodup) :
    ((∃ lib', lib.defineAll rs = .ok lib') ∧ (lib.names ++ rs.map Prod.fst).Nodup) ∨
      ∃ name, lib.defineAll rs = .error (.image (.globalTaken name)) ∧
        List.Duplicate name (lib.names ++ rs.map Prod.fst) := by
  induction rs generalizing lib with
  | nil => exact Or.inl ⟨⟨lib, rfl⟩, (List.append_nil lib.names).symm ▸ once⟩
  | cons p rs ih =>
      obtain ⟨name, r⟩ := p
      obtain ⟨⟨k, linked⟩, others⟩ := List.forall_mem_cons.mp linkable
      rw [List.map_cons]
      rcases define_of_linked name linked with ⟨new, mid, defined, names, source⟩ | ⟨taken, refused⟩
      · have once : mid.names.Nodup := by
          rw [names, List.nodup_append]
          refine ⟨once, List.nodup_singleton _, fun a ha b hb => ?_⟩
          obtain rfl := List.mem_singleton.mp hb
          exact fun same => new (same ▸ ha)
        have rest := ih (source.symm ▸ others) once
        rw [names, List.append_assoc, List.singleton_append] at rest
        rw [defineAll, defined, ok_bind]
        exact rest
      · refine Or.inr ⟨name, ?_, ?_⟩
        · rw [defineAll, refused]
          rfl
        · rw [List.duplicate_iff_two_le_count, List.count_append, List.count_cons_self]
          have := List.one_le_count_iff.mpr taken
          omega

/-! ### Programs -/

/-- What a library holds of its program. -/
structure Links (lib : Library) (sig : Signature) (device : DeviceId) (host : Host)
    (kernels : Registry Kernel) (p : Program) (entry : Lowered.Routine) (source : Source) :
    Prop where
  ctors : ∀ d ∈ source.dataTypes, ∀ c ∈ sig.ctorsOf d, lib.image.Declares c
  globals : ∀ g ∈ p.globals, lib.Holds source.params g.name g.routine
  held : lib.Holds source.params p.name entry
  same : lib.source = source
  kernels : lib.image.kernels = kernels
  device : lib.image.device = device
  host : lib.image.host = host
  defined : List.Forall₂ (LinkedAs source.params)
    ((p.globals.map fun g => (g.name, g.routine)) ++ [(p.name, entry)]) lib.image.globals
  once : lib.names.Nodup

/-- A linked library holds all of its program. -/
theorem link_spec {sig : Signature} {device : DeviceId} {host : Host} {kernels : Registry Kernel}
    {p : Program} {entry : Lowered.Routine} {source : Source} {lib : Library}
    (h : link sig device host (some kernels) p entry source = .ok lib) :
    lib.Links sig device host kernels p entry source := by
  unfold link at h
  simp only at h
  split at h
  · cases h
  · split at h
    · cases h
    · rename_i image registered
      obtain ⟨registers, declared⟩ := Image.registerAll_spec registered
      obtain ⟨grows, held⟩ := defineAll_spec h
      obtain ⟨gs, all, globals⟩ := defineAll_globals h
      refine ⟨?_, ?_, ?_, grows.source, grows.kernels.trans registers.kernels,
        grows.device.trans registers.device, grows.host.trans registers.host, ?_,
        nodup_names_of_defineAll h ?_⟩
      · intro d hd c hc
        have found := declared _ (List.mem_map_of_mem hd) c hc
        rw [Image.Declares, grows.ctors]
        exact found
      · intro g hg
        exact held (g.name, g.routine) (List.mem_append_left _ (List.mem_map_of_mem hg))
      · exact held (p.name, entry) (List.mem_append_right _ (List.mem_singleton.mpr rfl))
      · rw [globals, registers.globals]
        exact all
      · rw [names, registers.globals]
        exact List.nodup_nil

/-! ### Calls of symbols -/

/-- A call of a symbol with the right number of inputs runs its function in a frame of its own. -/
theorem run_symbol {lib : Library} {name : String} {arity : Nat} {k : Routine}
    (found : lib.image.global? name = some ⟨name, arity, .routine k⟩)
    (captured : List (Value Code)) {ys : List (Value Code)} (count : ys.length = arity)
    (fuel : Nat) (fs : Frames) : (lib.run fuel name captured ys).run fs =
      ExceptT.run (match fuel with
        | 0 => throw .exhausted
        | fuel + 1 => do
          let frame ← openFrame none k.params ys
          Linked.eval lib.image (Linked.apply lib.image fuel) captured frame k.body) fs := by
  have right : ¬ (0 ≤ (arity : Int) ∧ (ys.length : Int) ≠ arity) := by omega
  rw [Library.run, run_bind, run_pureStep, Image.globalValue, found]
  simp only
  rw [Linked.apply.eq_def]
  cases fuel <;> simp only [right, if_false, found]

/-- What a call of a symbol makes of a run. -/
def answer : Except RunError (Value Code) × Frames → Except SymbolError Outcome
  | (.ok v, frames) => .ok ⟨v, frames⟩
  | (.error e, _) => .error (.run e)

/-- A symbol that accepts as many captured parameters and inputs as its function has: with any other
number of values a call is refused, and with the right one it runs the function. -/
structure Accepts (lib : Library) (name : String) (params inputs : Nat) (k : Routine) : Prop where
  count : k.params.length = inputs
  refuses : ∀ fuel (args : List HostMade), args.length ≠ params + inputs →
    lib.call fuel name args = .error (.argCount name args.length params inputs)
  runs : ∀ fuel (args : List HostMade), args.length = params + inputs →
    lib.call (fuel + 1) name args = answer (ExceptT.run (do
      let frame ← openFrame none k.params (Value.mapAll Code.ofHost (args.drop params))
      eval lib.image (apply lib.image fuel) (Value.mapAll Code.ofHost (args.take params)) frame
        k.body) #[])

/-- A symbol accepts the captured parameters and as many inputs as its function has parameters. -/
theorem Holds.accepts {lib : Library} {name : String} {r : Lowered.Routine}
    (held : lib.Holds lib.source.params name r) :
    ∃ k, Linked.routine lib.source.params r = .ok k ∧
      lib.Accepts name lib.source.params.length r.params.length k := by
  obtain ⟨⟨k, linked, found⟩, arity⟩ := held
  obtain ⟨body, -, same⟩ := ok_of_bind_ok linked
  cases same
  refine ⟨_, linked, rfl, fun fuel args wrong => ?_, fun fuel args right => ?_⟩
  · simp only [call, arity, if_pos wrong]
  · have captured : (Value.mapAll Code.ofHost args).take lib.source.params.length =
        Value.mapAll Code.ofHost (args.take lib.source.params.length) := by
      rw [Value.mapAll_eq_map, Value.mapAll_eq_map, List.map_take]
    have inputs : (Value.mapAll Code.ofHost args).drop lib.source.params.length =
        Value.mapAll Code.ofHost (args.drop lib.source.params.length) := by
      rw [Value.mapAll_eq_map, Value.mapAll_eq_map, List.map_drop]
    have count : (Value.mapAll Code.ofHost (args.drop lib.source.params.length)).length =
        r.params.length := by
      rw [Value.mapAll_eq_map, List.length_map, List.length_drop]
      omega
    simp only [call, arity, ne_eq, not_true_eq_false, right, if_false]
    rw [captured, inputs, run_symbol found _ count]
    rfl

end Library
end TensorCompiler
