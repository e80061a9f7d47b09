import TensorCompiler.Compile.Basic
import TensorCompiler.Proofs.Lowering.Workspace
import TensorCompiler.Proofs.Meaning.Inventory
import TensorCompiler.Proofs.Meaning.Kernels
import TensorCompiler.Proofs.Meaning.Linkage
import TensorCompiler.Proofs.Meaning.Simulation

/-!
# Compilation preserves meaning

An entry expression is lowered and emitted, its program is linked in this process and wrapped into
an entry point.

Main statements: realizations agree, so results that are functions are compared by what calls of
them do; and on all inputs and for every depth of calls the entry symbol of the library has the
outcome of the entry function, evaluated in the source.

## Implementation notes

Variables have to be lexical. A linked program keeps the variables of a function in one frame, and
only if none is bound twice the frame shows what the environment of the source holds.
-/

namespace TensorCompiler.Meaning

open Linked

/-!
## Agreement of results

When a result of the source and a linked result count as one: a linked program hands out functions
that live in its frames, so results with functions are compared by what calls of them do.

A realization speaks of a reserve. Between calls nothing is going to be written into the frames
that exist, so the variables that they hold are a reserve again, and one relation of codes in frames
serves for all calls.
-/

section

variable (p : SourceProgram) (img : Image)

/-- What a call in some frames answers: both runs fail with one error, or both return, and what they
return is related in the frames after the call. In any case related codes stay related. -/
inductive Answers (R : Frames → SourceCode → Code → Prop) (fs : Frames) :
    Except RunError SourceValue → Except RunError (Value Code) × Frames → Prop
  | ok {x y fs'} (lasts : ∀ c d, R fs c d → R fs' c d) (related : Value.Rel (R fs') x y) :
      Answers R fs (.ok x) (.ok y, fs')
  | error (e : RunError) {fs'} (lasts : ∀ c d, R fs c d → R fs' c d) :
      Answers R fs (.error e) (.error e, fs')

/-- A relation of codes that calls do not tell apart: functions of the host that keep related values
are related, and related functions answer alike on all related arguments, however deep the calls
nest. -/
structure Agreement where
  rel : Frames → SourceCode → Code → Prop
  host : ∀ {fs kept kept'} h, Value.RelAll (rel fs) kept kept' →
    rel fs (.host h kept) (.host h kept')
  call : ∀ {fs f g xs ys}, Value.Rel (rel fs) f g → Value.RelAll (rel fs) xs ys → ∀ fuel,
    Answers rel fs (apply p fuel f xs) ((Linked.apply img fuel g ys).run fs)

/-- A value of the source and a linked value in frames are the same: functions in equal places
agree on all arguments, and without functions the values are equal. -/
structure Same (fs : Frames) (x : SourceValue) (y : Value Code) : Prop where
  agree : ∃ A : Agreement p img, Value.Rel (A.rel fs) x y
  eq : x.isPlain = true → ∀ code, x.map code = y

/-- The outcome of a call of the source and that of a call of a symbol are the same: one error, or
the same value. -/
inductive SameOutcome : Except SymbolError SourceValue → Except SymbolError Outcome → Prop
  | value {x y frames} (same : Same p img frames x y) : SameOutcome (.ok x) (.ok ⟨y, frames⟩)
  | error (e : SymbolError) : SameOutcome (.error e) (.error e)

end

section

variable {p : SourceProgram} {J : Surroundings} {captured : List (Value Code)} {img : Image}
  {C C' : Reserve} {fs fs' : Frames}

/-- Values that are related by an agreement are the same. -/
theorem Same.of_rel (A : Agreement p img) {x : SourceValue} {y : Value Code}
    (h : Value.Rel (A.rel fs) x y) : Same p img fs x y := by
  refine ⟨⟨A, h⟩, ?_⟩
  intro plain code
  rw [h.map_eq code id plain, Value.map_id]

/-- What a symbol makes of an answer. -/
theorem Answers.sameOutcome (A : Agreement p img) {x : Except RunError SourceValue}
    {out : Except RunError (Value Code) × Frames} :
    Answers A.rel fs x out → SameOutcome p img (x.mapError .run)
      (match out with
        | (.ok v, frames) => .ok ⟨v, frames⟩
        | (.error e, _) => .error (.run e)) := by
  intro h
  cases h with
  | ok lasts related => exact .value (.of_rel A related)
  | error e lasts => exact .error _

/-! ### Settled frames -/

/-- The realizations in frames between calls. -/
abbrev Settled (J : Surroundings) (captured : List (Value Code)) (fs : Frames) :
    SourceCode → Code → Prop :=
  Realized J captured (held fs) fs

/-- A run from settled frames answers in settled frames. -/
theorem Simulated.answers {x : Except RunError SourceValue}
    {out : Except RunError (Value Code) × Frames}
    (h : Simulated .empty (held fs) fs (Realizes J captured) x out) :
    Answers (Settled J captured) fs x out := by
  cases h with
  | error e step => exact .error e fun c _ => Realized.lasts step.lasts_held c
  | ok step related =>
      refine .ok (fun c _ => Realized.lasts step.lasts_held c) ?_
      exact related.mono fun c _ => Realized.lasts (Meaning.lasts_held step.covers) c

/-- Realizations agree. -/
def settledAgreement (provides : Provides p J img captured) : Agreement p img where
  rel := Settled J captured
  host h keeps := by
    rw [Settled, Realized]
    exact ⟨_, rfl, realizedAll_of_relAll J captured _ _ keeps⟩
  call related args fuel :=
    (calls_simulated provides fuel (covers_held _) related args).answers

end

end TensorCompiler.Meaning

namespace TensorCompiler

open Lowering

/-! ### Lowering -/

/-- A translated function keeps its parameters. -/
theorem Lowering.TranslatesFunction.params_eq {prim : PrimJudgement} {known : GlobalRef → Prop}
    {f : Function} {r : Lowered.Routine} (h : TranslatesFunction prim known f r) :
    r.params = f.params := by
  cases h <;> rfl

/-- What an emitted program is to its entry function and to the session that lowered it: the
registry has no kernels but those it had before, and those of the primitive functions in use. -/
structure Module.Lowers (m : Module) (f : Function) (kernels : Registry Kernel)
    (t : Session Kernel) (emitted : Emitted) : Prop where
  native : ∀ {P : Function → Prop}, kernels.Native P → (∀ q ∈ f.toExpr.primitives, P q) →
    (∀ id g, m.function? id = some g → ∀ q ∈ g.toExpr.primitives, P q) →
      emitted.registry.Native P
  table : Table (packedView Backend.native) m t
  idle : t.active = []
  entry : TranslatesFunction (Packs t.registry) (Known m t) f emitted.entry
  registry : emitted.registry = t.registry
  program : emitted.program.entry = some emitted.entry
  globals : emitted.program.globals = t.globals m
  emit : emitted.program.emit = .ok emitted.source

/-- An entry expression that is emitted has an entry function. -/
theorem Module.exists_entryFunction {m : Module} {e : Expr} {name : String} {target : Target}
    {kernels : Registry Kernel} {emitted : Emitted}
    (h : m.emitEntry e name target kernels = .ok emitted) : ∃ f, m.entryFunction e = .ok f := by
  unfold emitEntry at h
  split at h
  · cases h
  · split at h
    · cases h
    · rename_i f found
      exact ⟨f, found⟩

/-- An emitted entry expression is lowered with all globals that it refers to. -/
theorem Module.lowers_of_emitEntry {m : Module} {e : Expr} {name : String} {target : Target}
    {kernels : Registry Kernel} {emitted : Emitted}
    (h : m.emitEntry e name target kernels = .ok emitted) {f : Function}
    (hf : m.entryFunction e = .ok f) :
    emitted.program.name = name ∧ ∃ t, m.Lowers f kernels t emitted := by
  unfold emitEntry at h
  split at h
  · cases h
  · rw [hf] at h
    simp only at h
    split at h
    · cases h
    · rename_i routine t run
      split at h
      · cases h
      · rename_i source emit
        cases h
        have start : Table (packedView Backend.native) m (Session.start kernels) :=
          ⟨trivial, List.nodup_nil, nofun, nofun⟩
        obtain ⟨table, grows, translates⟩ := lowerFunction_keeps _ m
          (resolve_admits (packedView Backend.native) m m.defs.length) f _ start
        rw [Session.lowerFunction, SessionState.lowerFunction] at run
        rw [run] at table grows translates
        refine ⟨rfl, t, ?_, table, grows.active, translates _ rfl, rfl, rfl, rfl, emit⟩
        intro P native used uses
        have added := Lowering.lowerFunction_native (s := Session.start kernels) used uses native
        rw [Session.lowerFunction, SessionState.lowerFunction, run] at added
        exact added

/-- The data types of all constructors that a program applies are recorded. -/
theorem Module.Lowers.recorded {m : Module} {f : Function} {kernels : Registry Kernel}
    {t : Session Kernel} {emitted : Emitted} (h : m.Lowers f kernels t emitted) :
    (∀ c ∈ f.toExpr.ctors, c.data ∈ emitted.source.dataTypes) ∧
      ∀ p ∈ t.resolved, ∀ g, m.function? p.1 = some g →
        ∀ c ∈ g.toExpr.ctors, c.data ∈ emitted.source.dataTypes := by
  refine ⟨Program.records_of_emit h.emit ?_ h.entry.records, ?_⟩
  · rw [Program.routines, h.program]
    exact List.mem_append_right _ (List.mem_singleton_self _)
  · intro p hp g hg
    obtain ⟨f', hf', translates⟩ := h.table.finished p hp
    obtain rfl := Option.some.inj (hg.symm.trans hf')
    refine Program.records_of_emit h.emit ?_ translates.records
    rw [Program.routines, h.globals]
    exact List.mem_append_left _ (List.mem_map.mpr ⟨_, List.mem_map_of_mem hp, rfl⟩)

/-! ### Well-formed modules -/

/-- An expression whose constructors are those that their data types declare. -/
def Expr.Declared (sig : Signature) (e : Expr) : Prop :=
  ∀ c ∈ e.ctors, c ∈ sig.ctorsOf c.data

/-- A module of functions whose constructors are declared. -/
def Module.Declared (sig : Signature) (m : Module) : Prop :=
  ∀ d ∈ m.defs, ∀ f, d.function = some f → f.toExpr.Declared sig

/-- A property of all definitions holds of the function of a handle. -/
theorem Module.forall_function {P : Function → Prop} {m : Module}
    (h : ∀ d ∈ m.defs, ∀ f, d.function = some f → P f) {id : Nat} {f : Function}
    (hf : m.function? id = some f) : P f := by
  obtain ⟨d, hd, defined⟩ := Option.bind_eq_some_iff.mp hf
  cases id with
  | zero => cases hd
  | succ i => exact h d (List.mem_of_getElem? hd) f defined

/-- An expression with lexical variables whose constructors are those that their data types declare,
and whose primitive functions are of some kind. -/
structure Expr.WellFormed (sig : Signature) (P : Function → Prop) (e : Expr) : Prop
    extends e.Lexical where
  declared : ∀ c ∈ e.ctors, c ∈ sig.ctorsOf c.data
  primitives : ∀ f ∈ e.primitives, P f

/-- A module of well-formed functions. -/
def Module.WellFormed (sig : Signature) (P : Function → Prop) (m : Module) : Prop :=
  ∀ d ∈ m.defs, ∀ f, d.function = some f → f.toExpr.WellFormed sig P

/-- Every function of a well-formed module is well-formed. -/
theorem Module.WellFormed.function {sig : Signature} {P : Function → Prop} {m : Module}
    (h : m.WellFormed sig P) {id : Nat} {f : Function} (hf : m.function? id = some f) :
    f.toExpr.WellFormed sig P :=
  forall_function h hf

/-! ### Linking -/

/-- Constants that are sent to a device arrive in their places. -/
theorem EntryPoint.sendParams_spec {name : String} {device : DeviceId} {cs : List Constant}
    {index : Nat} {sent : List HostMade} (h : sendParams name device index cs = .ok sent) :
    sent.length = cs.length ∧ ∀ (i : Nat) (c : Constant), cs[i]? = some c →
      ∃ t, Tensor.ofSlice c.values c.shape.dims = .ok t ∧
        sent[i]? = some (.tensor ⟨device, some t⟩) := by
  induction cs generalizing index sent with
  | nil =>
      cases h
      exact ⟨rfl, nofun⟩
  | cons c cs ih =>
      rw [sendParams] at h
      split at h
      · cases h
      · rename_i t ht
        obtain ⟨rest, hr, h⟩ := ok_of_bind_ok h
        cases h
        obtain ⟨len, found⟩ := ih hr
        refine ⟨congrArg (· + 1) len, ?_⟩
        intro i d hd
        cases i with
        | zero =>
            cases hd
            exact ⟨t, ht, rfl⟩
        | succ i => exact found i d hd

namespace Meaning

open Linked

/-- The surroundings of a library that was linked after a session, for primitive functions of some
kind. -/
def surroundings (P : Function → Prop) (m : Module) (t : Session Kernel) (lib : Library) :
    Surroundings :=
  .ofCaptured (PrimJudgement.on (Packs t.registry) P) (Known m t) lib.source.params
    lib.image.Declares

section

variable {P : Function → Prop} {m : Module} {f : Function} {kernels : Registry Kernel}
  {t : Session Kernel} {emitted : Emitted} {sig : Signature} {device : DeviceId} {host : Host}
  {lib : Library} (lowers : m.Lowers f kernels t emitted)
  (links : lib.Links sig device host emitted.registry emitted.program emitted.entry emitted.source)

include lowers links

/-- The entry function is compiled into the function that the library holds under its name. -/
theorem entry_compiled (declared : f.toExpr.Declared sig) (used : ∀ q ∈ f.toExpr.primitives, P q) :
    ∃ k, lib.image.global? emitted.program.name =
        some ⟨emitted.program.name, f.params.length, .routine k⟩ ∧
      CompiledFunction (surroundings P m t lib) f k := by
  obtain ⟨k, linked, found⟩ := links.held.global
  refine ⟨k, lowers.entry.params_eq ▸ found, ?_⟩
  rw [← links.same] at linked
  exact ((lowers.entry.on used).compiled linked fun c hc =>
    links.ctors _ (lowers.recorded.1 c hc) c (declared c hc)).1

/-- Each global that is referred to is compiled into the function that the library holds under its
name. -/
theorem global_compiled
    (declared : ∀ id f, m.function? id = some f → f.toExpr.Declared sig)
    (uses : ∀ id f, m.function? id = some f → ∀ q ∈ f.toExpr.primitives, P q) {g : GlobalRef}
    (known : Known m t g) :
    ∃ id f' k, m.lookup g.name = some id ∧ m.function? id = some f' ∧
      lib.image.global? g.name = some ⟨g.name, f'.params.length, .routine k⟩ ∧
      CompiledFunction (surroundings P m t lib) f' k := by
  obtain ⟨id, hl, active | finished⟩ := known
  · rw [lowers.idle] at active
    cases active
  · obtain ⟨p, hp, rfl⟩ := List.mem_map.mp finished
    obtain ⟨f', hf', translates⟩ := lowers.table.finished p hp
    have name := Module.name_of_lookup hl
    have listed : ⟨p.1, g.name, p.2⟩ ∈ emitted.program.globals := by
      rw [lowers.globals]
      refine List.mem_map.mpr ⟨p, hp, ?_⟩
      rw [name, Option.getD_some]
    obtain ⟨k, linked, found⟩ := (links.globals _ listed).global
    refine ⟨p.1, f', k, hl, hf', translates.params_eq ▸ found, ?_⟩
    rw [← links.same] at linked
    exact ((translates.on (uses _ f' hf')).compiled linked fun c hc =>
      links.ctors _ (lowers.recorded.2 p hp f' hf' c hc) c (declared _ f' hf' c hc)).1

/-- A library provides what its program asks for, with the servers of its kernels. -/
theorem library_provides {server : Function → Function}
    (runs : emitted.registry.RunsServers P server) (wf : m.WellFormed sig P) {name : String}
    {sent : List HostMade}
    (params : EntryPoint.sendParams name lib.image.device 0 lib.source.params = .ok sent) :
    Provides ⟨m, device, host, server⟩ (surroundings P m t lib) lib.image
      (Value.mapAll Code.ofHost sent) := by
  refine ⟨links.host.symm, ?_, ?_, ?_, ?_⟩
  · rintro f types form ⟨packs, hP⟩ xs
    have same : lib.image.kernels = t.registry := links.kernels.trans lowers.registry
    exact packedCall_eq (links.kernels ▸ runs) links.device.symm hP (same ▸ packs) xs
  · intro c i place
    obtain ⟨inside, same, -⟩ := List.findIdx?_eq_some_iff_getElem.mp place
    obtain ⟨-, found⟩ := EntryPoint.sendParams_spec params
    obtain ⟨t, tensor, there⟩ := found i c
      (List.getElem?_eq_some_iff.mpr ⟨inside, eq_of_beq same⟩)
    refine ⟨⟨device, some t⟩, ?_, ?_⟩
    · rw [SourceProgram.constant, tensor]
    · have nonneg : ¬ ((i : Int) < 0) := by omega
      rw [Value.mapAll_eq_map, capturedParam]
      simp [nonneg, there, Value.map, links.device]
  · intro g known
    obtain ⟨id, f', k, hl, hf', found, compiled⟩ :=
      global_compiled lowers links (fun _ _ h => (wf.function h).declared)
        (fun _ _ h => (wf.function h).primitives) known
    refine ⟨f', k, ?_, found, compiled, (wf.function hf').toLexical⟩
    rw [SourceProgram.function?, hl]
    exact hf'
  · intro c declared xs count
    rw [Value.construct, declared]
    simp [count]

end

end Meaning
end TensorCompiler
