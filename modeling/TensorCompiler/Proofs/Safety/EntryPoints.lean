import TensorCompiler.Compile.EntryPoint
import TensorCompiler.Proofs.Meaning.Preservation
import TensorCompiler.Proofs.Safety.Silence

/-!
# Entry points never blame the linker

An entry point is called again and again. A call may be given function values that earlier calls
returned; these still read and write the frames of the calls that made them.

Main statement: in every sequence of calls, for all inputs and every depth, a call sounds no alarm,
and an error that blames the linker is one that a function of the host reported. The constructors
have to be those that their data types declare, and the host calls and hands out a function value
only under the arity that it came with.

## Implementation notes

A run stops at the first error of the program that blames the linker, so none is hidden by a
function of the host that goes on after it. What a function of the host itself reports is told
apart; in words it may be any report.
-/

namespace TensorCompiler

open Linked Lowering Safety

/-! ### Sound ground -/

/-- An entry expression whose constructors are declared has such an entry function. -/
theorem Module.entryFunction_declared {m : Module} {e : Expr} {f : Function}
    (h : m.entryFunction e = .ok f) {sig : Signature} (declared : e.Declared sig) :
    f.toExpr.Declared sig := by
  unfold entryFunction at h
  split at h
  · cases h
    exact declared
  · split at h
    · cases h
    · cases h
      intro c hc
      simp only [Function.toExpr, Expr.ctors, Bool.false_eq_true, if_false, Expr.ctorsAll_vars,
        List.append_nil] at hc
      cases hc
  · cases h

namespace Safety

variable {m : Module} {f : Function} {kernels : Registry Kernel} {t : Session Kernel}
  {emitted : Emitted} {sig : Signature} {device : DeviceId} {host : Host} {lib : Library}

/-- The ground that a library gives its functions: the globals that were lowered, and the entry
function. -/
def libraryGround (m : Module) (t : Session Kernel) (lib : Library) (entry : String)
    (sent : List HostMade) : Ground where
  image := lib.image
  captured := Value.mapAll Code.ofHost sent
  known name := name = entry ∨ ∃ g, Known m t g ∧ g.name = name

/-- Functions that the host passes are sound. -/
theorem soundValues_ofHost (G : Ground) (xs : List HostMade) :
    SoundValues G (Value.mapAll Code.ofHost xs) := by
  intro f hf
  rw [Value.funcsAll_mapAll] at hf
  obtain ⟨g, -, rfl⟩ := List.mem_map.mp hf
  exact .host nofun

section

variable (lowers : m.Lowers f kernels t emitted)
  (links : lib.Links sig device host emitted.registry emitted.program emitted.entry emitted.source)
  (native : emitted.registry.Native fun _ => True)

include lowers links native

/-- A library offers what its functions were compiled for. -/
theorem library_offers (entry : String) {sent : List HostMade}
    (count : sent.length = lib.source.params.length) :
    Safety.Offers (libraryGround m t lib entry sent)
      (Meaning.surroundings (fun _ => True) m t lib) := by
  have kernels : lib.image.kernels = t.registry := links.kernels.trans lowers.registry
  refine ⟨?_, ?_, fun c hc => hc, ?_, ?_⟩
  · exact fun g known => Or.inr ⟨g, known, rfl⟩
  · intro c i place
    obtain ⟨inside, -⟩ := List.findIdx?_eq_some_iff_getElem.mp place
    simpa [libraryGround, Value.mapAll_eq_map, count] using inside
  · rintro f tys form ⟨⟨site, fp, e, hf, found, encoding, name, arity, conv⟩, -⟩
    obtain ⟨g, -, -, compiled⟩ :=
      native.of_find? hf (lowers.registry ▸ found) encoding
    have named : form.kernel = fp.kernelName := name.symm.trans (Kernel.name_of_compile compiled)
    refine ⟨e.kernel, ?_, arity⟩
    simp only [libraryGround, kernels, Registry.lookup, named, found, Option.map_some]
  · rintro f tys form ⟨⟨site, fp, e, hf, found, encoding, name, arity, conv⟩, -⟩ flat
    unfold convention at conv
    split at conv
    · split at conv
      · cases conv
      · have spread := congrArg Prod.fst (Except.ok.inj conv)
        rw [flat] at spread
        cases spread
    · split at conv
      · cases conv
      · split at conv
        · rename_i same
          rw [same]
          exact congrArg Prod.snd (Except.ok.inj conv)
        · cases conv

/-- The ground of a library is sound. -/
theorem library_sound (respects : host.Respects) (entry : f.toExpr.Declared sig)
    (declared : m.Declared sig) {sent : List HostMade}
    (count : sent.length = lib.source.params.length) :
    (libraryGround m t lib emitted.program.name sent).Sound := by
  have offers := library_offers lowers links native emitted.program.name count
  refine ⟨soundValues_ofHost _ sent, ?_, ?_⟩
  · rintro name (rfl | ⟨g, known, rfl⟩)
    · obtain ⟨k, found, compiled⟩ :=
        Meaning.entry_compiled lowers links entry fun _ _ => trivial
      obtain ⟨sound, params⟩ := sound_of_compiledFunction offers compiled
      exact ⟨k, params ▸ found, sound⟩
    · obtain ⟨-, f', k, -, -, found, compiled⟩ := Meaning.global_compiled lowers links
        (fun _ _ h => Module.forall_function declared h) (fun _ _ _ _ _ => trivial) known
      obtain ⟨sound, params⟩ := sound_of_compiledFunction offers compiled
      exact ⟨k, params ▸ found, sound⟩
  · rw [show (libraryGround m t lib emitted.program.name sent).image.host = host from links.host]
    exact respects

end

end Safety

/-! ### Sequences of calls -/

/-- The errors of a symbol that blame the linker. -/
def SymbolError.isLinking : SymbolError → Bool
  | .unknown _ | .argCount _ _ _ _ => true
  | .run e => e.isLinking

/-- The errors of an entry point that blame the linker. -/
def EntryError.isLinking : EntryError → Bool
  | .run _ e => e.isLinking
  | _ => false

namespace EntryPoint

/-- The captured parameters as the program sees them. -/
def captured (e : EntryPoint) : List (Value Code) :=
  Value.mapAll Code.ofHost (e.buffer.take e.params)

/-- The entry point after several calls. -/
def after (e : EntryPoint) (calls : List (Nat × List (HostArg HostFunction))) : EntryPoint :=
  calls.foldl (fun e c => (e.call c.1 c.2).2) e

/-- Function values that the host can pass: those it has seen, under the arity that they have, and
its own with such values that they keep. -/
inductive Passed (seen : List (String × Int × Code)) : Int → Code → Prop
  | seen {name arity code} (member : (name, arity, code) ∈ seen) : Passed seen arity code
  | host {arity h kept} (keeps : ∀ f ∈ Value.funcsAll kept, Passed seen f.2.1 f.2.2) :
      Passed seen arity (.host h kept)

/-- Inputs that the host can pass. -/
def Passes (seen : List (String × Int × Code)) (xs : List (Value Code)) : Prop :=
  ∀ f ∈ Value.funcsAll xs, Passed seen f.2.1 f.2.2

/-- The host can pass values that it makes. -/
theorem passes_ofHost (seen : List (String × Int × Code)) (xs : List HostMade) :
    Passes seen (Value.mapAll Code.ofHost xs) := by
  intro f hf
  rw [Value.funcsAll_mapAll] at hf
  obtain ⟨g, -, rfl⟩ := List.mem_map.mp hf
  exact .host nofun

/-- A conversation of a host with an entry point: the frames that its calls left, and the function
values that they returned. -/
inductive Talk (e : EntryPoint) : Frames → List (String × Int × Code) → Prop
  | start : Talk e #[] []
  | call {fs fs' seen out} (before : Talk e fs seen) (fuel : Nat) (xs : List (Value Code))
      (count : xs.length = e.inputs) (passes : Passes seen xs)
      (run : (e.library.run fuel e.name e.captured xs).run fs = (out, fs')) :
      Talk e fs' ((out.toOption.map Value.funcs).getD [] ++ seen)

/-- What a new entry point holds. -/
structure Made (e : EntryPoint) (lib : Library) (name : String) (sent : List HostMade) : Prop where
  library : e.library = lib
  name : e.name = name
  params : e.params = lib.source.params.length
  inputs : e.inputs = lib.source.inputs
  captured : e.captured = Value.mapAll Code.ofHost sent
  count : sent.length = lib.source.params.length
  complete : e.buffer.length = e.params + e.inputs

/-- A new entry point holds its program and the captured parameters. -/
theorem make_spec {lib : Library} {name : String} {observer : Observer} {e : EntryPoint}
    (h : make lib name observer = .ok e) : ∃ sent, e.Made lib name sent := by
  obtain ⟨sent, params, h⟩ := ok_of_bind_ok h
  cases h
  obtain ⟨count, -⟩ := sendParams_spec params
  refine ⟨sent, rfl, rfl, rfl, rfl, ?_, count, ?_⟩
  · simp only [captured, List.take_left' count]
  · simp only [List.length_append, List.length_replicate, count]

/-- An entry point that has the same program and the same captured parameters as another one. -/
structure Continues (e e' : EntryPoint) : Prop where
  library : e'.library = e.library
  name : e'.name = e.name
  params : e'.params = e.params
  inputs : e'.inputs = e.inputs
  length : e'.buffer.length = e.buffer.length
  front : e'.buffer.take e'.params = e.buffer.take e.params

/-- Inputs are written behind the captured parameters. -/
theorem writeInputs_spec {φ : Type} (device : DeviceId) (base : Nat) (args : List (HostArg φ))
    (index : Nat) (buffer : List (Value φ)) :
    let buffer' := (writeInputs device base index buffer args).2
    buffer'.length = buffer.length ∧ buffer'.take base = buffer.take base := by
  induction args generalizing index buffer with
  | nil => exact ⟨rfl, rfl⟩
  | cons a args ih =>
      rw [writeInputs]
      split
      · exact ⟨rfl, rfl⟩
      · rename_i v _
        obtain ⟨length, front⟩ := ih (index + 1) (buffer.set (base + index) v)
        refine ⟨length.trans (List.length_set ..), front.trans ?_⟩
        rw [List.take_set_of_le (Nat.le_add_right ..)]

/-- A call changes the inputs in the buffer. -/
theorem continues_call (e : EntryPoint) (fuel : Nat) (args : List (HostArg HostFunction)) :
    e.Continues (e.call fuel args).2 := by
  obtain ⟨length, front⟩ := writeInputs_spec e.library.image.device e.params args 0 e.buffer
  unfold call
  split
  · exact ⟨rfl, rfl, rfl, rfl, rfl, rfl⟩
  · split
    · rename_i written
      rw [written] at length front
      exact ⟨rfl, rfl, rfl, rfl, length, front⟩
    · rename_i written
      rw [written] at length front
      exact ⟨rfl, rfl, rfl, rfl, length, front⟩

/-- So do several calls. -/
theorem continues_after (e : EntryPoint) (calls : List (Nat × List (HostArg HostFunction))) :
    e.Continues (e.after calls) := by
  induction calls generalizing e with
  | nil => exact ⟨rfl, rfl, rfl, rfl, rfl, rfl⟩
  | cons c calls ih =>
      have first := e.continues_call c.1 c.2
      have rest := ih (e.call c.1 c.2).2
      exact ⟨rest.library.trans first.library, rest.name.trans first.name,
        rest.params.trans first.params, rest.inputs.trans first.inputs,
        rest.length.trans first.length, rest.front.trans first.front⟩

/-- What the host passes is sound if what it has seen is. -/
theorem Passed.sound {G : Ground} {seen : List (String × Int × Code)}
    (returned : ∀ f ∈ seen, SoundFunc G f.2.1 f.2.2) {arity : Int} {code : Code}
    (passed : Passed seen arity code) : SoundFunc G arity code := by
  induction passed with
  | seen member => exact returned _ member
  | host _ ih => exact .host ih

section

variable {e : EntryPoint} {G : Ground} (ground : G.Sound) (image : G.image = e.library.image)
  (captured : G.captured = e.captured) (known : G.known e.name)

include ground image captured known

/-- A call on sound ground is silent, and keeps the frames sound. -/
theorem call_silent {seen : List (String × Int × Code)}
    (returned : ∀ f ∈ seen, SoundFunc G f.2.1 f.2.2)
    {xs : List (Value Code)} (passes : Passes seen xs) (fuel : Nat) :
    Watched.Silent (SoundFrames G)
      (Watched.run e.library.image fuel e.name e.captured xs)
      (e.library.run fuel e.name e.captured xs) (SoundValue G) := by
  have values : SoundValues G xs := fun f hf => (passes f hf).sound returned
  have silent := run_silent ground known fuel values
  rw [image, captured] at silent
  exact silent

/-- In a conversation on sound ground the frames and all functions returned are sound. -/
theorem Talk.sound {fs : Frames} {seen : List (String × Int × Code)} (talk : e.Talk fs seen) :
    SoundFrames G fs ∧ ∀ f ∈ seen, SoundFunc G f.2.1 f.2.2 := by
  induction talk with
  | start => exact ⟨soundFrames_empty, nofun⟩
  | @call fs fs' seen out before fuel xs count passes run ih =>
      obtain ⟨frames, returned⟩ := ih
      obtain ⟨tells, -, kept⟩ :=
        call_silent ground image captured known returned passes fuel fs frames
      rw [run] at tells kept
      generalize (ExceptT.run (Watched.run _ _ _ _ _) fs).1 = watched at tells
      refine ⟨kept, ?_⟩
      intro f hf
      rcases List.mem_append.mp hf with new | old
      · cases tells with
        | value sound => exact sound f new
        | report | host => cases new
      · exact returned f old

/-- In a conversation on sound ground every call is silent. -/
theorem Talk.silent {fs : Frames} {seen : List (String × Int × Code)} (talk : e.Talk fs seen)
    {xs : List (Value Code)} (passes : Passes seen xs) (fuel : Nat) :
    Watched.Tells (fun _ => True)
      ((Watched.run e.library.image fuel e.name e.captured xs).run fs).1
      ((e.library.run fuel e.name e.captured xs).run fs).1 := by
  obtain ⟨frames, returned⟩ := talk.sound ground image captured known
  obtain ⟨tells, -⟩ := call_silent ground image captured known returned passes fuel fs frames
  exact tells.mono fun _ _ => trivial

end

/-- The program of a new entry point has its symbol, with the arguments that it takes. -/
theorem Made.arity {m : Module} {f : Function} {kernels : Registry Kernel} {t : Session Kernel}
    {emitted : Emitted} (lowers : m.Lowers f kernels t emitted) {sig : Signature}
    {device : DeviceId} {host : Host} {lib : Library}
    (links : lib.Links sig device host emitted.registry emitted.program emitted.entry
      emitted.source) {e : EntryPoint} {name : String} {sent : List HostMade}
    (hold : e.Made lib name sent) (named : emitted.program.name = name) :
    e.library.arity? e.name = some e.inputs := by
  obtain ⟨r, inv, inventory, -, -, inputs⟩ := Program.inventory_of_emit lowers.emit
  have same : some emitted.entry = some r :=
    lowers.program.symm.trans (Program.entry_of_inventory inventory)
  rw [hold.library, hold.name, hold.inputs, links.same, inputs, ← Option.some.inj same, ← named]
  exact links.held.arity

/-- The answer of an entry point comes from a run of its program on the inputs in the buffer, if the
buffer is complete and the program has the entry symbol. -/
theorem error_of_call {e : EntryPoint}
    (arity : e.library.arity? e.name = some e.inputs)
    (params : e.library.source.params.length = e.params)
    (complete : e.buffer.length = e.params + e.inputs) {fuel : Nat}
    {args : List (HostArg HostFunction)} {error : EntryError}
    (failed : (e.call fuel args).1 = .error error) (blames : error.isLinking = true) :
    ∃ (xs : List HostMade) (re : RunError), xs.length = e.inputs ∧ error = .run e.name (.run re) ∧
      ((e.library.run fuel e.name e.captured (Value.mapAll Code.ofHost xs)).run #[]).1 =
        .error re := by
  obtain ⟨length, front⟩ := writeInputs_spec e.library.image.device e.params args 0 e.buffer
  unfold call at failed
  split at failed
  · cases failed
    cases blames
  · split at failed
    · cases failed
      cases blames
    · rename_i buffer written
      rw [written] at length front
      simp only at length front failed
      have right : buffer.length = e.library.source.params.length + e.inputs := by omega
      unfold runBuffer Library.call at failed
      rw [arity] at failed
      simp only [right, ne_eq, not_true_eq_false, if_false, Value.mapAll_eq_map, ← List.map_take,
        ← List.map_drop, params, front] at failed
      refine ⟨buffer.drop e.params, ?_⟩
      rw [captured, Value.mapAll_eq_map, Value.mapAll_eq_map]
      rcases hrun : (e.library.run fuel e.name
        ((e.buffer.take e.params).map (Value.map Code.ofHost))
        ((buffer.drop e.params).map (Value.map Code.ofHost))).run #[] with ⟨re | v, fs⟩
      · rw [hrun] at failed
        cases failed
        exact ⟨re, by rw [List.length_drop]; omega, rfl, rfl⟩
      · rw [hrun] at failed
        simp only at failed
        split at failed
        · cases failed
          cases blames
        · cases failed

/-- A compiled program with declared constructors never blames the linker, if its host respects
arities. In every conversation a call is silent: a watched run of it sounds no alarm and tells just
what the call comes to. And whatever an entry point was called with before, an error that blames the
linker is one that a function of the host reported. -/
theorem calls_never_blame_linker {m : Module} {expr : Expr} {name : String} {target : Target}
    {kernels : Registry Kernel} (native : kernels.Native fun _ => True) {emitted : Emitted}
    (lowered : m.emitEntry expr name target kernels = .ok emitted) {sig : Signature}
    {device : DeviceId} {host : Host} (respects : host.Respects) {lib : Library}
    (linked : Library.link sig device host (some emitted.registry) emitted.program emitted.entry
      emitted.source = .ok lib) {observer : Observer} {e : EntryPoint}
    (made : make lib name observer = .ok e) (entry : expr.Declared sig)
    (declared : m.Declared sig) :
    (∀ fs seen, e.Talk fs seen → ∀ fuel xs, xs.length = e.inputs → Passes seen xs →
      Watched.Tells (fun _ => True)
        ((Watched.run lib.image fuel name e.captured xs).run fs).1
        ((lib.run fuel name e.captured xs).run fs).1) ∧
    ∀ earlier fuel args error, ((e.after earlier).call fuel args).1 = .error error →
      error.isLinking = true →
      ∃ (xs : List HostMade) (re : RunError), xs.length = e.inputs ∧
        error = .run name (.run re) ∧
        ((Watched.run lib.image fuel name e.captured (Value.mapAll Code.ofHost xs)).run #[]).1 =
          .error (.host re) := by
  obtain ⟨f, hf⟩ := Module.exists_entryFunction lowered
  obtain ⟨named, t, lowers⟩ := Module.lowers_of_emitEntry lowered hf
  have added := lowers.native native (fun _ _ => trivial) fun _ _ _ _ _ => trivial
  have links := Library.link_spec linked
  obtain ⟨sent, hold⟩ := make_spec made
  have ground := library_sound lowers links added respects
    (Module.entryFunction_declared hf entry) declared hold.count
  have known : (libraryGround m t lib emitted.program.name sent).known e.name :=
    Or.inl (hold.name.trans named.symm)
  have silent {fs : Frames} {seen : List (String × Int × Code)} (talk : e.Talk fs seen)
      (xs : List (Value Code)) (passes : Passes seen xs) (fuel : Nat) :
      Watched.Tells (fun _ => True)
        ((Watched.run lib.image fuel name e.captured xs).run fs).1
        ((lib.run fuel name e.captured xs).run fs).1 := by
    have image : (libraryGround m t lib emitted.program.name sent).image = e.library.image :=
      hold.library ▸ rfl
    have tells := talk.silent ground image hold.captured.symm known passes fuel
    rwa [hold.library, hold.name] at tells
  refine ⟨fun fs seen talk fuel xs _ passes => silent talk xs passes fuel, ?_⟩
  intro earlier fuel args error failed blames
  have same := e.continues_after earlier
  have captured : (e.after earlier).captured = e.captured :=
    congrArg (Value.mapAll Code.ofHost) same.front
  have arity : (e.after earlier).library.arity? (e.after earlier).name =
      some (e.after earlier).inputs := by
    rw [same.library, same.name, same.inputs]
    exact Made.arity lowers links hold named
  obtain ⟨xs, re, count, rfl, ran⟩ := error_of_call arity
    (by rw [same.library, same.params, hold.library, hold.params])
    (by rw [same.length, same.params, same.inputs, hold.complete]) failed blames
  rw [same.inputs] at count
  rw [same.library, same.name, captured, hold.library, hold.name] at ran
  have tells := silent .start (Value.mapAll Code.ofHost xs) (passes_ofHost [] xs) fuel
  rw [ran] at tells
  refine ⟨xs, re, count, by rw [same.name, hold.name], ?_⟩
  exact tells.eq_host blames

/-! ### A conversation -/

/-- An entry function of a function and a number: it doubles what the function makes of the number,
and returns this with a function that does so for any number. -/
def doubler : Function :=
  let number : Ty := .scalar .int32
  let f : Var := ⟨0, "f", .func [number] number⟩
  let x : Var := ⟨1, "x", number⟩
  let y : Var := ⟨2, "y", number⟩
  let doubled (v : Var) : Expr :=
    .call (.global ⟨"double", Meaning.double.ty⟩) [.call (.var f) [.var v] number] number
  ⟨[f, x], .tuple [doubled x, .fn [y] (doubled y) number false] .unknown, .unknown, false⟩

/-- The function returned by one call is passed to the next one, which runs silently and doubles
twice. -/
theorem doubler_silent :
    let m : Module := ⟨"doubling", [⟨"double", some Meaning.double⟩]⟩
    let five : Value Code := .tensor ⟨0, some (.ofElements ⟨.int32, [5]⟩ [])⟩
    ∃ emitted lib e,
      m.emitEntry doubler.toExpr "doubler" ⟨"", "", none⟩ = .ok emitted ∧
      Library.link [] 0 .plain (some emitted.registry) emitted.program emitted.entry
        emitted.source = .ok lib ∧
      make lib "doubler" (fun _ => none) = .ok e ∧
      ∃ fs name arity code, e.Talk fs [(name, arity, code)] ∧
        let run := (lib.run 4 "doubler" e.captured [.func name arity code, five]).run fs
        run.1.toOption.map Value.text = some "(int32(20), func func/1)" ∧
        Watched.Tells (fun _ => True)
          ((Watched.run lib.image 4 "doubler" e.captured [.func name arity code, five]).run fs).1
          run.1 := by
  intro m five
  let first : Value Code := .func "first" 1 (.ofHost ⟨"first"⟩)
  have ran : ((m.emitEntry doubler.toExpr "doubler" ⟨"", "", none⟩).toOption.bind
      fun emitted => (Library.link [] 0 .plain (some emitted.registry) emitted.program emitted.entry
        emitted.source).toOption.bind
      fun lib => (make lib "doubler" fun _ => none).toOption.bind
      fun e =>
        let once := (lib.run 4 "doubler" e.captured [first, five]).run #[]
        once.1.toOption.bind fun v => v.funcs.head?.bind fun g =>
          ((lib.run 4 "doubler" e.captured [.func g.1 g.2.1 g.2.2, five]).run
            once.2).1.toOption.map fun out => (e.inputs, v.funcs.length, out.text)) =
        some (2, 1, "(int32(20), func func/1)") := by
    decide +kernel
  obtain ⟨emitted, lowered, ran⟩ := Option.bind_eq_some_iff.mp ran
  obtain ⟨lib, linked, ran⟩ := Option.bind_eq_some_iff.mp ran
  obtain ⟨e, made, ran⟩ := Option.bind_eq_some_iff.mp ran
  obtain ⟨v, once, ran⟩ := Option.bind_eq_some_iff.mp ran
  obtain ⟨⟨name, arity, code⟩, head, ran⟩ := Option.bind_eq_some_iff.mp ran
  obtain ⟨out, twice, shown⟩ := Option.map_eq_some_iff.mp ran
  simp only [Prod.mk.injEq] at shown
  obtain ⟨inputs, single, text⟩ := shown
  have returned : v.funcs = [(name, arity, code)] := by
    obtain ⟨g, hg⟩ := List.length_eq_one_iff.mp single
    rw [hg] at head ⊢
    cases head
    rfl
  obtain ⟨sent, hold⟩ := make_spec (ok_of_toOption made)
  have passes : Passes [] [first, five] := by
    intro g hg
    obtain rfl := List.mem_singleton.mp hg
    exact .host fun _ member => absurd member List.not_mem_nil
  have talk : e.Talk ((lib.run 4 "doubler" e.captured [first, five]).run #[]).2
      [(name, arity, code)] := by
    have run : (e.library.run 4 e.name e.captured [first, five]).run #[] =
        (.ok v, ((lib.run 4 "doubler" e.captured [first, five]).run #[]).2) := by
      rw [hold.library, hold.name]
      exact Prod.ext (ok_of_toOption once) rfl
    have next := Talk.call .start 4 [first, five] inputs.symm passes run
    simpa [Except.toOption, returned] using next
  have declared : m.Declared [] := by
    intro d hd f hf
    obtain rfl := List.mem_singleton.mp hd
    obtain rfl := Option.some.inj hf
    exact fun _ member => absurd member List.not_mem_nil
  have entry : doubler.toExpr.Declared [] := fun _ member => absurd member List.not_mem_nil
  have never := (calls_never_blame_linker Registry.native_empty (ok_of_toOption lowered)
    Host.plain_respects (ok_of_toOption linked) (ok_of_toOption made) entry declared).1
  refine ⟨emitted, lib, e, ok_of_toOption lowered, ok_of_toOption linked, ok_of_toOption made, _,
    name, arity, code, talk, ?_, never _ _ talk 4 _ inputs.symm ?_⟩
  · rw [twice, Option.map_some, text]
  · intro g hg
    obtain rfl := List.mem_singleton.mp hg
    exact .seen (List.mem_singleton.mpr rfl)

/-! ### What the conditions exclude -/

/-- An entry function that is accepted and linked, but a call of it fails and blames the linker. -/
def Blames (sig : Signature) (host : Host) (f : Function) (args : List (HostArg HostFunction)) :
    Prop :=
  ∃ emitted lib e error,
    Module.emitEntry ⟨"m", []⟩ f.toExpr "main" ⟨"", "", none⟩ = .ok emitted ∧
    Library.link sig 0 host (some emitted.registry) emitted.program emitted.entry emitted.source =
      .ok lib ∧
    make lib "main" (fun _ => none) = .ok e ∧ (e.call 4 args).1 = .error error ∧
    error.isLinking = true

/-- A call that is run. -/
theorem blames_of_call {sig : Signature} {host : Host} {f : Function}
    {args : List (HostArg HostFunction)}
    (ran : ((Module.emitEntry ⟨"m", []⟩ f.toExpr "main" ⟨"", "", none⟩).toOption.bind
      fun emitted => (Library.link sig 0 host (some emitted.registry) emitted.program emitted.entry
        emitted.source).toOption.bind
      fun lib => (make lib "main" fun _ => none).toOption.map
      fun e => match (e.call 4 args).1 with
        | .ok _ => false
        | .error error => error.isLinking) = some true) :
    Blames sig host f args := by
  obtain ⟨emitted, lowered, ran⟩ := Option.bind_eq_some_iff.mp ran
  obtain ⟨lib, linked, ran⟩ := Option.bind_eq_some_iff.mp ran
  obtain ⟨e, made, ran⟩ := Option.map_eq_some_iff.mp ran
  split at ran
  · cases ran
  · rename_i error failed
    exact ⟨emitted, lib, e, error, ok_of_toOption lowered, ok_of_toOption linked,
      ok_of_toOption made, failed, ran⟩

/-- A host whose functions call what they are given without arguments, and without a check of their
number. -/
def careless : Host where
  call _ _ _ := .call (.func "f" (-1) (.known 0)) [] fun out => .answer (out.map (·.map .known))
  serve _ _ _ := .answer (.ok .absent)

/-- A host whose functions report a global that is not there. -/
def missing : Host where
  call _ _ _ := .answer (.error (.undefinedGlobal "missing"))
  serve _ _ _ := .answer (.ok .absent)

/-- An entry function of a function, which is called with a local function. -/
def lending : Function :=
  let number : Ty := .scalar .int32
  let lent : Ty := .func [number] number
  let f : Var := ⟨0, "f", .func [lent] number⟩
  let y : Var := ⟨1, "y", number⟩
  ⟨[f], .call (.var f) [.fn [y] (.var y) number false] number, number, false⟩

/-- A constructor that its data type does not declare is compiled, and unknown when it is applied.
A host may call a function without the arguments it takes, so that a parameter is read behind the
end of the arguments; and what a function of the host reports may be that a global is missing. -/
theorem strays_and_hosts_blame :
    Blames [⟨Meaning.boxType, [Meaning.boxCtor]⟩] .plain Meaning.strayBox [] ∧
      Blames [] careless lending [.value (.func "f" 1 ⟨"f"⟩)] ∧
      Blames [] missing lending [.value (.func "f" 1 ⟨"f"⟩)] := by
  refine ⟨?_, ?_, ?_⟩
  · exact blames_of_call (by decide +kernel)
  · exact blames_of_call (by decide +kernel)
  · exact blames_of_call (by decide +kernel)

end EntryPoint

end TensorCompiler
