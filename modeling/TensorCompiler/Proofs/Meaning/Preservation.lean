import TensorCompiler.Proofs.Meaning.Compilation
import TensorCompiler.Proofs.Text.Delimited

/-!
# Compilation preserves meaning

An entry expression is lowered and emitted, its program is linked in this process and wrapped into
an entry point.

Main statement: on all inputs and for every depth of calls the entry symbol of the library has the
outcome of the entry function, evaluated in the source, where a primitive function may be served by
the kernel of another one with its encoding.

## Implementation notes

Variables have to be lexical. A linked program keeps the variables of a function in one frame, and
only if none is bound twice the frame shows what the environment of the source holds.
-/

namespace TensorCompiler

/-! ### Entry functions -/

/-- The names of numbered parameters carry their numbers. -/
theorem name_of_mem_numberedParams {key : Nat} {stem : String} {ts : List Ty} {i : Nat} {v : Var}
    (h : v ∈ numberedParams key stem i ts) : ∃ j, i ≤ j ∧ v.name = stem ++ Text.ofNat j := by
  induction ts generalizing i with
  | nil => cases h
  | cons t ts ih =>
      rcases List.mem_cons.mp h with rfl | h
      · exact ⟨i, Nat.le_refl i, rfl⟩
      · obtain ⟨j, le, name⟩ := ih h
        exact ⟨j, Nat.le_of_succ_le le, name⟩

/-- Numbered parameters are distinct. -/
theorem nodup_numberedParams (key : Nat) (stem : String) (ts : List Ty) (i : Nat) :
    (numberedParams key stem i ts).Nodup := by
  induction ts generalizing i with
  | nil => exact List.nodup_nil
  | cons t ts ih =>
      refine List.nodup_cons.mpr ⟨?_, ih (i + 1)⟩
      intro member
      obtain ⟨j, lt, name⟩ := name_of_mem_numberedParams member
      have texts := congrArg String.toList name
      simp only [String.toList_append, List.append_cancel_left_eq] at texts
      have same := Text.ofNat_inj texts
      omega

namespace Expr

theorem boundAll_vars (vs : List Var) : boundAll (vs.map Expr.var) = [] := by
  induction vs with
  | nil => rfl
  | cons v vs ih => exact ih

theorem ctorsAll_vars (vs : List Var) : ctorsAll (vs.map Expr.var) = [] := by
  induction vs with
  | nil => rfl
  | cons v vs ih => exact ih

theorem primitives_vars (vs : List Var) :
    (partsAll (vs.map Expr.var)).filterMap (fun x => x.primitiveUse?.map Prod.fst) = [] := by
  induction vs with
  | nil => rfl
  | cons v vs ih => exact ih

theorem primitives_forward (vs : List Var) (g : GlobalRef) (ty ret : Ty) :
    (Function.toExpr ⟨vs, .call (.global g) (vs.map .var) ty, ret, false⟩).primitives = [] :=
  primitives_vars vs

theorem areScoped_vars {vs ws : List Var} (h : vs ⊆ ws) :
    areScoped ws (vs.map Expr.var) = true := by
  induction vs with
  | nil => rfl
  | cons v vs ih =>
      simp only [List.map_cons, areScoped, isScoped, Bool.and_eq_true]
      exact ⟨List.contains_iff_mem.mpr (h List.mem_cons_self),
        ih fun w hw => h (List.mem_cons_of_mem v hw)⟩

end Expr

/-- The entry function of a well-formed expression is well-formed: it is the expression, or it hands
its parameters to a global. -/
theorem Module.entryFunction_wellFormed {m : Module} {e : Expr} {f : Function}
    (h : m.entryFunction e = .ok f) {sig : Signature} {P : Function → Prop}
    (wf : e.WellFormed sig P) : f.toExpr.WellFormed sig P := by
  unfold entryFunction at h
  split at h
  · cases h
    exact wf
  · split at h
    · cases h
    · cases h
      refine ⟨⟨?_, ?_⟩, ?_, ?_⟩
      · simp only [Function.toExpr, Expr.bound, Bool.false_eq_true, if_false,
          Expr.boundAll_vars, List.append_nil]
        exact nodup_numberedParams ..
      · simp only [Function.toExpr, Expr.isScoped, Expr.isPrimitive, Bool.false_eq_true, if_false,
          Bool.false_or, Bool.true_and, List.append_nil]
        exact Expr.areScoped_vars fun _ => id
      · simp only [Function.toExpr, Expr.ctors, Bool.false_eq_true, if_false,
          Expr.ctorsAll_vars, List.append_nil]
        rintro _ ⟨⟩
      · intro q hq
        rw [Expr.primitives_forward] at hq
        cases hq
  · cases h

namespace Meaning

open Linked

/-! ### Calls of symbols -/

section

variable {P : Function → Prop} {m : Module} {f : Function} {kernels : Registry Kernel}
  {t : Session Kernel} {emitted : Emitted} {sig : Signature} {device : DeviceId} {host : Host}
  {lib : Library}

/-- The entry symbol has the outcome of the entry function. -/
theorem call_sameOutcome {server : Function → Function} (lowers : m.Lowers f kernels t emitted)
    (links : lib.Links sig device host emitted.registry emitted.program emitted.entry
      emitted.source)
    (runs : emitted.registry.RunsServers P server) (wfEntry : f.toExpr.WellFormed sig P)
    (wf : m.WellFormed sig P) {name : String} (named : emitted.program.name = name)
    {sent : List HostMade}
    (params : EntryPoint.sendParams name lib.image.device 0 lib.source.params = .ok sent)
    (fuel : Nat) (inputs : List HostMade) :
    SameOutcome ⟨m, device, host, server⟩ lib.image
      (SourceProgram.callEntry ⟨m, device, host, server⟩ name sent.length f fuel
        (Value.mapAll .ofHost inputs))
      (lib.call fuel name (sent ++ inputs)) := by
  subst named
  have provides := library_provides lowers links runs wf params
  obtain ⟨k, found, compiled⟩ :=
    entry_compiled lowers links wfEntry.declared wfEntry.primitives
  obtain ⟨count, -⟩ := EntryPoint.sendParams_spec params
  have arity : lib.arity? emitted.program.name = some f.params.length :=
    lowers.entry.params_eq ▸ links.held.arity
  unfold SourceProgram.callEntry Library.call
  rw [arity]
  simp only [Value.mapAll_eq_map, List.length_append, List.length_map, List.map_append, ← count]
  by_cases right : inputs.length = f.params.length
  · rw [if_neg (not_not.mpr right), if_neg (by omega)]
    rw [List.take_left' (List.length_map ..), List.drop_left' (List.length_map ..)]
    rw [Library.run_symbol found _ (by rw [List.length_map, right])]
    cases fuel with
    | zero => exact .error _
    | succ fuel =>
        have related : RealizesAll (surroundings P m t lib) (Value.mapAll Code.ofHost sent)
            (held #[]) #[] (Value.mapAll SourceCode.ofHost inputs)
            (Value.mapAll Code.ofHost inputs) := by
          refine Value.relAll_mapAll (fun h => ?_) inputs
          rw [SourceCode.ofHost, Realized]
          exact ⟨_, rfl, realizedAll_of_relAll _ _ _ _ .nil⟩
        have body := evalBody_simulated provides (calls_simulated provides fuel) compiled
          (.global (covers_held #[]) wfEntry.toLexical) wfEntry.inScope related
        simp only [← Value.mapAll_eq_map]
        exact Answers.sameOutcome (settledAgreement provides) body.answers
  · rw [if_pos right, if_pos (by omega)]
    exact .error _

end

/-- Compilation preserves meaning, also where kernels were compiled before, and leaves native
kernels for compilations to come. Constructors are those that their data types declare.

Each primitive function that is in use, now or before, has a server among those in use. On all
inputs and for every depth of calls the entry symbol has the outcome of the entry function, where a
primitive function is run by the kernel of its server. This kernel answers as its own one, but for
the names of parameters in reports, if the two functions are regular; and if the functions in use
can share kernels then each one is its own server. -/
theorem compilation_preserves_meaning {P : Function → Prop} {m : Module} {e : Expr} {name : String}
    {target : Target} {kernels : Registry Kernel} (native : kernels.Native P) {emitted : Emitted}
    (lowered : m.emitEntry e name target kernels = .ok emitted) {f : Function}
    (entry : m.entryFunction e = .ok f) {sig : Signature} (wfEntry : e.WellFormed sig P)
    (wf : m.WellFormed sig P) :
    emitted.registry.Native P ∧ ∃ server, Serves P server ∧
      ∀ {device : DeviceId} {host : Host} {lib : Library} {observer : Observer} {ep : EntryPoint},
        Library.link sig device host (some emitted.registry) emitted.program emitted.entry
          emitted.source = .ok lib →
        EntryPoint.make lib name observer = .ok ep →
        ∀ (fuel : Nat) (inputs : List HostMade),
          SameOutcome ⟨m, device, host, server⟩ lib.image
            (SourceProgram.callEntry ⟨m, device, host, server⟩ name ep.params f fuel
              (Value.mapAll .ofHost inputs))
            (lib.call fuel name (ep.buffer.take ep.params ++ inputs)) := by
  obtain ⟨named, t, lowers⟩ := Module.lowers_of_emitEntry lowered entry
  have wfFunction := Module.entryFunction_wellFormed entry wfEntry
  have added := lowers.native native wfFunction.primitives fun _ _ h => (wf.function h).primitives
  obtain ⟨server, serves, runs⟩ := added.exists_serves
  refine ⟨added, server, serves, fun {device host lib observer ep} linked made fuel inputs => ?_⟩
  obtain ⟨sent, params, made⟩ := ok_of_bind_ok made
  cases made
  obtain ⟨count, -⟩ := EntryPoint.sendParams_spec params
  have same := call_sameOutcome lowers (Library.link_spec linked) runs wfFunction wf named params
    fuel inputs
  simp only [← count, List.take_left']
  exact same

/-! ### An entry point -/

/-- A data type of one constructor with one field. -/
def boxType : DataRef := ⟨0, "Box"⟩

/-- The constructor of boxes. -/
def boxCtor : Ctor := ⟨"Box", 0, [.scalar .int32], boxType⟩

/-- A primitive function that adds its argument to itself. -/
def doubleOf (name : String) : Function :=
  let w : Var := ⟨0, name, .scalar .int32⟩
  ⟨[w], .call (.op "add") [.var w, .var w] (.scalar .int32), .scalar .int32, true⟩

theorem regular_doubleOf (name : String) : (doubleOf name).Regular :=
  ⟨by simp [doubleOf, Function.toExpr, Expr.binders, Expr.bindersAll], rfl,
    fun _ h => absurd h List.not_mem_nil⟩

/-- The one that is a global function. -/
def double : Function :=
  doubleOf "w"

/-- The one that the entry function applies in place. -/
def twin : Function :=
  doubleOf "v"

/-- An entry function that boxes its argument in a local function that captures it, and doubles what
it finds in the box twice. -/
def doubleBoxed : Function :=
  let x : Var := ⟨0, "x", .scalar .int32⟩
  let y : Var := ⟨1, "y", .scalar .int32⟩
  let f : Var := ⟨2, "f", .func [.scalar .int32] (.data boxType)⟩
  let z : Var := ⟨3, "z", .scalar .int32⟩
  let box : Expr := .fn [y] (.call (.ctor boxCtor) [.var x] (.data boxType)) (.data boxType) false
  let doubled : Expr := .call (.global ⟨"double", double.ty⟩) [.var z] (.scalar .int32)
  ⟨[x], .bind f box (.cases (.call (.var f) [.var x] (.data boxType))
    [(.ctor boxCtor [.var z], .call twin.toExpr [doubled] (.scalar .int32))]
    (.scalar .int32)), .scalar .int32, false⟩

/-- The entry function is compiled twice, the second time with the kernel of the first, which serves
both primitive functions. On five the entry symbol returns twenty as the source does. -/
theorem doubleBoxed_preserved :
    let m : Module := ⟨"doubling", [⟨"double", some double⟩]⟩
    let sig : Signature := [⟨boxType, [boxCtor]⟩]
    let five : HostMade := .tensor ⟨0, some (.ofElements ⟨.int32, [5]⟩ [])⟩
    ∃ first emitted lib ep,
      m.emitEntry doubleBoxed.toExpr "first" ⟨"", "", none⟩ = .ok first ∧
      m.emitEntry doubleBoxed.toExpr "boxed" ⟨"", "", none⟩ first.registry = .ok emitted ∧
      emitted.registry.compilations = 1 ∧
      Library.link sig 0 .plain (some emitted.registry) emitted.program emitted.entry
        emitted.source = .ok lib ∧
      EntryPoint.make lib "boxed" (fun _ => none) = .ok ep ∧
      (lib.call 3 "boxed" [five]).toOption.map (fun out => out.value.text) = some "int32(20)" ∧
      double.Regular ∧ twin.Regular ∧ ∃ server, Serves (· ∈ [double, twin]) server ∧
        SameOutcome ⟨m, 0, .plain, server⟩ lib.image
          (SourceProgram.callEntry ⟨m, 0, .plain, server⟩ "boxed" ep.params doubleBoxed 3
            (Value.mapAll .ofHost [five]))
          (lib.call 3 "boxed" (ep.buffer.take ep.params ++ [five])) := by
  intro m sig five
  have compiled : ((m.emitEntry doubleBoxed.toExpr "first" ⟨"", "", none⟩).toOption.bind
      fun first => (m.emitEntry doubleBoxed.toExpr "boxed" ⟨"", "", none⟩
        first.registry).toOption.bind
      fun emitted => (Library.link sig 0 .plain (some emitted.registry) emitted.program
        emitted.entry emitted.source).toOption.bind
      fun lib => (EntryPoint.make lib "boxed" fun _ => none).toOption.bind
      fun _ => (lib.call 3 "boxed" [five]).toOption.map fun out =>
        (emitted.registry.compilations, out.value.text)) = some (1, "int32(20)") := by
    decide +kernel
  obtain ⟨first, before, compiled⟩ := Option.bind_eq_some_iff.mp compiled
  obtain ⟨emitted, lowered, compiled⟩ := Option.bind_eq_some_iff.mp compiled
  obtain ⟨lib, linked, compiled⟩ := Option.bind_eq_some_iff.mp compiled
  obtain ⟨ep, made, compiled⟩ := Option.bind_eq_some_iff.mp compiled
  obtain ⟨out, called, shown⟩ := Option.map_eq_some_iff.mp compiled
  obtain ⟨once, text⟩ := Prod.mk.inj shown
  have entry : doubleBoxed.toExpr.WellFormed sig (· ∈ [double, twin]) :=
    ⟨⟨by decide, by decide⟩, by decide, fun f used => List.mem_cons_of_mem _ used⟩
  have globals : m.WellFormed sig (· ∈ [double, twin]) := by
    intro d hd f hf
    obtain rfl := List.mem_singleton.mp hd
    obtain rfl := Option.some.inj hf
    exact ⟨⟨by decide, by decide⟩, by decide, fun f used => List.mem_append_left [twin] used⟩
  have native : first.registry.Native (· ∈ [double, twin]) := by
    obtain ⟨-, t, lowers⟩ := Module.lowers_of_emitEntry (ok_of_toOption before) rfl
    exact lowers.native Registry.native_empty entry.primitives
      fun _ _ h => (globals.function h).primitives
  have returned : (lib.call 3 "boxed" [five]).toOption.map (fun out => out.value.text) =
      some "int32(20)" := by
    rw [called, Option.map_some, text]
  obtain ⟨-, server, serves, preserved⟩ := compilation_preserves_meaning native
    (ok_of_toOption lowered) rfl entry globals
  exact ⟨first, emitted, lib, ep, ok_of_toOption before, ok_of_toOption lowered, once,
    ok_of_toOption linked, ok_of_toOption made, returned, regular_doubleOf "w",
    regular_doubleOf "v", server, serves,
    preserved (ok_of_toOption linked) (ok_of_toOption made) 3 [five]⟩

/-! ### What the conditions exclude -/

/-- The report of an outcome. -/
def reportOf {α : Type} : Except SymbolError α → Option String
  | .ok _ => none
  | .error e => some e.message

/-- Outcomes that are the same have one report. -/
theorem SameOutcome.reportOf_eq {p : SourceProgram} {img : Image}
    {x : Except SymbolError SourceValue} {y : Except SymbolError Outcome}
    (h : SameOutcome p img x y) : reportOf x = reportOf y := by
  cases h <;> rfl

/-- An entry function that is accepted and linked, with lexical variables, but whose entry symbol
does not have its outcome on some inputs, where each primitive function is run by its own kernel. -/
def Misread (sig : Signature) (f : Function) (inputs : List HostMade) : Prop :=
  let m : Module := ⟨"m", []⟩
  ∃ emitted lib ep, m.emitEntry f.toExpr "main" ⟨"", "", none⟩ = .ok emitted ∧
    Library.link sig 0 .plain (some emitted.registry) emitted.program emitted.entry
      emitted.source = .ok lib ∧
    EntryPoint.make lib "main" (fun _ => none) = .ok ep ∧
    m.entryFunction f.toExpr = .ok f ∧ f.toExpr.Lexical ∧
    ¬ SameOutcome ⟨m, 0, .plain, id⟩ lib.image
      (SourceProgram.callEntry ⟨m, 0, .plain, id⟩ "main" ep.params f 2
        (Value.mapAll .ofHost inputs))
      (lib.call 2 "main" (ep.buffer.take ep.params ++ inputs))

/-- A report that differs. -/
theorem misread_of_reports {sig : Signature} {f : Function} {inputs : List HostMade}
    (lexical : f.toExpr.Lexical) (plain : f.primitive = false)
    (differ : ((Module.emitEntry ⟨"m", []⟩ f.toExpr "main" ⟨"", "", none⟩).toOption.bind
      fun emitted => (Library.link sig 0 .plain (some emitted.registry) emitted.program
        emitted.entry emitted.source).toOption.bind
      fun lib => (EntryPoint.make lib "main" fun _ => none).toOption.map
      fun ep => reportOf (SourceProgram.callEntry ⟨⟨"m", []⟩, 0, .plain, id⟩ "main" ep.params f 2
          (Value.mapAll .ofHost inputs)) !=
        reportOf (lib.call 2 "main" (ep.buffer.take ep.params ++ inputs))) = some true) :
    Misread sig f inputs := by
  obtain ⟨emitted, lowered, differ⟩ := Option.bind_eq_some_iff.mp differ
  obtain ⟨lib, linked, differ⟩ := Option.bind_eq_some_iff.mp differ
  obtain ⟨ep, made, differ⟩ := Option.map_eq_some_iff.mp differ
  refine ⟨emitted, lib, ep, ok_of_toOption lowered, ok_of_toOption linked, ok_of_toOption made,
    ?_, lexical, fun same => ?_⟩
  · obtain ⟨params, body, ret, primitive⟩ := f
    cases plain
    rfl
  · rw [same.reportOf_eq, bne_self_eq_false] at differ
    cases differ

/-- A constructor that its data type does not declare. -/
def strayCtor : Ctor := ⟨"Stray", 1, [], boxType⟩

/-- An entry function that applies it. -/
def strayBox : Function :=
  ⟨[], .call (.ctor strayCtor) [] (.data boxType), .data boxType, false⟩

/-- Two primitive functions that differ in the names of their variables have one encoding, so the
second one is run by the kernel of the first, and a report of its argument shows the name of the
other. A constructor that its data type does not declare is compiled, and unknown when it is
applied. -/
theorem kernels_and_constructors_misread :
    let t : Ty := .scalar .int32
    let x : Var := ⟨1, "x", t⟩
    let y : Var := ⟨2, "y", t⟩
    let call (q : Function) (v : Var) : Expr := .call q.toExpr [.var v] t
    let copies : Expr := .tuple [call (doubleOf "p") x, call (doubleOf "q") y] (.tuple [t, t])
    let five (dims : List Nat) : HostMade := .tensor ⟨0, some (.ofElements ⟨.int32, [5]⟩ dims)⟩
    Misread [] ⟨[x, y], copies, .tuple [t, t], false⟩ [five [], five [1]] ∧
      Misread [⟨boxType, [boxCtor]⟩] strayBox [] := by
  intro t x y call copies five
  constructor
  · exact misread_of_reports ⟨by decide, by decide⟩ rfl (by decide +kernel)
  · exact misread_of_reports ⟨by decide, by decide⟩ rfl (by decide +kernel)

end Meaning
end TensorCompiler
