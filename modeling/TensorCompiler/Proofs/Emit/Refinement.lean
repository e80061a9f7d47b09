import TensorCompiler.Proofs.Emit.Readable
import TensorCompiler.Proofs.Emit.Simulation
import TensorCompiler.Proofs.Meaning.Inventory
import TensorCompiler.Proofs.Meaning.Linkage

/-!
# Emitted and linked programs

When an answer of an emitted function and one of a linked function count as one: functions in
results are compared by what calls of them do, and all else is equal, so results without functions
are one value (`Value.Rel.map_eq`).

Main statements: each function of an emitted source answers as the function linked for it, in all
runtimes that hold the same; and the functions of a source, registered in a runtime, hold the same
as the library linked from the program.
-/

namespace TensorCompiler

open Emit
open Linked (Image Frames RunM)

namespace Printed

/-! ### Agreement -/

/-- What a call in some frames answers: the emitted text has a meaning, and both runs fail with one
error, or both return, and what they return is related in the frames after the call. In any case
related codes stay related. -/
inductive Answers (R : Frames → Code → Linked.Code → Prop) (fs : Frames) :
    Run (Value Code) → Except RunError (Value Linked.Code) × Frames → Prop
  | ok {run x y fs'} (meaning : run = some (.ok x)) (lasts : ∀ c d, R fs c d → R fs' c d)
      (related : Value.Rel (R fs') x y) : Answers R fs run (.ok y, fs')
  | error {run} (e : RunError) {fs'} (meaning : run = some (.error e))
      (lasts : ∀ c d, R fs c d → R fs' c d) : Answers R fs run (.error e, fs')

/-- A relation of codes that calls do not tell apart: functions of the host are related if they keep
related values, and globals of one name if they keep related parameters, and related functions
answer alike on all related arguments, however deep the calls nest. -/
structure Agreement (rt : Runtime) (img : Image) where
  rel : Frames → Code → Linked.Code → Prop
  host : ∀ {fs kept kept'} h, Value.RelAll (rel fs) kept kept' →
    rel fs (.host h kept) (.host h kept')
  global : ∀ {fs captured captured'} name, Value.RelAll (rel fs) captured captured' →
    rel fs (.global name captured) (.global name captured')
  call : ∀ {fs f g xs ys}, Value.Rel (rel fs) f g → Value.RelAll (rel fs) xs ys → ∀ fuel,
    Answers rel fs (apply rt fuel f xs) ((Linked.apply img fuel g ys).run fs)

section

variable {rt : Runtime} {img : Image} {fs : Frames}

/-- The realizations in frames between calls. -/
abbrev Settled (fs : Frames) : Code → Linked.Code → Prop :=
  Realized (Meaning.held fs) fs

/-- A run from settled frames answers in settled frames. -/
theorem Answered.answers {x : Run (Value Code)}
    {out : Except RunError (Value Linked.Code) × Frames}
    (h : Answered .empty (Meaning.held fs) fs Realizes x out) :
    Answers Settled fs x out := by
  obtain ⟨y, meaning, simulated⟩ := h
  cases simulated with
  | error e step => exact .error e meaning fun _ _ => Realized.lasts step.lasts_held
  | ok step related =>
      refine .ok meaning (fun _ _ => Realized.lasts step.lasts_held) ?_
      exact related.lasts (Meaning.lasts_held step.covers)

/-- Realizations agree. -/
def settledAgreement (same : Paired rt img) : Agreement rt img where
  rel := Settled
  host h keeps := .host h (realizedAll_of_relAll keeps)
  global _ params := .global (realizedAll_of_relAll params)
  call related args fuel :=
    (calls_answered same fuel (Meaning.covers_held _) related args).answers

end

/-! ### Functions -/

/-- Calls an emitted function with captured parameters. -/
def callBlock (rt : Runtime) (fuel : Nat) (captured args : List (Value Code)) (block : Block) :
    Run (Value Code) :=
  evalBlock rt (apply rt fuel) ⟨captured, args, []⟩ [] block

/-- Calls a linked function with captured parameters. -/
def callRoutine (img : Image) (fuel : Nat) (captured args : List (Value Linked.Code))
    (k : Linked.Routine) : RunM (Value Linked.Code) := do
  let frame ← Linked.openFrame none k.params args
  Linked.eval img (Linked.apply img fuel) captured frame k.body

/-- An emitted and a linked function that cannot be told apart. With fewer arguments than parameters
both fail where they read behind the end of the arguments. -/
def Agreement.Alike {rt : Runtime} {img : Image} (A : Agreement rt img) (block : Block)
    (k : Linked.Routine) : Prop :=
  ∀ {fs captured captured' xs ys}, Value.RelAll (A.rel fs) captured captured' →
    Value.RelAll (A.rel fs) xs ys → ∀ fuel,
      Answers A.rel fs (callBlock rt fuel captured xs block)
        ((callRoutine img fuel captured' ys k).run fs)

/-- What is written for a function and what it is linked to are alike. -/
theorem alike_of_writeRoutine {rt : Runtime} {img : Image} (same : Paired rt img)
    {consts : List Constant} {r : Lowered.Routine} (lexical : r.Lexical) {block : Block}
    (written : writeRoutine consts r = .ok block) :
    ∃ k, Linked.routine consts r = .ok k ∧ (settledAgreement same).Alike block k := by
  obtain ⟨k, σ', linked, body⟩ := written_of_writeRoutine lexical written
  refine ⟨_, linked, ?_⟩
  intro fs captured captured' xs ys params related fuel
  have answered : Answered .empty (Meaning.held fs) fs Realizes
      (callBlock rt fuel captured xs block)
      ((callRoutine img fuel captured' ys ⟨r.params, k⟩).run fs) :=
    body_answered same (calls_answered same fuel) body
      (.alone (Meaning.covers_held fs) lexical.frames_nodup) (by simpa using lexical.inScope)
      named_start params (fun _ _ => rfl) related
  exact answered.answers

end Printed

/-! ### Packages -/

namespace Emit.Package

/-- A function as a global under the name it is registered with. -/
def global (d : Registration) (r : Routine) : Printed.Global :=
  ⟨d.name, d.arity, .block r.body⟩

/-- Defines functions of a package in a runtime in order. This has no meaning for a symbol that is
not one of the package, and a name that is defined already is refused. -/
def define? (file : Package) (rt : Printed.Runtime) : List Registration → Option Printed.Runtime
  | [] => some rt
  | d :: ds => do
    let r ← file.function? d.symbol
    if (rt.global? d.name).isSome then none
    else file.define? { rt with globals := rt.globals ++ [global d r] } ds

variable {file : Package}

/-- Functions under free names are all defined. -/
theorem define?_eq_some {ds : List Registration} {rs : List Routine}
    (found : List.Forall₂ (fun d r => file.function? d.symbol = some r) ds rs)
    {rt : Printed.Runtime}
    (once : (rt.globals.map Printed.Global.name ++ ds.map Registration.name).Nodup) :
    file.define? rt ds = some { rt with globals := rt.globals ++ List.zipWith global ds rs } := by
  induction found generalizing rt with
  | nil => rw [define?, List.zipWith_nil_left, List.append_nil]
  | @cons d r ds rs head tail ih =>
      have free : rt.global? d.name = none := by
        rw [Printed.Runtime.global?, List.find?_eq_none]
        intro g hg same
        refine (List.nodup_append.mp once).2.2 g.name (List.mem_map_of_mem hg) d.name ?_
          (beq_iff_eq.mp same)
        exact List.mem_map_of_mem List.mem_cons_self
      rw [define?, head, Option.bind_eq_bind, Option.bind_some, free]
      simp only [Option.isSome_none, Bool.false_eq_true, if_false]
      rw [ih (by simpa [global] using once), List.append_assoc, List.singleton_append,
        List.zipWith_cons_cons]

end Emit.Package

/-- A source text that is the same program as what is linked. It is read as a package, which knows
the entry point, the captured parameters and the kernels, and which registers the functions of the
program. What is registered for a function is alike the one that is linked for it, in all runtimes
that hold the same. The registered functions are all defined if the program is linked, and then the
runtime and the linked library hold the same. -/
structure Source.Implements (source : Source) (p : Program) (entry : Lowered.Routine)
    (file : Emit.Package) : Prop where
  starts : p.entry = some entry
  reads : Emit.Package.read? source.text = some file
  named : file.entry = p.name ∧ file.params = source.params.length ∧ file.kernels = source.kernels
  alike : ∀ rt img, Printed.Paired rt img → ∃ A : Printed.Agreement rt img,
    List.Forall₂ (fun f d => d.name = f.1 ∧ d.arity = f.2.params.length ∧
      ∃ r k, file.function? d.symbol = some r ∧
        Linked.routine source.params f.2 = .ok k ∧ A.Alike r.body k)
      (p.functions entry) file.registrations
  defines : ∀ sig device host kernels lib,
    Library.link sig device host (some kernels) p entry source = .ok lib →
      ∃ rt, file.define? ⟨kernels, device, host, lib.image.ctors, []⟩ file.registrations = some rt ∧
        Printed.Paired rt lib.image

namespace Printed

/-- Registered functions and the globals of a library are the same one by one. -/
theorem sameGlobals_of_written {consts : List Constant} {defs : List Emit.Definition}
    {routines : List Emit.Routine} {gs : List Linked.Global}
    (written : List.Forall₂ (fun d r => writeRoutine consts d.routine = .ok r.body) defs routines)
    (linked : List.Forall₂ (Library.LinkedAs consts) (defs.map fun d => (d.name, d.routine)) gs)
    (arity : ∀ d ∈ defs, d.arity = d.routine.params.length)
    (lexical : ∀ d ∈ defs, d.routine.Lexical) :
    List.Forall₂ SameGlobal
      (List.zipWith Package.global (defs.map fun d => ⟨d.name, d.arity, d.symbol⟩) routines)
      gs := by
  induction written generalizing gs with
  | nil =>
      cases linked
      exact .nil
  | @cons d r defs routines head tail ih =>
      obtain ⟨arity, arities⟩ := List.forall_mem_cons.mp arity
      obtain ⟨lexical, lexicals⟩ := List.forall_mem_cons.mp lexical
      cases linked with
      | cons first rest =>
          obtain ⟨k, linked, rfl⟩ := first
          refine .cons ?_ (ih rest arities lexicals)
          simp only [Package.global, arity]
          exact .routine d.name _ lexical head linked

end Printed

/-- The text of an emitted source is the same program as what is linked: each function in it answers
as the function that is linked for it, with the same value or the same error, on all arguments and
captured parameters, in every runtime, however deep the calls nest. -/
theorem emitted_source_implements {p : Program} {source : Source} (emitted : p.emit = .ok source)
    (lexical : ∀ r ∈ p.routines, r.Lexical) :
    ∃ entry file, source.Implements p entry file := by
  obtain ⟨entry, inv, routines, renders⟩ := Program.renders_of_emit emitted
  have starts := Program.entry_of_inventory renders.inventory
  have lexicals (d) (hd : d ∈ definitions p entry) : d.routine.Lexical :=
    lexical d.routine (Program.mem_routines starts d hd)
  have arities : ∀ d ∈ definitions p entry, d.arity = d.routine.params.length :=
    arity_of_mem_nameDefinitions
  have found := functions_found renders
  refine ⟨entry, _, starts, read?_of_renders renders, ⟨rfl, rfl, rfl⟩, ?_, ?_⟩
  · intro rt img same
    refine ⟨Printed.settledAgreement same, ?_⟩
    rw [← map_definitions, packageOf, List.forall₂_map_left_iff, List.forall₂_map_right_iff,
      List.forall₂_same]
    intro d hd
    obtain ⟨r, -, found, written⟩ := exists_of_forall₂ found d hd
    obtain ⟨k, linked, alike⟩ := Printed.alike_of_writeRoutine same (lexicals d hd) written
    exact ⟨rfl, arities d hd, r, k, found, linked, alike⟩
  · intro sig device host kernels lib linked
    have links := Library.link_spec linked
    have defined : List.Forall₂ (Library.LinkedAs source.params) (p.functions entry) _ :=
      links.defined
    rw [← map_definitions] at defined
    have all := Printed.sameGlobals_of_written (found.imp fun _ _ h => h.2) defined arities lexicals
    have names : (definitions p entry).map Emit.Definition.name = lib.names := by
      rw [Library.names, ← List.forall₂_eq_eq_eq, List.forall₂_map_left_iff,
        List.forall₂_map_right_iff]
      rw [List.forall₂_map_left_iff] at defined
      refine defined.imp ?_
      rintro d g ⟨k, -, rfl⟩
      rfl
    refine ⟨_, Package.define?_eq_some ?_ ?_, links.kernels.symm, links.device.symm,
      links.host.symm, rfl, all⟩
    · rw [packageOf, List.forall₂_map_left_iff]
      exact found.imp fun _ _ h => h.1
    · rw [packageOf, List.map_map]
      exact names ▸ links.once

/-- A program that pairs its input with itself in a local function that captures it, and swaps the
fields of the pair in a global one. Its variables compete for names with each other and with the
text. -/
def swappedPair : Program :=
  let t : Ty := .scalar .int32
  let pair : Ty := .tuple [t, t]
  let a : Var := ⟨0, "a", t⟩
  let b : Var := ⟨1, "b", t⟩
  let x : Var := ⟨2, "args", t⟩
  let y : Var := ⟨3, "v", t⟩
  let f : Var := ⟨4, "f", .func [t] pair⟩
  let u : Var := ⟨5, "v", t⟩
  let w : Var := ⟨6, "v", t⟩
  let swap : Lowered.Routine := ⟨[a, b], .tuple [.var b, .var a] pair, pair⟩
  let body : Lowered.Node := .decl [(f, .fn [y] (.tuple [.var x, .var y] pair) pair)]
    (.cases (.invoke (.var f) [.var x] pair)
      [(.tuple [.var u, .var w],
        .invoke (.global ⟨"swap", .func [t, t] pair⟩) [.var u, .var w] pair)] pair)
  ⟨"swapped", some ⟨[x], body, pair⟩, [⟨0, "swap", swap⟩], "", "", none⟩

/-- The program is emitted, its variables are lexical, and its source implements it. -/
theorem swappedPair_implemented : ∃ source, swappedPair.emit = .ok source ∧
    (∀ r ∈ swappedPair.routines, r.Lexical) ∧
      ∃ entry file, source.Implements swappedPair entry file := by
  have accepted : (swappedPair.emit.toOption).isSome = true := by decide +kernel
  obtain ⟨source, emitted⟩ := Option.isSome_iff_exists.mp accepted
  have lexical : ∀ r ∈ swappedPair.routines, r.Lexical := by
    intro r hr
    rcases List.mem_cons.mp hr with rfl | hr
    · exact ⟨by decide, by decide, by decide +kernel⟩
    · obtain rfl := List.mem_singleton.mp hr
      exact ⟨by decide, by decide, by decide +kernel⟩
  exact ⟨source, ok_of_toOption emitted, lexical,
    emitted_source_implements (ok_of_toOption emitted) lexical⟩

end TensorCompiler
