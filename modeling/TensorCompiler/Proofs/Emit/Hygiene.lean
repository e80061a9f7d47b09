import TensorCompiler.Proofs.Emit.Account
import TensorCompiler.Proofs.Emit.Evaluator

/-!
# Names in emitted sources

Every local of an emitted function gets a name of its own from one supply, in which names of the
text are reserved.

Main statement: the locals of an emitted function are identifiers, no two of them have one name, and
none has a reserved name. The blank identifier, `nil` and `error` are not reserved: such a name is
that of a local exactly if it is the identifier of a variable that the function binds.
-/

namespace TensorCompiler

open Lowered (Use)

namespace Emit

/-! ### Locals of functions -/

/-- Locals of a function that binds variables: different identifiers, and no names that the text
uses. Of the latter those that are not reserved are exceptions, if a variable has such a name. -/
structure Hygienic (vs : List Var) (locals : List String) : Prop where
  identifiers : ∀ name ∈ locals, Names.isIdentifier name = true
  once : locals.Nodup
  apart : ∀ name ∈ Printed.textNames, name ∈ locals ↔
    name ∉ reservedLocals ∧ ∃ v ∈ vs, Names.identifier v.name = name

theorem isTaken_start {name : String} :
    Scope.start.names.isTaken name = true ↔ name ∈ reservedLocals :=
  NameSupply.isTaken_reserveAll.trans (or_iff_left (by rintro ⟨⟩))

/-- No name of the text ends in a digit or is that of a result. -/
theorem textNames_plain : ∀ name ∈ Printed.textNames,
    (∀ c ∈ name.toList.getLast?, c.isDigit = false) ∧ Names.identifier (rootOf none) ≠ name := by
  have plain : Printed.textNames.all (fun name => name.toList.getLast?.all (!·.isDigit) &&
      Names.identifier (rootOf none) != name) = true := by decide +kernel
  intro name used
  obtain ⟨ends, other⟩ := Bool.and_eq_true_iff.mp (List.all_eq_true.mp plain name used)
  refine ⟨fun c last => ?_, bne_iff_ne.mp other⟩
  simpa [Option.mem_def.mp last] using ends

/-- Roots of the names of locals that are made a name of the text are variables. -/
theorem exists_root_iff {name : String} (used : name ∈ Printed.textNames)
    (owners : List (Option Var)) :
    (∃ root ∈ owners.map rootOf, Names.identifier root = name) ↔
      ∃ v ∈ owners.reduceOption, Names.identifier v.name = name := by
  constructor
  · rintro ⟨root, member, same⟩
    obtain ⟨owner, held, rfl⟩ := List.mem_map.mp member
    cases owner with
    | none => exact absurd same (textNames_plain name used).2
    | some v => exact ⟨v, List.reduceOption_mem_iff.mpr held, same⟩
  · rintro ⟨v, member, same⟩
    exact ⟨v.name, List.mem_map.mpr ⟨some v, List.reduceOption_mem_iff.mp member, rfl⟩, same⟩

/-- Locals that are named for variables and results are hygienic. -/
theorem Accounts.hygienic {consts : List Constant} {vs : List Var} {us : List Use}
    {names : List String} {reads : List Nat} {σ' : Scope}
    (h : Accounts consts .start vs us names reads σ') : Hygienic vs names := by
  obtain ⟨⟨owners, rfl, named⟩, -⟩ := h
  obtain rfl : (Scope.start.names.freshAll (owners.map rootOf)).1 = names := by rw [named]
  refine ⟨fun name member => ?_, NameSupply.freshAll_nodup _ _, fun name used => ?_⟩
  · obtain ⟨root, -, s, rfl⟩ := NameSupply.exists_of_mem_freshAll member
    exact NameSupply.isIdentifier_fresh s root
  · by_cases reserved : name ∈ reservedLocals
    · refine iff_of_false (fun member => ?_) fun other => other.1 reserved
      have free := NameSupply.isTaken_of_mem_freshAll member
      rw [isTaken_start.mpr reserved] at free
      cases free
    · have free := Bool.eq_false_iff.mpr (mt isTaken_start.mp reserved)
      rw [NameSupply.mem_freshAll_iff (textNames_plain name used).1 free,
        exists_root_iff used, and_iff_right reserved]

/-- The symbols of functions are handed out in order. -/
theorem map_symbol_nameDefinitions (names : NameSupply)
    (l : List (String × String × Lowered.Routine)) :
    (nameDefinitions names l).map Definition.symbol =
      (names.freshAll (l.map fun t => t.1 ++ t.2.1)).1 := by
  induction l generalizing names with
  | nil => rfl
  | cons t l ih => exact congrArg (_ :: ·) (ih _)

/-- Symbols are different identifiers, and none is a name of the package itself. -/
theorem symbols_definitions (p : Program) (entry : Lowered.Routine) :
    ((definitions p entry).map Definition.symbol).Nodup ∧
      ∀ symbol ∈ (definitions p entry).map Definition.symbol,
        Names.isIdentifier symbol = true ∧ symbol ∉ reservedSymbols := by
  rw [definitions, map_symbol_nameDefinitions]
  refine ⟨NameSupply.freshAll_nodup _ _, fun symbol member => ⟨?_, fun reserved => ?_⟩⟩
  · obtain ⟨root, -, s, rfl⟩ := NameSupply.exists_of_mem_freshAll member
    exact NameSupply.isIdentifier_fresh s root
  · have free := NameSupply.isTaken_of_mem_freshAll member
    rw [NameSupply.isTaken_reserveAll.mpr (Or.inl reserved)] at free
    cases free

end Emit

open Emit

/-- An emitted source with hygienic names: its functions are named apart from each other and from
the other names of the package, and the locals of each are hygienic. -/
structure Source.NamedApart (source : Source) (p : Program) (entry : Lowered.Routine)
    (routines : List Emit.Routine) : Prop where
  starts : p.entry = some entry
  written : writeDefinitions source.params (definitions p entry) = .ok routines
  text : source.text = Text.joinWith "\n" (sourceLines source.package p.name source.params.length
    source.kernels (definitions p entry) routines)
  functions : (routines.map Emit.Routine.name).Nodup
  symbols : ∀ r ∈ routines, Names.isIdentifier r.name = true ∧ r.name ∉ reservedSymbols
  locals : List.Forall₂ (fun d r =>
    Hygienic (d.routine.params ++ d.routine.body.bound) r.body.locals)
    (definitions p entry) routines

/-- The names of an emitted program are hygienic, whatever the names of its variables. -/
theorem emitted_names_hygienic {p : Program} {source : Source} (emitted : p.emit = .ok source) :
    ∃ entry routines, source.NamedApart p entry routines := by
  obtain ⟨entry, routines, starts, written, text⟩ := Program.emit_spec emitted
  have bodies := forall₂_of_writeDefinitions written
  have symbols : (definitions p entry).map Definition.symbol =
      routines.map Emit.Routine.name := by
    rw [← List.forall₂_eq_eq_eq, List.forall₂_map_left_iff, List.forall₂_map_right_iff]
    exact bodies.imp fun d r body => body.1.symm
  obtain ⟨functions, apart⟩ := symbols_definitions p entry
  rw [symbols] at functions apart
  refine ⟨entry, routines, starts, written, text, functions, ?_, ?_⟩
  · intro r hr
    exact apart r.name (List.mem_map_of_mem hr)
  · refine bodies.imp fun d r body => ?_
    obtain ⟨σ', account, -⟩ := accounts_of_writeRoutine body.2
    exact account.hygienic

/-- A program with one function, which returns its inputs. They have names of the text, and that of
a result. -/
def namedLikeText : Program :=
  let t : Ty := .scalar .int32
  let vs : List Var := ["nil", "args", "v"].mapIdx fun id name => ⟨id, name, t⟩
  let ty : Ty := .tuple [t, t, t]
  ⟨"names", some ⟨vs, .tuple (vs.map .var) ty, ty⟩, [], "", "", none⟩

/-- The program is emitted, and its names are hygienic. -/
theorem namedLikeText_hygienic : ∃ source, namedLikeText.emit = .ok source ∧
    ∃ entry routines, source.NamedApart namedLikeText entry routines := by
  have accepted : namedLikeText.emit.toOption.isSome = true := by decide +kernel
  obtain ⟨source, emitted⟩ := exists_ok accepted
  exact ⟨source, emitted, emitted_names_hygienic emitted⟩

/-- The variable gets a local of its own name, which hides what the text means by that name: the
function ends with the value of the variable in place of its error. -/
theorem nil_hidden : ∃ source entry routines, namedLikeText.emit = .ok source ∧
    namedLikeText.entry = some entry ∧
    writeDefinitions source.params (definitions namedLikeText entry) = .ok routines ∧
    ∃ r ∈ routines, "nil" ∈ r.body.locals ∧ "\tnil := args[0]" ∈ r.lines ∧
      "\treturn v1, nil" ∈ r.lines := by
  have accepted : (namedLikeText.emit.toOption.map Source.params) = some [] := by decide +kernel
  obtain ⟨source, emitted, params⟩ := Option.map_eq_some_iff.mp accepted
  obtain ⟨entry, routines, starts, written, -⟩ := Program.emit_spec (ok_of_toOption emitted)
  refine ⟨source, entry, routines, ok_of_toOption emitted, starts, written, ?_⟩
  have hides : namedLikeText.entry.all (fun entry =>
      (writeDefinitions [] (definitions namedLikeText entry)).toOption.all fun routines =>
        routines.any fun r => "nil" ∈ r.body.locals ∧ "\tnil := args[0]" ∈ r.lines ∧
          "\treturn v1, nil" ∈ r.lines) = true := by decide +kernel
  rw [params] at written
  rw [starts, Option.all_some, written] at hides
  simpa [Except.toOption] using hides

end TensorCompiler
