import TensorCompiler.Proofs.Emit.DeclarationText
import TensorCompiler.Proofs.Emit.Readable
import TensorCompiler.Proofs.Meaning.Linkage

/-!
# Artifacts of emitted programs

What a source holds besides its text is made for a linker: captured constants, kernels, data types
and native declarations.

Main statements: the artifacts of an emitted program describe it exactly; and an emitted program is
linked unless a kernel is missing, or two constructors of its data types or two of its globals have
one name.
-/

namespace TensorCompiler

open Emit
open Lowered (constantsOf callsOf dataOf)

/-! ### Kernels -/

/-- The kernels of an inventory with their arities, sorted by their names. -/
def Inventory.table (inv : Inventory) : List (String × Int) :=
  inv.kernels.mergeSort fun a b => !decide (b.1 < a.1)

theorem Inventory.map_table (inv : Inventory) : inv.table.map Prod.fst = inv.kernelNames :=
  List.map_mergeSort fun _ _ _ _ => rfl

/-! ### Descriptions -/

/-- The artifacts of a source describe a program: its constants in the order in which they occur,
each read at its place by both translations of every function; its kernels with the arities of their
calls; its data types; and the numbers of captured parameters and inputs, which are those that the
native entry point is declared with and the linked one accepts. What the text and the declarations
say is what readers of them find there. -/
structure Source.Describes (source : Source) (p : Program) (entry : Lowered.Routine)
    (file : Emit.Package) (native : Emit.Assembly) : Prop where
  starts : p.entry = some entry
  params : FirstOccurrences source.params (constantsOf p.uses)
  text : Emit.Package.read? source.text = some file
  reads : List.Forall₂ (fun f d => d.name = f.1 ∧ d.arity = f.2.params.length ∧
    (∃ r, file.function? d.symbol = some r ∧ Reads source.params f.2.body.uses r.body.reads) ∧
    ∃ k, Linked.routine source.params f.2 = .ok ⟨f.2.params, k⟩ ∧
      Reads source.params f.2.body.uses k.reads) (p.functions entry) file.registrations
  counted : file.params = source.params.length
  kernels : source.kernels.Pairwise (· < ·)
  called : ∀ k, k ∈ source.kernels ↔ ∃ arity, (k, arity) ∈ callsOf p.uses
  listed : file.kernels = source.kernels
  declarations : Emit.Assembly.read? source.declarations = some native
  declared : ∃ table : List (String × Int), table.map Prod.fst = source.kernels ∧
    (∀ call ∈ callsOf p.uses, call ∈ table) ∧ (∀ k ∈ table, 0 ≤ k.2) ∧
    native.functions = declaredFunctions p.name (source.params.length + source.inputs) table
  dataTypes : FirstOccurrences source.dataTypes (dataOf p.uses)
  inputs : source.inputs = entry.params.length
  accepts : ∀ sig device host kernels lib,
    Library.link sig device host (some kernels) p entry source = .ok lib →
      ∃ k, Linked.routine source.params entry = .ok k ∧
        lib.Accepts p.name source.params.length source.inputs k

/-- The artifacts of an emitted program describe it exactly. -/
theorem emitted_artifacts_exact {p : Program} {source : Source} (emitted : p.emit = .ok source) :
    ∃ entry file native, source.Describes p entry file native := by
  obtain ⟨entry, inv, routines, renders⟩ := Program.renders_of_emit emitted
  obtain ⟨lists, -⟩ := Program.lists_inventory renders.inventory
  have names : inv.table.map Prod.fst = source.kernels := by
    rw [inv.map_table, renders.kernels]
  have sorted : source.kernels.Pairwise (· < ·) :=
    names ▸ pairwise_mergeSort_names Prod.fst lists.kernels.nodup
  have once : (inv.table.map Prod.fst).Nodup :=
    ((List.mergeSort_perm _ _).map Prod.fst).nodup_iff.mpr lists.kernels.nodup
  refine ⟨entry, _, _, {
    starts := Program.entry_of_inventory renders.inventory
    params := renders.params ▸ lists.params
    text := read?_of_renders renders
    reads := ?reads
    counted := rfl
    kernels := sorted
    called := ?called
    listed := rfl
    declarations := renders.declarations ▸ read?_declarations renders.named _ once
    declared := ?declared
    dataTypes := renders.dataTypes ▸ lists.dataTypes
    inputs := renders.inputs
    accepts := ?accepts }⟩
  case reads =>
    rw [← map_definitions, packageOf, List.forall₂_map_left_iff, List.forall₂_map_right_iff,
      List.forall₂_same]
    intro d hd
    obtain ⟨r, -, found, written⟩ := exists_of_forall₂ (functions_found renders) d hd
    obtain ⟨σ', account, linked⟩ := accounts_of_writeRoutine written
    exact ⟨rfl, arity_of_mem_nameDefinitions d hd, ⟨r, found, account.read⟩, linked⟩
  case called =>
    intro k
    rw [renders.kernels, Inventory.kernelNames, List.mem_mergeSort, lists.kernels.mem_iff]
    simp
  case declared =>
    refine ⟨inv.table, names, fun call met => ?_, fun k hk => ?_, rfl⟩
    · exact List.mem_mergeSort.mpr (lists.arities call met)
    · exact renders.arities k (List.mem_mergeSort.mp hk)
  case accepts =>
    intro sig device host kernels lib linked
    have links := Library.link_spec linked
    have accepts := Library.Holds.accepts (links.same.symm ▸ links.held)
    rw [links.same, ← renders.inputs] at accepts
    exact accepts

/-- A program that puts the sum of its input and a constant into a box, and adds the constant again
in a global function that takes the box. -/
def boxedSum : Program :=
  let t : Ty := .scalar .int32
  let box : Ctor := ⟨"Box", 0, [t], ⟨0, "Boxed"⟩⟩
  let one : Constant := ⟨0, ⟨.int32, []⟩, .elements ⟨.int32, [1]⟩⟩
  let x : Var := ⟨0, "x", t⟩
  let boxed : Var := ⟨1, "boxed", .data box.data⟩
  let held : Var := ⟨2, "held", t⟩
  let again : Lowered.Routine := ⟨[boxed], .cases (.var boxed) [(.ctor box [.var held],
    .packed "add" 3 .flat [.var held, .const one] t)] t, t⟩
  let body : Lowered.Node := .invoke (.global ⟨"again", .func [.data box.data] t⟩)
    [.construct box 0 [.packed "add" 3 .flat [.var x, .const one] t]] t
  ⟨"boxed", some ⟨[x], body, t⟩, [⟨0, "again", again⟩], "", "", none⟩

theorem boxedSum_emits : ∃ source, boxedSum.emit = .ok source := by
  have accepted : boxedSum.emit.toOption.isSome = true := by decide +kernel
  exact exists_ok accepted

/-- The program is emitted, and its artifacts describe it. -/
theorem boxedSum_artifacts_exact : ∃ source, boxedSum.emit = .ok source ∧
    ∃ entry file native, source.Describes boxedSum entry file native := by
  obtain ⟨source, emitted⟩ := boxedSum_emits
  exact ⟨source, emitted, emitted_artifacts_exact emitted⟩

/-- The constant, the kernel and the data type are listed once. -/
example : (boxedSum.emit.toOption.map fun source =>
    (source.params.length, source.kernels, source.dataTypes.map DataRef.name, source.inputs)) =
      some (1, ["add"], ["Boxed"], 1) := by
  decide +kernel

/-! ### Linking -/

/-- What prevents an emitted program from being linked: a listed kernel that is not registered, two
constructors of its data types with one name, or two globals with one name. -/
inductive Source.Obstacle (source : Source) (sig : Signature) (kernels : Registry Kernel)
    (p : Program) : LinkError → Prop
  | kernel {name : String} (listed : name ∈ source.kernels) (missing : kernels.lookup name = none) :
      source.Obstacle sig kernels p (.kernelMissing name)
  | ctor {d d' : DataRef} {c c' : Ctor} (listed : d ∈ source.dataTypes)
      (listed' : d' ∈ source.dataTypes) (declared : c ∈ sig.ctorsOf d)
      (declared' : c' ∈ sig.ctorsOf d') (other : c ≠ c') (same : c.name = c'.name) :
      source.Obstacle sig kernels p (.image (.ctorTaken c'.name c.data.name))
  | global {name : String} (twice : List.Duplicate name (p.globals.map (·.name))) :
      source.Obstacle sig kernels p (.image (.globalTaken name))

/-- Functions that are written can be linked. -/
theorem linkable_of_writeDefinitions {consts : List Constant} {defs : List Emit.Definition}
    {routines : List Emit.Routine} (written : writeDefinitions consts defs = .ok routines) :
    ∀ d ∈ defs, ∃ k, Linked.routine consts d.routine = .ok k := by
  have bodies := forall₂_of_writeDefinitions written
  clear written
  induction bodies with
  | nil => rintro _ ⟨⟩
  | cons head tail ih =>
      obtain ⟨-, -, k, linked, -⟩ := accounts_of_writeRoutine head.2
      exact List.forall_mem_cons.mpr ⟨⟨_, linked⟩, ih⟩

/-- A name that competes with those of the globals and of the entry point is that of two globals. -/
theorem Program.duplicate_global {p : Program} (apart : ∀ g ∈ p.globals, g.name ≠ p.name)
    {name : String} (twice : List.Duplicate name (p.globals.map (·.name) ++ [p.name])) :
    List.Duplicate name (p.globals.map (·.name)) := by
  have free : p.name ∉ p.globals.map (·.name) := by
    intro member
    obtain ⟨g, hg, same⟩ := List.mem_map.mp member
    exact apart g hg same
  rw [List.duplicate_iff_two_le_count] at twice ⊢
  rw [List.count_append] at twice
  by_cases same : p.name = name
  · subst same
    rw [List.count_eq_zero.mpr free, List.count_singleton_self] at twice
    omega
  · rw [List.count_singleton, if_neg (by simpa using same)] at twice
    omega

/-- Nothing prevents a program from being linked whose kernels are all registered, whose
constructors are all found under their names, and whose globals have different names. -/
theorem Source.no_obstacle {p : Program} {source : Source} {sig : Signature}
    {kernels : Registry Kernel} {img : Linked.Image}
    (found : ∀ k ∈ source.kernels, kernels.lookup k ≠ none)
    (declared : ∀ d ∈ source.dataTypes, ∀ c ∈ sig.ctorsOf d, img.Declares c)
    (once : (p.globals.map (·.name)).Nodup) : ∀ e, ¬ source.Obstacle sig kernels p e := by
  intro e obstacle
  cases obstacle with
  | kernel listed missing => exact found _ listed missing
  | ctor listed listed' declared₁ declared₂ other same =>
      have first := declared _ listed _ declared₁
      rw [Linked.Image.Declares, same] at first
      exact other (Option.some.inj (first.symm.trans (declared _ listed' _ declared₂)))
  | global twice => exact List.nodup_iff_forall_not_duplicate.mp once _ twice

/-- An emitted program is linked, or something prevents it. -/
theorem linked_or_obstacle {p : Program} {source : Source} {entry : Lowered.Routine}
    {inv : Inventory} {routines : List Emit.Routine} (renders : source.Renders p entry inv routines)
    (sig : Signature) (device : DeviceId) (host : Host) (kernels : Registry Kernel) :
    ((∃ lib, Library.link sig device host (some kernels) p entry source = .ok lib) ∧
      ∀ e, ¬ source.Obstacle sig kernels p e) ∨
    ∃ e, Library.link sig device host (some kernels) p entry source = .error e ∧
      source.Obstacle sig kernels p e := by
  -- the cases are the steps of the linker: kernels, constructors, functions
  cases missing : source.kernels.find? fun k => (kernels.lookup k).isNone with
  | some k =>
      refine Or.inr ⟨.kernelMissing k, ?_, .kernel (List.mem_of_find?_eq_some missing) ?_⟩
      · simp only [Library.link, missing]
      · exact Option.isNone_iff_eq_none.mp
          (List.find?_some (p := fun k => (kernels.lookup k).isNone) missing)
  | none =>
      rcases registered : (Linked.Image.start kernels device host).registerAll
        (source.dataTypes.map sig.ctorsOf) with ⟨e | ⟨⟩, image⟩
      · obtain ⟨c, hc, known, hknown, other, same, rfl⟩ :=
          Linked.Image.conflict_of_registerAll registered
        rw [← List.flatMap_def] at hc hknown
        obtain ⟨d, hd, hc⟩ := List.mem_flatMap.mp hc
        obtain ⟨d', hd', hknown⟩ := List.mem_flatMap.mp hknown
        refine Or.inr ⟨_, ?_, .ctor hd' hd hknown hc other same⟩
        simp only [Library.link, missing, registered]
      · obtain ⟨registers, declared⟩ := Linked.Image.registerAll_spec registered
        have linkable : ∀ r ∈ (p.globals.map fun g => (g.name, g.routine)) ++ [(p.name, entry)],
            ∃ k, Linked.routine source.params r.2 = .ok k := by
          change ∀ f ∈ p.functions entry, _
          rw [← map_definitions, List.forall_mem_map]
          exact linkable_of_writeDefinitions renders.written
        have empty : Library.names ⟨image, source, []⟩ = [] := by
          rw [Library.names, registers.globals]
          rfl
        have defined := @Library.defineAll_of_linked _ ⟨image, source, []⟩ linkable
          (empty.symm ▸ List.nodup_nil)
        rw [empty, List.nil_append, List.map_append, List.map_map] at defined
        simp only [Library.link, missing, registered]
        rcases defined with ⟨accepted, once⟩ | ⟨name, refused, twice⟩
        · have all : ∀ d ∈ source.dataTypes, ∀ c ∈ sig.ctorsOf d, image.Declares c :=
            fun d hd => declared _ (List.mem_map_of_mem hd)
          refine Or.inl ⟨accepted, Source.no_obstacle ?_ all (List.nodup_append.mp once).1⟩
          intro k listed absent
          exact List.find?_eq_none.mp missing k listed (Option.isNone_iff_eq_none.mpr absent)
        · obtain ⟨-, apart⟩ := Program.lists_inventory renders.inventory
          exact Or.inr ⟨_, refused, .global (Program.duplicate_global apart twice)⟩

/-- An emitted program is linked exactly if nothing prevents it, and else the linker names what
does. -/
theorem emitted_program_links {p : Program} {source : Source} (emitted : p.emit = .ok source) :
    ∃ entry, p.entry = some entry ∧ ∀ sig device host kernels,
      (∀ e, Library.link sig device host (some kernels) p entry source = .error e →
        source.Obstacle sig kernels p e) ∧
      ((∃ lib, Library.link sig device host (some kernels) p entry source = .ok lib) ↔
        ∀ e, ¬ source.Obstacle sig kernels p e) := by
  obtain ⟨entry, inv, routines, renders⟩ := Program.renders_of_emit emitted
  refine ⟨entry, Program.entry_of_inventory renders.inventory, fun sig device host kernels => ?_⟩
  rcases linked_or_obstacle renders sig device host kernels with ⟨⟨lib, linked⟩, none⟩ |
    ⟨e, refused, obstacle⟩
  · refine ⟨fun e refused => ?_, iff_of_true ⟨lib, linked⟩ none⟩
    rw [linked] at refused
    cases refused
  · refine ⟨fun e' refused' => ?_, iff_of_false ?_ fun none => none e obstacle⟩
    · rw [refused] at refused'
      cases refused'
      exact obstacle
    · rintro ⟨lib, linked⟩
      rw [linked] at refused
      cases refused

/-- The program is emitted, and it is linked unless something prevents it. -/
theorem boxedSum_links : ∃ source, boxedSum.emit = .ok source ∧
    ∃ entry, boxedSum.entry = some entry ∧ ∀ sig device host kernels,
      (∀ e, Library.link sig device host (some kernels) boxedSum entry source = .error e →
        source.Obstacle sig kernels boxedSum e) ∧
      ((∃ lib, Library.link sig device host (some kernels) boxedSum entry source = .ok lib) ↔
        ∀ e, ¬ source.Obstacle sig kernels boxedSum e) := by
  obtain ⟨source, emitted⟩ := boxedSum_emits
  exact ⟨source, emitted, emitted_program_links emitted⟩

end TensorCompiler
