import Mathlib.Data.List.Forall2
import TensorCompiler.Emit.Source
import TensorCompiler.Proofs.Names.Supply
import TensorCompiler.Proofs.Outcome

/-!
# Emitted programs

What occurs in a program: constants, calls of kernels and data types in the order of the text, the
entry function before the globals and operands from left to right. Taking the inventory of a node is
adding what occurs in it piece by piece.

Main statements: the inventory of a program lists each constant, kernel and data type that occurs in
the program once, in the order of first occurrence, and every call of a kernel has its listed arity;
all parts of an emitted source are taken from this inventory and from the functions of the program,
written one by one.
-/

namespace TensorCompiler

open Emit

/-! ### First occurrences -/

/-- The elements of a list without repetition, in the order in which they occur first. -/
structure FirstOccurrences {α : Type} [DecidableEq α] (xs occurring : List α) : Prop where
  mem_iff : ∀ a, a ∈ xs ↔ a ∈ occurring
  order : xs.Pairwise fun a b => occurring.idxOf a < occurring.idxOf b

namespace FirstOccurrences

variable {α : Type} [DecidableEq α] {xs occurring : List α} {a : α}

theorem nil : FirstOccurrences ([] : List α) [] :=
  ⟨fun _ => Iff.rfl, .nil⟩

theorem nodup (h : FirstOccurrences xs occurring) : xs.Nodup :=
  h.order.imp fun less => by
    rintro rfl
    exact Nat.lt_irrefl _ less

/-- An element that occurs again changes nothing. -/
theorem again (h : FirstOccurrences xs occurring) (met : a ∈ xs) :
    FirstOccurrences xs (occurring ++ [a]) := by
  refine ⟨fun b => ?_, ?_⟩
  · rw [List.mem_append, List.mem_singleton, h.mem_iff]
    refine (or_iff_left_of_imp ?_).symm
    rintro rfl
    exact (h.mem_iff b).mp met
  · refine h.order.imp_of_mem fun hb hc less => ?_
    rwa [List.idxOf_append_of_mem ((h.mem_iff _).mp hb),
      List.idxOf_append_of_mem ((h.mem_iff _).mp hc)]

/-- A new element comes last. -/
theorem snoc (h : FirstOccurrences xs occurring) (new : a ∉ xs) :
    FirstOccurrences (xs ++ [a]) (occurring ++ [a]) := by
  have absent : a ∉ occurring := fun met => new ((h.mem_iff a).mpr met)
  refine ⟨fun b => ?_, List.pairwise_append.mpr ⟨?_, List.pairwise_singleton _ _, ?_⟩⟩
  · rw [List.mem_append, List.mem_append, h.mem_iff]
  · refine h.order.imp_of_mem fun hb hc less => ?_
    rwa [List.idxOf_append_of_mem ((h.mem_iff _).mp hb),
      List.idxOf_append_of_mem ((h.mem_iff _).mp hc)]
  · intro b hb c hc
    obtain rfl := List.mem_singleton.mp hc
    have before := (h.mem_iff b).mp hb
    rw [List.idxOf_append_of_mem before, List.idxOf_append_of_notMem absent]
    exact Nat.lt_of_lt_of_le (List.idxOf_lt_length_of_mem before) (Nat.le_add_right _ _)

end FirstOccurrences

/-! ### Uses -/

namespace Lowered

/-- A use of something outside of a program, or a missing node. -/
inductive Use where
  | const (c : Constant)
  | kernel (name : String) (arity : Int)
  | data (d : DataRef)
  | missing
deriving DecidableEq

/-- The constants among uses. -/
def constantsOf (us : List Use) : List Constant :=
  us.filterMap fun
    | .const c => some c
    | _ => none

/-- The kernels called among uses, each with the arity of the call. -/
def callsOf (us : List Use) : List (String × Int) :=
  us.filterMap fun
    | .kernel name arity => some (name, arity)
    | _ => none

/-- The data types among uses. -/
def dataOf (us : List Use) : List DataRef :=
  us.filterMap fun
    | .data d => some d
    | _ => none

end Lowered

open Lowered

namespace Pattern

mutual

/-- The data types of the constructors in a pattern. -/
def uses : Pattern → List Use
  | .hole | .wildcard | .var _ => []
  | .ctor c fields => .data c.data :: usesAll fields
  | .tuple fields => usesAll fields

/-- The data types of the constructors in several patterns. -/
def usesAll : List Pattern → List Use
  | [] => []
  | p :: ps => uses p ++ usesAll ps

end

end Pattern

namespace Lowered.Node

mutual

/-- What occurs in a node. -/
def uses : Node → List Use
  | .hole => [.missing]
  | .var _ | .global _ => []
  | .const c => [.const c]
  | .packed kernel arity _ args _ => .kernel kernel arity :: usesAll args
  | .invoke callee args _ => uses callee ++ usesAll args
  | .decl bindings body => usesBindings bindings ++ uses body
  | .cond test yes no _ => uses test ++ (uses yes ++ uses no)
  | .tuple fields _ => usesAll fields
  | .proj n _ _ => uses n
  | .cases data clauses _ => uses data ++ usesClauses clauses
  | .fn _ body _ => uses body
  | .construct c _ args => .data c.data :: usesAll args

/-- What occurs in several nodes. -/
def usesAll : List Node → List Use
  | [] => []
  | n :: ns => uses n ++ usesAll ns

/-- What occurs in the values of bindings. -/
def usesBindings : List (Var × Node) → List Use
  | [] => []
  | (_, n) :: rest => uses n ++ usesBindings rest

/-- What occurs in clauses. -/
def usesClauses : List (Pattern × Node) → List Use
  | [] => []
  | (p, n) :: rest => p.uses ++ (uses n ++ usesClauses rest)

end

end Lowered.Node

/-- What occurs in a program. -/
def Program.uses (p : Program) : List Use :=
  (p.entry.toList ++ p.globals.map ResolvedGlobal.routine).flatMap fun r => r.body.uses

/-! ### Taking an inventory -/

namespace Inventory

/-- Adds a use. -/
def addUse (inv : Inventory) : Use → Except InventoryError Inventory
  | .const c => .ok (inv.addParam c)
  | .kernel name arity => inv.addKernel name arity
  | .data d => .ok (inv.addData d)
  | .missing => .error .missingNode

/-- Adds uses in order. -/
def addUses (inv : Inventory) (us : List Use) : Except InventoryError Inventory :=
  us.foldlM addUse inv

theorem addUses_cons (inv : Inventory) (u : Use) (us : List Use) :
    inv.addUses (u :: us) = (inv.addUse u >>= fun inv => inv.addUses us) := rfl

theorem addUses_append (inv : Inventory) (us vs : List Use) :
    inv.addUses (us ++ vs) = (inv.addUses us >>= fun inv => inv.addUses vs) :=
  List.foldlM_append

mutual

theorem addUses_pattern : (p : Pattern) → (inv : Inventory) →
    inv.addUses p.uses = .ok (inv.addPattern p)
  | .hole, _ | .wildcard, _ | .var _, _ => rfl
  | .ctor c fields, inv => by
      rw [Pattern.uses, addUses_cons, addPattern]
      exact addUses_patterns fields _
  | .tuple fields, inv => by
      rw [Pattern.uses, addPattern]
      exact addUses_patterns fields inv

theorem addUses_patterns : (ps : List Pattern) → (inv : Inventory) →
    inv.addUses (Pattern.usesAll ps) = .ok (inv.addPatterns ps)
  | [], _ => rfl
  | p :: ps, inv => by
      rw [Pattern.usesAll, addUses_append, addUses_pattern p inv, addPatterns]
      exact addUses_patterns ps _

end

mutual

/-- Adding what a node needs is adding its uses. -/
theorem addNode_eq : (n : Node) → (inv : Inventory) → inv.addNode n = inv.addUses n.uses
  | .hole, _ | .var _, _ | .const _, _ | .global _, _ => rfl
  | .packed kernel arity _ args _, inv => by
      simp only [addNode, Node.uses, addUses_cons, addUse, addNodes_eq args]
  | .invoke callee args _, inv => by
      simp only [addNode, Node.uses, addUses_append, addNode_eq callee, addNodes_eq args]
  | .decl bindings body, inv => by
      simp only [addNode, Node.uses, addUses_append, addBindings_eq bindings, addNode_eq body]
  | .cond test yes no _, inv => by
      simp only [addNode, Node.uses, addUses_append, addNode_eq test, addNode_eq yes, addNode_eq no]
  | .tuple fields _, inv => by
      simp only [addNode, Node.uses, addNodes_eq fields]
  | .proj n _ _, inv => by
      simp only [addNode, Node.uses, addNode_eq n]
  | .cases data clauses _, inv => by
      simp only [addNode, Node.uses, addUses_append, addNode_eq data, addClauses_eq clauses]
  | .fn _ body _, inv => by
      simp only [addNode, Node.uses, addNode_eq body]
  | .construct c _ args, inv => by
      simp only [addNode, Node.uses, addUses_cons, addUse, ok_bind, addNodes_eq args]

theorem addNodes_eq : (ns : List Node) → (inv : Inventory) →
    inv.addNodes ns = inv.addUses (Node.usesAll ns)
  | [], _ => rfl
  | n :: ns, inv => by
      simp only [addNodes, Node.usesAll, addUses_append, addNode_eq n, addNodes_eq ns]

theorem addBindings_eq : (bs : List (Var × Node)) → (inv : Inventory) →
    inv.addBindings bs = inv.addUses (Node.usesBindings bs)
  | [], _ => rfl
  | (_, n) :: rest, inv => by
      simp only [addBindings, Node.usesBindings, addUses_append, addNode_eq n, addBindings_eq rest]

theorem addClauses_eq : (cs : List (Pattern × Node)) → (inv : Inventory) →
    inv.addClauses cs = inv.addUses (Node.usesClauses cs)
  | [], _ => rfl
  | (p, n) :: rest, inv => by
      simp only [addClauses, Node.usesClauses, addUses_append, addUses_pattern p, ok_bind,
        addNode_eq n, addClauses_eq rest]

end

/-! ### What an inventory lists -/

/-- An inventory of constants, calls of kernels and data types: it has each constant, kernel and
data type once, in the order of first occurrence, and each kernel with the arity of all its calls.
-/
structure Lists (inv : Inventory) (cs : List Constant) (calls : List (String × Int))
    (ds : List DataRef) : Prop where
  params : FirstOccurrences inv.params cs
  kernels : FirstOccurrences (inv.kernels.map Prod.fst) (calls.map Prod.fst)
  arities : ∀ call ∈ calls, call ∈ inv.kernels
  dataTypes : FirstOccurrences inv.dataTypes ds

theorem lists_empty : empty.Lists [] [] [] :=
  ⟨.nil, .nil, by rintro _ ⟨⟩, .nil⟩

section

variable {inv inv' : Inventory} {cs : List Constant} {calls : List (String × Int)}
  {ds : List DataRef}

theorem Lists.addParam (h : inv.Lists cs calls ds) (c : Constant) :
    (inv.addParam c).Lists (cs ++ [c]) calls ds := by
  rw [Inventory.addParam]
  split
  · rename_i met
    exact { h with params := h.params.again (List.contains_iff_mem.mp met) }
  · rename_i new
    exact { h with params := h.params.snoc fun met => new (List.contains_iff_mem.mpr met) }

theorem Lists.addData (h : inv.Lists cs calls ds) (d : DataRef) :
    (inv.addData d).Lists cs calls (ds ++ [d]) := by
  rw [Inventory.addData]
  split
  · rename_i met
    exact { h with dataTypes := h.dataTypes.again (List.contains_iff_mem.mp met) }
  · rename_i new
    exact { h with dataTypes := h.dataTypes.snoc fun met => new (List.contains_iff_mem.mpr met) }

theorem arity?_eq_none_iff {kernel : String} :
    inv.arity? kernel = none ↔ kernel ∉ inv.kernels.map Prod.fst := by
  rw [arity?, Option.map_eq_none_iff, List.find?_eq_none, List.mem_map, not_exists]
  refine forall_congr' fun k => ?_
  rw [not_and, beq_iff_eq]

theorem mem_of_arity? {kernel : String} {arity : Int} (h : inv.arity? kernel = some arity) :
    (kernel, arity) ∈ inv.kernels := by
  obtain ⟨k, found, rfl⟩ := Option.map_eq_some_iff.mp h
  have same := List.find?_some found
  rw [← beq_iff_eq.mp same]
  exact List.mem_of_find?_eq_some found

/-- A kernel is added if it is new, or was met with the same arity. -/
theorem Lists.addKernel (h : inv.Lists cs calls ds) {kernel : String} {arity : Int}
    (added : inv.addKernel kernel arity = .ok inv') :
    inv'.Lists cs (calls ++ [(kernel, arity)]) ds := by
  rw [Inventory.addKernel] at added
  split at added
  · rename_i known found
    split at added
    · rename_i same
      subst same
      obtain rfl := Except.ok.inj added
      have met := mem_of_arity? found
      refine { h with kernels := ?_, arities := ?_ }
      · rw [List.map_append]
        exact h.kernels.again (List.mem_map_of_mem met)
      · exact List.forall_mem_append.mpr ⟨h.arities, List.forall_mem_singleton.mpr met⟩
    · cases added
  · rename_i new
    obtain rfl := Except.ok.inj added
    refine { h with kernels := ?_, arities := ?_ }
    · rw [List.map_append, List.map_append]
      exact h.kernels.snoc (arity?_eq_none_iff.mp new)
    · refine List.forall_mem_append.mpr ⟨fun call met => ?_, List.forall_mem_singleton.mpr ?_⟩
      · exact List.mem_append_left _ (h.arities call met)
      · exact List.mem_append_right _ (List.mem_singleton.mpr rfl)

/-- Uses that are added are listed. -/
theorem Lists.addUses (h : inv.Lists cs calls ds) {us : List Use}
    (added : inv.addUses us = .ok inv') :
    inv'.Lists (cs ++ constantsOf us) (calls ++ callsOf us) (ds ++ dataOf us) := by
  induction us generalizing inv cs calls ds with
  | nil =>
      obtain rfl := Except.ok.inj added
      simpa [constantsOf, callsOf, dataOf] using h
  | cons u us ih =>
      rw [addUses_cons] at added
      obtain ⟨mid, first, rest⟩ := ok_of_bind_ok added
      cases u with
      | const c =>
          obtain rfl := Except.ok.inj first
          simpa [constantsOf, callsOf, dataOf] using ih (h.addParam c) rest
      | kernel name arity =>
          simpa [constantsOf, callsOf, dataOf] using ih (h.addKernel first) rest
      | data d =>
          obtain rfl := Except.ok.inj first
          simpa [constantsOf, callsOf, dataOf] using ih (h.addData d) rest
      | missing => cases first

end

theorem addGlobals_eq {entry : String} {gs : List ResolvedGlobal} {inv inv' : Inventory}
    (h : inv.addGlobals entry gs = .ok inv') :
    inv.addUses (gs.flatMap fun g => g.routine.body.uses) = .ok inv' ∧
      ∀ g ∈ gs, g.name ≠ entry := by
  induction gs generalizing inv with
  | nil => exact ⟨h, by rintro _ ⟨⟩⟩
  | cons g gs ih =>
      rw [addGlobals] at h
      split at h
      · cases h
      · rename_i different
        split at h
        · rename_i mid first
          obtain ⟨rest, others⟩ := ih h
          rw [addNode_eq] at first
          rw [List.flatMap_cons, addUses_append, first]
          exact ⟨rest, List.forall_mem_cons.mpr ⟨different, others⟩⟩
        · cases h

end Inventory

/-- An inventory is taken from the entry function on. -/
theorem Program.entry_of_inventory {p : Program} {entry : Lowered.Routine} {inv : Inventory}
    (h : p.inventory = .ok (entry, inv)) : p.entry = some entry := by
  unfold inventory at h
  split at h
  · cases h
  · rename_i r found
    obtain ⟨mid, -, h⟩ := ok_of_bind_ok h
    obtain ⟨last, -, h⟩ := ok_of_bind_ok h
    cases h
    exact found

/-- The inventory of a program lists what occurs in the program. -/
theorem Program.lists_inventory {p : Program} {entry : Lowered.Routine} {inv : Inventory}
    (h : p.inventory = .ok (entry, inv)) :
    inv.Lists (constantsOf p.uses) (callsOf p.uses) (dataOf p.uses) ∧
      ∀ g ∈ p.globals, g.name ≠ p.name := by
  have starts := entry_of_inventory h
  unfold inventory at h
  rw [starts] at h
  obtain ⟨mid, first, h⟩ := ok_of_bind_ok h
  obtain ⟨last, globals, h⟩ := ok_of_bind_ok h
  cases h
  obtain ⟨rest, others⟩ := Inventory.addGlobals_eq globals
  refine ⟨?_, others⟩
  have all : Inventory.empty.addUses p.uses = .ok inv := by
    rw [uses, starts, Option.toList_some, List.singleton_append, List.flatMap_cons,
      Inventory.addUses_append, ← Inventory.addNode_eq, first, ok_bind, List.flatMap_map]
    exact rest
  simpa using Inventory.lists_empty.addUses all

/-! ### Emitted sources -/

/-- The functions of a program. -/
def Program.routines (p : Program) : List Lowered.Routine :=
  p.globals.map Lowered.ResolvedGlobal.routine ++ p.entry.toList

/-- The functions of a program under their names, the entry point last. -/
def Program.functions (p : Program) (entry : Lowered.Routine) : List (String × Lowered.Routine) :=
  (p.globals.map fun g => (g.name, g.routine)) ++ [(p.name, entry)]

namespace Emit

/-- Functions are named in order. -/
theorem map_nameDefinitions (names : NameSupply) (l : List (String × String × Lowered.Routine)) :
    (nameDefinitions names l).map (fun d => (d.name, d.routine)) = l.map Prod.snd := by
  induction l generalizing names with
  | nil => rfl
  | cons t l ih =>
      obtain ⟨stem, name, r⟩ := t
      simp only [nameDefinitions, List.map_cons, ih]

/-- The functions of a program under their names. -/
theorem map_definitions (p : Program) (entry : Lowered.Routine) :
    (definitions p entry).map (fun d => (d.name, d.routine)) = p.functions entry := by
  rw [Program.functions, definitions, map_nameDefinitions, List.map_append, List.map_map]
  rfl

/-- A definition has the arity of its function. -/
theorem arity_of_mem_nameDefinitions {names : NameSupply}
    {l : List (String × String × Lowered.Routine)} :
    ∀ d ∈ nameDefinitions names l, d.arity = d.routine.params.length := by
  induction l generalizing names with
  | nil => rintro _ ⟨⟩
  | cons t l ih =>
      obtain ⟨stem, name, r⟩ := t
      exact List.forall_mem_cons.mpr ⟨rfl, ih⟩

/-- Elements of lists that are related one by one. -/
theorem exists_of_forall₂ {α β : Type} {R : α → β → Prop} {xs : List α} {ys : List β}
    (h : List.Forall₂ R xs ys) : ∀ x ∈ xs, ∃ y ∈ ys, R x y := by
  induction h with
  | nil => rintro _ ⟨⟩
  | @cons x y xs ys head tail ih =>
      refine List.forall_mem_cons.mpr ⟨⟨y, List.mem_cons_self, head⟩, fun x' hx => ?_⟩
      obtain ⟨y', hy, related⟩ := ih x' hx
      exact ⟨y', List.mem_cons_of_mem _ hy, related⟩

/-- Each definition has its function written under its symbol. -/
theorem forall₂_of_writeDefinitions {consts : List Constant} {defs : List Definition}
    {routines : List Routine} (h : writeDefinitions consts defs = .ok routines) :
    List.Forall₂ (fun d r => r.name = d.symbol ∧ writeRoutine consts d.routine = .ok r.body)
      defs routines := by
  induction defs generalizing routines with
  | nil =>
      cases h
      exact .nil
  | cons d defs ih =>
      rw [writeDefinitions] at h
      split at h
      · cases h
      · rename_i body written
        obtain ⟨rest, others, h⟩ := ok_of_bind_ok h
        cases h
        exact .cons ⟨rfl, written⟩ (ih others)

end Emit

/-- What an emitted source is made of: the inventory of its program and the written functions. -/
structure Source.Renders (source : Source) (p : Program) (entry : Lowered.Routine)
    (inv : Inventory) (routines : List Emit.Routine) : Prop where
  inventory : p.inventory = .ok (entry, inv)
  written : writeDefinitions source.params (definitions p entry) = .ok routines
  package : Names.isIdentifier source.package = true
  named : p.name ≠ ""
  text : source.text = Text.joinWith "\n" (sourceLines source.package p.name source.params.length
    source.kernels (definitions p entry) routines)
  declarations : source.declarations = Emit.declarations p.name
    (source.params.length + source.inputs) (inv.kernels.mergeSort fun a b => !decide (b.1 < a.1))
  arities : ∀ k ∈ inv.kernels, 0 ≤ k.2
  params : source.params = inv.params
  kernels : source.kernels = inv.kernelNames
  dataTypes : source.dataTypes = inv.dataTypes
  inputs : source.inputs = entry.params.length

/-- An emitted source renders its program. -/
theorem Program.renders_of_emit {p : Program} {source : Source} (h : p.emit = .ok source) :
    ∃ entry inv routines, source.Renders p entry inv routines := by
  unfold emit at h
  split at h
  · cases h
  · rename_i entry inv found
    dsimp only at h
    split at h
    · cases h
    · rename_i accepted
      obtain ⟨routines, written, h⟩ := ok_of_bind_ok h
      split at h
      · cases h
      · rename_i named
        split at h
        · cases h
        · rename_i declared
          split at h
          · cases h
          · cases h
            refine ⟨entry, inv, routines, found, written, ?_, by simpa using named, rfl, rfl, ?_,
              rfl, rfl, rfl, rfl⟩
            · simp only [Bool.or_eq_true, Bool.not_eq_true', not_or] at accepted
              exact Bool.not_eq_false _ ▸ accepted.1
            · intro k hk
              have none := Option.eq_none_iff_forall_ne_some.mpr fun k : String × Int =>
                declared k.1 k.2
              simpa using List.find?_eq_none.mp none k (List.mem_mergeSort.mpr hk)

/-- What an emitted source consists of. -/
theorem Program.emit_spec {p : Program} {source : Source} (h : p.emit = .ok source) :
    ∃ entry routines, p.entry = some entry ∧
      writeDefinitions source.params (definitions p entry) = .ok routines ∧
      source.text = Text.joinWith "\n" (sourceLines source.package p.name source.params.length
        source.kernels (definitions p entry) routines) := by
  obtain ⟨entry, inv, routines, renders⟩ := renders_of_emit h
  exact ⟨entry, routines, entry_of_inventory renders.inventory, renders.written, renders.text⟩

/-- The functions that are emitted are those of the program. -/
theorem Program.mem_routines {p : Program} {entry : Lowered.Routine}
    (starts : p.entry = some entry) : ∀ d ∈ definitions p entry, d.routine ∈ p.routines := by
  intro d hd
  have member := List.mem_map_of_mem (f := fun d : Emit.Definition => (d.name, d.routine)) hd
  rw [map_definitions] at member
  rw [routines, starts]
  rcases List.mem_append.mp member with global | last
  · obtain ⟨g, hg, same⟩ := List.mem_map.mp global
    obtain ⟨-, same⟩ := Prod.mk.inj same
    exact List.mem_append_left _ (List.mem_map.mpr ⟨g, hg, same⟩)
  · obtain ⟨-, same⟩ := Prod.mk.inj (List.mem_singleton.mp last)
    exact List.mem_append_right _ (Option.mem_toList.mpr (congrArg some same.symm))

end TensorCompiler
