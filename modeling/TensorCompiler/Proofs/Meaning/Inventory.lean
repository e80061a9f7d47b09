import TensorCompiler.Proofs.Emit.Emission
import TensorCompiler.Proofs.Meaning.Scope

/-!
# Recorded data types

Main statement: an emitted source lists the data type of every constructor that an expression
applies, if the program holds a translation of the expression.
-/

namespace TensorCompiler

open Lowered Lowering

namespace Lowered

/-- Uses among which are the data types of some constructors. -/
def Records (us : List Use) (cs : List Ctor) : Prop :=
  ∀ c ∈ cs, .data c.data ∈ us

section

variable {us vs : List Use} {cs ds : List Ctor}

theorem Records.nil (us : List Use) : Records us [] := by
  rintro _ ⟨⟩

/-- A constructor whose data type is used. -/
theorem Records.single (c : Ctor) : Records [.data c.data] [c] := by
  intro d hd
  rw [List.mem_singleton.mp hd]
  exact List.mem_singleton_self _

theorem Records.append (h : Records us cs) (h' : Records vs ds) : Records (us ++ vs) (cs ++ ds) :=
  fun c hc => List.mem_append.mpr ((List.mem_append.mp hc).imp (h c) (h' c))

/-- A data type that is used, behind other uses. -/
theorem Records.behind (h : Records vs ds) (us : List Use) : Records (us ++ vs) ds :=
  (Records.nil us).append h

end

/-- A binding in front of a node is used before it. -/
theorem Node.uses_bindBefore (v : Var) (x n : Node) :
    (Node.bindBefore v x n).uses = x.uses ++ n.uses := by
  cases n with
  | decl bindings body => rw [Node.bindBefore, uses, uses, usesBindings, List.append_assoc]
  | _ => simp only [Node.bindBefore, uses, usesBindings, List.append_nil]

end Lowered

namespace Lowering

variable {prim : PrimJudgement} {known : GlobalRef → Prop}

mutual

/-- A translation uses the data types of the constructors that the expression applies. -/
theorem Translates.records {e : Expr} {n : Node} : Translates prim known e n →
    Records n.uses e.ctors
  | .var _ | .const _ | .global _ => .nil _
  | .primCall ok fields => .behind (TranslatesAll.records fields) [_]
  | .ctorCall count fields => (Records.single _).append (TranslatesAll.records fields)
  | .call plain head fields => .append (Translates.records head) (TranslatesAll.records fields)
  | .bind head tail => by
      rw [Node.uses_bindBefore]
      exact .append (Translates.records head) (Translates.records tail)
  | .cond head left right => by
      rw [Node.uses, ← List.append_assoc]
      exact .append (.append (Translates.records head) (Translates.records left))
        (Translates.records right)
  | .tuple all => TranslatesAll.records all
  | .proj head => by
      rw [Node.uses, Expr.ctors]
      exact Translates.records head
  | .cases head all => .append (Translates.records head) (TranslatesClauses.records all)
  | .primFn ok => .nil _
  | .fn head => by
      rw [Node.uses, Expr.ctors]
      exact Translates.records head

theorem TranslatesAll.records {es : List Expr} {ns : List Node} : TranslatesAll prim known es ns →
    Records (Node.usesAll ns) (Expr.ctorsAll es)
  | .nil => .nil _
  | .cons head tail => .append (Translates.records head) (TranslatesAll.records tail)

theorem TranslatesClauses.records {cs : List (Pattern × Expr)} {ns : List (Pattern × Node)} :
    TranslatesClauses prim known cs ns → Records (Node.usesClauses ns) (Expr.ctorsClauses cs)
  | .nil => .nil _
  | .cons head tail =>
    .behind (.append (Translates.records head) (TranslatesClauses.records tail)) _

end

/-- A translated function uses the data types of the constructors that the function applies. -/
theorem TranslatesFunction.records {f : Function} {r : Routine}
    (h : TranslatesFunction prim known f r) : Records r.body.uses f.toExpr.ctors := by
  cases h with
  | @prim params body ret form ok =>
      have value : Translates prim known (.fn params body ret true) _ := .primFn ok
      exact value.records
  | plain head => exact head.records

end Lowering

/-- An emitted program comes with its inventory. -/
theorem Program.inventory_of_emit {p : Program} {source : Source} (h : p.emit = .ok source) :
    ∃ entry inv, p.inventory = .ok (entry, inv) ∧ source.params = inv.params ∧
      source.dataTypes = inv.dataTypes ∧ source.inputs = entry.params.length := by
  obtain ⟨entry, inv, _, renders⟩ := renders_of_emit h
  exact ⟨entry, inv, renders.inventory, renders.params, renders.dataTypes, renders.inputs⟩

/-- An emitted source lists the data types of all constructors whose data types occur in a function
of its program. -/
theorem Program.records_of_emit {p : Program} {source : Source} (h : p.emit = .ok source)
    {r : Routine} (member : r ∈ p.routines) {cs : List Ctor} (records : Records r.body.uses cs) :
    ∀ c ∈ cs, c.data ∈ source.dataTypes := by
  obtain ⟨entry, inv, routines, renders⟩ := renders_of_emit h
  obtain ⟨lists, -⟩ := lists_inventory renders.inventory
  intro c hc
  have used : Use.data c.data ∈ p.uses := by
    refine List.mem_flatMap.mpr ⟨r, ?_, records c hc⟩
    rw [List.mem_append, or_comm, ← List.mem_append]
    exact member
  rw [renders.dataTypes, lists.dataTypes.mem_iff]
  exact List.mem_filterMap.mpr ⟨_, used, rfl⟩

end TensorCompiler
