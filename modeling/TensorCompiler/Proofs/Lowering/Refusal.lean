import TensorCompiler.Proofs.Lowering.Resolution
import TensorCompiler.Proofs.Lowering.Traversal

/-!
# Refused nodes

Which of the nodes that lowering visits have no lowered form whatever the session is.

Main statements: the nodes of an expression that has a translation are not refused; and if no node
of an expression is refused, then its lowering returns, provided that what it asks of its
surroundings does.
-/

namespace TensorCompiler

open Lowered

variable {κ : Type} [CompiledKernel κ]

/-- The arity of the kernel a backend gives for a function, if it gives one. -/
def Backend.arity? (b : Backend κ) (name : String) (f : Function) : Option Int :=
  match b.compile name f with
  | .ok (some k) => some (CompiledKernel.arity k)
  | _ => none

namespace Lowering

/-- A primitive function fits its use: the types of the arguments have a calling convention, the
function has a fingerprint, and the backend gives it a kernel of the arity that the convention asks
for. -/
def Packable (b : Backend κ) (f : Function) (tys : List Ty) : Prop :=
  ∃ site conv inputs fp, convention site f.params.length tys = .ok (conv, inputs) ∧
    f.fingerprint = .ok fp ∧ b.arity? fp.kernelName f = some ((inputs + 1 : Nat) : Int)

/-- A node that has no lowered form with a backend. -/
def Refused (b : Backend κ) (x : Expr) : Prop :=
  x.isFaulty = true ∨ ∃ f tys, x.primitiveUse? = some (f, tys) ∧ ¬ Packable b f tys

/-- A primitive function fits its use at a node that is not refused. -/
theorem Packable.of_use {b : Backend κ} {x : Expr} (fits : ¬ Refused b x) {f : Function}
    {tys : List Ty} (use : x.primitiveUse? = some (f, tys)) : Packable b f tys :=
  Classical.byContradiction fun unfit => fits (Or.inr ⟨f, tys, use, unfit⟩)

/-- A node that is not refused and, if it refers to a global, to an accepted one. -/
structure Accepted (b : Backend κ) (known : GlobalRef → Prop) (x : Expr) : Prop where
  fits : ¬ Refused b x
  known : ∀ g, x = .global g → known g

variable {b : Backend κ} {prim : PrimJudgement} {known : GlobalRef → Prop}

/-- A node that uses no primitive function and refers to no global. -/
theorem Accepted.of_plain {x : Expr} (sound : x.isFaulty = false)
    (plain : x.primitiveUse? = none) (other : ∀ g, x ≠ .global g) : Accepted b known x := by
  refine ⟨?_, fun g same => absurd same (other g)⟩
  rintro (faulty | ⟨f, tys, use, -⟩)
  · rw [sound] at faulty
    cases faulty
  · rw [plain] at use
    cases use

/-- A use of a primitive function that fits. -/
theorem Accepted.of_use {x : Expr} (sound : x.isFaulty = false) {f : Function} {tys : List Ty}
    (use : x.primitiveUse? = some (f, tys)) (fits : Packable b f tys)
    (other : ∀ g, x ≠ .global g) : Accepted b known x := by
  refine ⟨?_, fun g same => absurd same (other g)⟩
  rintro (faulty | ⟨f', tys', use', unfit⟩)
  · rw [sound] at faulty
    cases faulty
  · rw [use] at use'
    cases use'
    exact unfit fits

/-! ### Translated expressions -/

/-- An expression with a translation can be a node of its own, unless it is a primitive function. -/
theorem Translates.isHead_eq {e : Expr} {n : Node} (h : Translates prim known e n) :
    e.isHead = e.isPrimitive := by
  cases h <;> rfl

section

variable (packable : ∀ f tys form, prim f tys form → Packable b f tys)

set_option linter.unusedSectionVars false

include packable

mutual

/-- The nodes of an expression that has a translation are accepted. -/
theorem Translates.accepted {e : Expr} {n : Node} :
    Translates prim known e n → ∀ x ∈ e.parts, Accepted b known x
  | .var v => by
      intro x hx
      obtain rfl := List.mem_singleton.mp hx
      exact .of_plain rfl rfl (by simp)
  | .const c => by
      intro x hx
      obtain rfl := List.mem_singleton.mp hx
      exact .of_plain rfl rfl (by simp)
  | .global ok => by
      intro x hx
      obtain rfl := List.mem_singleton.mp hx
      refine ⟨?_, ?_⟩
      · rintro (faulty | ⟨f, tys, use, -⟩)
        · cases faulty
        · cases use
      · rintro g ⟨⟩
        exact ok
  | .primCall ok fields => by
      intro x hx
      rcases List.mem_cons.mp hx with rfl | hx
      · exact .of_use rfl rfl (packable _ _ _ ok) (by simp)
      · exact TranslatesAll.accepted fields x hx
  | .ctorCall count fields => by
      intro x hx
      rcases List.mem_cons.mp hx with rfl | hx
      · exact .of_plain (by simp [Expr.isFaulty, count]) rfl (by simp)
      · exact TranslatesAll.accepted fields x hx
  | .call plain head fields => by
      intro x hx
      have node := head.isHead_eq.trans plain
      simp only [Expr.parts, node, Bool.false_eq_true, if_false] at hx
      rcases List.mem_cons.mp hx with rfl | hx
      · exact .of_plain (Expr.isFaulty_call node _ _) (Expr.primitiveUse?_call plain _ _) (by simp)
      · rcases List.mem_append.mp hx with hx | hx
        · exact Translates.accepted head x hx
        · exact TranslatesAll.accepted fields x hx
  | .bind head tail => by
      intro x hx
      rcases List.mem_cons.mp hx with rfl | hx
      · exact .of_plain rfl rfl (by simp)
      · rcases List.mem_append.mp hx with hx | hx
        · exact Translates.accepted head x hx
        · exact Translates.accepted tail x hx
  | .cond head left right => by
      intro x hx
      rcases List.mem_cons.mp hx with rfl | hx
      · exact .of_plain rfl rfl (by simp)
      · simp only [List.mem_append] at hx
        rcases hx with (hx | hx) | hx
        · exact Translates.accepted head x hx
        · exact Translates.accepted left x hx
        · exact Translates.accepted right x hx
  | .tuple all => by
      intro x hx
      rcases List.mem_cons.mp hx with rfl | hx
      · exact .of_plain rfl rfl (by simp)
      · exact TranslatesAll.accepted all x hx
  | .proj head => by
      intro x hx
      rcases List.mem_cons.mp hx with rfl | hx
      · exact .of_plain rfl rfl (by simp)
      · exact Translates.accepted head x hx
  | .cases head all => by
      intro x hx
      rcases List.mem_cons.mp hx with rfl | hx
      · exact .of_plain rfl rfl (by simp)
      · rcases List.mem_append.mp hx with hx | hx
        · exact Translates.accepted head x hx
        · exact TranslatesClauses.accepted all x hx
  | .primFn ok => by
      intro x hx
      obtain rfl := List.mem_singleton.mp hx
      exact .of_use rfl rfl (packable _ _ _ ok) (by simp)
  | .fn head => by
      intro x hx
      rcases List.mem_cons.mp hx with rfl | hx
      · exact .of_plain rfl rfl (by simp)
      · exact Translates.accepted head x hx

/-- The nodes of expressions that have translations are accepted. -/
theorem TranslatesAll.accepted {es : List Expr} {ns : List Node} :
    TranslatesAll prim known es ns → ∀ x ∈ Expr.partsAll es, Accepted b known x
  | .nil => by
      intro x hx
      cases hx
  | .cons head tail => by
      intro x hx
      rcases List.mem_append.mp hx with hx | hx
      · exact Translates.accepted head x hx
      · exact TranslatesAll.accepted tail x hx

/-- The nodes of clauses that have translations are accepted. -/
theorem TranslatesClauses.accepted {es : List (Pattern × Expr)} {ns : List (Pattern × Node)} :
    TranslatesClauses prim known es ns → ∀ x ∈ Expr.partsClauses es, Accepted b known x
  | .nil => by
      intro x hx
      cases hx
  | .cons head tail => by
      intro x hx
      rcases List.mem_append.mp hx with hx | hx
      · exact Translates.accepted head x hx
      · exact TranslatesClauses.accepted tail x hx

end

/-- The nodes of a function that has a translation are accepted. -/
theorem TranslatesFunction.accepted {f : Function} {r : Routine}
    (h : TranslatesFunction prim known f r) : ∀ x ∈ f.toExpr.parts, Accepted b known x := by
  cases h with
  | prim ok =>
      have node : Translates prim known _ _ := .primFn ok
      exact node.accepted packable
  | plain head => exact (Translates.fn head).accepted packable

end

/-! ### Expressions without refused nodes -/

/-- A step that returns, and keeps an invariant of sessions. -/
def Returns {α : Type} (I : Session κ → Prop) (x : LowerM κ α) : Prop :=
  ∀ s, I s → ∃ a t, x.run s = (.ok a, t) ∧ I t

section

variable {α : Type} {I : Session κ → Prop}

/-- What the surroundings have to do for some nodes: none is refused, the globals they refer to are
resolved, and the primitive functions they use are packed. -/
structure Supplies (I : Session κ → Prop) (b : Backend κ)
    (resolve : GlobalRef → LowerM κ Unit) (nodes : List Expr) : Prop where
  fits : ∀ x ∈ nodes, ¬ Refused b x
  resolve : ∀ g, .global g ∈ nodes → Returns I (resolve g)
  pack : ∀ x ∈ nodes, ∀ f tys, x.primitiveUse? = some (f, tys) → Returns I (packedCall b x f tys)

variable {resolve : GlobalRef → LowerM κ Unit}

/-- Supplied nodes return. -/
theorem Supplies.guides {nodes : List Expr} (h : Supplies I b resolve nodes) :
    (Conduct.returning I).Guides b resolve nodes :=
  ⟨fun x hx faulty => absurd (Or.inl faulty) (h.fits x hx),
    fun g hg => Conduct.follows_returning_iff.mpr (h.resolve g hg),
    fun x hx f tys use => Conduct.follows_returning_iff.mpr (h.pack x hx f tys use)⟩

/-- Lowering a function returns if its surroundings supply what its nodes ask for. -/
theorem lowerFunction_returns {f : Function} (h : Supplies I b resolve f.toExpr.parts) :
    Returns I (lowerFunction b resolve f) :=
  Conduct.follows_returning_iff.mp (Conduct.lowerFunction_follows h.guides)

end

end Lowering
end TensorCompiler
