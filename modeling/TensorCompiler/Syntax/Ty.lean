import TensorCompiler.Tensor.Shape

/-!
# Types

The types of expressions. A data type is known by a key of its own, so that two data types of one
name stay apart. `unknown` is the type of what inference did not type.
-/

namespace TensorCompiler

/-- A reference to an algebraic data type. -/
structure DataRef where
  key : Nat
  name : String
deriving DecidableEq, Repr

/-- The type of an expression. -/
inductive Ty where
  | unknown
  | tensor (shape : Shape)
  | tuple (fields : List Ty)
  | func (params : List Ty) (result : Ty)
  | data (ref : DataRef)
deriving Repr, Inhabited

namespace Ty

mutual

/-- Structural equality. -/
def beq : Ty → Ty → Bool
  | .unknown, .unknown => true
  | .tensor s, .tensor t => decide (s = t)
  | .tuple as, .tuple bs => beqs as bs
  | .func ps r, .func qs t => beqs ps qs && beq r t
  | .data d, .data e => decide (d = e)
  | _, _ => false

/-- Structural equality of lists. -/
def beqs : List Ty → List Ty → Bool
  | [], [] => true
  | a :: as, b :: bs => beq a b && beqs as bs
  | _, _ => false

end

mutual

theorem eq_of_beq : (a b : Ty) → beq a b = true → a = b
  | .unknown, b, h => by cases b <;> simp_all [beq]
  | .tensor s, b, h => by cases b <;> simp_all [beq]
  | .tuple as, b, h => by
    cases b <;> simp only [beq, Bool.false_eq_true] at h
    rw [eq_of_beqs _ _ h]
  | .func ps r, b, h => by
    cases b <;> simp only [beq, Bool.false_eq_true, Bool.and_eq_true] at h
    rw [eq_of_beqs _ _ h.1, eq_of_beq _ _ h.2]
  | .data d, b, h => by cases b <;> simp_all [beq]

theorem eq_of_beqs : (as bs : List Ty) → beqs as bs = true → as = bs
  | [], bs, h => by cases bs <;> simp_all [beqs]
  | a :: as, bs, h => by
    cases bs <;> simp only [beqs, Bool.false_eq_true, Bool.and_eq_true] at h
    rw [eq_of_beq _ _ h.1, eq_of_beqs _ _ h.2]

end

mutual

theorem beq_self : (a : Ty) → beq a a = true
  | .unknown => rfl
  | .tensor _ => by simp [beq]
  | .tuple as => by simp [beq, beqs_self as]
  | .func ps r => by simp [beq, beqs_self ps, beq_self r]
  | .data _ => by simp [beq]

theorem beqs_self : (as : List Ty) → beqs as as = true
  | [] => rfl
  | a :: as => by simp [beqs, beq_self a, beqs_self as]

end

instance : DecidableEq Ty := fun a b =>
  if h : beq a b then isTrue (eq_of_beq a b h)
  else isFalse fun e => h (e ▸ beq_self a)

mutual

/-- The printed form of a type. -/
def text : Ty → String
  | .unknown => "<nil>"
  | .tensor s => s.text
  | .tuple fields => "(" ++ Text.commaList (texts fields) ++ ")"
  | .func params result => "fn(" ++ Text.commaList (texts params) ++ ") " ++ text result
  | .data d => d.name

/-- The printed forms of a list of types. -/
def texts : List Ty → List String
  | [] => []
  | t :: ts => text t :: texts ts

end

/-- A scalar of a data type. -/
def scalar (dt : DType) : Ty :=
  .tensor ⟨dt, []⟩

/-- The type of a tensor. -/
def isTensor : Ty → Bool
  | .tensor _ => true
  | _ => false

/-- The result of a function type, `unknown` for other types. -/
def resultOrUnknown : Ty → Ty
  | .func _ result => result
  | _ => .unknown

end Ty
end TensorCompiler
