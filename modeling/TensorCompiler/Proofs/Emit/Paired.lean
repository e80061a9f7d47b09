import TensorCompiler.Proofs.Emit.Evaluator
import TensorCompiler.Proofs.Emit.Written
import TensorCompiler.Proofs.Meaning.Relation

/-!
# Paired runtimes

A runtime of emitted functions and an image of linked ones with the same kernels, device and
constructors, and with globals that were written and linked from the same functions. What the
methods of the runtime return on related values is related.
-/

namespace TensorCompiler

open Linked (Image)
open Emit (writeRoutine)

/-! ### Globals -/

namespace Printed

/-- Two globals that are the same: one function of the host, or one lowered function, written and
linked. -/
inductive SameGlobal : Global → Linked.Global → Prop
  | host (name : String) (arity : Int) (f : HostFunction) :
      SameGlobal ⟨name, arity, .host f⟩ ⟨name, arity, .host f⟩
  | routine (name : String) (arity : Int) {consts r block k} (lexical : r.Lexical)
      (written : writeRoutine consts r = .ok block) (linked : Linked.routine consts r = .ok k) :
      SameGlobal ⟨name, arity, .block block⟩ ⟨name, arity, .routine k⟩

/-- A runtime and an image that hold the same. -/
structure Paired (rt : Runtime) (img : Image) : Prop where
  kernels : rt.kernels = img.kernels
  device : rt.device = img.device
  host : rt.host = img.host
  ctors : rt.ctors = img.ctors
  globals : List.Forall₂ SameGlobal rt.globals img.globals

/-- What is found under a name on both sides. -/
inductive SameFound : Option Global → Option Linked.Global → Prop
  | none : SameFound none none
  | some {g d} (same : SameGlobal g d) : SameFound (some g) (some d)

theorem SameGlobal.name_eq {g : Global} {d : Linked.Global} (h : SameGlobal g d) :
    g.name = d.name := by
  cases h <;> rfl

theorem SameGlobal.arity_eq {g : Global} {d : Linked.Global} (h : SameGlobal g d) :
    g.arity = d.arity := by
  cases h <;> rfl

variable {rt : Runtime} {img : Image}

/-- Both sides find the same globals. -/
theorem Paired.find (h : Paired rt img) (name : String) :
    SameFound (rt.global? name) (img.global? name) := by
  have globals := h.globals
  rw [Runtime.global?, Image.global?]
  generalize rt.globals = gs at globals
  generalize img.globals = ds at globals
  induction globals with
  | nil => exact .none
  | @cons g d gs ds same rest ih =>
      rw [List.find?_cons, List.find?_cons, same.name_eq]
      cases d.name == name with
      | true => exact .some same
      | false => exact ih

end Printed

/-! ### Methods of the runtime -/

section

variable {φ ψ : Type} {R : φ → ψ → Prop}

theorem Value.RelAll.capturedParam {xs : List (Value φ)} {ys : List (Value ψ)}
    (h : Value.RelAll R xs ys) (index : Int) :
    Agree (Value.Rel R) (Linked.capturedParam xs index) (Linked.capturedParam ys index) := by
  rw [Linked.capturedParam, Linked.capturedParam, h.length_eq]
  by_cases negative : index < 0
  · simp only [negative, if_true]
    exact .error _
  · simp only [negative, if_false]
    rcases h.getElem? index.toNat with ⟨hx, hy⟩ | ⟨x, y, hx, hy, related⟩
    · rw [hx, hy]
      exact .error _
    · rw [hx, hy]
      exact .ok related

theorem Value.RelAll.construct {xs : List (Value φ)} {ys : List (Value ψ)}
    (h : Value.RelAll R xs ys) (ctors : List Ctor) (name : String) (tag : Int) :
    Agree (Value.Rel R) (Value.construct ctors name tag xs)
      (Value.construct ctors name tag ys) := by
  rw [Value.construct, Value.construct, h.length_eq]
  cases ctors.find? (·.name == name) with
  | none => exact .error _
  | some c =>
      by_cases tags : (c.tag : Int) ≠ tag
      · simp only [if_pos tags]
        exact .error _
      · by_cases count : ys.length ≠ c.inputs.length
        · simp only [if_neg tags, if_pos count]
          exact .error _
        · simp only [if_neg tags, if_neg count]
          exact .ok (.data c h)

/-- A packed call does not tell related arguments apart. -/
theorem Value.RelAll.packedCall {xs : List (Value φ)} {ys : List (Value ψ)}
    (h : Value.RelAll R xs ys) {img img' : Image} (kernels : img.kernels = img'.kernels)
    (device : img.device = img'.device) (kernel : String) (arity : Int)
    (conv : Lowered.Convention) :
    Agree (Value.Rel R) (img.packedCall kernel arity conv xs)
      (img'.packedCall kernel arity conv ys) := by
  rw [Image.packedCall, Image.packedCall, kernels, device]
  cases img'.kernels.lookup kernel with
  | none => exact .error _
  | some k =>
      refine (h.kernelInputs kernel conv).bind fun as bs related => ?_
      rw [related.length_eq, related.slots_eq]
      by_cases count : ((bs.length + 1 : Nat) : Int) ≠ arity
      · simp only [if_pos count]
        exact .error _
      · simp only [if_neg count]
        cases Value.slots kernel 0 bs with
        | error e => exact .error e
        | ok slots =>
            simp only [ok_bind]
            cases k.call (slots ++ [.empty]) with
            | ok t => exact .ok (.tensor _)
            | error e => exact .error _

/-- Only the spread convention is told apart from the others. -/
theorem Linked.Image.packedCall_conv (img : Image) (kernel : String) (arity : Int)
    (conv : Lowered.Convention) (xs : List (Value φ)) :
    img.packedCall kernel arity (if conv == .spread then .spread else .flat) xs =
      img.packedCall kernel arity conv xs := by
  by_cases spread : conv = .spread
  · simp [spread]
  · simp [packedCall, kernelInputs, spread]

end

namespace Printed

variable {rt : Runtime} {img : Image} {R : Code → Linked.Code → Prop}
  {xs captured : List (Value Code)} {ys captured' : List (Value Linked.Code)}

/-- Packed calls of the emitted and the linked program. -/
theorem Paired.packedCall (same : Paired rt img) (h : Value.RelAll R xs ys) (kernel : String)
    (arity : Int) (conv : Lowered.Convention) :
    Agree (Value.Rel R) (rt.packedCall kernel arity (conv == .spread) xs)
      (img.packedCall kernel arity conv ys) := by
  rw [Runtime.packedCall, Image.packedCall_conv]
  exact h.packedCall same.kernels same.device kernel arity conv

/-- Globals of the emitted and the linked program as values. -/
theorem Paired.globalValue (same : Paired rt img) {name : String}
    (code : R (.global name captured) (.global name captured')) :
    Agree (Value.Rel R) (rt.globalValue captured name) (img.globalValue captured' name) := by
  rw [Runtime.globalValue, Image.globalValue]
  have found := same.find name
  generalize rt.global? name = g at found
  generalize img.global? name = d at found
  cases found with
  | none => exact .error _
  | some same =>
      simp only [same.arity_eq]
      exact .ok (.func _ _ code)

/-- What a global function of the host is answered by the emitted and the linked program. -/
theorem Paired.serve (same : Paired rt img)
    (code : ∀ {name captured captured'}, Value.RelAll R captured captured' →
      R (.global name captured) (.global name captured')) (service : Service)
    (h : Value.RelAll R xs ys) :
    Agree (Value.Rel R) (rt.serve service xs) (img.serve service ys) := by
  cases service with
  | global name => exact same.globalValue (code h)
  | packed kernel arity conv => exact same.packedCall h kernel arity conv
  | construct ctor tag =>
      rw [Runtime.serve, Image.serve, same.ctors]
      exact h.construct _ ctor tag

end Printed

end TensorCompiler
