import TensorCompiler.Proofs.Meaning.Compiled
import TensorCompiler.Proofs.Meaning.Ready

/-!
# Realized values

A linked value realizes a value of the source in some frames if the two are related and each
function in it was compiled from the function of the source, with a frame in which every variable
of the environment is found with a realization of its value.
-/

namespace TensorCompiler.Meaning

open Linked

/-! ### Realizations -/

/-- A function that may be made in a frame: its variables are lexical, and none that it binds is
reserved by the frame. -/
structure Fits (C : Reserve) (fs : Frames) (f : Function) (vs : List Var) (frame : Nat) : Prop where
  once : f.toExpr.inner.Nodup
  inScope : f.toExpr.isScoped vs = true
  apart : ∀ v ∈ f.toExpr.inner, ¬ C frame v
  inside : frame < fs.size

section

variable (J : Surroundings) (captured : List (Value Code)) (C : Reserve) (fs : Frames)

mutual

/-- A linked value that realizes a value of the source. -/
def RealizedValue : SourceValue → Value Code → Prop
  | .absent, y => y = .absent
  | .tensor cell, y => y = .tensor cell
  | .tuple xs, y => ∃ ys, y = .tuple ys ∧ RealizedAll xs ys
  | .data c xs, y => ∃ ys, y = .data c ys ∧ RealizedAll xs ys
  | .func name arity c, y => ∃ d, y = .func name arity d ∧ Realized c d

/-- Linked values that realize values of the source one by one. -/
def RealizedAll : List SourceValue → List (Value Code) → Prop
  | [], ys => ys = []
  | x :: xs, ys => ∃ z zs, ys = z :: zs ∧ RealizedValue x z ∧ RealizedAll xs zs

/-- Linked code that realizes code of the source. -/
def Realized : SourceCode → Code → Prop
  | .host h kept, d => ∃ kept', d = .host h kept' ∧ RealizedAll kept kept'
  | .global name, d => d = .global name captured ∧ ∃ g, J.known g ∧ g.name = name
  | .closure f env, d => ∃ r frame, d = .closure r frame captured ∧ CompiledFunction J f r ∧
      Fits C fs f (env.map Prod.fst) frame ∧ RealizedEnv env frame

/-- A frame in which the variables of an environment are found with realizations of their
values. -/
def RealizedEnv : Env → Nat → Prop
  | [], _ => True
  | (v, x) :: env, frame =>
    (∃ y, fs.lookup frame v = some y ∧ RealizedValue x y) ∧ RealizedEnv env frame

end

mutual

/-- A realization is a related value. -/
theorem rel_of_realizedValue : (x : SourceValue) → ∀ {y}, RealizedValue J captured C fs x y →
    Value.Rel (Realized J captured C fs) x y
  | .absent, _, h => by
      rw [RealizedValue] at h
      exact h ▸ .absent
  | .tensor cell, _, h => by
      rw [RealizedValue] at h
      exact h ▸ .tensor cell
  | .tuple xs, _, h => by
      rw [RealizedValue] at h
      obtain ⟨ys, rfl, all⟩ := h
      exact .tuple (relAll_of_realizedAll xs all)
  | .data c xs, _, h => by
      rw [RealizedValue] at h
      obtain ⟨ys, rfl, all⟩ := h
      exact .data c (relAll_of_realizedAll xs all)
  | .func name arity c, _, h => by
      rw [RealizedValue] at h
      obtain ⟨d, rfl, code⟩ := h
      exact .func name arity code

theorem relAll_of_realizedAll : (xs : List SourceValue) → ∀ {ys},
    RealizedAll J captured C fs xs ys → Value.RelAll (Realized J captured C fs) xs ys
  | [], _, h => by
      rw [RealizedAll] at h
      exact h ▸ .nil
  | x :: xs, _, h => by
      rw [RealizedAll] at h
      obtain ⟨z, zs, rfl, head, tail⟩ := h
      exact .cons (rel_of_realizedValue x head) (relAll_of_realizedAll xs tail)

end

mutual

/-- A related value is a realization. -/
theorem realizedValue_of_rel {x : SourceValue} {y : Value Code} :
    Value.Rel (Realized J captured C fs) x y → RealizedValue J captured C fs x y
  | .absent => by rw [RealizedValue]
  | .tensor cell => by rw [RealizedValue]
  | .tuple fields => by
      rw [RealizedValue]
      exact ⟨_, rfl, realizedAll_of_relAll fields⟩
  | .data c fields => by
      rw [RealizedValue]
      exact ⟨_, rfl, realizedAll_of_relAll fields⟩
  | .func name arity code => by
      rw [RealizedValue]
      exact ⟨_, rfl, code⟩

theorem realizedAll_of_relAll {xs : List SourceValue} {ys : List (Value Code)} :
    Value.RelAll (Realized J captured C fs) xs ys → RealizedAll J captured C fs xs ys
  | .nil => by rw [RealizedAll]
  | .cons head tail => by
      rw [RealizedAll]
      exact ⟨_, _, rfl, realizedValue_of_rel head, realizedAll_of_relAll tail⟩

end

/-- The variables of an environment, one by one. -/
theorem realizedEnv_iff {env : Env} {frame : Nat} : RealizedEnv J captured C fs env frame ↔
    ∀ b ∈ env, ∃ y, fs.lookup frame b.1 = some y ∧
      Value.Rel (Realized J captured C fs) b.2 y := by
  induction env with
  | nil => simp [RealizedEnv]
  | cons b env ih =>
      obtain ⟨v, x⟩ := b
      rw [RealizedEnv, ih, List.forall_mem_cons]
      refine and_congr_left fun _ => exists_congr fun y => and_congr_right fun _ => ?_
      exact ⟨rel_of_realizedValue J captured C fs x, realizedValue_of_rel J captured C fs⟩

end

section

variable {J : Surroundings} {captured : List (Value Code)} {C C' : Reserve} {fs fs' : Frames}

theorem Fits.lasts (l : Lasts C fs C' fs') {f : Function} {vs : List Var} {frame : Nat}
    (h : Fits C fs f vs frame) : Fits C' fs' f vs frame :=
  ⟨h.once, h.inScope, fun v hv reserved => h.apart v hv (l.reserve frame h.inside v reserved),
    Nat.lt_of_lt_of_le h.inside l.size⟩

mutual

/-- A realization of a value lasts. -/
theorem RealizedValue.lasts (l : Lasts C fs C' fs') : (x : SourceValue) → ∀ {y},
    RealizedValue J captured C fs x y → RealizedValue J captured C' fs' x y
  | .absent, _, h => by
      rw [RealizedValue] at h ⊢
      exact h
  | .tensor cell, _, h => by
      rw [RealizedValue] at h ⊢
      exact h
  | .tuple xs, _, h => by
      rw [RealizedValue] at h ⊢
      obtain ⟨ys, rfl, all⟩ := h
      exact ⟨ys, rfl, RealizedAll.lasts l xs all⟩
  | .data c xs, _, h => by
      rw [RealizedValue] at h ⊢
      obtain ⟨ys, rfl, all⟩ := h
      exact ⟨ys, rfl, RealizedAll.lasts l xs all⟩
  | .func name arity c, _, h => by
      rw [RealizedValue] at h ⊢
      obtain ⟨d, rfl, code⟩ := h
      exact ⟨d, rfl, Realized.lasts l c code⟩

theorem RealizedAll.lasts (l : Lasts C fs C' fs') : (xs : List SourceValue) → ∀ {ys},
    RealizedAll J captured C fs xs ys → RealizedAll J captured C' fs' xs ys
  | [], _, h => by
      rw [RealizedAll] at h ⊢
      exact h
  | x :: xs, _, h => by
      rw [RealizedAll] at h ⊢
      obtain ⟨z, zs, rfl, head, tail⟩ := h
      exact ⟨z, zs, rfl, RealizedValue.lasts l x head, RealizedAll.lasts l xs tail⟩

/-- A realization of code lasts. -/
theorem Realized.lasts (l : Lasts C fs C' fs') : (c : SourceCode) → ∀ {d},
    Realized J captured C fs c d → Realized J captured C' fs' c d
  | .host h kept, _, hd => by
      rw [Realized] at hd ⊢
      obtain ⟨kept', rfl, all⟩ := hd
      exact ⟨kept', rfl, RealizedAll.lasts l kept all⟩
  | .global name, _, hd => by
      rw [Realized] at hd ⊢
      exact hd
  | .closure f env, _, hd => by
      rw [Realized] at hd ⊢
      obtain ⟨r, frame, rfl, compiled, fits, realized⟩ := hd
      exact ⟨r, frame, rfl, compiled, fits.lasts l, RealizedEnv.lasts l env realized⟩

theorem RealizedEnv.lasts (l : Lasts C fs C' fs') : (env : Env) → ∀ {frame},
    RealizedEnv J captured C fs env frame → RealizedEnv J captured C' fs' env frame
  | [], _, _ => by rw [RealizedEnv]; trivial
  | (_, x) :: env, _, h => by
      rw [RealizedEnv] at h ⊢
      obtain ⟨⟨y, found, head⟩, tail⟩ := h
      exact ⟨⟨y, l.found found, RealizedValue.lasts l x head⟩, RealizedEnv.lasts l env tail⟩

end

end

/-! ### The coding of the source -/

section

variable (J : Surroundings) (captured : List (Value Code))

/-- Realizations as a coding. -/
def realization : Coding SourceCode where
  rel := Realized J captured
  lasts l _ _ := Realized.lasts l _

variable {J : Surroundings} {captured : List (Value Code)} {C : Reserve} {fs : Frames}
  {frame : Nat} {env : Env}

/-- A frame in which an environment is realized holds it. -/
theorem realizedEnv_iff_holds : RealizedEnv J captured C fs env frame ↔
    (realization J captured).Holds C fs env frame :=
  realizedEnv_iff ..

/-- A function made in a frame. -/
theorem Ready.realized {f : Function} {r : Routine}
    (h : Ready (realization J captured) C fs frame env [] f.toExpr.inner)
    (scope : f.toExpr.isScoped (env.map Prod.fst) = true) (compiled : CompiledFunction J f r)
    (name : String) : Value.Rel (Realized J captured C fs)
      (.func name f.params.length (.closure f env))
      (.func name f.params.length (.closure r frame captured)) := by
  refine .func _ _ ?_
  rw [Realized]
  exact ⟨r, frame, rfl, compiled, ⟨h.once, scope, h.inner, h.inside⟩,
    realizedEnv_iff_holds.mpr h.env⟩

/-- A call of a local function opens a frame below the one the function was made in. -/
theorem Fits.opens {f : Function} (h : Fits C fs f (env.map Prod.fst) frame) (covers : C.Covers fs)
    (realized : RealizedEnv J captured C fs env frame) :
    Opens (realization J captured) C fs (some frame) env f.toExpr.inner :=
  .below covers h.inside (realizedEnv_iff_holds.mp realized) h.once h.apart

/-- A call of a global function opens a frame of its own. -/
theorem Opens.global {f : Function} (covers : C.Covers fs) (h : f.toExpr.Lexical) :
    Opens (realization J captured) C fs none [] f.toExpr.inner :=
  .alone covers h.inner_nodup

end

end TensorCompiler.Meaning
