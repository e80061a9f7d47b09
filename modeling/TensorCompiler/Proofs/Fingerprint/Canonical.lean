import Mathlib.Data.List.Nodup
import TensorCompiler.Proofs.Fingerprint.Reading
import TensorCompiler.Proofs.Fingerprint.Renaming

/-!
# Encodings are canonical up to renaming

If no variable is bound twice, then a variable's number is its position among the binders of the
whole function. Two functions with one skeleton have as many binders, of the same types, and the
function that sends each binder of the one to the binder of the other at the same position renames
the one to the other.

Main statement: readable functions in which no variable is bound twice have one encoding exactly if
they are renamings of one another.
-/

namespace TensorCompiler

/-! ### Readable expressions -/

namespace Pattern

mutual

/-- A pattern without missing parts that binds variables of readable types. -/
def isReadable : Pattern → Bool
  | .hole => false
  | .wildcard => true
  | .var v => v.ty.isReadable
  | .ctor _ fields => areReadable fields
  | .tuple fields => areReadable fields

/-- Patterns without missing parts. -/
def areReadable : List Pattern → Bool
  | [] => true
  | p :: ps => isReadable p && areReadable ps

end

end Pattern

/-- A sequence of elements of one of the five kinds. -/
def HostSlice.isElements : HostSlice → Bool
  | .elements _ => true
  | _ => false

namespace Expr

mutual

/-- An expression whose encoding can be read: the types the encoder reads are readable, constants
hold elements, no pattern is missing. -/
def isReadable : Expr → Bool
  | .hole | .var _ | .global _ | .op _ | .ctor _ => true
  | .const c => c.values.isElements
  | .call callee args t => isReadable callee && areReadable args && t.isReadable
  | .bind v value body => v.ty.isReadable && isReadable value && isReadable body
  | .cond test yes no _ => isReadable test && isReadable yes && isReadable no
  | .tuple fields _ => areReadable fields
  | .proj e _ _ => isReadable e
  | .cases data clauses _ => isReadable data && areReadableClauses clauses
  | .fn params body ret _ =>
    params.all (fun v => v.ty.isReadable) && isReadable body && ret.isReadable

/-- Expressions whose encodings can be read. -/
def areReadable : List Expr → Bool
  | [] => true
  | e :: es => isReadable e && areReadable es

/-- Clauses whose encodings can be read. -/
def areReadableClauses : List (Pattern × Expr) → Bool
  | [] => true
  | (p, e) :: rest => p.isReadable && isReadable e && areReadableClauses rest

end

end Expr

theorem Var.readable_binder {v : Var} (h : v.ty.isReadable = true) (σ : Numbering) :
    (v.binder σ).Readable := by
  simp [Binder.Readable, Var.binder, h]

theorem readable_paramBinders {vs : List Var} (h : vs.all (fun v => v.ty.isReadable) = true)
    (σ : Numbering) : ∀ b ∈ paramBinders σ vs, b.Readable := by
  induction vs generalizing σ with
  | nil => simp [paramBinders]
  | cons v vs ih =>
      simp only [List.all_cons, Bool.and_eq_true] at h
      intro b hb
      rcases List.mem_cons.mp hb with rfl | hb
      · exact Var.readable_binder h.1 σ
      · exact ih h.2 _ b hb

namespace Pattern

mutual

/-- Readable patterns have readable skeletons. -/
theorem readable_skeleton : (p : Pattern) → p.isReadable = true → ∀ σ, (p.skeleton σ).Readable
  | .hole, h, _ => by simp [isReadable] at h
  | .wildcard, _, _ => by simp [skeleton, PatternSkeleton.Readable]
  | .var v, h, σ => by
      simp only [isReadable] at h
      simpa only [skeleton, PatternSkeleton.Readable] using Var.readable_binder h σ
  | .ctor c fields, h, σ => by
      simp only [isReadable] at h
      simpa only [skeleton, PatternSkeleton.Readable] using readable_skeletonAll fields h σ
  | .tuple fields, h, σ => by
      simp only [isReadable] at h
      simpa only [skeleton, PatternSkeleton.Readable] using readable_skeletonAll fields h σ

/-- Readable patterns have readable skeletons. -/
theorem readable_skeletonAll : (ps : List Pattern) → areReadable ps = true →
    ∀ σ, PatternSkeleton.ReadableAll (skeletonAll σ ps)
  | [], _, _ => by simp [skeletonAll, PatternSkeleton.ReadableAll]
  | p :: ps, h, σ => by
      simp only [areReadable, Bool.and_eq_true] at h
      simp only [skeletonAll, PatternSkeleton.ReadableAll]
      exact ⟨readable_skeleton p h.1 σ, readable_skeletonAll ps h.2 _⟩

end

end Pattern

mutual

/-- Readable expressions have readable skeletons. -/
theorem Encodes.readable {σ τ : Numbering} {e : Expr} {k : Skeleton} :
    Encodes σ e k τ → e.isReadable = true → k.Readable
  | .var _, _ | .global, _ | .op, _ | .ctor, _ => by simp [Skeleton.Readable]
  | @Encodes.const _ c, h => by
      simp only [Expr.isReadable] at h
      simp only [Skeleton.Readable, Shape.nominal_nominal, true_and]
      cases hv : c.values with
      | elements e => exact ⟨e, rfl⟩
      | texts | machineInts | absent | other => simp [hv, HostSlice.isElements] at h
  | .call head tail, h => by
      simp only [Expr.isReadable, Bool.and_eq_true] at h
      simp only [Skeleton.Readable, Ty.isReadable_nominal, Ty.nominal_nominal]
      exact ⟨Encodes.readable head h.1.1, EncodesAll.readable tail h.1.2, h.2, trivial⟩
  | .bind head tail, h => by
      simp only [Expr.isReadable, Bool.and_eq_true] at h
      simp only [Skeleton.Readable]
      exact ⟨Var.readable_binder h.1.1 _, Encodes.readable head h.1.2,
        Encodes.readable tail h.2⟩
  | .cond head left right, h => by
      simp only [Expr.isReadable, Bool.and_eq_true] at h
      simp only [Skeleton.Readable]
      exact ⟨Encodes.readable head h.1.1, Encodes.readable left h.1.2, Encodes.readable right h.2⟩
  | .tuple all, h => by
      simp only [Expr.isReadable] at h
      simp only [Skeleton.Readable]
      exact EncodesAll.readable all h
  | .proj head, h => by
      simp only [Expr.isReadable] at h
      simp only [Skeleton.Readable]
      exact Encodes.readable head h
  | .cases head all, h => by
      simp only [Expr.isReadable, Bool.and_eq_true] at h
      simp only [Skeleton.Readable]
      exact ⟨Encodes.readable head h.1, EncodesClauses.readable all h.2⟩
  | .fn head, h => by
      simp only [Expr.isReadable, Bool.and_eq_true] at h
      simp only [Skeleton.Readable, Ty.isReadable_nominal, Ty.nominal_nominal]
      exact ⟨readable_paramBinders h.1.1 _, Encodes.readable head h.1.2, h.2, trivial⟩

/-- Readable expressions have readable skeletons. -/
theorem EncodesAll.readable {σ τ : Numbering} {es : List Expr} {ks : List Skeleton} :
    EncodesAll σ es ks τ → Expr.areReadable es = true → Skeleton.ReadableAll ks
  | .nil, _ => by simp [Skeleton.ReadableAll]
  | .cons head tail, h => by
      simp only [Expr.areReadable, Bool.and_eq_true] at h
      simp only [Skeleton.ReadableAll]
      exact ⟨Encodes.readable head h.1, EncodesAll.readable tail h.2⟩

/-- Readable clauses have readable skeletons. -/
theorem EncodesClauses.readable {σ τ : Numbering} {cs : List (Pattern × Expr)}
    {ks : List (PatternSkeleton × Skeleton)} :
    EncodesClauses σ cs ks τ → Expr.areReadableClauses cs = true → Skeleton.ReadableClauses ks
  | .nil, _ => by simp [Skeleton.ReadableClauses]
  | .cons head tail, h => by
      simp only [Expr.areReadableClauses, Bool.and_eq_true] at h
      simp only [Skeleton.ReadableClauses]
      exact ⟨Pattern.readable_skeleton _ h.1.1 _, Encodes.readable head h.1.2,
        EncodesClauses.readable tail h.2⟩

end

/-! ### Binders of a skeleton -/

/-- The type of a variable as the encoder knows it. -/
def Var.nominalTy (v : Var) : Ty :=
  v.ty.nominal

namespace PatternSkeleton

mutual

/-- The types of the variables a pattern binds. -/
def binderTypes : PatternSkeleton → List Ty
  | .hole | .wildcard => []
  | .var b => [b.ty]
  | .ctor _ _ fields => binderTypesAll fields
  | .tuple fields => binderTypesAll fields

/-- The types of the variables several patterns bind. -/
def binderTypesAll : List PatternSkeleton → List Ty
  | [] => []
  | p :: ps => binderTypes p ++ binderTypesAll ps

end

end PatternSkeleton

namespace Skeleton

mutual

/-- The types of the variables an expression binds. -/
def binderTypes : Skeleton → List Ty
  | .ref _ | .const _ _ | .global _ | .op _ | .ctor _ _ => []
  | .call callee args _ => binderTypes callee ++ binderTypesAll args
  | .bind b value body => binderTypes value ++ ([b.ty] ++ binderTypes body)
  | .cond test yes no => binderTypes test ++ (binderTypes yes ++ binderTypes no)
  | .tuple fields => binderTypesAll fields
  | .proj e _ => binderTypes e
  | .cases data clauses => binderTypes data ++ binderTypesClauses clauses
  | .fn params body _ _ => params.map Binder.ty ++ binderTypes body

/-- The types of the variables several expressions bind. -/
def binderTypesAll : List Skeleton → List Ty
  | [] => []
  | k :: ks => binderTypes k ++ binderTypesAll ks

/-- The types of the variables clauses bind. -/
def binderTypesClauses : List (PatternSkeleton × Skeleton) → List Ty
  | [] => []
  | (p, k) :: rest => p.binderTypes ++ (binderTypes k ++ binderTypesClauses rest)

end

end Skeleton

theorem map_ty_paramBinders (σ : Numbering) (vs : List Var) :
    (paramBinders σ vs).map Binder.ty = vs.map Var.nominalTy := by
  induction vs generalizing σ with
  | nil => rfl
  | cons v vs ih => simp [paramBinders, ih, Var.binder, Var.nominalTy]

namespace Pattern

mutual

/-- The skeleton of a pattern knows the types of its variables. -/
theorem binderTypes_skeleton : (p : Pattern) → ∀ σ,
    (p.skeleton σ).binderTypes = p.vars.map Var.nominalTy
  | .hole, _ | .wildcard, _ | .var _, _ => rfl
  | .ctor c fields, σ => by
      rw [skeleton, PatternSkeleton.binderTypes, vars, binderTypes_skeletonAll fields]
  | .tuple fields, σ => by
      rw [skeleton, PatternSkeleton.binderTypes, vars, binderTypes_skeletonAll fields]

/-- The skeletons of patterns know the types of their variables. -/
theorem binderTypes_skeletonAll : (ps : List Pattern) → ∀ σ,
    PatternSkeleton.binderTypesAll (skeletonAll σ ps) = (varsAll ps).map Var.nominalTy
  | [], _ => rfl
  | p :: ps, σ => by
      rw [skeletonAll, PatternSkeleton.binderTypesAll, varsAll, List.map_append,
        binderTypes_skeleton p, binderTypes_skeletonAll ps]

end

end Pattern

mutual

/-- The skeleton of an expression knows the types of its binders. -/
theorem Encodes.binderTypes {σ τ : Numbering} {e : Expr} {k : Skeleton} :
    Encodes σ e k τ → k.binderTypes = e.binders.map Var.nominalTy
  | .var _ | .const | .global | .op | .ctor => rfl
  | .call head tail => by
      rw [Skeleton.binderTypes, Expr.binders, List.map_append, Encodes.binderTypes head,
        EncodesAll.binderTypes tail]
  | .bind head tail => by
      rw [Skeleton.binderTypes, Expr.binders, List.map_append, List.map_append,
        Encodes.binderTypes head, Encodes.binderTypes tail]
      rfl
  | .cond head left right => by
      rw [Skeleton.binderTypes, Expr.binders, List.map_append, List.map_append,
        Encodes.binderTypes head, Encodes.binderTypes left, Encodes.binderTypes right]
  | .tuple all => by
      rw [Skeleton.binderTypes, Expr.binders, EncodesAll.binderTypes all]
  | .proj head => by
      rw [Skeleton.binderTypes, Expr.binders, Encodes.binderTypes head]
  | .cases head all => by
      rw [Skeleton.binderTypes, Expr.binders, List.map_append, Encodes.binderTypes head,
        EncodesClauses.binderTypes all]
  | .fn head => by
      rw [Skeleton.binderTypes, Expr.binders, List.map_append, map_ty_paramBinders,
        Encodes.binderTypes head]

/-- The skeletons of expressions know the types of their binders. -/
theorem EncodesAll.binderTypes {σ τ : Numbering} {es : List Expr} {ks : List Skeleton} :
    EncodesAll σ es ks τ →
      Skeleton.binderTypesAll ks = (Expr.bindersAll es).map Var.nominalTy
  | .nil => rfl
  | .cons head tail => by
      rw [Skeleton.binderTypesAll, Expr.bindersAll, List.map_append, Encodes.binderTypes head,
        EncodesAll.binderTypes tail]

/-- The skeletons of clauses know the types of their binders. -/
theorem EncodesClauses.binderTypes {σ τ : Numbering} {cs : List (Pattern × Expr)}
    {ks : List (PatternSkeleton × Skeleton)} : EncodesClauses σ cs ks τ →
      Skeleton.binderTypesClauses ks = (Expr.bindersClauses cs).map Var.nominalTy
  | .nil => rfl
  | .cons head tail => by
      rw [Skeleton.binderTypesClauses, Expr.bindersClauses, List.map_append, List.map_append,
        Pattern.binderTypes_skeleton, Encodes.binderTypes head, EncodesClauses.binderTypes tail]

end

/-! ### Numbers are positions -/

/-- The numbering that gives each variable its position. -/
def Numbering.ofVars (vs : List Var) : Numbering :=
  vs.zipIdx

namespace Numbering

@[simp]
theorem length_ofVars (vs : List Var) : List.length (ofVars vs) = vs.length := by
  simp [ofVars]

/-- A variable that has a number stands at this position. -/
theorem getElem?_of_find? {vs : List Var} {v : Var} {n : Nat}
    (h : (ofVars vs).find? v = some n) : vs[n]? = some v := by
  obtain ⟨⟨w, m⟩, hp, rfl⟩ := Option.map_eq_some_iff.mp h
  obtain rfl : w = v := by simpa using List.find?_some hp
  have := List.mem_zipIdx_iff_getElem?.mp (List.mem_of_find?_eq_some hp)
  simpa using this

/-- A new variable gets the next position. -/
theorem insert_ofVars {vs : List Var} {v : Var} (h : v ∉ vs) :
    (ofVars vs).insert v = ofVars (vs ++ [v]) := by
  have fresh : (List.any (ofVars vs) fun p => p.1 == v) = false := by
    rw [List.any_eq_false]
    rintro ⟨w, n⟩ hp same
    have hw := List.mem_of_getElem? (List.mem_zipIdx_iff_getElem?.mp hp)
    exact h (by simpa using (beq_iff_eq.mp same) ▸ hw)
  rw [insert, fresh, ofVars, ofVars, List.zipIdx_append]
  simp

theorem insertAll_ofVars {vs ws : List Var} (h : (vs ++ ws).Nodup) :
    (ofVars vs).insertAll ws = ofVars (vs ++ ws) := by
  induction ws generalizing vs with
  | nil => simp
  | cons w ws ih =>
      have new : w ∉ vs := fun hw =>
        (List.nodup_append.mp h).2.2 w hw w List.mem_cons_self rfl
      rw [insertAll_cons, insert_ofVars new, ih (by simpa using h)]
      simp

end Numbering

/-- Two lists behind one another without repetition. -/
theorem nodup_append_left {A B C : List Var} (h : (A ++ (B ++ C)).Nodup) :
    (A ++ B).Nodup ∧ ((A ++ B) ++ C).Nodup := by
  rw [← List.append_assoc] at h
  exact ⟨(List.nodup_append.mp h).1, h⟩

mutual

/-- If no variable is bound twice, then numbers stay positions, and every variable that is used is
bound. -/
theorem Encodes.positions {σ τ : Numbering} {e : Expr} {k : Skeleton} :
    Encodes σ e k τ → ∀ A, σ = .ofVars A → (A ++ e.binders).Nodup →
      τ = .ofVars (A ++ e.binders) ∧ e.vars ⊆ A ++ e.binders
  | .var found, A, hA, _ => by
      subst hA
      have := List.mem_of_getElem? (Numbering.getElem?_of_find? found)
      simpa [Expr.binders, Expr.vars] using this
  | .const, A, hA, _ | .global, A, hA, _ | .op, A, hA, _ | .ctor, A, hA, _ => by
      simp [hA, Expr.binders, Expr.vars]
  | .call head tail, A, hA, nodup => by
      rw [Expr.binders] at nodup ⊢
      obtain ⟨hn₁, hn₂⟩ := nodup_append_left nodup
      obtain ⟨h₁, hv₁⟩ := Encodes.positions head A hA hn₁
      obtain ⟨h₂, hv₂⟩ := EncodesAll.positions tail _ h₁ hn₂
      rw [← List.append_assoc, Expr.vars]
      exact ⟨h₂, List.append_subset.mpr ⟨List.subset_append_of_subset_left _ hv₁, hv₂⟩⟩
  | .bind head tail, A, hA, nodup => by
      rw [Expr.binders] at nodup ⊢
      obtain ⟨hn₁, hn₂⟩ := nodup_append_left nodup
      obtain ⟨hn₂, hn₃⟩ := nodup_append_left hn₂
      obtain ⟨h₁, hv₁⟩ := Encodes.positions head A hA hn₁
      subst h₁
      obtain ⟨h₂, hv₂⟩ := Encodes.positions tail _ (Numbering.insertAll_ofVars hn₂) hn₃
      rw [← List.append_assoc, ← List.append_assoc, Expr.vars]
      refine ⟨h₂, List.append_subset.mpr ⟨?_, List.append_subset.mpr ⟨?_, hv₂⟩⟩⟩
      · exact List.subset_append_of_subset_left _ (List.subset_append_of_subset_left _ hv₁)
      · exact List.subset_append_of_subset_left _ (List.subset_append_right _ _)
  | .cond head left right, A, hA, nodup => by
      rw [Expr.binders] at nodup ⊢
      obtain ⟨hn₁, hn₂⟩ := nodup_append_left nodup
      obtain ⟨hn₂, hn₃⟩ := nodup_append_left hn₂
      obtain ⟨h₁, hv₁⟩ := Encodes.positions head A hA hn₁
      obtain ⟨h₂, hv₂⟩ := Encodes.positions left _ h₁ hn₂
      obtain ⟨h₃, hv₃⟩ := Encodes.positions right _ h₂ hn₃
      rw [← List.append_assoc, ← List.append_assoc, Expr.vars]
      refine ⟨h₃, List.append_subset.mpr ⟨List.append_subset.mpr ⟨?_, ?_⟩, hv₃⟩⟩
      · exact List.subset_append_of_subset_left _ (List.subset_append_of_subset_left _ hv₁)
      · exact List.subset_append_of_subset_left _ hv₂
  | .tuple all, A, hA, nodup => by
      rw [Expr.binders] at nodup ⊢
      exact EncodesAll.positions all A hA nodup
  | .proj head, A, hA, nodup => by
      rw [Expr.binders] at nodup ⊢
      exact Encodes.positions head A hA nodup
  | .cases head all, A, hA, nodup => by
      rw [Expr.binders] at nodup ⊢
      obtain ⟨hn₁, hn₂⟩ := nodup_append_left nodup
      obtain ⟨h₁, hv₁⟩ := Encodes.positions head A hA hn₁
      obtain ⟨h₂, hv₂⟩ := EncodesClauses.positions all _ h₁ hn₂
      rw [← List.append_assoc, Expr.vars]
      exact ⟨h₂, List.append_subset.mpr ⟨List.subset_append_of_subset_left _ hv₁, hv₂⟩⟩
  | .fn head, A, hA, nodup => by
      rw [Expr.binders] at nodup ⊢
      obtain ⟨hn₁, hn₂⟩ := nodup_append_left nodup
      subst hA
      obtain ⟨h₁, hv₁⟩ := Encodes.positions head _ (Numbering.insertAll_ofVars hn₁) hn₂
      rw [← List.append_assoc, Expr.vars]
      refine ⟨h₁, List.append_subset.mpr ⟨?_, hv₁⟩⟩
      exact List.subset_append_of_subset_left _ (List.subset_append_right _ _)

/-- Numbers stay positions in several expressions. -/
theorem EncodesAll.positions {σ τ : Numbering} {es : List Expr} {ks : List Skeleton} :
    EncodesAll σ es ks τ → ∀ A, σ = .ofVars A → (A ++ Expr.bindersAll es).Nodup →
      τ = .ofVars (A ++ Expr.bindersAll es) ∧ Expr.varsAll es ⊆ A ++ Expr.bindersAll es
  | .nil, A, hA, _ => by simp [hA, Expr.bindersAll, Expr.varsAll]
  | .cons head tail, A, hA, nodup => by
      rw [Expr.bindersAll] at nodup ⊢
      obtain ⟨hn₁, hn₂⟩ := nodup_append_left nodup
      obtain ⟨h₁, hv₁⟩ := Encodes.positions head A hA hn₁
      obtain ⟨h₂, hv₂⟩ := EncodesAll.positions tail _ h₁ hn₂
      rw [← List.append_assoc, Expr.varsAll]
      exact ⟨h₂, List.append_subset.mpr ⟨List.subset_append_of_subset_left _ hv₁, hv₂⟩⟩

/-- Numbers stay positions in clauses. -/
theorem EncodesClauses.positions {σ τ : Numbering} {cs : List (Pattern × Expr)}
    {ks : List (PatternSkeleton × Skeleton)} :
    EncodesClauses σ cs ks τ → ∀ A, σ = .ofVars A → (A ++ Expr.bindersClauses cs).Nodup →
      τ = .ofVars (A ++ Expr.bindersClauses cs) ∧
        Expr.varsClauses cs ⊆ A ++ Expr.bindersClauses cs
  | .nil, A, hA, _ => by simp [hA, Expr.bindersClauses, Expr.varsClauses]
  | .cons head tail, A, hA, nodup => by
      rw [Expr.bindersClauses] at nodup ⊢
      obtain ⟨hn₁, hn₂⟩ := nodup_append_left nodup
      obtain ⟨hn₂, hn₃⟩ := nodup_append_left hn₂
      subst hA
      obtain ⟨h₁, hv₁⟩ := Encodes.positions head _ (Numbering.insertAll_ofVars hn₁) hn₂
      obtain ⟨h₂, hv₂⟩ := EncodesClauses.positions tail _ h₁ hn₃
      rw [← List.append_assoc, ← List.append_assoc, Expr.varsClauses]
      refine ⟨h₂, List.append_subset.mpr ⟨List.append_subset.mpr ⟨?_, ?_⟩, hv₂⟩⟩
      · exact List.subset_append_of_subset_left _ (List.subset_append_of_subset_left _
          (List.subset_append_right _ _))
      · exact List.subset_append_of_subset_left _ hv₁

end

/-! ### One skeleton, one function up to renaming -/

theorem prefix_append_left {A B C all : List Var} (h : A ++ (B ++ C) <+: all) :
    A ++ B <+: all ∧ (A ++ B) ++ C <+: all := by
  rw [← List.append_assoc] at h
  exact ⟨(List.prefix_append _ _).trans h, h⟩

theorem getElem?_of_prefix {A all : List Var} {n : Nat} {v : Var} (h : A <+: all)
    (hv : A[n]? = some v) : all[n]? = some v := by
  obtain ⟨r, rfl⟩ := h
  rw [List.getElem?_append_left (List.getElem?_eq_some_iff.mp hv).1]
  exact hv

/-- Binders at the same positions correspond. -/
theorem map_of_prefix {ρ : Var → Var} {all all' A B vs ws : List Var} (map : all.map ρ = all')
    (pre : A ++ vs <+: all) (pre' : B ++ ws <+: all') (len : A.length = B.length)
    (len' : vs.length = ws.length) : vs.map ρ = ws := by
  obtain ⟨r, rfl⟩ := pre
  obtain ⟨s, rfl⟩ := pre'
  rw [List.map_append] at map
  have front := (List.append_inj map (by simp [len, len'])).1
  rw [List.map_append] at front
  exact (List.append_inj front (by simp [len])).2

namespace Pattern

variable {ρ : Var → Var} {all all' : List Var}

theorem length_vars_of_skeleton {p q : Pattern} {σ τ : Numbering}
    (h : p.skeleton σ = q.skeleton τ) : p.vars.length = q.vars.length := by
  have types := (p.binderTypes_skeleton σ).symm.trans (h ▸ q.binderTypes_skeleton τ)
  simpa using congrArg List.length types

mutual

/-- Patterns with one skeleton are renamings of one another. -/
theorem renamed_of_skeleton (map : all.map ρ = all') : (p : Pattern) → ∀ q σ τ A B,
    p.skeleton σ = q.skeleton τ → A.length = B.length → A ++ p.vars <+: all →
      B ++ q.vars <+: all' → Renamed ρ p q
  | .hole => by
      intro q σ τ A B h len pre pre'
      cases q with
      | hole => exact .hole
      | _ => simp [skeleton] at h
  | .wildcard => by
      intro q σ τ A B h len pre pre'
      cases q with
      | wildcard => exact .wildcard
      | _ => simp [skeleton] at h
  | .var v => by
      intro q σ τ A B h len pre pre'
      cases q with
      | var w =>
          have same : [v].map ρ = [w] := map_of_prefix map pre pre' len rfl
          obtain rfl : ρ v = w := by simpa using same
          exact .var v
      | _ => simp [skeleton] at h
  | .ctor c fields => by
      intro q σ τ A B h len pre pre'
      cases q with
      | ctor d fields' =>
          simp only [skeleton, PatternSkeleton.ctor.injEq] at h
          exact .ctor h.1 h.2.1 (renamedAll_of_skeleton map fields _ _ _ _ _ h.2.2 len pre pre')
      | _ => simp [skeleton] at h
  | .tuple fields => by
      intro q σ τ A B h len pre pre'
      cases q with
      | tuple fields' =>
          simp only [skeleton, PatternSkeleton.tuple.injEq] at h
          exact .tuple (renamedAll_of_skeleton map fields _ _ _ _ _ h len pre pre')
      | _ => simp [skeleton] at h

/-- Several patterns with one skeleton each are renamings of one another. -/
theorem renamedAll_of_skeleton (map : all.map ρ = all') : (ps : List Pattern) →
    ∀ qs σ τ A B, skeletonAll σ ps = skeletonAll τ qs → A.length = B.length →
      A ++ varsAll ps <+: all → B ++ varsAll qs <+: all' → RenamedAll ρ ps qs
  | [] => by
      intro qs σ τ A B h len pre pre'
      cases qs with
      | nil => exact .nil
      | cons => simp [skeletonAll] at h
  | p :: ps => by
      intro qs σ τ A B h len pre pre'
      cases qs with
      | nil => simp [skeletonAll] at h
      | cons q qs =>
          simp only [skeletonAll, List.cons.injEq] at h
          rw [varsAll] at pre pre'
          obtain ⟨pre₁, pre₂⟩ := prefix_append_left pre
          obtain ⟨pre₁', pre₂'⟩ := prefix_append_left pre'
          refine .cons (renamed_of_skeleton map p _ _ _ _ _ h.1 len pre₁ pre₁')
            (renamedAll_of_skeleton map ps _ _ _ _ _ h.2 ?_ pre₂ pre₂')
          simp [len, length_vars_of_skeleton h.1]

end

end Pattern

section

variable {ρ : Var → Var} {all all' : List Var}

/-- Expressions with one skeleton have as many binders. -/
theorem Encodes.length_binders {σ σ' τ τ' : Numbering} {e e' : Expr} {k : Skeleton}
    (h : Encodes σ e k τ) (h' : Encodes σ' e' k τ') : e.binders.length = e'.binders.length := by
  simpa using congrArg List.length (h.binderTypes.symm.trans h'.binderTypes)

/-- The numbering after an expression whose binders are a part of all binders. -/
theorem Encodes.advance {σ τ : Numbering} {e : Expr} {k : Skeleton} {A : List Var}
    (h : Encodes σ e k τ) (nodup : all.Nodup) (hA : σ = .ofVars A) (pre : A ++ e.binders <+: all) :
    τ = .ofVars (A ++ e.binders) :=
  (h.positions A hA (nodup.sublist pre.sublist)).1

/-- What relates two expressions of one skeleton: the numbers before them are the positions in two
lists of one length, and their binders go on in the lists of all binders. -/
structure Aligned (all all' : List Var) (σ σ' : Numbering) (bs bs' A B : List Var) : Prop where
  left : σ = .ofVars A
  right : σ' = .ofVars B
  length : A.length = B.length
  pre : A ++ bs <+: all
  pre' : B ++ bs' <+: all'

namespace Aligned

variable {σ σ' : Numbering} {bs bs' cs cs' A B : List Var}

theorem first (h : Aligned all all' σ σ' (bs ++ cs) (bs' ++ cs') A B) :
    Aligned all all' σ σ' bs bs' A B :=
  ⟨h.left, h.right, h.length, (prefix_append_left h.pre).1, (prefix_append_left h.pre').1⟩

/-- After the first of two parts the second one is aligned. -/
theorem second (h : Aligned all all' σ σ' (bs ++ cs) (bs' ++ cs') A B)
    (len : bs.length = bs'.length) :
    Aligned all all' (.ofVars (A ++ bs)) (.ofVars (B ++ bs')) cs cs' (A ++ bs) (B ++ bs') :=
  ⟨rfl, rfl, by simp [h.length, len], (prefix_append_left h.pre).2, (prefix_append_left h.pre').2⟩

/-- After variables that both sides bind the rest is aligned. -/
theorem bound (h : Aligned all all' σ σ' (bs ++ cs) (bs' ++ cs') A B) (nodup : all.Nodup)
    (nodup' : all'.Nodup) (len : bs.length = bs'.length) :
    Aligned all all' (σ.insertAll bs) (σ'.insertAll bs') cs cs' (A ++ bs) (B ++ bs') := by
  have left := Numbering.insertAll_ofVars (nodup.sublist h.first.pre.sublist)
  have right := Numbering.insertAll_ofVars (nodup'.sublist h.first.pre'.sublist)
  rw [h.left, h.right, left, right]
  exact h.second len

/-- After expressions of one skeleton the rest is aligned. -/
theorem after {τ τ' : Numbering} {e e' : Expr} {k : Skeleton}
    (h : Aligned all all' σ σ' (e.binders ++ cs) (e'.binders ++ cs') A B) (nodup : all.Nodup)
    (nodup' : all'.Nodup) (he : Encodes σ e k τ) (he' : Encodes σ' e' k τ') :
    Aligned all all' τ τ' cs cs' (A ++ e.binders) (B ++ e'.binders) := by
  rw [he.advance nodup h.left h.first.pre, he'.advance nodup' h.right h.first.pre']
  exact h.second (he.length_binders he')

/-- Aligned variables correspond. -/
theorem map_eq (h : Aligned all all' σ σ' bs bs' A B) (map : all.map ρ = all')
    (len : bs.length = bs'.length) : bs.map ρ = bs' :=
  map_of_prefix map h.pre h.pre' h.length len

end Aligned

mutual

/-- Aligned expressions with one skeleton are renamings of one another. -/
theorem Encodes.renamed {σ τ : Numbering} {e : Expr} {k : Skeleton} (nodup : all.Nodup)
    (nodup' : all'.Nodup) (map : all.map ρ = all') :
    Encodes σ e k τ → ∀ σ' e' k' τ' A B, Encodes σ' e' k' τ' → k = k' →
      Aligned all all' σ σ' e.binders e'.binders A B → Renamed ρ e e'
  | @Encodes.var _ v n found => by
      intro σ' e' k' τ' A B h' hk al
      cases h' with
      | @var _ w n' found' =>
          cases hk
          have hv : all[n]? = some v := by
            rw [al.left] at found
            have pre := (List.prefix_append A _).trans al.pre
            exact getElem?_of_prefix pre (Numbering.getElem?_of_find? found)
          have hw : all'[n]? = some w := by
            rw [al.right] at found'
            have pre := (List.prefix_append B _).trans al.pre'
            exact getElem?_of_prefix pre (Numbering.getElem?_of_find? found')
          obtain rfl : ρ v = w := by
            rw [← map, List.getElem?_map, hv] at hw
            exact Option.some.inj hw
          exact .var v
      | _ => cases hk
  | .const => by
      intro σ' e' k' τ' A B h' hk al
      cases h' with
      | const =>
          injection hk with shape values
          exact .const shape values
      | _ => cases hk
  | .global => by
      intro σ' e' k' τ' A B h' hk al
      cases h' with
      | global =>
          injection hk with name
          exact .global name
      | _ => cases hk
  | .op => by
      intro σ' e' k' τ' A B h' hk al
      cases h' with
      | op =>
          cases hk
          exact .op _
      | _ => cases hk
  | .ctor => by
      intro σ' e' k' τ' A B h' hk al
      cases h' with
      | ctor =>
          injection hk with data tag
          exact .ctor data tag
      | _ => cases hk
  | .call head tail => by
      intro σ' e' k' τ' A B h' hk al
      cases h' with
      | call head' tail' =>
          injection hk with hf hks ty
          subst hf
          exact .call (Encodes.renamed nodup nodup' map head _ _ _ _ _ _ head' rfl al.first)
            (EncodesAll.renamed nodup nodup' map tail _ _ _ _ _ _ tail' hks
              (al.after nodup nodup' head head')) ty
      | _ => cases hk
  | @Encodes.bind _ _ _ v _ _ _ _ head tail => by
      intro σ' e' k' τ' A B h' hk al
      cases h' with
      | @bind _ _ _ w _ _ _ _ head' tail' =>
          injection hk with _ hx hb
          subst hx
          have rest := al.after nodup nodup' head head'
          obtain rfl : ρ v = w := by simpa using rest.first.map_eq map rfl
          exact .bind (Encodes.renamed nodup nodup' map head _ _ _ _ _ _ head' rfl al.first)
            (Encodes.renamed nodup nodup' map tail _ _ _ _ _ _ tail' hb
              (rest.bound nodup nodup' rfl))
      | _ => cases hk
  | .cond head left right => by
      intro σ' e' k' τ' A B h' hk al
      cases h' with
      | cond head' left' right' =>
          injection hk with hc hy hn
          subst hc
          subst hy
          have rest := al.after nodup nodup' head head'
          exact .cond (Encodes.renamed nodup nodup' map head _ _ _ _ _ _ head' rfl al.first)
            (Encodes.renamed nodup nodup' map left _ _ _ _ _ _ left' rfl rest.first)
            (Encodes.renamed nodup nodup' map right _ _ _ _ _ _ right' hn
              (rest.after nodup nodup' left left'))
      | _ => cases hk
  | .tuple all => by
      intro σ' e' k' τ' A B h' hk al
      cases h' with
      | tuple all' =>
          injection hk with hks
          exact .tuple (EncodesAll.renamed nodup nodup' map all _ _ _ _ _ _ all' hks al)
      | _ => cases hk
  | .proj head => by
      intro σ' e' k' τ' A B h' hk al
      cases h' with
      | proj head' =>
          injection hk with hx index
          subst index
          exact .proj (Encodes.renamed nodup nodup' map head _ _ _ _ _ _ head' hx al)
      | _ => cases hk
  | .cases head all => by
      intro σ' e' k' τ' A B h' hk al
      cases h' with
      | cases head' all' =>
          injection hk with hd hcs
          subst hd
          exact .cases (Encodes.renamed nodup nodup' map head _ _ _ _ _ _ head' rfl al.first)
            (EncodesClauses.renamed nodup nodup' map all _ _ _ _ _ _ all' hcs
              (al.after nodup nodup' head head'))
      | _ => cases hk
  | @Encodes.fn _ _ params _ _ _ _ head => by
      intro σ' e' k' τ' A B h' hk al
      cases h' with
      | @fn _ _ params' _ _ _ _ head' =>
          injection hk with hps hb ret primitive
          subst primitive
          have len : params.length = params'.length := by
            have types := congrArg (List.map Binder.ty) hps
            rw [map_ty_paramBinders, map_ty_paramBinders] at types
            simpa using congrArg List.length types
          obtain rfl : params.map ρ = params' := al.first.map_eq map len
          exact .fn (Encodes.renamed nodup nodup' map head _ _ _ _ _ _ head' hb
            (al.bound nodup nodup' len)) ret
      | _ => cases hk

/-- Aligned lists of expressions with one skeleton each are renamings of one another. -/
theorem EncodesAll.renamed {σ τ : Numbering} {es : List Expr} {ks : List Skeleton}
    (nodup : all.Nodup) (nodup' : all'.Nodup) (map : all.map ρ = all') :
    EncodesAll σ es ks τ → ∀ σ' es' ks' τ' A B, EncodesAll σ' es' ks' τ' → ks = ks' →
      Aligned all all' σ σ' (Expr.bindersAll es) (Expr.bindersAll es') A B → RenamedAll ρ es es'
  | .nil => by
      intro σ' es' ks' τ' A B h' hk al
      cases h' with
      | nil => exact .nil
      | cons => cases hk
  | .cons head tail => by
      intro σ' es' ks' τ' A B h' hk al
      cases h' with
      | nil => cases hk
      | cons head' tail' =>
          injection hk with hk hks
          subst hk
          exact .cons (Encodes.renamed nodup nodup' map head _ _ _ _ _ _ head' rfl al.first)
            (EncodesAll.renamed nodup nodup' map tail _ _ _ _ _ _ tail' hks
              (al.after nodup nodup' head head'))

/-- Aligned clauses with one skeleton each are renamings of one another. -/
theorem EncodesClauses.renamed {σ τ : Numbering} {cs : List (Pattern × Expr)}
    {ks : List (PatternSkeleton × Skeleton)} (nodup : all.Nodup) (nodup' : all'.Nodup)
    (map : all.map ρ = all') : EncodesClauses σ cs ks τ → ∀ σ' cs' ks' τ' A B,
      EncodesClauses σ' cs' ks' τ' → ks = ks' →
      Aligned all all' σ σ' (Expr.bindersClauses cs) (Expr.bindersClauses cs') A B →
        RenamedClauses ρ cs cs'
  | .nil => by
      intro σ' cs' ks' τ' A B h' hk al
      cases h' with
      | nil => exact .nil
      | cons => cases hk
  | .cons head tail => by
      intro σ' cs' ks' τ' A B h' hk al
      cases h' with
      | nil => cases hk
      | cons head' tail' =>
          injection hk with hpk hks
          injection hpk with hp hk
          subst hk
          have rest := al.bound nodup nodup' (Pattern.length_vars_of_skeleton hp)
          exact .cons
            (Pattern.renamed_of_skeleton map _ _ _ _ _ _ hp al.length al.first.pre al.first.pre')
            (Encodes.renamed nodup nodup' map head _ _ _ _ _ _ head' rfl rest.first)
            (EncodesClauses.renamed nodup nodup' map tail _ _ _ _ _ _ tail' hks
              (rest.after nodup nodup' head head'))

end

end

/-- The function that sends each variable of a list to the variable of another list at the same
position. -/
def Var.follow (all all' : List Var) (v : Var) : Var :=
  all'.getD (all.idxOf v) v

theorem map_follow {all all' : List Var} (nodup : all.Nodup) (len : all.length = all'.length) :
    all.map (Var.follow all all') = all' := by
  refine List.ext_getElem (by simpa using len) ?_
  intro i hi hi'
  have hlt : i < all.length := by simpa using hi
  simp [Var.follow, List.Nodup.idxOf_getElem nodup i hlt, List.getElem?_eq_getElem hi']

/-- Corresponding variables are told apart and have corresponding types. -/
theorem renaming_of_map {all all' : List Var} {ρ : Var → Var} (map : all.map ρ = all')
    (nodup' : all'.Nodup) (types : all.map Var.nominalTy = all'.map Var.nominalTy) :
    Renaming all ρ := by
  subst map
  refine ⟨?_, ?_⟩
  · intro u hu v hv same
    exact List.inj_on_of_nodup_map nodup' hu hv same
  · intro v hv
    rw [List.map_map] at types
    exact (List.map_inj_left.mp types v hv).symm

/-- Functions that have one encoding, that bind no variable twice and that the encoder can keep
apart are renamings of one another. -/
theorem Function.renamed_of_encoding {f g : Function} {s : String} (hf : f.encoding = .ok s)
    (hg : g.encoding = .ok s) (onceF : f.toExpr.binders.Nodup) (onceG : g.toExpr.binders.Nodup)
    (readF : f.toExpr.isReadable = true) (readG : g.toExpr.isReadable = true) :
    ∃ ρ, Renaming f.toExpr.vars ρ ∧ Renamed ρ f.toExpr g.toExpr := by
  obtain ⟨k, τ, hk, rfl⟩ := (f.encoding_eq_ok_iff s).mp hf
  obtain ⟨l, τ', hl, same⟩ := (g.encoding_eq_ok_iff _).mp hg
  obtain rfl := Skeleton.text_injective (hk.readable readF) (hl.readable readG) same
  have types := hk.binderTypes.symm.trans hl.binderTypes
  have len := hk.length_binders hl
  refine ⟨Var.follow f.toExpr.binders g.toExpr.binders, ?_, ?_⟩
  · have used := (hk.positions [] rfl onceF).2
    exact (renaming_of_map (map_follow onceF len) onceG types).subset used
  · exact hk.renamed onceF onceG (map_follow onceF len) _ _ _ _ [] [] hl rfl
      ⟨rfl, rfl, rfl, List.prefix_refl _, List.prefix_refl _⟩

/-- The encoding is a canonical form up to renaming: of two functions that have an encoding, that
bind no variable twice and that the encoder can keep apart, each is a renaming of the other exactly
if their encodings are equal. -/
theorem encoding_eq_iff_renamed {f g : Function} {s t : String} (hf : f.encoding = .ok s)
    (hg : g.encoding = .ok t) (onceF : f.toExpr.binders.Nodup) (onceG : g.toExpr.binders.Nodup)
    (readF : f.toExpr.isReadable = true) (readG : g.toExpr.isReadable = true) :
    s = t ↔ ∃ ρ, Renaming f.toExpr.vars ρ ∧ Renamed ρ f.toExpr g.toExpr := by
  constructor
  · rintro rfl
    exact Function.renamed_of_encoding hf hg onceF onceG readF readG
  · rintro ⟨ρ, ok, h⟩
    exact Except.ok.inj ((Function.encoding_of_renamed hf ok h).symm.trans hg)

/-- The primitive function that adds its argument to a copy of it, over two named variables. -/
def addCopy (x y : String) : Function :=
  { params := [⟨0, x, .scalar .float32⟩]
    body := .bind ⟨1, y, .scalar .float32⟩ (.var ⟨0, x, .scalar .float32⟩)
      (.call (.op "add") [.var ⟨0, x, .scalar .float32⟩, .var ⟨1, y, .scalar .float32⟩]
        (.scalar .float32))
    ret := .scalar .float32
    primitive := true }

/-- Two such functions have one encoding and are renamings of one another. -/
theorem addCopy_renamed : ∃ ρ, Renaming (addCopy "x" "y").toExpr.vars ρ ∧
    Renamed ρ (addCopy "x" "y").toExpr (addCopy "left" "right").toExpr :=
  have code : (addCopy "x" "y").encoding = (addCopy "left" "right").encoding ∧
      (addCopy "x" "y").encoding = .ok ("(fn primitive (%0:float32) float32 " ++
        "(let %0 %1:float32 (call #\"add\" float32( %0 %1))))") := ⟨rfl, rfl⟩
  (encoding_eq_iff_renamed code.2 (code.1.symm.trans code.2) (by decide) (by decide) (by decide)
    (by decide)).mp rfl

end TensorCompiler
