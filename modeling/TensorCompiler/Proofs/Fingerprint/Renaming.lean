import TensorCompiler.Proofs.Fingerprint.Skeleton

/-!
# Renamings

Two expressions are renamings of one another if they differ in the variables, which correspond to
each other by one function, and in what the encoder does not read: the types of conditionals,
tuples, projections, matches and globals, the keys of data types and constants, the names and
inputs of constructors. The types it reads agree in nominal form. Constants correspond if they have
one shape and print alike.

Main statement: an injective renaming that preserves types keeps the skeleton, and so the encoding.
-/

namespace TensorCompiler

section

variable (ρ : Var → Var)

mutual

/-- A pattern and its renaming. -/
inductive Pattern.Renamed : Pattern → Pattern → Prop
  | hole : Pattern.Renamed .hole .hole
  | wildcard : Pattern.Renamed .wildcard .wildcard
  | var (v : Var) : Pattern.Renamed (.var v) (.var (ρ v))
  | ctor {c d : Ctor} {ps qs} (data : c.data.name = d.data.name) (tag : c.tag = d.tag)
      (fields : Pattern.RenamedAll ps qs) : Pattern.Renamed (.ctor c ps) (.ctor d qs)
  | tuple {ps qs} (fields : Pattern.RenamedAll ps qs) : Pattern.Renamed (.tuple ps) (.tuple qs)

/-- Several patterns and their renamings. -/
inductive Pattern.RenamedAll : List Pattern → List Pattern → Prop
  | nil : Pattern.RenamedAll [] []
  | cons {p q ps qs} (head : Pattern.Renamed p q) (tail : Pattern.RenamedAll ps qs) :
      Pattern.RenamedAll (p :: ps) (q :: qs)

end

mutual

/-- An expression and its renaming. -/
inductive Renamed : Expr → Expr → Prop
  | hole : Renamed .hole .hole
  | var (v : Var) : Renamed (.var v) (.var (ρ v))
  | const {c d : Constant} (shape : c.shape.nominal = d.shape.nominal)
      (values : c.values.text = d.values.text) : Renamed (.const c) (.const d)
  | global {g h : GlobalRef} (name : g.name = h.name) : Renamed (.global g) (.global h)
  | op (name : String) : Renamed (.op name) (.op name)
  | ctor {c d : Ctor} (data : c.data.name = d.data.name) (tag : c.tag = d.tag) :
      Renamed (.ctor c) (.ctor d)
  | call {f g args args' t u} (head : Renamed f g) (tail : RenamedAll args args')
      (ty : t.nominal = u.nominal) : Renamed (.call f args t) (.call g args' u)
  | bind {v value value' body body'} (head : Renamed value value') (tail : Renamed body body') :
      Renamed (.bind v value body) (.bind (ρ v) value' body')
  | cond {test test' yes yes' no no' t u} (head : Renamed test test') (left : Renamed yes yes')
      (right : Renamed no no') : Renamed (.cond test yes no t) (.cond test' yes' no' u)
  | tuple {fields fields' t u} (all : RenamedAll fields fields') :
      Renamed (.tuple fields t) (.tuple fields' u)
  | proj {e e' index t u} (head : Renamed e e') : Renamed (.proj e index t) (.proj e' index u)
  | cases {data data' cs ds t u} (head : Renamed data data') (all : RenamedClauses cs ds) :
      Renamed (.cases data cs t) (.cases data' ds u)
  | fn {params body body' t u primitive} (head : Renamed body body')
      (ty : t.nominal = u.nominal) :
      Renamed (.fn params body t primitive) (.fn (params.map ρ) body' u primitive)

/-- Several expressions and their renamings. -/
inductive RenamedAll : List Expr → List Expr → Prop
  | nil : RenamedAll [] []
  | cons {e e' es es'} (head : Renamed e e') (tail : RenamedAll es es') :
      RenamedAll (e :: es) (e' :: es')

/-- Clauses and their renamings. -/
inductive RenamedClauses : List (Pattern × Expr) → List (Pattern × Expr) → Prop
  | nil : RenamedClauses [] []
  | cons {p q e e' es es'} (pattern : Pattern.Renamed ρ p q) (head : Renamed e e')
      (tail : RenamedClauses es es') : RenamedClauses ((p, e) :: es) ((q, e') :: es')

end

end

/-! ### Variables -/

namespace Expr

mutual

/-- The variables of an expression, where they are bound and where they are used. -/
def vars : Expr → List Var
  | .hole | .const _ | .global _ | .op _ | .ctor _ => []
  | .var v => [v]
  | .call callee args _ => vars callee ++ varsAll args
  | .bind v value body => vars value ++ ([v] ++ vars body)
  | .cond test yes no _ => vars test ++ vars yes ++ vars no
  | .tuple fields _ => varsAll fields
  | .proj e _ _ => vars e
  | .cases data clauses _ => vars data ++ varsClauses clauses
  | .fn params body _ _ => params ++ vars body

/-- The variables of several expressions. -/
def varsAll : List Expr → List Var
  | [] => []
  | e :: es => vars e ++ varsAll es

/-- The variables of clauses. -/
def varsClauses : List (Pattern × Expr) → List Var
  | [] => []
  | (p, e) :: rest => p.vars ++ vars e ++ varsClauses rest

end

mutual

/-- The variables an expression binds, in the order in which the encoder numbers them. -/
def binders : Expr → List Var
  | .hole | .var _ | .const _ | .global _ | .op _ | .ctor _ => []
  | .call callee args _ => binders callee ++ bindersAll args
  | .bind v value body => binders value ++ ([v] ++ binders body)
  | .cond test yes no _ => binders test ++ (binders yes ++ binders no)
  | .tuple fields _ => bindersAll fields
  | .proj e _ _ => binders e
  | .cases data clauses _ => binders data ++ bindersClauses clauses
  | .fn params body _ _ => params ++ binders body

/-- The variables several expressions bind. -/
def bindersAll : List Expr → List Var
  | [] => []
  | e :: es => binders e ++ bindersAll es

/-- The variables clauses bind. -/
def bindersClauses : List (Pattern × Expr) → List Var
  | [] => []
  | (p, e) :: rest => p.vars ++ (binders e ++ bindersClauses rest)

end

end Expr

/-- A renaming of some variables: injective on them, and each keeps its type up to the keys of data
types. -/
structure Renaming (vs : List Var) (ρ : Var → Var) : Prop where
  inj : ∀ u ∈ vs, ∀ v ∈ vs, ρ u = ρ v → u = v
  ty : ∀ v ∈ vs, (ρ v).ty.nominal = v.ty.nominal

theorem Renaming.subset {vs ws : List Var} {ρ : Var → Var} (h : Renaming vs ρ) (hw : ws ⊆ vs) :
    Renaming ws ρ :=
  ⟨fun u hu v hv => h.inj u (hw hu) v (hw hv), fun v hv => h.ty v (hw hv)⟩

/-! ### Renamed numberings -/

namespace Numbering

/-- The variables that have a number. -/
def vars (σ : Numbering) : List Var :=
  List.map Prod.fst σ

/-- The numbers of renamed variables. -/
def rename (ρ : Var → Var) (σ : Numbering) : Numbering :=
  List.map (fun p => (ρ p.1, p.2)) σ

@[simp]
theorem length_rename (ρ : Var → Var) (σ : Numbering) :
    List.length (σ.rename ρ) = List.length σ := by
  simp [rename]

/-- Binding a variable adds no other one. -/
theorem mem_vars_insert {σ : Numbering} {v w : Var} (h : w ∈ (σ.insert v).vars) :
    w ∈ σ.vars ∨ w = v := by
  unfold insert at h
  split at h
  · simp only [vars, List.map_map, List.mem_map, Function.comp_apply] at h
    obtain ⟨p, hp, rfl⟩ := h
    split
    · exact Or.inr rfl
    · exact Or.inl (List.mem_map_of_mem hp)
  · simpa [vars] using h

theorem mem_vars_insertAll {σ : Numbering} {vs : List Var} {w : Var}
    (h : w ∈ (σ.insertAll vs).vars) : w ∈ σ.vars ∨ w ∈ vs := by
  induction vs generalizing σ with
  | nil => exact Or.inl h
  | cons v vs ih =>
      rcases ih h with h | h
      · rcases mem_vars_insert h with h | rfl
        · exact Or.inl h
        · exact Or.inr List.mem_cons_self
      · exact Or.inr (List.mem_cons_of_mem _ h)

/-- A renamed variable has the number of the variable. -/
theorem find?_rename {ρ : Var → Var} {σ : Numbering} {v : Var}
    (inj : ∀ u ∈ σ.vars, ρ u = ρ v → u = v) : (σ.rename ρ).find? (ρ v) = σ.find? v := by
  induction σ with
  | nil => rfl
  | cons p σ ih =>
      have rest := ih fun u hu => inj u (List.mem_cons_of_mem _ hu)
      by_cases hp : p.1 = v
      · simp [find?, rename, hp]
      · have hne : ρ p.1 ≠ ρ v := fun h => hp (inj p.1 List.mem_cons_self h)
        simpa [find?, rename, hp, hne] using rest

/-- Renamed variables are bound like the variables. -/
theorem insert_rename {ρ : Var → Var} {σ : Numbering} {v : Var}
    (inj : ∀ u ∈ σ.vars, ρ u = ρ v → u = v) :
    (σ.rename ρ).insert (ρ v) = (σ.insert v).rename ρ := by
  have same : ∀ p ∈ σ, (ρ p.1 == ρ v) = (p.1 == v) := by
    intro p hp
    by_cases h : p.1 = v
    · simp [h]
    · have hne : ρ p.1 ≠ ρ v := fun e => h (inj p.1 (List.mem_map_of_mem hp) e)
      rw [beq_eq_false_iff_ne.mpr hne, beq_eq_false_iff_ne.mpr h]
  have any : (List.any (σ.rename ρ) fun p => p.1 == ρ v) = List.any σ fun p => p.1 == v := by
    rw [rename, List.any_map, Bool.eq_iff_iff, List.any_eq_true, List.any_eq_true]
    refine exists_congr fun p => and_congr_right fun hp => ?_
    rw [Function.comp_apply, same p hp]
  unfold insert
  rw [any]
  split
  · simp only [rename, List.map_map]
    refine List.map_congr_left ?_
    intro p hp
    simp only [Function.comp_apply, same p hp, List.length_map]
    split <;> rfl
  · simp [rename]

theorem insertAll_rename {vs : List Var} {ρ : Var → Var} {σ : Numbering}
    (h : Renaming (σ.vars ++ vs) ρ) :
    (σ.rename ρ).insertAll (vs.map ρ) = (σ.insertAll vs).rename ρ := by
  induction vs generalizing σ with
  | nil => rfl
  | cons v vs ih =>
      rw [List.map_cons, insertAll_cons, insertAll_cons, insert_rename, ih]
      · refine h.subset ?_
        intro w hw
        rcases List.mem_append.mp hw with hw | hw
        · rcases mem_vars_insert hw with hw | rfl <;> simp [*]
        · simp [hw]
      · exact fun u hu => h.inj u (by simp [hu]) v (by simp)

end Numbering

/-! ### Renamings keep skeletons -/

/-- A renamed variable has the binding occurrence of the variable. -/
theorem Var.binder_rename {ρ : Var → Var} {v : Var} (ty : (ρ v).ty.nominal = v.ty.nominal)
    (σ : Numbering) : (ρ v).binder (σ.rename ρ) = v.binder σ := by
  simp [Var.binder, ty]

theorem paramBinders_rename {vs : List Var} {ρ : Var → Var} {σ : Numbering}
    (h : Renaming (σ.vars ++ vs) ρ) : paramBinders (σ.rename ρ) (vs.map ρ) = paramBinders σ vs := by
  induction vs generalizing σ with
  | nil => rfl
  | cons v vs ih =>
      rw [List.map_cons, paramBinders, paramBinders, Var.binder_rename (h.ty v (by simp)),
        Numbering.insert_rename, ih]
      · refine h.subset ?_
        intro w hw
        rcases List.mem_append.mp hw with hw | hw
        · rcases Numbering.mem_vars_insert hw with hw | rfl <;> simp [*]
        · simp [hw]
      · exact fun u hu => h.inj u (by simp [hu]) v (by simp)

namespace Pattern

mutual

/-- A renamed pattern binds the renamed variables. -/
theorem Renamed.vars_eq {ρ : Var → Var} {p q : Pattern} : Renamed ρ p q → q.vars = p.vars.map ρ
  | .hole | .wildcard | .var _ => rfl
  | .ctor _ _ fields => by
      rw [vars, vars]
      exact RenamedAll.vars_eq fields
  | .tuple fields => by
      rw [vars, vars]
      exact RenamedAll.vars_eq fields

theorem RenamedAll.vars_eq {ρ : Var → Var} {ps qs : List Pattern} :
    RenamedAll ρ ps qs → varsAll qs = (varsAll ps).map ρ
  | .nil => rfl
  | .cons head tail => by
      rw [varsAll, varsAll, List.map_append, Renamed.vars_eq head, RenamedAll.vars_eq tail]

end

mutual

/-- A renamed pattern has the skeleton of the pattern. -/
theorem Renamed.skeleton_eq {ρ : Var → Var} {σ : Numbering} {p q : Pattern} :
    Renamed ρ p q → Renaming (σ.vars ++ p.vars) ρ → q.skeleton (σ.rename ρ) = p.skeleton σ
  | .hole, _ => rfl
  | .wildcard, _ => rfl
  | .var v, h => by
      rw [skeleton, skeleton, Var.binder_rename (h.ty v (by simp [vars]))]
  | .ctor data tag fields, h => by
      rw [vars] at h
      rw [skeleton, skeleton, data, tag, RenamedAll.skeleton_eq fields h]
  | .tuple fields, h => by
      rw [vars] at h
      rw [skeleton, skeleton, RenamedAll.skeleton_eq fields h]

/-- Renamed patterns have the skeletons of the patterns. -/
theorem RenamedAll.skeleton_eq {ρ : Var → Var} {σ : Numbering} {ps qs : List Pattern} :
    RenamedAll ρ ps qs → Renaming (σ.vars ++ varsAll ps) ρ →
      skeletonAll (σ.rename ρ) qs = skeletonAll σ ps
  | .nil, _ => rfl
  | @RenamedAll.cons _ p q ps qs head tail, h => by
      rw [varsAll] at h
      have first : Renaming (σ.vars ++ p.vars) ρ := by
        refine h.subset ?_
        rw [← List.append_assoc]
        exact List.subset_append_left _ _
      rw [skeletonAll, skeletonAll, Renamed.skeleton_eq head first, Renamed.vars_eq head,
        Numbering.insertAll_rename first]
      refine congrArg _ (RenamedAll.skeleton_eq tail (h.subset ?_))
      intro w hw
      rcases List.mem_append.mp hw with hw | hw
      · rcases Numbering.mem_vars_insertAll hw with hw | hw <;> simp [hw]
      · simp [hw]

end

end Pattern

section

variable {ρ : Var → Var} {S : List Var}

/-- Binding variables of a set keeps a numbering in the set. -/
theorem Numbering.insertAll_subset {σ : Numbering} {vs : List Var} (hσ : σ.vars ⊆ S)
    (hv : vs ⊆ S) : (σ.insertAll vs).vars ⊆ S := by
  intro w hw
  rcases Numbering.mem_vars_insertAll hw with h | h
  · exact hσ h
  · exact hv h

mutual

/-- The renaming of an expression has the skeleton of the expression, in the renamed numbering. -/
theorem Renamed.encodes {σ τ : Numbering} {e e' : Expr} {k : Skeleton} (ok : Renaming S ρ) :
    Renamed ρ e e' → Encodes σ e k τ → σ.vars ⊆ S → e.vars ⊆ S →
      Encodes (σ.rename ρ) e' k (τ.rename ρ) ∧ τ.vars ⊆ S
  | .hole, h, _, _ => by cases h
  | .var v, h, hσ, hv => by
      cases h with
      | var found =>
          refine ⟨.var ?_, hσ⟩
          rw [Numbering.find?_rename fun u hu => ok.inj u (hσ hu) v (hv (by simp [Expr.vars]))]
          exact found
  | .const shape values, h, hσ, _ => by
      cases h
      rw [shape, values]
      exact ⟨.const, hσ⟩
  | .global name, h, hσ, _ => by
      cases h
      rw [name]
      exact ⟨.global, hσ⟩
  | .op name, h, hσ, _ => by
      cases h
      exact ⟨.op, hσ⟩
  | .ctor data tag, h, hσ, _ => by
      cases h
      rw [data, tag]
      exact ⟨.ctor, hσ⟩
  | .call head tail ty, h, hσ, hv => by
      cases h with
      | call hh ht =>
          obtain ⟨hv₁, hv₂⟩ := List.append_subset.mp hv
          obtain ⟨h₁, hσ₁⟩ := Renamed.encodes ok head hh hσ hv₁
          obtain ⟨h₂, hσ₂⟩ := RenamedAll.encodes ok tail ht hσ₁ hv₂
          rw [ty]
          exact ⟨.call h₁ h₂, hσ₂⟩
  | @Renamed.bind _ v _ _ _ _ head tail, h, hσ, hv => by
      cases h with
      | @bind _ σ₁ _ _ _ _ _ _ hh ht =>
          obtain ⟨hv₁, hv₂⟩ := List.append_subset.mp hv
          obtain ⟨hv₂, hv₃⟩ := List.append_subset.mp hv₂
          have mem : v ∈ S := hv₂ (List.mem_singleton.mpr rfl)
          obtain ⟨h₁, hσ₁⟩ := Renamed.encodes ok head hh hσ hv₁
          have bound : (σ₁.insertAll [v]).vars ⊆ S := Numbering.insertAll_subset hσ₁ hv₂
          obtain ⟨h₂, hσ₂⟩ := Renamed.encodes ok tail ht bound hv₃
          rw [← Numbering.insert_rename fun u hu => ok.inj u (hσ₁ hu) v mem] at h₂
          rw [← Var.binder_rename (ok.ty v mem)]
          exact ⟨.bind h₁ h₂, hσ₂⟩
  | .cond head left right, h, hσ, hv => by
      cases h with
      | cond hh hl hr =>
          obtain ⟨hv₁, hv₃⟩ := List.append_subset.mp hv
          obtain ⟨hv₁, hv₂⟩ := List.append_subset.mp hv₁
          obtain ⟨h₁, hσ₁⟩ := Renamed.encodes ok head hh hσ hv₁
          obtain ⟨h₂, hσ₂⟩ := Renamed.encodes ok left hl hσ₁ hv₂
          obtain ⟨h₃, hσ₃⟩ := Renamed.encodes ok right hr hσ₂ hv₃
          exact ⟨.cond h₁ h₂ h₃, hσ₃⟩
  | .tuple all, h, hσ, hv => by
      cases h with
      | tuple ha =>
          obtain ⟨h₁, hσ₁⟩ := RenamedAll.encodes ok all ha hσ hv
          exact ⟨.tuple h₁, hσ₁⟩
  | .proj head, h, hσ, hv => by
      cases h with
      | proj hh =>
          obtain ⟨h₁, hσ₁⟩ := Renamed.encodes ok head hh hσ hv
          exact ⟨.proj h₁, hσ₁⟩
  | .cases head all, h, hσ, hv => by
      cases h with
      | cases hh ha =>
          obtain ⟨hv₁, hv₂⟩ := List.append_subset.mp hv
          obtain ⟨h₁, hσ₁⟩ := Renamed.encodes ok head hh hσ hv₁
          obtain ⟨h₂, hσ₂⟩ := RenamedClauses.encodes ok all ha hσ₁ hv₂
          exact ⟨.cases h₁ h₂, hσ₂⟩
  | .fn head ty, h, hσ, hv => by
      cases h with
      | fn hh =>
          obtain ⟨hv₁, hv₂⟩ := List.append_subset.mp hv
          have local_ok := ok.subset (List.append_subset.mpr ⟨hσ, hv₁⟩)
          obtain ⟨h₁, hσ₁⟩ :=
            Renamed.encodes ok head hh (Numbering.insertAll_subset hσ hv₁) hv₂
          rw [← Numbering.insertAll_rename local_ok] at h₁
          rw [ty, ← paramBinders_rename local_ok]
          exact ⟨.fn h₁, hσ₁⟩

/-- Renamings of several expressions have the skeletons of the expressions. -/
theorem RenamedAll.encodes {σ τ : Numbering} {es es' : List Expr} {ks : List Skeleton}
    (ok : Renaming S ρ) : RenamedAll ρ es es' → EncodesAll σ es ks τ → σ.vars ⊆ S →
      Expr.varsAll es ⊆ S → EncodesAll (σ.rename ρ) es' ks (τ.rename ρ) ∧ τ.vars ⊆ S
  | .nil, h, hσ, _ => by
      cases h
      exact ⟨.nil, hσ⟩
  | .cons head tail, h, hσ, hv => by
      cases h with
      | cons hh ht =>
          obtain ⟨hv₁, hv₂⟩ := List.append_subset.mp hv
          obtain ⟨h₁, hσ₁⟩ := Renamed.encodes ok head hh hσ hv₁
          obtain ⟨h₂, hσ₂⟩ := RenamedAll.encodes ok tail ht hσ₁ hv₂
          exact ⟨.cons h₁ h₂, hσ₂⟩

/-- Renamings of clauses have the skeletons of the clauses. -/
theorem RenamedClauses.encodes {σ τ : Numbering} {cs ds : List (Pattern × Expr)}
    {ks : List (PatternSkeleton × Skeleton)} (ok : Renaming S ρ) :
    RenamedClauses ρ cs ds → EncodesClauses σ cs ks τ → σ.vars ⊆ S →
      Expr.varsClauses cs ⊆ S → EncodesClauses (σ.rename ρ) ds ks (τ.rename ρ) ∧ τ.vars ⊆ S
  | .nil, h, hσ, _ => by
      cases h
      exact ⟨.nil, hσ⟩
  | .cons pattern head tail, h, hσ, hv => by
      cases h with
      | cons hh ht =>
          obtain ⟨hv₁, hv₃⟩ := List.append_subset.mp hv
          obtain ⟨hv₁, hv₂⟩ := List.append_subset.mp hv₁
          have local_ok := ok.subset (List.append_subset.mpr ⟨hσ, hv₁⟩)
          obtain ⟨h₁, hσ₁⟩ :=
            Renamed.encodes ok head hh (Numbering.insertAll_subset hσ hv₁) hv₂
          obtain ⟨h₂, hσ₂⟩ := RenamedClauses.encodes ok tail ht hσ₁ hv₃
          rw [← Numbering.insertAll_rename local_ok, ← pattern.vars_eq] at h₁
          rw [← pattern.skeleton_eq local_ok]
          exact ⟨.cons h₁ h₂, hσ₂⟩

end

end

/-- The renaming of a function has the encoding of the function. -/
theorem Function.encoding_of_renamed {f g : Function} {s : String} {ρ : Var → Var}
    (hf : f.encoding = .ok s) (ok : Renaming f.toExpr.vars ρ)
    (h : Renamed ρ f.toExpr g.toExpr) : g.encoding = .ok s := by
  obtain ⟨k, τ, hk, rfl⟩ := (f.encoding_eq_ok_iff s).mp hf
  obtain ⟨hk', -⟩ := h.encodes ok hk (List.nil_subset _) (List.Subset.refl _)
  exact (g.encoding_eq_ok_iff _).mpr ⟨k, _, hk', rfl⟩

end TensorCompiler
