import TensorCompiler.Proofs.Fingerprint.Canonical
import TensorCompiler.Proofs.Kernel.Unnamed
import TensorCompiler.Proofs.Tensor.ElementText

/-!
# Reuse of kernels

A registry serves the kernel compiled for one function to every function with the same encoding.

Main statement: if no variable is bound twice in either of two functions that the encoder can keep
apart, and constants hold elements of the type they declare, then functions with one encoding have
kernels that answer every call alike.

## Implementation notes

Functions with one encoding are renamings of one another, so the two graphs are built side by side:
a variable and its renaming denote the same but for the names of inputs. The encoder numbers a
variable by the count of distinct variables before it, which stands still when a variable is bound
again, and the graph keeps in the body of a function what its arguments bind. The functions
`rebinding` and `applying` show what follows without the condition on variables, `misnamed_confused`
what follows without the condition on types.
-/

namespace TensorCompiler

/-- A constant that holds elements of the type it declares. -/
def Constant.isDeclared (c : Constant) : Bool :=
  match c.values with
  | .elements e => c.shape.dtype.kind? == some e.kind
  | _ => false

namespace Expr

mutual

/-- The constants of an expression. -/
def constants : Expr → List Constant
  | .hole | .var _ | .global _ | .op _ | .ctor _ => []
  | .const c => [c]
  | .call callee args _ => constants callee ++ constantsAll args
  | .bind _ value body => constants value ++ constants body
  | .cond test yes no _ => constants test ++ constants yes ++ constants no
  | .tuple fields _ => constantsAll fields
  | .proj e _ _ => constants e
  | .cases data clauses _ => constants data ++ constantsClauses clauses
  | .fn _ body _ _ => constants body

/-- The constants of several expressions. -/
def constantsAll : List Expr → List Constant
  | [] => []
  | e :: es => constants e ++ constantsAll es

/-- The constants of clauses. -/
def constantsClauses : List (Pattern × Expr) → List Constant
  | [] => []
  | (_, e) :: rest => constants e ++ constantsClauses rest

end

end Expr

/-- Constants that print alike are one tensor, if they hold what they declare. -/
theorem Constant.tensor_eq {c d : Constant} (hc : c.isDeclared = true) (hd : d.isDeclared = true)
    (shape : c.shape.nominal = d.shape.nominal) (values : c.values.text = d.values.text) :
    Tensor.ofSlice c.values c.shape.dims = Tensor.ofSlice d.values d.shape.dims := by
  unfold isDeclared at hc hd
  split at hc
  · rename_i e he
    split at hd
    · rename_i e' he'
      rw [beq_iff_eq] at hc hd
      simp only [Shape.nominal, Shape.mk.injEq] at shape
      obtain ⟨dtype, dims⟩ := shape
      rw [DType.nominal_of_kind (by simp [hc]), DType.nominal_of_kind (by simp [hd])] at dtype
      have kind : e.kind = e'.kind := by
        rw [dtype, hd] at hc
        exact (Option.some.inj hc).symm
      rw [he, he'] at values ⊢
      rw [Elements.eq_of_text kind values, dims]
    · cases hd
  · cases hc

/-! ### Scopes -/

namespace GraphScope

/-- Scopes in which a variable and its renaming denote the same but for the names of inputs. -/
structure Alike (S : List Var) (ρ : Var → Var) (s t : GraphScope) : Prop where
  slots : s.slots = t.slots
  vars : ∀ v ∈ S, (s.find? v).map Built.unnamed = (t.find? (ρ v)).map Built.unnamed

variable {S : List Var} {ρ : Var → Var} {s t : GraphScope}

/-- Entering a variable and its renaming. -/
theorem Alike.enter (h : Alike S ρ s t) (ok : Renaming S ρ) {v : Var} (hv : v ∈ S) {b b' : Built}
    (same : b.unnamed = b'.unnamed) : Alike S ρ (s.enter v b) (t.enter (ρ v) b') := by
  refine ⟨h.slots, ?_⟩
  intro w hw
  by_cases hvw : v = w
  · subst hvw
    simp [GraphScope.enter, find?, same]
  · have hne : ρ v ≠ ρ w := fun e => hvw (ok.inj v hv w hw e)
    have rest := h.vars w hw
    simp only [find?] at rest
    simpa [GraphScope.enter, find?, hvw, hne] using rest

/-- Sharing what differs in names only. -/
theorem share_unnamed (slots : s.slots = t.slots) {b b' : Built} (same : b.unnamed = b'.unnamed) :
    (s.share b).1.unnamed = (t.share b').1.unnamed ∧
      (s.share b).2.slots = (t.share b').2.slots := by
  cases b with
  | node n =>
      cases b' with
      | node n' =>
          simp only [Built.unnamed, Built.node.injEq] at same
          simp [GraphScope.share, Built.unnamed, GraphNode.unnamed, same, slots]
      | tuple bs' => simp [Built.unnamed] at same
  | tuple bs =>
      cases b' with
      | node n' => simp [Built.unnamed] at same
      | tuple bs' => exact ⟨same, slots⟩

/-- Sharing enters no variable. -/
theorem find?_share (s : GraphScope) (b : Built) (w : Var) : (s.share b).2.find? w = s.find? w := by
  cases b <;> rfl

/-- Sharing keeps scopes alike. -/
theorem Alike.share (h : Alike S ρ s t) {b b' : Built} (same : b.unnamed = b'.unnamed) :
    (s.share b).1.unnamed = (t.share b').1.unnamed ∧ Alike S ρ (s.share b).2 (t.share b').2 := by
  obtain ⟨shared, slots⟩ := share_unnamed h.slots same
  refine ⟨shared, slots, ?_⟩
  intro v hv
  rw [find?_share, find?_share, h.vars v hv]

end GraphScope

namespace Built

/-- Fields of what differs in names only. -/
theorem field_unnamed {b b' c c' : Built} (same : b.unnamed = b'.unnamed) {e e' : Expr}
    {index : Int} (h : b.field e index = .ok c) (h' : b'.field e' index = .ok c') :
    c.unnamed = c'.unnamed := by
  cases b with
  | node n => cases h
  | tuple bs =>
      cases b' with
      | node n' => cases h'
      | tuple bs' =>
          simp only [unnamed, tuple.injEq] at same
          unfold field at h h'
          by_cases negative : index < 0
          · simp [negative] at h
          · have fields := getElem?_unnamedAll bs index.toNat
            rw [same, getElem?_unnamedAll] at fields
            simp only [negative, if_false] at h h'
            cases hb : bs[index.toNat]? with
            | none => simp [hb] at h
            | some c₁ =>
                cases hb' : bs'[index.toNat]? with
                | none => simp [hb'] at h'
                | some c₂ =>
                    rw [hb, hb'] at fields
                    simp only [hb, hb', Except.ok.injEq] at h h'
                    subst h
                    subst h'
                    exact (Option.some.inj fields).symm

/-- Nodes of what differs in names only. -/
theorem asNode_unnamed {b b' : Built} (same : b.unnamed = b'.unnamed) {e e' : Expr}
    {n n' : GraphNode} (h : b.asNode e = .ok n) (h' : b'.asNode e' = .ok n') :
    n.unnamed = n'.unnamed := by
  cases b with
  | tuple bs => cases h
  | node m =>
      cases b' with
      | tuple bs' => cases h'
      | node m' =>
          cases h
          cases h'
          exact Built.node.inj same

end Built

/-- Operators applied to what differs in names only. -/
theorem KernelOp.node_congr {op : KernelOp} {ns ns' : List GraphNode} {n n' : GraphNode}
    (same : ns.map GraphNode.unnamed = ns'.map GraphNode.unnamed) (h : op.node ns = .ok n)
    (h' : op.node ns' = .ok n') : n.unnamed = n'.unnamed := by
  have left := op.node_unnamed ns
  have right := op.node_unnamed ns'
  rw [h] at left
  rw [← same, left, h'] at right
  exact Except.ok.inj right

/-- A call has a graph only if it applies an operator or a primitive function. -/
theorem GraphScope.callee_of_build {s s' : GraphScope} {f : Expr} {args : List Expr} {ty : Ty}
    {b : Built} (h : s.build (.call f args ty) = .ok (b, s')) :
    (∃ name, f = .op name) ∨ ∃ params body ret, f = .fn params body ret true := by
  cases f with
  | op name => exact Or.inl ⟨name, rfl⟩
  | fn params body ret primitive =>
      cases primitive with
      | true => exact Or.inr ⟨params, body, ret, rfl⟩
      | false => cases h
  | _ => cases h

/-! ### Bodies -/

section

variable {S : List Var} {ρ : Var → Var} {C : List Constant}

mutual

/-- An expression and its renaming denote the same but for the names of inputs. -/
theorem Renamed.build_alike (ok : Renaming S ρ) (held : ∀ c ∈ C, c.isDeclared = true)
    {e e' : Expr} : Renamed ρ e e' → ∀ (s t s' t' : GraphScope) (b b' : Built), s.Alike S ρ t →
      e.vars ⊆ S → e.constants ⊆ C → e'.constants ⊆ C → s.build e = .ok (b, s') →
      t.build e' = .ok (b', t') → b.unnamed = b'.unnamed ∧ s'.Alike S ρ t'
  | .hole => by
      intro s t s' t' b b' alike hv hc hc' h h'
      cases h
  | .var v => by
      intro s t s' t' b b' alike hv hc hc' h h'
      simp only [GraphScope.build] at h h'
      split at h
      · rename_i x found
        split at h'
        · rename_i y found'
          have same := alike.vars v (hv (List.mem_singleton.mpr rfl))
          rw [found, found'] at same
          cases h
          cases h'
          exact ⟨Option.some.inj same, alike⟩
        · cases h'
      · cases h
  | @Renamed.const _ c d shape values => by
      intro s t s' t' b b' alike hv hc hc' h h'
      simp only [GraphScope.build] at h h'
      rw [Constant.tensor_eq (held c (hc (List.mem_singleton.mpr rfl)))
        (held d (hc' (List.mem_singleton.mpr rfl))) shape values] at h
      split at h
      · rename_i x found
        rw [found] at h'
        cases h
        cases h'
        exact ⟨rfl, alike⟩
      · cases h
  | .global _ => by
      intro s t s' t' b b' alike hv hc hc' h h'
      cases h
  | .op _ => by
      intro s t s' t' b b' alike hv hc hc' h h'
      cases h
  | .ctor _ _ => by
      intro s t s' t' b b' alike hv hc hc' h h'
      cases h
  | @Renamed.call _ f f' args args' _ _ head all _ => by
      intro s t s' t' b b' alike hv hc hc' h h'
      obtain ⟨hv₁, hv₂⟩ := List.append_subset.mp hv
      obtain ⟨hc₁, hc₂⟩ := List.append_subset.mp hc
      obtain ⟨hc₁', hc₂'⟩ := List.append_subset.mp hc'
      rcases GraphScope.callee_of_build h with ⟨name, rfl⟩ | ⟨params, body, ret, rfl⟩
      · obtain rfl : f' = .op name := by
          cases head
          rfl
        simp only [GraphScope.build] at h h'
        cases hop : kernelOp? name with
        | none =>
            rw [hop] at h
            cases h
        | some op =>
            rw [hop] at h h'
            obtain ⟨⟨ns, s₁⟩, hn, h⟩ := ok_of_bind_ok h
            obtain ⟨⟨ns', t₁⟩, hn', h'⟩ := ok_of_bind_ok h'
            obtain ⟨same, alike⟩ :=
              RenamedAll.buildNodes_alike ok held all s t s₁ t₁ ns ns' alike hv₂ hc₂ hc₂' hn hn'
            simp only at h h'
            split at h
            · rename_i n hm
              split at h'
              · rename_i n' hm'
                cases h
                cases h'
                exact ⟨congrArg Built.node (KernelOp.node_congr same hm hm'), alike⟩
              · cases h'
            · cases h
      · obtain ⟨hp, hv₁⟩ := List.append_subset.mp hv₁
        obtain ⟨body', ret', rfl, expanded⟩ :=
          Renamed.body_alike ok held head params body ret rfl hv₁ hc₁ hc₁'
        simp only [GraphScope.build] at h h'
        split at h
        · cases h
        · split at h'
          · cases h'
          · obtain ⟨s₁, hs, h⟩ := ok_of_bind_ok h
            obtain ⟨t₁, ht, h'⟩ := ok_of_bind_ok h'
            have entered :=
              RenamedAll.buildArgs_alike ok held all params s t s₁ t₁ alike hp hv₂ hc₂ hc₂' hs ht
            exact expanded s₁ t₁ s' t' b b' entered h h'
  | @Renamed.bind _ v _ _ _ _ head tail => by
      intro s t s' t' b b' alike hv hc hc' h h'
      obtain ⟨hv₁, hv₂⟩ := List.append_subset.mp hv
      obtain ⟨hv₂, hv₃⟩ := List.append_subset.mp hv₂
      obtain ⟨hc₁, hc₂⟩ := List.append_subset.mp hc
      obtain ⟨hc₁', hc₂'⟩ := List.append_subset.mp hc'
      simp only [GraphScope.build] at h h'
      obtain ⟨⟨x, s₁⟩, hx, h⟩ := ok_of_bind_ok h
      obtain ⟨⟨x', t₁⟩, hx', h'⟩ := ok_of_bind_ok h'
      obtain ⟨same, alike⟩ :=
        Renamed.build_alike ok held head s t s₁ t₁ x x' alike hv₁ hc₁ hc₁' hx hx'
      obtain ⟨same, alike⟩ := alike.share same
      have entered := alike.enter ok (hv₂ (List.mem_singleton.mpr rfl)) same
      exact Renamed.build_alike ok held tail _ _ s' t' b b' entered hv₃ hc₂ hc₂' h h'
  | .cond _ _ _ => by
      intro s t s' t' b b' alike hv hc hc' h h'
      cases h
  | .tuple all => by
      intro s t s' t' b b' alike hv hc hc' h h'
      simp only [GraphScope.build] at h h'
      obtain ⟨⟨bs, s₁⟩, hb, h⟩ := ok_of_bind_ok h
      obtain ⟨⟨bs', t₁⟩, hb', h'⟩ := ok_of_bind_ok h'
      cases h
      cases h'
      obtain ⟨same, alike⟩ :=
        RenamedAll.buildFields_alike ok held all s t s₁ t₁ bs bs' alike hv hc hc' hb hb'
      exact ⟨congrArg Built.tuple same, alike⟩
  | .proj head => by
      intro s t s' t' b b' alike hv hc hc' h h'
      simp only [GraphScope.build] at h h'
      obtain ⟨⟨x, s₁⟩, hx, h⟩ := ok_of_bind_ok h
      obtain ⟨⟨x', t₁⟩, hx', h'⟩ := ok_of_bind_ok h'
      obtain ⟨c, hf, h⟩ := ok_of_bind_ok h
      obtain ⟨c', hf', h'⟩ := ok_of_bind_ok h'
      cases h
      cases h'
      obtain ⟨same, alike⟩ :=
        Renamed.build_alike ok held head s t s₁ t₁ x x' alike hv hc hc' hx hx'
      exact ⟨Built.field_unnamed same hf hf', alike⟩
  | .cases _ _ => by
      intro s t s' t' b b' alike hv hc hc' h h'
      cases h
  | .fn _ _ => by
      intro s t s' t' b b' alike hv hc hc' h h'
      cases h

/-- The body of a function that is expanded in place, and its renaming. -/
theorem Renamed.body_alike (ok : Renaming S ρ) (held : ∀ c ∈ C, c.isDeclared = true)
    {f f' : Expr} : Renamed ρ f f' → ∀ (params : List Var) (body : Expr) (ret : Ty),
      f = .fn params body ret true → body.vars ⊆ S → f.constants ⊆ C → f'.constants ⊆ C →
        ∃ body' ret', f' = .fn (params.map ρ) body' ret' true ∧
          ∀ (s t s' t' : GraphScope) (b b' : Built), s.Alike S ρ t → s.build body = .ok (b, s') →
            t.build body' = .ok (b', t') → b.unnamed = b'.unnamed ∧ s'.Alike S ρ t'
  | @Renamed.fn _ _ _ body' _ ret' _ head _ => by
      intro params body ret same hv hc hc'
      cases same
      refine ⟨body', ret', rfl, ?_⟩
      intro s t s' t' b b' alike h h'
      exact Renamed.build_alike ok held head s t s' t' b b' alike hv hc hc' h h'
  | .hole | .var _ | .const _ _ | .global _ | .op _ | .ctor _ _ | .call _ _ _ | .bind _ _
  | .cond _ _ _ | .tuple _ | .proj _ | .cases _ _ => by
      intro params body ret same
      cases same

/-- Fields of a tuple and their renamings denote the same but for the names of inputs. -/
theorem RenamedAll.buildFields_alike (ok : Renaming S ρ) (held : ∀ c ∈ C, c.isDeclared = true)
    {es es' : List Expr} : RenamedAll ρ es es' → ∀ (s t s' t' : GraphScope) (bs bs' : List Built),
      s.Alike S ρ t → Expr.varsAll es ⊆ S → Expr.constantsAll es ⊆ C →
      Expr.constantsAll es' ⊆ C → s.buildFields es = .ok (bs, s') →
      t.buildFields es' = .ok (bs', t') →
        Built.unnamedAll bs = Built.unnamedAll bs' ∧ s'.Alike S ρ t'
  | .nil => by
      intro s t s' t' bs bs' alike hv hc hc' h h'
      cases h
      cases h'
      exact ⟨rfl, alike⟩
  | .cons head tail => by
      intro s t s' t' bs bs' alike hv hc hc' h h'
      obtain ⟨hv₁, hv₂⟩ := List.append_subset.mp hv
      obtain ⟨hc₁, hc₂⟩ := List.append_subset.mp hc
      obtain ⟨hc₁', hc₂'⟩ := List.append_subset.mp hc'
      simp only [GraphScope.buildFields] at h h'
      obtain ⟨⟨x, s₁⟩, hx, h⟩ := ok_of_bind_ok h
      obtain ⟨⟨x', t₁⟩, hx', h'⟩ := ok_of_bind_ok h'
      obtain ⟨⟨xs, s₂⟩, hxs, h⟩ := ok_of_bind_ok h
      obtain ⟨⟨xs', t₂⟩, hxs', h'⟩ := ok_of_bind_ok h'
      cases h
      cases h'
      obtain ⟨same, alike⟩ :=
        Renamed.build_alike ok held head s t s₁ t₁ x x' alike hv₁ hc₁ hc₁' hx hx'
      obtain ⟨rest, alike⟩ := RenamedAll.buildFields_alike ok held tail s₁ t₁ s₂ t₂ xs xs' alike
        hv₂ hc₂ hc₂' hxs hxs'
      exact ⟨by rw [Built.unnamedAll, Built.unnamedAll, same, rest], alike⟩

/-- Operands and their renamings denote the same but for the names of inputs. -/
theorem RenamedAll.buildNodes_alike (ok : Renaming S ρ) (held : ∀ c ∈ C, c.isDeclared = true)
    {es es' : List Expr} : RenamedAll ρ es es' →
      ∀ (s t s' t' : GraphScope) (ns ns' : List GraphNode), s.Alike S ρ t →
      Expr.varsAll es ⊆ S → Expr.constantsAll es ⊆ C → Expr.constantsAll es' ⊆ C →
      s.buildNodes es = .ok (ns, s') → t.buildNodes es' = .ok (ns', t') →
        ns.map GraphNode.unnamed = ns'.map GraphNode.unnamed ∧ s'.Alike S ρ t'
  | .nil => by
      intro s t s' t' ns ns' alike hv hc hc' h h'
      cases h
      cases h'
      exact ⟨rfl, alike⟩
  | .cons head tail => by
      intro s t s' t' ns ns' alike hv hc hc' h h'
      obtain ⟨hv₁, hv₂⟩ := List.append_subset.mp hv
      obtain ⟨hc₁, hc₂⟩ := List.append_subset.mp hc
      obtain ⟨hc₁', hc₂'⟩ := List.append_subset.mp hc'
      simp only [GraphScope.buildNodes] at h h'
      obtain ⟨⟨x, s₁⟩, hx, h⟩ := ok_of_bind_ok h
      obtain ⟨⟨x', t₁⟩, hx', h'⟩ := ok_of_bind_ok h'
      obtain ⟨n, hn, h⟩ := ok_of_bind_ok h
      obtain ⟨n', hn', h'⟩ := ok_of_bind_ok h'
      obtain ⟨⟨xs, s₂⟩, hxs, h⟩ := ok_of_bind_ok h
      obtain ⟨⟨xs', t₂⟩, hxs', h'⟩ := ok_of_bind_ok h'
      cases h
      cases h'
      obtain ⟨same, alike⟩ :=
        Renamed.build_alike ok held head s t s₁ t₁ x x' alike hv₁ hc₁ hc₁' hx hx'
      obtain ⟨rest, alike⟩ := RenamedAll.buildNodes_alike ok held tail s₁ t₁ s₂ t₂ xs xs' alike
        hv₂ hc₂ hc₂' hxs hxs'
      exact ⟨by rw [List.map_cons, List.map_cons, Built.asNode_unnamed same hn hn', rest], alike⟩

/-- Arguments and their renamings are entered side by side. -/
theorem RenamedAll.buildArgs_alike (ok : Renaming S ρ) (held : ∀ c ∈ C, c.isDeclared = true)
    {es es' : List Expr} : RenamedAll ρ es es' → ∀ (ps : List Var) (s t s' t' : GraphScope),
      s.Alike S ρ t → ps ⊆ S → Expr.varsAll es ⊆ S → Expr.constantsAll es ⊆ C →
      Expr.constantsAll es' ⊆ C → s.buildArgs ps es = .ok s' →
      t.buildArgs (ps.map ρ) es' = .ok t' → s'.Alike S ρ t'
  | .nil => by
      intro ps s t s' t' alike hp hv hc hc' h h'
      cases ps with
      | nil =>
          cases h
          cases h'
          exact alike
      | cons p ps =>
          cases h
          cases h'
          exact alike
  | .cons head tail => by
      intro ps s t s' t' alike hp hv hc hc' h h'
      cases ps with
      | nil =>
          cases h
          cases h'
          exact alike
      | cons p ps =>
          obtain ⟨hv₁, hv₂⟩ := List.append_subset.mp hv
          obtain ⟨hc₁, hc₂⟩ := List.append_subset.mp hc
          obtain ⟨hc₁', hc₂'⟩ := List.append_subset.mp hc'
          obtain ⟨hp₁, hp₂⟩ := List.cons_subset.mp hp
          simp only [GraphScope.buildArgs, List.map_cons] at h h'
          obtain ⟨⟨x, s₁⟩, hx, h⟩ := ok_of_bind_ok h
          obtain ⟨⟨x', t₁⟩, hx', h'⟩ := ok_of_bind_ok h'
          obtain ⟨same, alike⟩ :=
            Renamed.build_alike ok held head s t s₁ t₁ x x' alike hv₁ hc₁ hc₁' hx hx'
          exact RenamedAll.buildArgs_alike ok held tail ps _ _ s' t' (alike.enter ok hp₁ same)
            hp₂ hv₂ hc₂ hc₂' h h'

end

end

/-! ### Parameters -/

/-- Shapes that are printed alike and have operators are equal. -/
theorem Shape.eq_of_nominal {s t : Shape} (same : s.nominal = t.nominal) {x y : Family}
    (hs : Family.forDType s.dtype = .ok x) (ht : Family.forDType t.dtype = .ok y) : s = t := by
  have isSome {dt : DType} {x : Family} (h : Family.forDType dt = .ok x) :
      dt.kind?.isSome = true := by
    unfold Family.forDType at h
    split at h
    · rename_i k hk
      simp [hk]
    · cases h
  obtain ⟨ds, dims⟩ := s
  obtain ⟨dt, dims'⟩ := t
  simp only [nominal, mk.injEq] at same
  rw [DType.nominal_of_kind (isSome hs), DType.nominal_of_kind (isSome ht)] at same
  rw [mk.injEq]
  exact same

/-- The inputs of parameters whose types are printed alike. -/
theorem inputNode_alike {is js is' js' : List KernelInput}
    (shapes : is.map KernelInput.shape = js.map KernelInput.shape) {name name' : String}
    {s t : Shape} (same : s.nominal = t.nominal) {n n' : GraphNode}
    (h : inputNode is name s = .ok (n, is')) (h' : inputNode js name' t = .ok (n', js')) :
    n.unnamed = n'.unnamed ∧ is'.map KernelInput.shape = js'.map KernelInput.shape := by
  unfold inputNode at h h'
  split at h
  · rename_i x hx
    split at h'
    · rename_i y hy
      obtain rfl := Shape.eq_of_nominal same hx hy
      have len : is.length = js.length := by simpa using congrArg List.length shapes
      cases h
      cases h'
      simp [GraphNode.unnamed, len, shapes]
    · cases h'
  · cases h

/-- The inputs of the fields of parameters whose types are printed alike. -/
theorem fieldInputs_alike {ts us : List Ty} (same : Ty.nominalAll ts = Ty.nominalAll us)
    {name name' : String} {i : Nat} {is js is' js' : List KernelInput}
    (shapes : is.map KernelInput.shape = js.map KernelInput.shape) {bs bs' : List Built}
    (h : fieldInputs name is i ts = .ok (bs, is'))
    (h' : fieldInputs name' js i us = .ok (bs', js')) :
    Built.unnamedAll bs = Built.unnamedAll bs' ∧
      is'.map KernelInput.shape = js'.map KernelInput.shape := by
  induction ts generalizing us i is js bs bs' with
  | nil =>
      cases us with
      | nil =>
          cases h
          cases h'
          exact ⟨rfl, shapes⟩
      | cons u us => simp [Ty.nominalAll] at same
  | cons t ts ih =>
      cases us with
      | nil => simp [Ty.nominalAll] at same
      | cons u us =>
          simp only [Ty.nominalAll, List.cons.injEq] at same
          cases t with
          | tensor s =>
              cases u with
              | tensor s' =>
                  simp only [fieldInputs] at h h'
                  obtain ⟨⟨n, is₁⟩, hn, h⟩ := ok_of_bind_ok h
                  obtain ⟨⟨n', js₁⟩, hn', h'⟩ := ok_of_bind_ok h'
                  obtain ⟨⟨bs, is₂⟩, hb, h⟩ := ok_of_bind_ok h
                  obtain ⟨⟨bs', js₂⟩, hb', h'⟩ := ok_of_bind_ok h'
                  cases h
                  cases h'
                  obtain ⟨head, shapes⟩ := inputNode_alike shapes (Ty.tensor.inj same.1) hn hn'
                  obtain ⟨tail, shapes⟩ := ih same.2 shapes hb hb'
                  exact ⟨by simp [Built.unnamedAll, Built.unnamed, head, tail], shapes⟩
              | _ => simp [Ty.nominal] at same
          | _ => cases h

/-- The inputs of a parameter and of its renaming. -/
theorem paramInputs_alike {v w : Var} (same : v.ty.nominal = w.ty.nominal)
    {is js is' js' : List KernelInput}
    (shapes : is.map KernelInput.shape = js.map KernelInput.shape) {b b' : Built}
    (h : paramInputs is v = .ok (b, is')) (h' : paramInputs js w = .ok (b', js')) :
    b.unnamed = b'.unnamed ∧ is'.map KernelInput.shape = js'.map KernelInput.shape := by
  unfold paramInputs at h h'
  cases hv : v.ty with
  | tensor s =>
      cases hw : w.ty with
      | tensor t =>
          rw [hv, hw] at same
          rw [hv] at h
          rw [hw] at h'
          obtain ⟨⟨n, is₁⟩, hn, h⟩ := ok_of_bind_ok h
          obtain ⟨⟨n', js₁⟩, hn', h'⟩ := ok_of_bind_ok h'
          cases h
          cases h'
          obtain ⟨node, shapes⟩ := inputNode_alike shapes (Ty.tensor.inj same) hn hn'
          exact ⟨congrArg Built.node node, shapes⟩
      | _ => simp [hv, hw, Ty.nominal] at same
  | tuple ts =>
      cases hw : w.ty with
      | tuple us =>
          rw [hv, hw] at same
          rw [hv] at h
          rw [hw] at h'
          obtain ⟨⟨bs, is₁⟩, hb, h⟩ := ok_of_bind_ok h
          obtain ⟨⟨bs', js₁⟩, hb', h'⟩ := ok_of_bind_ok h'
          cases h
          cases h'
          simp only [Ty.nominal, Ty.tuple.injEq] at same
          obtain ⟨fields, shapes⟩ := fieldInputs_alike same shapes hb hb'
          exact ⟨congrArg Built.tuple fields, shapes⟩
      | _ => simp [hv, hw, Ty.nominal] at same
  | _ =>
      rw [hv] at h
      cases h

/-- Parameters and their renamings are entered side by side. -/
theorem enterParams_alike {S : List Var} {ρ : Var → Var} (ok : Renaming S ρ) {vs : List Var}
    (hv : vs ⊆ S) {s t s' t' : GraphScope} (alike : s.Alike S ρ t)
    {is js is' js' : List KernelInput}
    (shapes : is.map KernelInput.shape = js.map KernelInput.shape)
    (h : enterParams s is vs = .ok (s', is')) (h' : enterParams t js (vs.map ρ) = .ok (t', js')) :
    s'.Alike S ρ t' ∧ is'.map KernelInput.shape = js'.map KernelInput.shape := by
  induction vs generalizing s t is js with
  | nil =>
      cases h
      cases h'
      exact ⟨alike, shapes⟩
  | cons v vs ih =>
      obtain ⟨hv₁, hv₂⟩ := List.cons_subset.mp hv
      simp only [enterParams, List.map_cons] at h h'
      obtain ⟨⟨b, is₁⟩, hb, h⟩ := ok_of_bind_ok h
      obtain ⟨⟨b', js₁⟩, hb', h'⟩ := ok_of_bind_ok h'
      obtain ⟨same, shapes⟩ := paramInputs_alike (ok.ty v hv₁).symm shapes hb hb'
      exact ih hv₂ (alike.enter ok hv₁ same) shapes h h'

/-! ### Kernels -/

/-- What a function must be for its graph to be a given one. -/
theorem Function.graph_eq_ok {f : Function} {inputs : List KernelInput} {n : GraphNode}
    (h : f.graph = .ok (inputs, n)) : ∃ s s', enterParams .empty [] f.params = .ok (s, inputs) ∧
      s.build f.body = .ok (.node n, s') := by
  unfold graph at h
  obtain ⟨⟨s, is⟩, hp, h⟩ := ok_of_bind_ok h
  obtain ⟨⟨b, s'⟩, hb, h⟩ := ok_of_bind_ok h
  cases b with
  | node m =>
      cases h
      exact ⟨s, s', hp, hb⟩
  | tuple bs => cases h

/-- A compiled kernel is the graph of its function. -/
theorem Kernel.graph_of_compile {name : String} {f : Function} {k : Kernel}
    (h : Kernel.compile name f = .ok k) : f.graph = .ok (k.inputs, k.output) := by
  unfold compile at h
  split at h
  · cases h
    assumption
  · cases h

/-- A function and its renaming have kernels that differ in names only. -/
theorem Kernel.alike_of_renamed {f g : Function} {ρ : Var → Var} (ok : Renaming f.toExpr.vars ρ)
    (renamed : Renamed ρ f.toExpr g.toExpr)
    (heldF : ∀ c ∈ f.toExpr.constants, c.isDeclared = true)
    (heldG : ∀ c ∈ g.toExpr.constants, c.isDeclared = true) {name name' : String} {k l : Kernel}
    (hk : Kernel.compile name f = .ok k) (hl : Kernel.compile name' g = .ok l) : k.Alike l := by
  obtain ⟨params, body, ret, primitive⟩ := f
  obtain ⟨params', body', ret', primitive'⟩ := g
  obtain ⟨s, s', hp, hb⟩ := Function.graph_eq_ok (Kernel.graph_of_compile hk)
  obtain ⟨t, t', hp', hb'⟩ := Function.graph_eq_ok (Kernel.graph_of_compile hl)
  cases renamed with
  | fn head ty =>
      have held : ∀ c ∈ body.constants ++ body'.constants, c.isDeclared = true := by
        intro c hc
        rcases List.mem_append.mp hc with hc | hc
        · exact heldF c hc
        · exact heldG c hc
      have start : GraphScope.Alike (params ++ body.vars) ρ .empty .empty := ⟨rfl, fun _ _ => rfl⟩
      obtain ⟨entered, shapes⟩ :=
        enterParams_alike ok (List.subset_append_left _ _) start rfl hp hp'
      obtain ⟨same, -⟩ := head.build_alike ok held _ _ _ _ _ _ entered
        (List.subset_append_right _ _) (List.subset_append_left _ _)
        (List.subset_append_right _ _) hb hb'
      exact ⟨shapes, Built.node.inj same⟩

/-- Reuse by encoding is sound for functions that the encoder can keep apart, that bind no variable
twice and whose constants hold what they declare: the kernels of two such functions with one
encoding have one arity and one output shape and answer every call alike. -/
theorem Kernel.reuse_sound {f g : Function} {s : String} (hf : f.encoding = .ok s)
    (hg : g.encoding = .ok s) {name name' : String} {k l : Kernel}
    (hk : Kernel.compile name f = .ok k) (hl : Kernel.compile name' g = .ok l)
    (heldF : ∀ c ∈ f.toExpr.constants, c.isDeclared = true)
    (heldG : ∀ c ∈ g.toExpr.constants, c.isDeclared = true)
    (onceF : f.toExpr.binders.Nodup) (onceG : g.toExpr.binders.Nodup)
    (readF : f.toExpr.isReadable = true) (readG : g.toExpr.isReadable = true) :
    k.arity = l.arity ∧ k.outputShape = l.outputShape ∧
      ∀ args, (k.call args).toOption = (l.call args).toOption := by
  obtain ⟨ρ, ok, renamed⟩ := Function.renamed_of_encoding hf hg onceF onceG readF readG
  have alike := Kernel.alike_of_renamed ok renamed heldF heldG hk hl
  exact ⟨alike.arity_eq, alike.outputShape_eq, alike.call_eq⟩

/-- The two functions that differ in the names of their variables have kernels that answer alike. -/
theorem addCopy_reused : ∃ k l, Kernel.compile "first" (addCopy "x" "y") = .ok k ∧
    Kernel.compile "second" (addCopy "left" "right") = .ok l ∧ k.arity = l.arity ∧
      k.outputShape = l.outputShape ∧ ∀ args, (k.call args).toOption = (l.call args).toOption :=
  have none (x y : String) : ∀ c ∈ (addCopy x y).toExpr.constants, c.isDeclared = true :=
    fun _ h => (List.not_mem_nil h).elim
  ⟨_, _, rfl, rfl, Kernel.reuse_sound (f := addCopy "x" "y") (g := addCopy "left" "right") rfl rfl
    rfl rfl (none _ _) (none _ _) (by decide) (by decide) (by decide) (by decide)⟩

/-! ### What the conditions exclude -/

/-- Two functions with one encoding whose kernels answer a call differently. -/
def Function.Confused (f g : Function) : Prop :=
  ∃ s k l args, f.encoding = .ok s ∧ g.encoding = .ok s ∧ Kernel.compile "k" f = .ok k ∧
    Kernel.compile "k" g = .ok l ∧ (k.call args).toOption ≠ (l.call args).toOption

/-- An integer tensor without axes. -/
def integerTensor (n : Int32) : Tensor :=
  .ofElements ⟨.int32, [n]⟩ []

/-- A variable of integers. -/
def integerVar (key : Nat) (name : String) : Var :=
  ⟨key, name, .scalar .int32⟩

/-- A primitive function of one integer. -/
def integerFunction (body : Expr) (ret : Ty) : Function :=
  ⟨[integerVar 0 "x"], body, ret, true⟩

/-- An operator applied to the parameter twice. -/
def applyTwice (op : String) (ty : Ty) : Expr :=
  .call (.op op) [.var (integerVar 0 "x"), .var (integerVar 0 "x")] ty

/-- The parameter is bound again to its double, then another variable to the square of that; one of
the two variables is the result. -/
def rebinding (result : Var) : Function :=
  integerFunction (.bind (integerVar 0 "x") (applyTwice "add" (.scalar .int32))
    (.bind (integerVar 1 "y") (applyTwice "multiply" (.scalar .int32)) (.var result)))
    (.scalar .int32)

/-- Without the condition on variables reuse is wrong: both variables have the number one. -/
theorem rebinding_confused :
    (rebinding (integerVar 0 "x")).Confused (rebinding (integerVar 1 "y")) ∧
      (rebinding (integerVar 0 "x")).toExpr.isReadable = true ∧
      (rebinding (integerVar 1 "y")).toExpr.isReadable = true ∧
      (rebinding (integerVar 0 "x")).toExpr.constants = [] ∧
      (rebinding (integerVar 1 "y")).toExpr.constants = [] := by
  refine ⟨?_, by decide, by decide, rfl, rfl⟩
  exact ⟨_, _, _, [.holds (integerTensor 3), .empty], rfl, rfl, rfl, rfl, by decide⟩

/-- A function is applied to a variable that is bound in the argument, and reads the parameter. -/
def applying (v : Var) : Function :=
  integerFunction (.call
    (.fn [integerVar 2 "p"] (.call (.op "add")
      [.var (integerVar 2 "p"), .var (integerVar 0 "x")] (.scalar .int32)) (.scalar .int32) true)
    [.bind v (applyTwice "multiply" (.scalar .int32)) (.var v)] (.scalar .int32)) (.scalar .int32)

/-- The condition on variables is needed for both functions: what an argument binds stays bound in
the body of the function it is an argument of. -/
theorem applying_confused :
    (applying (integerVar 1 "y")).Confused (applying (integerVar 0 "x")) ∧
      (applying (integerVar 1 "y")).toExpr.binders.Nodup := by
  refine ⟨?_, by decide⟩
  exact ⟨_, _, _, [.holds (integerTensor 3), .empty], rfl, rfl, rfl, rfl, by decide⟩

/-- A type that prints as a data type between brackets. -/
def bracketed (name : String) : Ty :=
  .tuple [.data ⟨0, name⟩]

/-- Without the condition on types reuse is wrong: the name of a data type inside a tuple type may
contain the encoding of an expression. -/
theorem misnamed_confused :
    (integerFunction (applyTwice "add" (.tuple []))
      (bracketed "m) (call #\"multiply\" (x")).Confused
    (integerFunction (applyTwice "multiply" (bracketed "x) (call #\"add\" (")) (bracketed "m")) :=
  ⟨_, _, _, [.holds (integerTensor 3), .empty], rfl, rfl, rfl, rfl, by decide⟩

end TensorCompiler
