import TensorCompiler.Proofs.Meaning.Realized
import TensorCompiler.Proofs.Meaning.Reserve

/-!
# Simulation of the source

Main statement: on realized arguments a call of a linked function value does what the call of the
source does. It fails with the same error, or it returns a realization of the value that the source
returns.

## Implementation notes

The proof is by induction on the fuel. Within one call it follows the compiled expression; what an
expression may do to the frames is bounded by the variables it binds in the current frame.
-/

namespace TensorCompiler.Meaning

open Linked

/-- What an image provides for a program: its host, packed calls that run the kernels of primitive
functions, captured constants, the globals of the module, and the constructors of declared data
types. -/
structure Provides (p : SourceProgram) (J : Surroundings) (img : Image)
    (captured : List (Value Code)) : Prop where
  host : p.host = img.host
  prim : ∀ {f types form}, J.prim f types form → ∀ xs : List (Value Code),
    img.packedCall form.kernel (form.inputs + 1 : Nat) form.conv xs = p.runPrimitive f types xs
  constant : ∀ {c i}, J.place c i → ∃ cell, (p.constant c : Except RunError SourceValue) =
    .ok (.tensor cell) ∧ capturedParam captured i = .ok (.tensor cell)
  known : ∀ {g}, J.known g → ∃ f r, p.function? g.name = some f ∧
    img.global? g.name = some ⟨g.name, f.params.length, .routine r⟩ ∧ CompiledFunction J f r ∧
    f.toExpr.Lexical
  ctor : ∀ {c}, J.ctor c → ∀ xs : List (Value Code), xs.length = c.inputs.length →
    Value.construct img.ctors c.name c.tag xs = .ok (.data c xs)

section

variable (J : Surroundings) (captured : List (Value Code))

/-- Values with their realizations. -/
abbrev Realizes (C : Reserve) (fs : Frames) : SourceValue → Value Code → Prop :=
  Value.Rel (Realized J captured C fs)

/-- Lists of values with their realizations. -/
abbrev RealizesAll (C : Reserve) (fs : Frames) : List SourceValue → List (Value Code) → Prop :=
  Value.RelAll (Realized J captured C fs)

/-- Calls of function values that do in a linked program what they do in the source. -/
def CallsSimulated (applySource : SourceValue → List SourceValue → Except RunError SourceValue)
    (applyLinked : Value Code → List (Value Code) → RunM (Value Code)) : Prop :=
  ∀ {C : Reserve} {fs : Frames} {f g xs ys}, C.Covers fs → Realizes J captured C fs f g →
    RealizesAll J captured C fs xs ys →
      Simulated .empty C fs (Realizes J captured) (applySource f xs) ((applyLinked g ys).run fs)

end

section

variable {p : SourceProgram} {J : Surroundings} {captured : List (Value Code)} {C C' : Reserve}
  {fs fs' : Frames} {frame : Nat} {env : Env}

/-- A realization lasts through a step. -/
theorem Realizes.lasts {T : Region} (s : Step T C fs C' fs') {x : SourceValue} {y : Value Code}
    (h : Realizes J captured C fs x y) : Realizes J captured C' fs' x y :=
  Value.Rel.mono (fun c _ => Realized.lasts s.lasts c) h

theorem RealizesAll.lasts {T : Region} (s : Step T C fs C' fs') {xs : List SourceValue}
    {ys : List (Value Code)} (h : RealizesAll J captured C fs xs ys) :
    RealizesAll J captured C' fs' xs ys :=
  Value.RelAll.mono (fun c _ => Realized.lasts s.lasts c) h

/-! ### Expressions -/

variable {img : Image} (provides : Provides p J img captured)
  {applySource : SourceValue → List SourceValue → Except RunError SourceValue}
  {applyLinked : Value Code → List (Value Code) → RunM (Value Code)}
  (calls : CallsSimulated J captured applySource applyLinked)

/-- As many values as there are expressions. -/
theorem length_of_evalAll {es : List Expr} (xs : List SourceValue)
    (h : evalAll p applySource env es = .ok xs) : xs.length = es.length := by
  induction es generalizing xs with
  | nil =>
      cases h
      rfl
  | cons e es ih =>
      simp only [evalAll] at h
      obtain ⟨y, -, h⟩ := ok_of_bind_ok h
      obtain ⟨ys, hys, h⟩ := ok_of_bind_ok h
      cases h
      rw [List.length_cons, List.length_cons, ih ys hys]

/-- A binding in front of a node is evaluated before it. -/
theorem eval_bindBefore (v : Var) (x n : Node) :
    Linked.eval img applyLinked captured frame (Node.bindBefore v x n) = (do
      let y ← Linked.eval img applyLinked captured frame x
      writeVar frame v y
      Linked.eval img applyLinked captured frame n) := by
  cases n with
  | decl bindings body => simp only [Node.bindBefore, Linked.eval, evalBindings, bind_assoc]
  | _ => simp only [Node.bindBefore, Linked.eval, evalBindings, bind_assoc, pure_bind]

/-- A callee that is evaluated before the arguments. -/
theorem eval_call {callee : Expr} {f : Node} (compiled : Compiled J callee f)
    (plain : callee.isPrimitive = false) (args : List Expr) (ty : Ty) :
    eval p applySource env (.call callee args ty) = (do
      let f ← eval p applySource env callee
      let xs ← evalAll p applySource env args
      applySource f xs) := by
  cases compiled with
  | primFn ok => cases plain
  | _ => simp only [eval]

/-- Variables that are found are evaluated to their values. -/
theorem evalAll_vars {names : List Var} {ys : List (Value Code)} (len : names.length = ys.length)
    (found : ∀ b ∈ names.zip ys, fs.lookup frame b.1 = some b.2) :
    (Linked.evalAll img applyLinked captured frame (names.map Node.var)).run fs = (.ok ys, fs) := by
  induction names generalizing ys with
  | nil =>
      cases ys with
      | nil => rfl
      | cons y ys => cases len
  | cons v names ih =>
      cases ys with
      | nil => cases len
      | cons y ys =>
          have first := found (v, y) List.mem_cons_self
          have rest := ih (Nat.succ.inj len) fun b hb => found b (List.mem_cons_of_mem _ hb)
          simp only [List.map_cons, Linked.evalAll, Linked.eval, run_bind, run_readVar, first, rest,
            run_pure]

set_option linter.unusedSectionVars false

include provides calls

mutual

/-- A compiled expression does what the expression does. -/
theorem eval_simulated {e : Expr} {n : Node} : Compiled J e n → ∀ {C fs frame env},
    Ready (realization J captured) C fs frame env e.locals e.inner →
    e.isScoped (env.map Prod.fst) = true →
      Simulated (.local frame e.locals) C fs (Realizes J captured) (eval p applySource env e)
        ((Linked.eval img applyLinked captured frame n).run fs)
  | .var v => by
      intro ready scope
      obtain ⟨b, y, source, -, linked, related⟩ := ready.find (List.contains_iff_mem.mp scope)
      simp only [eval, Linked.eval, Env.find?, source, Option.map_some, run_readVar, linked]
      exact .ok (.refl ready.covers) related
  | .const place => by
      intro ready scope
      obtain ⟨cell, source, linked⟩ := provides.constant place
      simp only [eval, Linked.eval]
      refine .of_agree ready.covers ?_
      rw [source, linked]
      exact .ok (.tensor cell)
  | .global (g := g) ok => by
      intro ready scope
      obtain ⟨f, r, source, linked, -, -⟩ := provides.known ok
      simp only [eval, Linked.eval]
      refine .of_agree ready.covers ?_
      rw [SourceProgram.globalValue, source, Image.globalValue, linked]
      refine .ok (.func _ _ ?_)
      rw [Realized]
      exact ⟨rfl, g, ok, rfl⟩
  | .primCall ok fields => by
      intro ready scope
      simp only [Expr.isScoped, Expr.isPrimitive, Bool.true_or, Bool.true_and] at scope
      simp only [Expr.locals, Expr.inner, if_true, List.nil_append] at ready
      simp only [eval, Linked.eval, PackedForm.linked, Expr.locals, List.nil_append]
      refine (evalAll_simulated fields ready scope).bind (fun _ _ _ => id) (fun _ _ _ => id)
        fun step related => .of_agree step.covers ?_
      rw [provides.prim ok]
      exact p.runPrimitive_agree _ _ related
  | .ctorCall ok count fields => by
      intro ready scope
      simp only [Expr.isScoped, Bool.or_true, Bool.true_and] at scope
      simp only [Expr.locals, Expr.inner, List.nil_append] at ready
      simp only [eval, Linked.eval, Expr.locals, List.nil_append]
      have counted := (evalAll_simulated fields ready scope).and fun xs => length_of_evalAll xs
      refine counted.bind (fun _ _ _ => id) (fun _ _ _ => id) ?_
      rintro xs ys C' fs' step ⟨related, length⟩
      refine .of_agree step.covers ?_
      rw [provides.ctor ok ys (by rw [← related.length_eq, length, count])]
      exact .ok (.data _ related)
  | .call plain head fields => by
      intro ready scope
      simp only [Expr.isScoped, plain, Bool.false_or, Bool.and_eq_true] at scope
      rw [eval_call head plain]
      simp only [Linked.eval, Expr.locals]
      refine (eval_simulated head ready.first scope.1).bind
        (Region.local_mono (List.subset_append_left _ _)) (fun _ _ _ => id)
        fun step related => ?_
      refine (evalAll_simulated fields (ready.next step) scope.2).bind
        (Region.local_mono (List.subset_append_right _ _)) (fun _ _ _ => False.elim)
        fun step' related' => ?_
      exact calls step'.covers (related.lasts step') related'
  | .bind head tail => by
      intro ready scope
      simp only [Expr.isScoped, Bool.and_eq_true] at scope
      simp only [eval, eval_bindBefore]
      refine (eval_simulated head ready.first scope.1).bind
        (Region.local_mono (List.subset_append_left _ _))
        (Region.local_mono (List.subset_append_right _ _)) fun step related => ?_
      have next := ready.next step
      rw [run_writeVar_bind]
      have body := eval_simulated tail (next.write related) (by simpa using scope.2)
      exact body.after (next.step_write _)
        (Region.local_mono (List.cons_subset.mpr ⟨List.mem_cons_self, List.nil_subset _⟩))
        (Region.local_mono (List.subset_cons_self _ _))
  | .cond head left right => by
      intro ready scope
      simp only [Expr.isScoped, Bool.and_eq_true] at scope
      simp only [eval, Linked.eval]
      refine (eval_simulated head ready.first scope.1.1).bind
        (Region.local_mono (List.subset_append_left _ _))
        (Region.local_mono (List.subset_append_right _ _)) fun step related => ?_
      have branches := ready.next step
      rw [run_bind, run_pureStep, related.truth_eq]
      generalize Value.truth _ = truth
      cases truth with
      | error e => exact .error e (.refl step.covers)
      | ok b =>
          cases b with
          | true =>
              exact (eval_simulated left branches.first scope.1.2).mono
                (Region.local_mono (List.subset_append_left _ _))
          | false =>
              have last := branches.sublist (List.sublist_append_right _ _)
                (List.sublist_append_right _ _)
              exact (eval_simulated right last scope.2).mono
                (Region.local_mono (List.subset_append_right _ _))
  | .tuple all => by
      intro ready scope
      simp only [Expr.isScoped] at scope
      simp only [eval, Linked.eval]
      exact (evalAll_simulated all ready scope).bind (fun _ _ _ => id) (fun _ _ _ => id)
        fun step related => .pure step.covers (.tuple related)
  | .proj head => by
      intro ready scope
      simp only [Expr.isScoped] at scope
      simp only [eval, Linked.eval]
      exact (eval_simulated head ready scope).bind (fun _ _ _ => id) (fun _ _ _ => id)
        fun step related => .of_agree step.covers (related.field _)
  | .cases head all => by
      intro ready scope
      simp only [Expr.isScoped, Bool.and_eq_true] at scope
      simp only [eval, Linked.eval]
      have first := ready.sublist (.refl _) (List.sublist_append_left _ _)
      exact (eval_simulated head first scope.1).bind (fun _ _ _ => id)
        (Region.local_mono (List.nil_subset _)) fun step related =>
          evalClauses_simulated all (ready.clauses step) scope.2 related
  | .primFn ok => by
      intro ready scope
      simp only [eval, Linked.eval]
      exact .pure ready.covers (ready.realized scope (.prim ok) _)
  | .fn head => by
      intro ready scope
      simp only [eval, Linked.eval]
      exact .pure ready.covers (ready.realized scope (.plain head) _)

/-- Compiled expressions do what the expressions do. -/
theorem evalAll_simulated {es : List Expr} {ns : List Node} : CompiledAll J es ns →
    ∀ {C fs frame env},
      Ready (realization J captured) C fs frame env (Expr.localsAll es) (Expr.innerAll es) →
      Expr.areScoped (env.map Prod.fst) es = true →
        Simulated (.local frame (Expr.localsAll es)) C fs (RealizesAll J captured)
          (evalAll p applySource env es)
          ((Linked.evalAll img applyLinked captured frame ns).run fs)
  | .nil => by
      intro ready scope
      simp only [evalAll, Linked.evalAll]
      exact .pure ready.covers .nil
  | .cons head tail => by
      intro ready scope
      simp only [Expr.areScoped, Bool.and_eq_true] at scope
      simp only [evalAll, Linked.evalAll]
      refine (eval_simulated head ready.first scope.1).bind
        (Region.local_mono (List.subset_append_left _ _)) (fun _ _ _ => id)
        fun step related => ?_
      exact (evalAll_simulated tail (ready.next step) scope.2).bind
        (Region.local_mono (List.subset_append_right _ _)) (fun _ _ _ => id)
        fun step' related' => .pure step'.covers (.cons (related.lasts step') related')

/-- Compiled clauses do what the clauses do. -/
theorem evalClauses_simulated {es : List (Pattern × Expr)}
    {ns : List (Matcher × List Var × Node)} : CompiledClauses J es ns → ∀ {C fs frame env x y},
      Ready (realization J captured) C fs frame env [] (Expr.innerClauses es) →
      Expr.areScopedClauses (env.map Prod.fst) es = true → Realizes J captured C fs x y →
        Simulated (.local frame []) C fs (Realizes J captured)
          (evalClauses p applySource env x es)
          ((Linked.evalClauses img applyLinked captured frame y ns).run fs)
  | .nil => by
      intro ready scope related
      simp only [evalClauses, Linked.evalClauses, related.shown_eq, run_throw]
      exact .error _ (.refl ready.covers)
  | .cons pattern head tail => by
      intro ready scope related
      simp only [Expr.areScopedClauses, Bool.and_eq_true] at scope
      simp only [evalClauses, Linked.evalClauses]
      have matched := matched_ofPattern _ _ pattern _ _ related
      generalize matchPattern _ _ = found at matched ⊢
      generalize Matcher.run _ _ = run at matched ⊢
      cases matched with
      | misses h =>
          rw [h]
          exact evalClauses_simulated tail
            (ready.sublist (.refl _) (List.sublist_append_right _ _)) scope.2 related
      | hits names bound h =>
          rw [h, List.nil_append]
          have opens := (ready.sublist (.refl _) (List.sublist_append_left _ _)).opens
          have body := eval_simulated head (opens.ready names bound)
            (by rw [List.map_append, names]; exact scope.1)
          rw [run_openFrame_bind (Nat.le_of_eq (by rw [← names, ← bound.length_eq]; simp))]
          exact body.after (opens.step _ _ _) (fun _ _ _ => False.elim) Region.local_new

end

/-! ### Calls -/

/-- A compiled function does what the function does, in a frame that is opened for its call. -/
theorem evalBody_simulated {f : Function} {r : Routine} (compiled : CompiledFunction J f r)
    {parent : Option Nat} {outer : Env}
    (opens : Opens (realization J captured) C fs parent outer f.toExpr.inner)
    (scope : f.toExpr.isScoped (outer.map Prod.fst) = true) {xs : List SourceValue}
    {ys : List (Value Code)} (related : RealizesAll J captured C fs xs ys) :
    Simulated .empty C fs (Realizes J captured) (evalBody p applySource f outer xs)
      ((openFrame parent r.params ys >>= fun frame =>
        Linked.eval img applyLinked captured frame r.body).run fs) := by
  have same : r.params = f.params := by cases compiled <;> rfl
  have len := related.length_eq
  by_cases short : xs.length < f.params.length
  · rw [evalBody, if_pos short, run_openFrame_bind_short (by rw [same, ← len]; exact short), len]
    exact .error _ (.refl opens.covers)
  have enough := Nat.not_lt.mp short
  rw [evalBody, if_neg short, run_openFrame_bind (by rw [same, ← len]; exact enough)]
  cases compiled with
  | @prim params body ret form ok =>
      have all : params.length = (ys.take params.length).length := by
        rw [List.length_take, ← len, Nat.min_eq_left enough]
      have once : params.Nodup := by simpa [Function.toExpr, Expr.isScoped] using scope
      have found (b) (hb : b ∈ params.zip (ys.take params.length)) :
          (fs.opened parent params ys).lookup fs.size b.1 = some b.2 := by
        rw [← Frames.opened_take]
        exact Frames.lookup_opened_of_mem once all hb
      have step := opens.step params [] ys
      simp only [if_true, PackedForm.linked, Linked.eval]
      rw [run_bind, evalAll_vars all found]
      refine Simulated.after (.of_agree step.covers ?_) step (fun _ _ _ => id) (fun _ _ _ => id)
      rw [provides.prim ok]
      exact p.runPrimitive_agree _ _ (RealizesAll.lasts step (related.take _))
  | @plain params body n ret head =>
      have ready := opens.ready_zip enough related
      have body := eval_simulated provides calls head ready (by
        rw [List.map_append, List.map_fst_zip enough]
        exact scope)
      exact body.after (opens.step _ _ _) (fun _ _ _ => id) Region.local_new

end

section

variable {p : SourceProgram} {J : Surroundings} {captured : List (Value Code)} {img : Image}

/-- Functions of the host are run alike. A call of theirs goes on in the frames that it left. -/
theorem port_alike
    {applySource : SourceValue → List SourceValue → Except RunError SourceValue}
    {applyLinked : Value Code → List (Value Code) → RunM (Value Code)}
    (calls : CallsSimulated J captured applySource applyLinked) :
    HostPort.Alike (fun w w' : Reserve × Frames => Step .empty w.1 w.2 w'.1 w'.2)
      (fun w => Realized J captured w.1 w.2)
      (fun w x m => w.1.Covers w.2 →
        Simulated .empty w.1 w.2 (Realizes J captured) x (m.run w.2))
      (port applySource) (Linked.port applyLinked nofun) where
  mono step := Realized.lasts step.lasts _
  make f keeps := by
    change Realized J captured _ _ (.host f _) (.host f _)
    rw [Realized]
    exact ⟨_, rfl, realizedAll_of_relAll J captured _ _ keeps⟩
  serve service := nomatch service
  finish agree covers := .of_agree covers agree
  call callee related next covers :=
    (calls covers callee related).attempt.bind (fun _ _ _ => id) (fun _ _ _ => id)
      fun {_ _ C' fs'} step outcome => @next (C', fs') _ _ step outcome step.covers

/-- A call does in a linked program what it does in the source, if the calls below it do. -/
theorem apply_simulated (provides : Provides p J img captured) {fuel : Nat}
    (below : ∀ n, fuel = n + 1 → CallsSimulated J captured (apply p n) (Linked.apply img n)) :
    CallsSimulated J captured (apply p fuel) (Linked.apply img fuel) := by
  intro C fs f g xs ys covers callee related
  rw [apply.eq_def, Linked.apply.eq_def]
  have shown := callee.shown_eq
  have len := related.length_eq
  cases callee with
  | absent | tensor | tuple | data =>
      simp only [shown]
      exact .error _ (.refl covers)
  | @func name arity c d code =>
      simp only [len]
      by_cases wrong : 0 ≤ arity ∧ (ys.length : Int) ≠ arity
      · rw [if_pos wrong, if_pos wrong]
        exact .error _ (.refl covers)
      · rw [if_neg wrong, if_neg wrong]
        cases c with
        | host h kept =>
            rw [Realized] at code
            obtain ⟨kept', rfl, keeps⟩ := code
            have keeps := relAll_of_realizedAll J captured C fs kept keeps
            rw [provides.host]
            cases fuel with
            | zero =>
                refine (port_alike ?_).start (w := (C, fs)) (img.host.call h) keeps related covers
                exact fun covers _ _ => .error _ (.refl covers)
            | succ n =>
                exact (port_alike (below n rfl)).start (w := (C, fs)) (img.host.call h) keeps
                  related covers
        | global name =>
            rw [Realized] at code
            obtain ⟨rfl, g, ok, rfl⟩ := code
            obtain ⟨f, r, source, linked, compiled, lexical⟩ := provides.known ok
            simp only [source, linked]
            cases fuel with
            | zero => exact .error _ (.refl covers)
            | succ n =>
                exact evalBody_simulated provides (below n rfl) compiled (.global covers lexical)
                  lexical.inScope related
        | closure f env =>
            rw [Realized] at code
            obtain ⟨r, frame, rfl, compiled, fits, realized⟩ := code
            cases fuel with
            | zero => exact .error _ (.refl covers)
            | succ n =>
                exact evalBody_simulated provides (below n rfl) compiled
                  (fits.opens covers realized) fits.inScope related

/-- Calls do in a linked program what they do in the source, however deep they nest. -/
theorem calls_simulated (provides : Provides p J img captured) (fuel : Nat) :
    CallsSimulated J captured (apply p fuel) (Linked.apply img fuel) := by
  induction fuel with
  | zero =>
      refine apply_simulated provides ?_
      rintro n ⟨⟩
  | succ fuel ih =>
      refine apply_simulated provides ?_
      rintro n ⟨⟩
      exact ih

end

end TensorCompiler.Meaning
