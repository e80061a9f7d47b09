import TensorCompiler.Proofs.Emit.Named
import TensorCompiler.Proofs.Emit.Paired
import TensorCompiler.Proofs.Meaning.Reserve
import TensorCompiler.Proofs.Value.Matcher

/-!
# Simulation of emitted functions

Main statement: on realized arguments a call of a linked function value does what the call of the
emitted function does. The emitted text has a meaning there, and it fails with the same error, or it
returns a value that the result of the linked program realizes.

## Implementation notes

The proof is by induction on the fuel. Within one call it follows what was written for a node. The
locals of the emitted function stay in step with the scope of the writer, the frames of the linked
one with the variables that are bound; the environment of variables and values joins the two.
-/

namespace TensorCompiler.Printed

open Emit Meaning
open Linked (Image Frames RunM pureStep openFrame run_pureStep run_openFrame_bind
  run_openFrame_bind_short)

section

variable {α β γ δ : Type}

/-! ### Steps of an emitted run -/

@[simp]
theorem meant_some_bind (a : α) (f : α → Run β) : (meant (some a) >>= f) = f a := rfl

@[simp]
theorem step_ok_bind (a : α) (f : α → Run β) : (step (.ok a) >>= f) = f a := rfl

/-- What follows a step that returns. -/
theorem run_bind_of_ok {x : Run α} {a : α} (h : x.run = some (.ok a)) (f : α → Run β) :
    (x >>= f).run = (f a).run := by
  rw [ExceptT.run_bind, h]
  rfl

/-- Nothing follows a step that fails. -/
theorem run_bind_of_error {x : Run α} {e : RunError} (h : x.run = some (.error e)) (f : α → Run β) :
    (x >>= f).run = some (.error e) := by
  rw [ExceptT.run_bind, h]
  rfl

/-- Statements one after the other. -/
theorem evalStmts_append (rt : Runtime) (apply : Value Code → List (Value Code) → Run (Value Code))
    (given : Inputs) (locals : Locals) (ss ts : List Stmt) :
    evalStmts rt apply given locals (ss ++ ts) =
      evalStmts rt apply given locals ss >>= fun locals => evalStmts rt apply given locals ts := by
  induction ss generalizing locals with
  | nil => simp only [List.nil_append, evalStmts, pure_bind]
  | cons s ss ih => simp only [List.cons_append, evalStmts, bind_assoc, ih]

/-! ### Outcomes -/

/-- An emitted run that has a meaning and does what a linked run does. -/
def Answered (T : Region) (C : Reserve) (fs : Frames) (P : Reserve → Frames → α → β → Prop)
    (x : Run α) (out : Except RunError β × Frames) : Prop :=
  ∃ y, x.run = some y ∧ Simulated T C fs P y out

variable {T T' U : Region} {C C' : Reserve} {fs fs' : Frames}
  {P P' : Reserve → Frames → α → β → Prop} {Q : Reserve → Frames → γ → δ → Prop}

/-- A run after a step. -/
theorem Answered.after {x : Run α} {out : Except RunError β × Frames}
    (h : Answered T' C' fs' P x out) (s : Step T C fs C' fs')
    (first : ∀ i < fs.size, ∀ v, T i v → U i v) (second : ∀ i < fs.size, ∀ v, T' i v → U i v) :
    Answered U C fs P x out := by
  obtain ⟨y, meaning, simulated⟩ := h
  exact ⟨y, meaning, simulated.after s first second⟩

/-- A run that may change more. -/
theorem Answered.mono {x : Run α} {out : Except RunError β × Frames}
    (h : Answered T C fs P x out) (imp : ∀ i < fs.size, ∀ v, T i v → U i v) :
    Answered U C fs P x out := by
  obtain ⟨y, meaning, simulated⟩ := h
  exact ⟨y, meaning, simulated.mono imp⟩

/-- Two runs in a row. -/
theorem Answered.bind {x : Run α} {m : RunM β} {f : α → Run γ} {g : β → RunM δ}
    (h : Answered T C fs P x (m.run fs)) (first : ∀ i < fs.size, ∀ v, T i v → U i v)
    (second : ∀ i < fs.size, ∀ v, T' i v → U i v)
    (next : ∀ {a b C' fs'}, Step T C fs C' fs' → P C' fs' a b →
      Answered T' C' fs' Q (f a) ((g b).run fs')) :
    Answered U C fs Q (x >>= f) ((m >>= g).run fs) := by
  obtain ⟨y, meaning, simulated⟩ := h
  rw [run_bind]
  generalize m.run fs = out at simulated
  cases simulated with
  | error e step => exact ⟨.error e, run_bind_of_error meaning f, .error e (step.mono first)⟩
  | @ok a b C' fs' step related =>
      obtain ⟨z, later, simulated⟩ := next step related
      exact ⟨z, (run_bind_of_ok meaning f).trans later, simulated.after step first second⟩

/-- What an emitted run does alone after both. -/
theorem Answered.map {x : Run α} {out : Except RunError β × Frames} {f : α → Run γ}
    {P' : Reserve → Frames → γ → β → Prop} (h : Answered T C fs P x out)
    (next : ∀ {a b C' fs'}, P C' fs' a b → ∃ c, (f a).run = some (.ok c) ∧ P' C' fs' c b) :
    Answered T C fs P' (x >>= f) out := by
  obtain ⟨y, meaning, simulated⟩ := h
  cases simulated with
  | error e step => exact ⟨.error e, run_bind_of_error meaning f, .error e step⟩
  | @ok a b C' fs' step related =>
      obtain ⟨c, later, related⟩ := next related
      exact ⟨.ok c, (run_bind_of_ok meaning f).trans later, .ok step related⟩

/-- What a linked run returns alone after both. -/
theorem Answered.returns {x : Run α} {m : RunM β} {g : β → δ} {P' : Reserve → Frames → α → δ → Prop}
    (h : Answered T C fs P x (m.run fs))
    (next : ∀ {a b C' fs'}, Step T C fs C' fs' → P C' fs' a b → P' C' fs' a (g b)) :
    Answered T C fs P' x ((m >>= fun b => (Pure.pure (g b) : RunM δ)).run fs) := by
  obtain ⟨y, meaning, simulated⟩ := h
  refine ⟨y, meaning, ?_⟩
  rw [run_bind]
  generalize m.run fs = out at simulated
  cases simulated with
  | error e step => exact .error e step
  | ok step related => exact .ok step (next step related)

/-- Less about the results. -/
theorem Answered.imp {x : Run α} {out : Except RunError β × Frames} (h : Answered T C fs P x out)
    (imp : ∀ {a b C' fs'}, P C' fs' a b → P' C' fs' a b) : Answered T C fs P' x out := by
  obtain ⟨y, meaning, simulated⟩ := h
  cases simulated with
  | error e step => exact ⟨.error e, meaning, .error e step⟩
  | @ok a b C' fs' step related => exact ⟨.ok a, meaning, .ok step (imp related)⟩

/-- A run whose report is handed to the host. -/
theorem Answered.attempt {x : Run α} {m : RunM β} (h : Answered T C fs P x (m.run fs)) :
    Answered T C fs (fun C fs => Agree (P C fs)) (attempt x) ((attempt m).run fs) := by
  obtain ⟨y, meaning, simulated⟩ := h
  refine ⟨reported y, ?_, simulated.attempt⟩
  rw [TensorCompiler.attempt, ExceptT.run_mk, meaning]
  rfl

/-- A step of the runtime that touches no frame. -/
theorem Answered.of_agree {x : Except RunError α} {y : Except RunError β} (covers : C.Covers fs)
    (h : Agree (P C fs) x y) : Answered T C fs P (step x) ((pureStep y).run fs) :=
  ⟨x, rfl, .of_agree covers h⟩

/-- A result that is at hand. -/
theorem Answered.pure {a : α} {b : β} (covers : C.Covers fs) (h : P C fs a b) :
    Answered T C fs P (pure a) ((pure b : RunM β).run fs) :=
  ⟨.ok a, rfl, .pure covers h⟩

/-- Both runs fail. -/
theorem Answered.error (e : RunError) (covers : C.Covers fs) :
    Answered T C fs P (step (.error e)) (.error e, fs) :=
  ⟨.error e, rfl, .error e (.refl covers)⟩

end

/-! ### Results -/

section

/-- Values with their realizations. -/
abbrev Realizes (C : Reserve) (fs : Frames) : Value Code → Value Linked.Code → Prop :=
  Value.Rel (Realized C fs)

/-- Lists of values with their realizations. -/
abbrev RealizesAll (C : Reserve) (fs : Frames) :
    List (Value Code) → List (Value Linked.Code) → Prop :=
  Value.RelAll (Realized C fs)

/-- Calls of function values that do in a linked program what they do in the emitted one. -/
def CallsAnswered (applyPrinted : Value Code → List (Value Code) → Run (Value Code))
    (applyLinked : Value Linked.Code → List (Value Linked.Code) → RunM (Value Linked.Code)) :
    Prop :=
  ∀ {C : Reserve} {fs : Frames} {f g xs ys}, C.Covers fs → Realizes C fs f g →
    RealizesAll C fs xs ys →
      Answered .empty C fs Realizes (applyPrinted f xs) ((applyLinked g ys).run fs)

/-- What the statements of a node leave behind: locals in step with the scope, the earlier ones
among them, and the value of the node in one of them. -/
structure Result (σ : Scope) (env : List (Var × Value Code)) (locals : Locals) (x : String)
    (C : Reserve) (fs : Frames) (locals' : Locals) (y : Value Linked.Code) : Prop where
  named : Named σ env locals'
  kept : locals.Kept locals'
  value : ∃ v, locals'.read? x = some v ∧ Realizes C fs v y

/-- What the statements of several nodes leave behind. -/
structure Results (σ : Scope) (env : List (Var × Value Code)) (locals : Locals) (xs : List String)
    (C : Reserve) (fs : Frames) (locals' : Locals) (ys : List (Value Linked.Code)) : Prop where
  named : Named σ env locals'
  kept : locals.Kept locals'
  values : ∃ vs, locals'.readAll? xs = some vs ∧ RealizesAll C fs vs ys

/-- Where a node is evaluated: in frames that are ready for it, with locals in step with the scope
of the writer, and with captured parameters that are realized. -/
structure At (captured : List (Value Code)) (captured' : List (Value Linked.Code)) (σ : Scope)
    (C : Reserve) (fs : Frames) (frame : Nat) (env : List (Var × Value Code)) (locals : Locals)
    (ls is : List Var) : Prop where
  ready : Ready realization C fs frame env ls is
  named : Named σ env locals
  given : RealizesAll C fs captured captured'

/-- What the statements of bindings leave behind: more variables in the environment, and everything
ready for the nodes that follow. -/
def Extended (captured : List (Value Code)) (captured' : List (Value Linked.Code)) (σ : Scope)
    (frame : Nat) (vs : List Var) (env : List (Var × Value Code)) (locals : Locals)
    (ls is : List Var) (C : Reserve) (fs : Frames) (locals' : Locals) (_ : Unit) : Prop :=
  ∃ env', env'.map Prod.fst = vs.reverse ++ env.map Prod.fst ∧ env ⊆ env' ∧ locals.Kept locals' ∧
    At captured captured' σ C fs frame env' locals' ls is

end

section

variable {captured : List (Value Code)} {captured' : List (Value Linked.Code)} {σ σ' : Scope}
  {C C' : Reserve} {fs fs' : Frames} {frame : Nat} {env : List (Var × Value Code)}
  {locals locals' : Locals} {ls ls' is is' vs : List Var} {T : Region}

theorem Realizes.lasts (l : Lasts C fs C' fs') {x : Value Code} {y : Value Linked.Code}
    (h : Realizes C fs x y) : Realizes C' fs' x y :=
  h.mono fun _ _ => Realized.lasts l

theorem RealizesAll.lasts (l : Lasts C fs C' fs') {xs : List (Value Code)}
    {ys : List (Value Linked.Code)} (h : RealizesAll C fs xs ys) :
    RealizesAll C' fs' xs ys :=
  h.mono fun _ _ => Realized.lasts l

namespace At

/-- Part of the variables. -/
theorem sublist (h : At captured captured' σ C fs frame env locals ls is)
    (hl : ls'.Sublist ls) (hi : is'.Sublist is) :
    At captured captured' σ C fs frame env locals ls' is' :=
  ⟨h.ready.sublist hl hi, h.named, h.given⟩

/-- The first of two nodes. -/
theorem first (h : At captured captured' σ C fs frame env locals (ls ++ ls') (is ++ is')) :
    At captured captured' σ C fs frame env locals ls is :=
  h.sublist (List.sublist_append_left _ _) (List.sublist_append_left _ _)

/-- The second of two nodes, after the first one was evaluated. -/
theorem next (h : At captured captured' σ C fs frame env locals (ls ++ ls') (is ++ is'))
    (s : Step (.local frame ls) C fs C' fs') (named : Named σ' env locals') :
    At captured captured' σ' C' fs' frame env locals' ls' is' :=
  ⟨h.ready.next s, named, h.given.lasts s.lasts⟩

/-- The clauses of a match, after the node in front of them was evaluated. -/
theorem clauses (h : At captured captured' σ C fs frame env locals ls (is ++ is'))
    (s : Step (.local frame ls) C fs C' fs') (named : Named σ' env locals') :
    At captured captured' σ' C' fs' frame env locals' [] is' :=
  ⟨h.ready.clauses s, named, h.given.lasts s.lasts⟩

/-- The variables of the environment are none of those that are bound. -/
theorem apart (h : At captured captured' σ C fs frame env locals ls is) {b : Var × Value Code}
    (hb : b ∈ env) : b.1 ∉ ls ∧ b.1 ∉ is := by
  obtain ⟨y, found, -⟩ := h.ready.env b hb
  constructor
  · intro member
    rw [(h.ready.locals b.1 member).2] at found
    cases found
  · intro member
    exact h.ready.inner b.1 member (h.ready.covers.of_lookup found)

/-- A variable that is bound next is none of the environment. -/
theorem unbound {v : Var} (h : At captured captured' σ C fs frame env locals (v :: ls) is) :
    v ∉ env.map Prod.fst := by
  intro member
  obtain ⟨b, hb, rfl⟩ := List.mem_map.mp member
  exact (h.apart hb).1 List.mem_cons_self

/-- The variables after the first one, when that was bound to a new local. -/
theorem bind {v : Var} {x : String} {s : NameSupply} {a : Value Code} {y : Value Linked.Code}
    (h : At captured captured' σ C fs frame env locals (v :: ls) is) (new : New σ.names x s)
    (related : Realizes C fs a y) :
    At captured captured' ⟨s, (v, x) :: σ.locals⟩ C (fs.write frame v y) frame ((v, a) :: env)
      ((x, a) :: locals) ls is :=
  ⟨h.ready.write related, h.named.bind new h.unbound a, h.given.lasts (h.ready.step_write y).lasts⟩

/-- The locals stay in step while something is written that is not evaluated. -/
theorem skip (h : At captured captured' σ C fs frame env locals ls is) (g : σ.Grows σ' vs)
    (within : ∀ v ∈ vs, v ∈ ls ∨ v ∈ is) : Named σ' env locals := by
  refine h.named.grow g ?_
  intro b hb member
  rcases within b.1 member with bound | bound
  · exact (h.apart hb).1 bound
  · exact (h.apart hb).2 bound

end At

/-! ### The last step of a node -/

variable {rt : Runtime} {applyPrinted : Value Code → List (Value Code) → Run (Value Code)}
  {given : Inputs} {x : String} {s : NameSupply}
  {out : Except RunError (Value Linked.Code) × Frames}

/-- A new local holds a value. -/
theorem Named.result (named : Named σ env locals') (kept : locals.Kept locals')
    (new : New σ.names x s) {v : Value Code} {y : Value Linked.Code}
    (related : Realizes C fs v y) :
    Result ⟨s, σ.locals⟩ env locals x C fs ((x, v) :: locals') y :=
  ⟨named.declare new v, kept.trans (named.kept new v), v, Locals.read?_cons_self, related⟩

/-- A call whose result gets a new local. -/
theorem Answered.finish {c : Call} (named : Named σ env locals') (kept : locals.Kept locals')
    (new : New σ.names x s)
    (h : Answered T C fs Realizes (evalCall rt applyPrinted given locals' c) out) :
    Answered T C fs (Result ⟨s, σ.locals⟩ env locals x)
      (evalStmts rt applyPrinted given locals' [.call x c]) out := by
  simp only [evalStmts, evalStmt, bind_pure]
  refine h.map fun {v y C' fs'} related => ?_
  rw [named.declare? new v]
  exact ⟨_, rfl, named.result kept new related⟩

/-- A block returns the result of its statements. -/
theorem Answered.block {ss : List Stmt}
    (h : Answered T C fs (Result σ env locals x)
      (evalStmts rt applyPrinted given locals' ss) out) :
    Answered T C fs Realizes (evalBlock rt applyPrinted given locals' (.mk ss x)) out := by
  simp only [evalBlock]
  refine h.map fun {locals'' y C' fs'} result => ?_
  obtain ⟨v, found, related⟩ := result.value
  rw [found]
  exact ⟨v, rfl, related⟩

/-- The value at a place of a list. -/
theorem element_of_lt {xs : List (Value Code)} {i : Nat} (inside : i < xs.length) :
    element xs i = .ok xs[i] := by
  rw [element, List.getElem?_eq_getElem inside]

/-- There is no value behind the end of a list. -/
theorem element_length (xs : List (Value Code)) :
    element xs xs.length = .error (.valueRange xs.length xs.length) := by
  rw [element, List.getElem?_eq_none (Nat.le_refl _)]

variable (rt applyPrinted) in
/-- The first of some variables in front of a body gets the value of its origin. -/
theorem evalStmts_of_bind {origin : Nat → Origin} {i : Nat} {ss : List Stmt}
    {xs : List (Value Code)}
    (values : ∀ locals j, given.value locals (origin j) = step (element xs j))
    (inside : i < xs.length) (named : Named σ env locals) (new : New σ.names x s) :
    evalStmts rt applyPrinted given locals (.bind x (origin i) :: ss) =
      evalStmts rt applyPrinted given ((x, xs[i]) :: locals) ss := by
  simp only [evalStmts, evalStmt, values, element_of_lt inside, step_ok_bind, named.declare? new,
    meant_some_bind]

variable (rt applyPrinted) in
/-- Variables in front of a body get the values of their origins. -/
theorem evalStmts_of_binds {origin : Nat → Origin} {i : Nat} {bs : List Stmt}
    (h : Binds origin i σ vs bs σ') {xs : List (Value Code)}
    (values : ∀ locals j, given.value locals (origin j) = step (element xs j))
    (count : i + vs.length ≤ xs.length) (once : vs.Nodup) (named : Named σ env locals)
    (unbound : ∀ v ∈ vs, v ∉ env.map Prod.fst) :
    ∃ locals', evalStmts rt applyPrinted given locals bs = pure locals' ∧
      Named σ' (vs.zip (xs.drop i) ++ env) locals' := by
  induction h generalizing env locals with
  | nil => exact ⟨locals, by simp only [evalStmts], named⟩
  | @cons i σ v vs x s ss σ' new tail ih =>
      obtain ⟨first, once⟩ := List.nodup_cons.mp once
      obtain ⟨here, unbound⟩ := List.forall_mem_cons.mp unbound
      rw [List.length_cons] at count
      have inside : i < xs.length := by omega
      have apart : ∀ w ∈ vs, w ∉ ((v, xs[i]) :: env).map Prod.fst := by
        intro w hw member
        rcases List.mem_cons.mp member with rfl | member
        · exact first hw
        · exact unbound w hw member
      obtain ⟨locals', ran, named'⟩ := ih (by omega) once (named.bind new here xs[i]) apart
      refine ⟨locals', ?_, named'.subset ?_⟩
      · rw [evalStmts_of_bind rt applyPrinted values inside named new]
        exact ran
      · -- The first variable stands behind the others in what the induction gives.
        intro b hb
        rw [List.drop_eq_getElem_cons inside, List.zip_cons_cons, List.cons_append] at hb
        rcases List.mem_cons.mp hb with rfl | hb
        · exact List.mem_append_right _ List.mem_cons_self
        · rcases List.mem_append.mp hb with hb | hb
          · exact List.mem_append_left _ hb
          · exact List.mem_append_right _ (List.mem_cons_of_mem _ hb)

variable (rt applyPrinted) in
/-- Variables in front of a body fail at the first one without a value. -/
theorem evalStmts_of_binds_short {origin : Nat → Origin} {i : Nat} {bs : List Stmt}
    (h : Binds origin i σ vs bs σ') {xs : List (Value Code)}
    (values : ∀ locals j, given.value locals (origin j) = step (element xs j))
    (start : i ≤ xs.length) (short : xs.length < i + vs.length) (once : vs.Nodup)
    (named : Named σ env locals) (unbound : ∀ v ∈ vs, v ∉ env.map Prod.fst) :
    evalStmts rt applyPrinted given locals bs =
      step (.error (.valueRange xs.length xs.length)) := by
  induction h generalizing env locals with
  | nil => exact absurd short (Nat.not_lt.mpr start)
  | @cons i σ v vs x s ss σ' new tail ih =>
      obtain ⟨first, once⟩ := List.nodup_cons.mp once
      obtain ⟨here, unbound⟩ := List.forall_mem_cons.mp unbound
      rw [List.length_cons] at short
      rcases Nat.lt_or_eq_of_le start with inside | rfl
      · have apart : ∀ w ∈ vs, w ∉ ((v, xs[i]) :: env).map Prod.fst := by
          intro w hw member
          rcases List.mem_cons.mp member with rfl | member
          · exact first hw
          · exact unbound w hw member
        rw [evalStmts_of_bind rt applyPrinted values inside named new]
        exact ih (by omega) (by omega) once (named.bind new here xs[i]) apart
      · simp only [evalStmts, evalStmt, values, element_length]
        rfl

variable (rt applyPrinted) in
/-- Variables in front of a body all get a value, or there are too few values. -/
theorem evalStmts_of_binds_cases {origin : Nat → Origin} {bs : List Stmt}
    (h : Binds origin 0 σ vs bs σ') {xs : List (Value Code)}
    (values : ∀ locals j, given.value locals (origin j) = step (element xs j))
    (once : vs.Nodup) (named : Named σ env locals) (unbound : ∀ v ∈ vs, v ∉ env.map Prod.fst) :
    (vs.length ≤ xs.length ∧ ∃ locals',
      evalStmts rt applyPrinted given locals bs = pure locals' ∧
        Named σ' (vs.zip xs ++ env) locals') ∨
    (xs.length < vs.length ∧ evalStmts rt applyPrinted given locals bs =
      step (.error (.valueRange xs.length xs.length))) := by
  rcases Nat.lt_or_ge xs.length vs.length with short | count
  · refine .inr ⟨short, ?_⟩
    exact evalStmts_of_binds_short rt applyPrinted h values (Nat.zero_le _) (by omega) once named
      unbound
  · refine .inl ⟨count, ?_⟩
    exact evalStmts_of_binds rt applyPrinted h values (by omega) once named unbound

end

/-! ### Nodes -/

section

variable {img : Image} {rt : Runtime} (same : Paired rt img)
  {applyPrinted : Value Code → List (Value Code) → Run (Value Code)}
  {applyLinked : Value Linked.Code → List (Value Linked.Code) → RunM (Value Linked.Code)}
  (calls : CallsAnswered applyPrinted applyLinked) {consts : List Constant}
  {captured' : List (Value Linked.Code)}

set_option linter.unusedSectionVars false

include same calls

mutual

/-- What is written for a node does what the linked node does. -/
theorem eval_answered {σ n ss x σ' k} : Written consts σ n ss x σ' k →
    ∀ {given : Inputs} {C fs frame env locals},
      At given.captured captured' σ C fs frame env locals n.locals n.inner →
      n.isScoped (env.map Prod.fst) = true →
        Answered (.local frame n.locals) C fs (Result σ' env locals x)
          (evalStmts rt applyPrinted given locals ss)
          ((Linked.eval img applyLinked captured' frame k).run fs)
  | .var place => by
      intro here scope
      obtain ⟨b, y, source, rfl, linked, related⟩ :=
        here.ready.find (List.contains_iff_mem.mp scope)
      obtain ⟨name, place', found⟩ := here.named.found b (List.mem_of_find?_eq_some source)
      obtain rfl := Option.some.inj (place.symm.trans place')
      simp only [evalStmts, Linked.eval, Linked.run_readVar, linked]
      exact .pure here.ready.covers ⟨here.named, .refl _, b.2, found, related⟩
  | .const place new => by
      intro here scope
      refine .finish here.named (.refl _) new ?_
      simp only [evalCall, Linked.eval]
      exact .of_agree here.ready.covers (here.given.capturedParam _)
  | .global new => by
      intro here scope
      refine .finish here.named (.refl _) new ?_
      simp only [evalCall, Linked.eval]
      refine .of_agree here.ready.covers (same.globalValue ?_)
      exact .global (realizedAll_of_relAll here.given)
  | .packed all new => by
      intro here scope
      rw [evalStmts_append]
      simp only [Linked.eval]
      refine (evalAll_answered all here scope).bind (fun _ _ _ => id) (fun _ _ _ => id)
        fun step results => ?_
      obtain ⟨named, kept, vs, found, related⟩ := results
      refine .finish named kept new ?_
      simp only [evalCall, found, meant_some_bind]
      exact .of_agree step.covers (same.packedCall related _ _ _)
  | .invoke head all new => by
      intro here scope
      simp only [Lowered.Node.isScoped, Bool.and_eq_true] at scope
      rw [List.append_assoc, evalStmts_append]
      simp only [Linked.eval]
      refine (eval_answered head here.first scope.1).bind
        (Region.local_mono (List.subset_append_left _ _)) (fun _ _ _ => id)
        fun step result => ?_
      obtain ⟨named, kept, f, callee, related⟩ := result
      rw [evalStmts_append]
      refine (evalAll_answered all (here.next step named) scope.2).bind
        (Region.local_mono (List.subset_append_right _ _)) (fun _ _ _ => False.elim)
        fun step' results => ?_
      obtain ⟨named', kept', vs, found, related'⟩ := results
      refine .finish named' (kept.trans kept') new ?_
      simp only [evalCall, kept' _ _ callee, found, meant_some_bind]
      exact calls step'.covers (related.lasts step'.lasts) related'
  | .decl all tail => by
      intro here scope
      simp only [Lowered.Node.isScoped, Bool.and_eq_true] at scope
      rw [evalStmts_append]
      simp only [Linked.eval]
      refine (evalBindings_answered all here scope.1).bind
        (Region.local_mono (List.subset_append_left _ _))
        (Region.local_mono (List.subset_append_right _ _)) fun step bound => ?_
      obtain ⟨env', names, sub, kept, after⟩ := bound
      have body := eval_answered tail after (by rw [names]; exact scope.2)
      exact body.imp fun result =>
        ⟨result.named.subset sub, kept.trans result.kept, result.value⟩
  | .cond head left right new => by
      intro here scope
      simp only [Lowered.Node.isScoped, Bool.and_eq_true] at scope
      rw [evalStmts_append]
      simp only [Linked.eval]
      refine (eval_answered head here.first scope.1.1).bind
        (Region.local_mono (List.subset_append_left _ _))
        (Region.local_mono (List.subset_append_right _ _)) fun step result => ?_
      obtain ⟨named, kept, v, found, related⟩ := result
      have branches := here.next step named
      -- One branch runs, but both were written: the scope also has the locals of the other one.
      have last := branches.skip left.grows fun u hu =>
        (Lowered.Node.mem_bound.mp hu).imp (List.mem_append_left _) (List.mem_append_left _)
      have second : At _ captured' _ _ _ _ _ _ _ _ := ⟨branches.ready, last, branches.given⟩
      have after := second.skip right.grows fun u hu =>
        (Lowered.Node.mem_bound.mp hu).imp (List.mem_append_right _) (List.mem_append_right _)
      refine .finish after kept new ?_
      simp only [evalCall, found, meant_some_bind]
      rw [run_bind, run_pureStep, related.truth_eq]
      generalize Value.truth _ = truth
      cases truth with
      | error e => exact .error e step.covers
      | ok b =>
          cases b with
          | true =>
              exact (Answered.block (eval_answered left branches.first scope.1.2)).mono
                (Region.local_mono (List.subset_append_left _ _))
          | false =>
              have no := second.sublist (List.sublist_append_right _ _)
                (List.sublist_append_right _ _)
              exact (Answered.block (eval_answered right no scope.2)).mono
                (Region.local_mono (List.subset_append_right _ _))
  | .tuple all new => by
      intro here scope
      rw [evalStmts_append]
      simp only [Linked.eval]
      refine (evalAll_answered all here scope).bind (fun _ _ _ => id) (fun _ _ _ => id)
        fun step results => ?_
      obtain ⟨named, kept, vs, found, related⟩ := results
      simp only [evalStmts, evalStmt, found, meant_some_bind, named.declare? new]
      exact .pure step.covers (named.result kept new (.tuple related))
  | .proj head new => by
      intro here scope
      rw [evalStmts_append]
      simp only [Linked.eval]
      refine (eval_answered head here scope).bind (fun _ _ _ => id) (fun _ _ _ => id)
        fun step result => ?_
      obtain ⟨named, kept, v, found, related⟩ := result
      refine .finish named kept new ?_
      simp only [evalCall, found, meant_some_bind]
      exact .of_agree step.covers (related.field _)
  | .cases head all new => by
      intro here scope
      simp only [Lowered.Node.isScoped, Bool.and_eq_true] at scope
      rw [evalStmts_append]
      simp only [Linked.eval]
      have first := here.sublist (.refl _) (List.sublist_append_left _ _)
      refine (eval_answered head first scope.1).bind (fun _ _ _ => id)
        (Region.local_mono (List.nil_subset _)) fun step result => ?_
      obtain ⟨named, kept, v, found, related⟩ := result
      have clauses := here.clauses step named
      -- The local of the match is new after all clauses, whichever of them runs.
      have after := clauses.skip all.grows fun u hu => Or.inr (Lowered.Node.mem_boundClauses.mp hu)
      refine .finish after kept new ?_
      simp only [evalCall, found, meant_some_bind]
      exact evalClauses_answered all clauses scope.2 related
  | .fn body new => by
      intro here scope
      have after := here.skip body.grows fun u hu => Or.inr (Lowered.Node.mem_params_bound.mp hu)
      simp only [evalStmts, evalStmt, meant_some_bind, after.declare? new, Linked.eval]
      refine .pure here.ready.covers (after.result (.refl _) new (.func _ _ ?_))
      exact .literal _ body here.named ⟨here.ready.once, scope, here.ready.inner, here.ready.inside⟩
        (realizedEnv_iff_holds.mpr here.ready.env) (realizedAll_of_relAll here.given)
  | .construct all new => by
      intro here scope
      rw [evalStmts_append]
      simp only [Linked.eval]
      refine (evalAll_answered all here scope).bind (fun _ _ _ => id) (fun _ _ _ => id)
        fun step results => ?_
      obtain ⟨named, kept, vs, found, related⟩ := results
      refine .finish named kept new ?_
      simp only [evalCall, found, meant_some_bind, same.ctors]
      exact .of_agree step.covers (related.construct _ _ _)

/-- What is written for nodes does what the linked nodes do. -/
theorem evalAll_answered {σ ns ss xs σ' ks} : WrittenAll consts σ ns ss xs σ' ks →
    ∀ {given : Inputs} {C fs frame env locals},
      At given.captured captured' σ C fs frame env locals (Lowered.Node.localsAll ns)
        (Lowered.Node.innerAll ns) →
      Lowered.Node.areScoped (env.map Prod.fst) ns = true →
        Answered (.local frame (Lowered.Node.localsAll ns)) C fs (Results σ' env locals xs)
          (evalStmts rt applyPrinted given locals ss)
          ((Linked.evalAll img applyLinked captured' frame ks).run fs)
  | .nil => by
      intro here scope
      simp only [evalStmts, Linked.evalAll]
      exact .pure here.ready.covers ⟨here.named, .refl _, [], rfl, .nil⟩
  | .cons head tail => by
      intro here scope
      simp only [Lowered.Node.areScoped, Bool.and_eq_true] at scope
      rw [evalStmts_append]
      simp only [Linked.evalAll]
      refine (eval_answered head here.first scope.1).bind
        (Region.local_mono (List.subset_append_left _ _))
        (Region.local_mono (List.subset_append_right _ _)) fun step result => ?_
      obtain ⟨named, kept, v, found, related⟩ := result
      have rest := evalAll_answered tail (here.next step named) scope.2
      refine rest.returns fun step' results => ?_
      obtain ⟨named', kept', vs, all, related'⟩ := results
      refine ⟨named', kept.trans kept', v :: vs, ?_, .cons (related.lasts step'.lasts) related'⟩
      exact Locals.readAll?_cons (kept' _ _ found) all

/-- What is written for bindings does what the linked bindings do. -/
theorem evalBindings_answered {σ bs ss σ' ks} : WrittenBindings consts σ bs ss σ' ks →
    ∀ {given : Inputs} {C fs frame env locals ls is},
      At given.captured captured' σ C fs frame env locals (Lowered.Node.localsBindings bs ++ ls)
        (Lowered.Node.innerBindings bs ++ is) →
      Lowered.Node.areScopedBindings (env.map Prod.fst) bs = true →
        Answered (.local frame (Lowered.Node.localsBindings bs)) C fs
          (Extended given.captured captured' σ' frame (bs.map Prod.fst) env locals ls is)
          (evalStmts rt applyPrinted given locals ss)
          ((Linked.evalBindings img applyLinked captured' frame ks).run fs)
  | .nil => by
      intro here scope
      simp only [evalStmts, Linked.evalBindings]
      exact .pure here.ready.covers ⟨_, rfl, List.Subset.refl _, .refl _, here⟩
  | .cons head new tail => by
      intro here scope
      simp only [Lowered.Node.areScopedBindings, Bool.and_eq_true] at scope
      simp only [Lowered.Node.localsBindings, Lowered.Node.innerBindings, List.append_assoc,
        List.cons_append] at here
      rw [evalStmts_append]
      simp only [Linked.evalBindings, Lowered.Node.localsBindings]
      refine (eval_answered head here.first scope.1).bind
        (Region.local_mono (List.subset_append_left _ _))
        (Region.local_mono (List.subset_append_right _ _)) fun step result => ?_
      obtain ⟨named, kept, v, found, related⟩ := result
      have next := here.next step named
      have rest := evalBindings_answered tail (next.bind new related) scope.2
      rw [Linked.run_writeVar_bind]
      simp only [evalStmts, evalStmt, Inputs.value, found, meant_some_bind, named.declare? new]
      have whole := rest.after (next.ready.step_write _)
        (Region.local_mono (List.cons_subset.mpr ⟨List.mem_cons_self, List.nil_subset _⟩))
        (Region.local_mono (List.subset_cons_self _ _))
      refine whole.imp fun extended => ?_
      obtain ⟨env', names, sub, kept', after⟩ := extended
      refine ⟨env', ?_, fun b hb => sub (List.mem_cons_of_mem _ hb), ?_, after⟩
      · rw [names, List.map_cons, List.map_cons, List.reverse_cons, List.append_assoc,
          List.singleton_append]
      · exact kept.trans ((named.kept new v).trans kept')

/-- What is written for clauses does what the linked clauses do. -/
theorem evalClauses_answered {σ cs bs σ' ks} : WrittenClauses consts σ cs bs σ' ks →
    ∀ {given : Inputs} {C fs frame env locals x y},
      At given.captured captured' σ C fs frame env locals [] (Lowered.Node.innerClauses cs) →
      Lowered.Node.areScopedClauses (env.map Prod.fst) cs = true → Realizes C fs x y →
        Answered (.local frame []) C fs Realizes
          (evalClauses rt applyPrinted given locals x bs)
          ((Linked.evalClauses img applyLinked captured' frame y ks).run fs)
  | .nil => by
      intro here scope related
      simp only [evalClauses, Linked.evalClauses, related.shown_eq, run_throw]
      exact .error _ here.ready.covers
  | .cons (m := m) pattern head tail => by
      intro here scope related
      simp only [Lowered.Node.areScopedClauses, Bool.and_eq_true] at scope
      simp only [evalClauses, Linked.evalClauses]
      have matched := Matcher.run_related m related .nil
      revert matched
      generalize Matcher.run _ _ _ = binds
      generalize Matcher.run _ _ _ = binds'
      intro matched
      cases matched with
      | misses =>
          have named := here.skip head.grows fun u hu =>
            Or.inr (List.mem_append_left _ (Lowered.Node.mem_params_bound.mp hu))
          have rest := here.ready.sublist (.refl _) (List.sublist_append_right _ _)
          exact evalClauses_answered tail ⟨rest, named, here.given⟩ scope.2 related
      | hits bound length =>
          have opens := (here.ready.sublist (.refl _) (List.sublist_append_left _ _)).opens
          exact Answered.mono (body_answered head opens scope.1 here.named here.given
            (fun _ _ => rfl) bound) fun _ _ _ => False.elim

/-- A block with variables in front of it does what the linked node does in a new frame. -/
theorem body_answered {origin σ vs n block σ' k} : WrittenBody consts origin σ vs n block σ' k →
    ∀ {given : Inputs} {C fs parent outer locals xs ys},
      Opens realization C fs parent outer (vs ++ (n.locals ++ n.inner)) →
      n.isScoped (vs ++ outer.map Prod.fst) = true → Named σ outer locals →
      RealizesAll C fs given.captured captured' →
      (∀ locals j, given.value locals (origin j) = step (element xs j)) →
      RealizesAll C fs xs ys →
        Answered .empty C fs Realizes (evalBlock rt applyPrinted given locals block)
          ((openFrame parent vs ys >>= fun frame =>
            Linked.eval img applyLinked captured' frame k).run fs)
  | .mk binds body => by
      intro opens scope named params values related
      have once := (List.nodup_append.mp opens.once).1
      have unbound : ∀ v ∈ _, v ∉ _ := fun v hv => opens.unbound (List.mem_append_left _ hv)
      have len := related.length_eq
      simp only [evalBlock, evalStmts_append]
      -- The statements in front bind the variables one by one; the frame opens with all of them.
      rcases evalStmts_of_binds_cases rt applyPrinted binds values once named unbound with
        ⟨count, locals', ran, named'⟩ | ⟨short, ran⟩
      · have inner := eval_answered body
          ⟨opens.ready_zip count related, named', params.lasts (opens.step _ _ _).lasts⟩
          (by rw [List.map_append, List.map_fst_zip count]; exact scope)
        have block := Answered.block inner
        simp only [evalBlock] at block
        rw [run_openFrame_bind (len ▸ count)]
        simp only [ran, pure_bind]
        exact block.after (opens.step _ _ _) (fun _ _ _ => id) Region.local_new
      · rw [run_openFrame_bind_short (len ▸ short), ran, len]
        exact .error _ opens.covers

end

end

/-! ### Calls -/

section

variable {img : Image} {rt : Runtime}

/-- Functions of the host are run alike. A call of theirs goes on in the frames that it left. -/
theorem port_alike {ρ : Type}
    {applyPrinted : Value Code → List (Value Code) → Run (Value Code)}
    {applyLinked : Value Linked.Code → List (Value Linked.Code) → RunM (Value Linked.Code)}
    (calls : CallsAnswered applyPrinted applyLinked)
    {serve : ρ → List (Value Code) → Except RunError (Value Code)}
    {serve' : ρ → List (Value Linked.Code) → Except RunError (Value Linked.Code)}
    (served : ∀ {C fs xs ys} service, RealizesAll C fs xs ys →
      Agree (Realizes C fs) (serve service xs) (serve' service ys)) :
    HostPort.Alike (fun w w' : Reserve × Frames => Step .empty w.1 w.2 w'.1 w'.2)
      (fun w => Realized w.1 w.2)
      (fun w x m => w.1.Covers w.2 → Answered .empty w.1 w.2 Realizes x (m.run w.2))
      (port applyPrinted serve) (Linked.port applyLinked serve') where
  mono step := Realized.lasts step.lasts
  make f keeps := .host f (realizedAll_of_relAll keeps)
  serve := served
  finish agree covers := .of_agree covers agree
  call callee related next covers :=
    (calls covers callee related).attempt.bind (fun _ _ _ => id) (fun _ _ _ => id)
      fun {_ _ C' fs'} step outcome => @next (C', fs') _ _ step outcome step.covers

/-- Out of depth, every call fails. -/
theorem exhausted_answered : CallsAnswered (fun _ _ => step (.error .exhausted))
    (fun _ _ => throw .exhausted) :=
  fun covers _ _ => .error _ covers

/-- A call does in a linked program what it does in the emitted one, if the calls below it do. -/
theorem apply_answered (same : Paired rt img) {fuel : Nat}
    (below : ∀ n, fuel = n + 1 → CallsAnswered (apply rt n) (Linked.apply img n)) :
    CallsAnswered (apply rt fuel) (Linked.apply img fuel) := by
  intro C fs f g xs ys covers callee related
  rw [apply.eq_def, Linked.apply.eq_def]
  have shown := callee.shown_eq
  have len := related.length_eq
  cases callee with
  | absent | tensor | tuple | data =>
      simp only [shown]
      exact .error _ covers
  | @func name arity c d code =>
      simp only [len]
      by_cases wrong : 0 ≤ arity ∧ (ys.length : Int) ≠ arity
      · rw [if_pos wrong, if_pos wrong]
        exact .error _ covers
      · rw [if_neg wrong, if_neg wrong]
        cases code with
        | host h keeps =>
            rw [same.host]
            cases fuel with
            | zero =>
                exact (port_alike exhausted_answered fun service => nomatch service).start
                  (w := (C, fs)) (img.host.call h) keeps.rel related covers
            | succ n =>
                exact (port_alike (below n rfl) fun service => nomatch service).start
                  (w := (C, fs)) (img.host.call h) keeps.rel related covers
        | @global g captured captured' params =>
            have found := same.find g
            simp only
            generalize rt.global? g = global at found
            generalize img.global? g = global' at found
            have served {C fs xs ys} (service : Service) (related : RealizesAll C fs xs ys) :
                Agree (Realizes C fs) (rt.serve service xs) (img.serve service ys) :=
              same.serve (fun params => .global (realizedAll_of_relAll params)) service related
            cases found with
            | none => exact .error _ covers
            | some matching =>
                cases matching with
                | host _ _ h =>
                    rw [same.host]
                    cases fuel with
                    | zero =>
                        exact (port_alike exhausted_answered served).start (w := (C, fs))
                          (img.host.serve h) params.rel related covers
                    | succ n =>
                        exact (port_alike (below n rfl) served).start (w := (C, fs))
                          (img.host.serve h) params.rel related covers
                | @routine _ _ _ r _ _ lexical written linked =>
                    cases fuel with
                    | zero => exact .error _ covers
                    | succ n =>
                        obtain ⟨k, σ', linked', body⟩ := written_of_writeRoutine lexical written
                        obtain rfl := Except.ok.inj (linked.symm.trans linked')
                        exact body_answered same (below n rfl) body
                          (.alone covers lexical.frames_nodup) (by simpa using lexical.inScope)
                          named_start params.rel (fun _ _ => rfl) related
        | literal binds written named stands holds given =>
            cases fuel with
            | zero => exact .error _ covers
            | succ n =>
                have opens := Opens.below covers stands.inside (realizedEnv_iff_holds.mp holds)
                  stands.once stands.apart
                exact body_answered same (below n rfl) written opens stands.inScope named given.rel
                  (fun _ _ => rfl) related

/-- Calls do in a linked program what they do in the emitted one, however deep they nest. -/
theorem calls_answered (same : Paired rt img) (fuel : Nat) :
    CallsAnswered (apply rt fuel) (Linked.apply img fuel) := by
  induction fuel with
  | zero =>
      refine apply_answered same ?_
      rintro n ⟨⟩
  | succ fuel ih =>
      refine apply_answered same ?_
      rintro n ⟨⟩
      exact ih

end

end TensorCompiler.Printed
