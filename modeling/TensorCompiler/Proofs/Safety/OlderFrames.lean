import TensorCompiler.Linked.Library
import TensorCompiler.Proofs.Meaning.Frames

/-!
# Calls leave older frames alone

A call runs in frames that it opens itself. The frames that were there before are read, by function
values that were made in them, and are not written any more.

Main statement: after a run of a program all older frames are as they were.
-/

namespace TensorCompiler.Linked

/-- A step that leaves the first `n` frames alone. -/
def Spares {α : Type} (n : Nat) (x : RunM α) : Prop :=
  ∀ fs : Frames, n ≤ fs.size → n ≤ (x.run fs).2.size ∧ ∀ i < n, (x.run fs).2[i]? = fs[i]?

namespace Spares

variable {α β : Type} {n : Nat}

theorem pure (a : α) : Spares n (Pure.pure a) :=
  fun _ bound => ⟨bound, fun _ _ => rfl⟩

theorem throw (e : RunError) : Spares n (MonadExcept.throw e : RunM α) :=
  fun _ bound => ⟨bound, fun _ _ => rfl⟩

theorem bind {x : RunM α} {f : α → RunM β} (hx : Spares n x) (hf : ∀ a, Spares n (f a)) :
    Spares n (x >>= f) := by
  intro fs bound
  obtain ⟨size, same⟩ := hx fs bound
  rw [run_bind]
  rcases hrun : x.run fs with ⟨e | a, fs'⟩ <;> rw [hrun] at size same
  · exact ⟨size, same⟩
  · obtain ⟨size', same'⟩ := hf a fs' size
    exact ⟨size', fun i hi => (same' i hi).trans (same i hi)⟩

theorem pureStep (r : Except RunError α) : Spares n (Linked.pureStep r) := by
  intro fs bound
  rw [run_pureStep]
  exact ⟨bound, fun _ _ => rfl⟩

theorem readVar (frame : Nat) (v : Var) : Spares n (Linked.readVar frame v) := by
  intro fs bound
  rw [run_readVar]
  split <;> exact ⟨bound, fun _ _ => rfl⟩

/-- A variable of a newer frame is written. -/
theorem writeVar {frame : Nat} (newer : n ≤ frame) (v : Var) (x : Value Code) :
    Spares n (Linked.writeVar frame v x) := by
  intro fs bound
  have size := fs.size_write frame v x
  refine ⟨size.symm ▸ bound, fun i hi => ?_⟩
  have ne : frame ≠ i := by omega
  refine (fs.getElem?_write frame v x i).trans ?_
  simp [ne]

/-- What runs in a new frame runs in a newer one. -/
theorem openFrame_bind {parent : Option Nat} {vars : List Var} {values : List (Value Code)}
    {f : Nat → RunM α} (hf : ∀ frame, n ≤ frame → Spares n (f frame)) :
    Spares n (openFrame parent vars values >>= f) := by
  intro fs bound
  rcases Nat.lt_or_ge values.length vars.length with short | enough
  · rw [run_openFrame_bind_short short]
    exact ⟨bound, fun _ _ => rfl⟩
  · rw [run_openFrame_bind enough]
    obtain ⟨size, same⟩ := hf fs.size bound (fs.opened parent vars values)
      (by simp only [Frames.opened, Array.size_push]; omega)
    refine ⟨size, fun i hi => (same i hi).trans ?_⟩
    rw [Frames.opened, Array.getElem?_push, if_neg (by omega)]

theorem attempt {x : RunM α} (hx : Spares n x) : Spares n (TensorCompiler.attempt x) :=
  hx

/-- A function of the host leaves older frames alone, if its calls do. -/
theorem port {ρ : Type} {apply : Value Code → List (Value Code) → RunM (Value Code)}
    {serve : ρ → List (Value Code) → Except RunError (Value Code)}
    (calls : ∀ f xs, Spares n (apply f xs)) (t : HostRun ρ) (known : List Code) :
    Spares n ((Linked.port apply serve).run known t) := by
  induction t generalizing known with
  | answer out => exact .pureStep _
  | call f args next ih => exact (calls _ _).attempt.bind fun out => ih _ _
  | ask service args next ih => exact ih _ _

end Spares

section

variable {img : Image} {apply : Value Code → List (Value Code) → RunM (Value Code)} {n : Nat}
  {captured : List (Value Code)}

mutual

/-- What is evaluated in a newer frame leaves older ones alone, if calls do. -/
theorem eval_spares (calls : ∀ f xs, Spares n (apply f xs)) : (node : Node) → ∀ {frame},
    n ≤ frame → Spares n (eval img apply captured frame node)
  | .var v, frame, _ => by
      rw [eval]
      exact .readVar frame v
  | .param index, _, _ => by
      rw [eval]
      exact .pureStep _
  | .global name, _, _ => by
      rw [eval]
      exact .pureStep _
  | .packed kernel arity conv args, _, newer => by
      rw [eval]
      exact (evalAll_spares calls args newer).bind fun xs => .pureStep _
  | .invoke callee args, _, newer => by
      rw [eval]
      exact (eval_spares calls callee newer).bind fun f =>
        (evalAll_spares calls args newer).bind fun xs => calls f xs
  | .decl bindings body, _, newer => by
      rw [eval]
      exact (evalBindings_spares calls bindings newer).bind fun _ => eval_spares calls body newer
  | .cond test yes no, _, newer => by
      rw [eval]
      refine (eval_spares calls test newer).bind fun c => (Spares.pureStep _).bind fun b => ?_
      cases b
      · exact eval_spares calls no newer
      · exact eval_spares calls yes newer
  | .tuple fields, _, newer => by
      rw [eval]
      exact (evalAll_spares calls fields newer).bind fun xs => .pure _
  | .proj node index, _, newer => by
      rw [eval]
      exact (eval_spares calls node newer).bind fun x => .pureStep _
  | .cases data clauses, _, newer => by
      rw [eval]
      exact (eval_spares calls data newer).bind fun x => evalClauses_spares calls clauses x newer
  | .fn params body, _, _ => by
      rw [eval]
      exact .pure _
  | .construct ctor tag args, _, newer => by
      rw [eval]
      exact (evalAll_spares calls args newer).bind fun xs => .pureStep _

/-- So do several nodes. -/
theorem evalAll_spares (calls : ∀ f xs, Spares n (apply f xs)) : (nodes : List Node) →
    ∀ {frame}, n ≤ frame → Spares n (evalAll img apply captured frame nodes)
  | [], _, _ => by
      rw [evalAll]
      exact .pure _
  | node :: nodes, _, newer => by
      rw [evalAll]
      exact (eval_spares calls node newer).bind fun x =>
        (evalAll_spares calls nodes newer).bind fun xs => .pure _

/-- So do bindings, which write the newer frame. -/
theorem evalBindings_spares (calls : ∀ f xs, Spares n (apply f xs)) :
    (bindings : List (Var × Node)) → ∀ {frame}, n ≤ frame →
      Spares n (evalBindings img apply captured frame bindings)
  | [], _, _ => by
      rw [evalBindings]
      exact .pure _
  | (v, node) :: rest, _, newer => by
      rw [evalBindings]
      exact (eval_spares calls node newer).bind fun x => (Spares.writeVar newer v x).bind fun _ =>
        evalBindings_spares calls rest newer

/-- So do clauses, each of which runs in a frame of its own. -/
theorem evalClauses_spares (calls : ∀ f xs, Spares n (apply f xs)) :
    (clauses : List (Matcher × List Var × Node)) → ∀ x {frame}, n ≤ frame →
      Spares n (evalClauses img apply captured frame x clauses)
  | [], _, _, _ => by
      rw [evalClauses]
      exact .throw _
  | (m, vars, body) :: rest, x, _, newer => by
      rw [evalClauses]
      split
      · exact .openFrame_bind fun inner bound => eval_spares calls body bound
      · exact evalClauses_spares calls rest x newer

end

end

/-- A call leaves all frames alone that are older than its own, if the calls inside it do. -/
theorem call_spares (img : Image) {n fuel : Nat}
    (inner : ∀ d, fuel = d + 1 → ∀ f xs, Spares n (apply img d f xs)) (f : Value Code)
    (args : List (Value Code)) : Spares n (apply img fuel f args) := by
  rw [apply.eq_def]
  cases f with
  | absent | tensor | tuple | data => exact .throw _
  | func name arity code =>
      simp only
      by_cases wrong : 0 ≤ arity ∧ (args.length : Int) ≠ arity
      · rw [if_pos wrong]
        exact .throw _
      · rw [if_neg wrong]
        cases code with
        | host h kept =>
            cases fuel with
            | zero => exact .port (fun _ _ => .throw _) _ _
            | succ d => exact .port (inner d rfl) _ _
        | global g captured =>
            dsimp only
            rcases img.global? g with _ | ⟨_, _, h | r⟩
            · exact .throw _
            · cases fuel with
              | zero => exact .port (fun _ _ => .throw _) _ _
              | succ d => exact .port (inner d rfl) _ _
            · cases fuel with
              | zero => exact .throw _
              | succ d =>
                  exact .openFrame_bind fun frame newer => eval_spares (inner d rfl) r.body newer
        | closure r parent captured =>
            cases fuel with
            | zero => exact .throw _
            | succ d =>
                exact .openFrame_bind fun frame newer => eval_spares (inner d rfl) r.body newer

/-- Calls of every depth leave older frames alone. -/
theorem apply_spares (img : Image) {n : Nat} (fuel : Nat) (f : Value Code)
    (args : List (Value Code)) : Spares n (apply img fuel f args) := by
  induction fuel generalizing f args with
  | zero => exact call_spares img (fun d hd => by cases hd) f args
  | succ fuel ih => exact call_spares img (fun d hd => Nat.succ.inj hd ▸ ih) f args

/-- After a run of a program all older frames are as they were. -/
theorem run_spares (lib : Library) (fuel : Nat) (name : String)
    (captured args : List (Value Code)) {n : Nat} :
    Spares n (lib.run fuel name captured args) :=
  (Spares.pureStep _).bind fun f => apply_spares lib.image fuel f args

end TensorCompiler.Linked
