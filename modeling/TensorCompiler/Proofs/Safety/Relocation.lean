import TensorCompiler.Linked.Library
import TensorCompiler.Proofs.Emit.Paired
import TensorCompiler.Proofs.Meaning.Frames
import TensorCompiler.Proofs.Value.Matcher

/-!
# Frames of others do not matter

A function value refers to frames by their position, and the positions of the frames that a run
opens depend on how many there were before. Nothing else does.

Main statement: a run that begins behind the frames of others does what it does without them, up to
the positions of its frames, and leaves the frames of others alone.
-/

namespace TensorCompiler.Linked

/-! ### Shifted frames -/

mutual

/-- Code whose frames have moved behind `m` others. -/
def Code.shift (m : Nat) : Code → Code
  | .host h kept => .host h (shiftAll m kept)
  | .global name captured => .global name (shiftAll m captured)
  | .closure r frame captured => .closure r (frame + m) (shiftAll m captured)

/-- A value whose frames have moved. -/
def Code.shiftValue (m : Nat) : Value Code → Value Code
  | .absent => .absent
  | .tensor cell => .tensor cell
  | .tuple fields => .tuple (shiftAll m fields)
  | .data c fields => .data c (shiftAll m fields)
  | .func name arity code => .func name arity (code.shift m)

/-- Values whose frames have moved. -/
def Code.shiftAll (m : Nat) : List (Value Code) → List (Value Code)
  | [] => []
  | x :: xs => shiftValue m x :: shiftAll m xs

end

mutual

theorem Code.shiftValue_eq (m : Nat) : (x : Value Code) → shiftValue m x = x.map (shift m)
  | .absent | .tensor _ | .func _ _ _ => rfl
  | .tuple fields => by rw [shiftValue, Value.map, shiftAll_eq m fields]
  | .data c fields => by rw [shiftValue, Value.map, shiftAll_eq m fields]

theorem Code.shiftAll_eq (m : Nat) : (xs : List (Value Code)) →
    shiftAll m xs = Value.mapAll (shift m) xs
  | [] => rfl
  | x :: xs => by rw [shiftAll, Value.mapAll, shiftValue_eq m x, shiftAll_eq m xs]

end

/-- Code and the same code with its frames moved. -/
def Moved (m : Nat) (c d : Code) : Prop :=
  d = c.shift m

/-- A value and the same value with its frames moved. -/
theorem rel_shift (m : Nat) (x : Value Code) : Value.Rel (Moved m) x (x.map (Code.shift m)) := by
  have related := Value.rel_map (R := Moved m) (f := id) (g := Code.shift m) (fun _ => rfl) x
  rwa [Value.map_id] at related

theorem relAll_shift (m : Nat) (xs : List (Value Code)) :
    Value.RelAll (Moved m) xs (Value.mapAll (Code.shift m) xs) := by
  have related := Value.relAll_mapAll (R := Moved m) (f := id) (g := Code.shift m)
    (fun _ => rfl) xs
  rwa [Value.mapAll_id] at related

mutual

/-- Nothing else is so related. -/
theorem eq_of_rel {m : Nat} {x y : Value Code} : Value.Rel (Moved m) x y →
    y = x.map (Code.shift m)
  | .absent | .tensor _ => rfl
  | .tuple fields => by rw [Value.map, eq_of_relAll fields]
  | .data c fields => by rw [Value.map, eq_of_relAll fields]
  | .func name arity code => by rw [Value.map, code]

theorem eq_of_relAll {m : Nat} {xs ys : List (Value Code)} : Value.RelAll (Moved m) xs ys →
    ys = Value.mapAll (Code.shift m) xs
  | .nil => rfl
  | .cons head tail => by rw [Value.mapAll, eq_of_rel head, eq_of_relAll tail]

end

/-- The values that moved code keeps have moved. -/
theorem moved_host {m : Nat} {xs ys : List (Value Code)} (kept : Value.RelAll (Moved m) xs ys)
    (h : HostFunction) : Moved m (.host h xs) (.host h ys) := by
  rw [Moved, Code.shift, Code.shiftAll_eq, eq_of_relAll kept]

theorem moved_global {m : Nat} {xs ys : List (Value Code)}
    (captured : Value.RelAll (Moved m) xs ys) (name : String) :
    Moved m (.global name xs) (.global name ys) := by
  rw [Moved, Code.shift, Code.shiftAll_eq, eq_of_relAll captured]

theorem moved_closure {m : Nat} {xs ys : List (Value Code)}
    (captured : Value.RelAll (Moved m) xs ys) (r : Routine) (frame : Nat) :
    Moved m (.closure r frame xs) (.closure r (frame + m) ys) := by
  rw [Moved, Code.shift, Code.shiftAll_eq, eq_of_relAll captured]

/-! ### Frames behind others -/

/-- A frame that has moved with all its ancestors. -/
def Frame.shift (m : Nat) (f : Frame) : Frame where
  parent := f.parent.map (· + m)
  slots := f.slots.map fun p => (p.1, p.2.map (Code.shift m))

/-- Frames behind those of others. -/
def Frames.behind (others fs : Frames) : Frames :=
  (others : Array Frame) ++ (fs : Array Frame).map (Frame.shift others.size)

theorem Frame.get?_shift (m : Nat) (f : Frame) (v : Var) :
    (f.shift m).get? v = (f.get? v).map (Value.map (Code.shift m)) := by
  simp only [Frame.get?, Frame.shift, List.find?_map, Option.map_map]
  rfl

theorem Frame.setAll_shift (m : Nat) (f : Frame) (vars : List Var) (xs : List (Value Code)) :
    (f.setAll (vars.zip xs)).shift m =
      (f.shift m).setAll (vars.zip (Value.mapAll (Code.shift m) xs)) := by
  induction vars generalizing f xs with
  | nil => rfl
  | cons v vars ih =>
      cases xs with
      | nil => rfl
      | cons x xs =>
          rw [Value.mapAll, List.zip_cons_cons, List.zip_cons_cons, Frame.setAll, Frame.setAll, ih]
          rfl

namespace Frames

variable (others fs : Frames)

/-- Nothing behind others. -/
theorem behind_empty : others.behind #[] = others := by
  simp [behind]

theorem size_behind : (others.behind fs).size = fs.size + others.size := by
  simp only [behind, Array.size_append, Array.size_map]
  omega

/-- A frame of others. -/
theorem getElem?_front {i : Nat} (h : i < others.size) : (others.behind fs)[i]? = others[i]? := by
  rw [behind, Array.getElem?_append_left h]

/-- A frame that has moved. -/
theorem getElem?_behind (i : Nat) :
    (others.behind fs)[i + others.size]? = fs[i]?.map (Frame.shift others.size) := by
  rw [behind, Array.getElem?_append_right (Nat.le_add_left _ _), Nat.add_sub_cancel,
    Array.getElem?_map]

/-- What a variable is in frames behind others. -/
theorem lookup_behind (i : Nat) (v : Var) :
    (others.behind fs).lookup (i + others.size) v =
      (fs.lookup i v).map (Value.map (Code.shift others.size)) := by
  induction i using Nat.strongRecOn with
  | ind i ih =>
      rw [lookup_eq, lookup_eq, getElem?_behind]
      cases fs[i]? with
      | none => rfl
      | some f =>
          simp only [Option.map_some, Option.bind_some, Frame.get?_shift]
          cases f.get? v with
          | some x => rfl
          | none =>
              simp only [Option.map_none, Option.none_or, Frame.shift]
              cases f.parent with
              | none => rfl
              | some p =>
                  simp only [Option.map_some, Option.bind_some]
                  by_cases older : p < i
                  · rw [if_pos older, if_pos (by omega), ih p older]
                  · rw [if_neg older, if_neg (by omega)]
                    rfl

/-- A variable is written in a frame that has moved. -/
theorem write_behind (frame : Nat) (v : Var) (x : Value Code) :
    (others.behind fs).write (frame + others.size) v (x.map (Code.shift others.size)) =
      others.behind (fs.write frame v x) := by
  refine Array.ext_getElem? fun j => ?_
  rcases Nat.lt_or_ge j others.size with front | back
  · have ne : frame + others.size ≠ j := by omega
    rw [getElem?_write, getElem?_front _ _ front, getElem?_front _ _ front]
    simp [ne]
  · obtain ⟨i, rfl⟩ := Nat.exists_eq_add_of_le' back
    rw [getElem?_write, getElem?_behind, getElem?_behind, getElem?_write]
    cases fs[i]? with
    | none => rfl
    | some f =>
        by_cases here : frame = i
        · simp [here, Frame.shift, Frame.set]
        · simp [here]

/-- A frame is opened behind others. -/
theorem opened_behind (parent : Option Nat) (vars : List Var) (xs : List (Value Code)) :
    (others.behind fs).opened (parent.map (· + others.size)) vars
        (Value.mapAll (Code.shift others.size) xs) =
      others.behind (fs.opened parent vars xs) := by
  simp only [opened, behind, Array.map_push, Array.append_push, Frame.setAll_shift]
  rfl

end Frames

/-! ### Steps behind others -/

/-- A step, and one behind the frames of others that does the same: the results are related, and the
frames are the same ones, moved. -/
def Tracks {α β : Type} (others : Frames) (Q : α → β → Prop) (x : RunM α) (y : RunM β) : Prop :=
  ∀ fs, Agree Q (x.run fs).1 (y.run (others.behind fs)).1 ∧
    (y.run (others.behind fs)).2 = others.behind (x.run fs).2

namespace Tracks

variable {α β γ δ : Type} {others : Frames} {P : α → β → Prop} {Q : γ → δ → Prop}

theorem pureStep {r : Except RunError α} {r' : Except RunError β} (h : Agree P r r') :
    Tracks others P (Linked.pureStep r) (Linked.pureStep r') := by
  intro fs
  rw [run_pureStep, run_pureStep]
  exact ⟨h, rfl⟩

theorem pure {a : α} {b : β} (h : P a b) : Tracks others P (Pure.pure a) (Pure.pure b) :=
  fun _ => ⟨.ok h, rfl⟩

theorem throw (e : RunError) :
    Tracks others P (MonadExcept.throw e : RunM α) (MonadExcept.throw e : RunM β) :=
  fun _ => ⟨.error e, rfl⟩

theorem bind {x : RunM α} {y : RunM β} {f : α → RunM γ} {g : β → RunM δ}
    (h : Tracks others P x y) (hf : ∀ {a b}, P a b → Tracks others Q (f a) (g b)) :
    Tracks others Q (x >>= f) (y >>= g) := by
  intro fs
  obtain ⟨agree, frames⟩ := h fs
  rw [run_bind, run_bind]
  generalize y.run (others.behind fs) = out' at agree frames
  generalize x.run fs = out at agree frames
  obtain ⟨r, fs'⟩ := out
  obtain ⟨r', moved⟩ := out'
  cases frames
  cases agree with
  | ok related => exact hf related fs'
  | error e => exact ⟨.error e, rfl⟩

/-- A call whose report is handed to the host. -/
theorem attempt {x : RunM α} {y : RunM β} (h : Tracks others P x y) :
    Tracks others (Agree P) (TensorCompiler.attempt x) (TensorCompiler.attempt y) := by
  intro fs
  obtain ⟨agree, frames⟩ := h fs
  rw [run_attempt, run_attempt]
  refine ⟨?_, frames⟩
  revert agree
  generalize (y.run (others.behind fs)).1 = out'
  generalize (x.run fs).1 = out
  intro agree
  cases agree with
  | ok related => exact .ok (.ok related)
  | error e =>
      cases e with
      | exhausted => exact .error _
      | _ => exact .ok (.error _)

/-- A variable has the value that has moved. -/
theorem readVar (frame : Nat) (v : Var) :
    Tracks others (Value.Rel (Moved others.size)) (Linked.readVar frame v)
      (Linked.readVar (frame + others.size) v) := by
  intro fs
  rw [run_readVar, run_readVar, Frames.lookup_behind]
  cases fs.lookup frame v with
  | none => exact ⟨.error _, rfl⟩
  | some x => exact ⟨.ok (rel_shift _ x), rfl⟩

theorem writeVar (frame : Nat) (v : Var) {x y : Value Code}
    (related : Value.Rel (Moved others.size) x y) :
    Tracks others Eq (Linked.writeVar frame v x)
      (Linked.writeVar (frame + others.size) v y) := by
  intro fs
  rw [eq_of_rel related]
  exact ⟨.ok rfl, Frames.write_behind others fs frame v x⟩

theorem openFrame_bind {parent : Option Nat} {vars : List Var} {xs ys : List (Value Code)}
    {f : Nat → RunM γ} {g : Nat → RunM δ}
    (related : Value.RelAll (Moved others.size) xs ys)
    (hf : ∀ frame, Tracks others Q (f frame) (g (frame + others.size))) :
    Tracks others Q (openFrame parent vars xs >>= f)
      (openFrame (parent.map (· + others.size)) vars ys >>= g) := by
  intro fs
  have len := related.length_eq
  rcases Nat.lt_or_ge xs.length vars.length with short | enough
  · rw [run_openFrame_bind_short short, run_openFrame_bind_short (len ▸ short), len]
    exact ⟨.error _, rfl⟩
  · rw [run_openFrame_bind enough, run_openFrame_bind (len ▸ enough), eq_of_relAll related,
      Frames.opened_behind, Frames.size_behind]
    exact hf fs.size (fs.opened parent vars xs)

end Tracks

section

variable {img : Image} {apply : Value Code → List (Value Code) → RunM (Value Code)}
  {others : Frames} {captured captured' : List (Value Code)}

/-- Calls behind the frames of others do the same. -/
def TracksCalls (others : Frames)
    (apply : Value Code → List (Value Code) → RunM (Value Code)) : Prop :=
  ∀ {f g xs ys}, Value.Rel (Moved others.size) f g → Value.RelAll (Moved others.size) xs ys →
    Tracks others (Value.Rel (Moved others.size)) (apply f xs) (apply g ys)

/-- A global as a value. -/
theorem globalValue_moved {m : Nat} (params : Value.RelAll (Moved m) captured captured')
    (img : Image) (name : String) : Agree (Value.Rel (Moved m)) (img.globalValue captured name)
      (img.globalValue captured' name) := by
  rw [Image.globalValue, Image.globalValue]
  cases img.global? name with
  | none => exact .error _
  | some g => exact .ok (.func name g.arity (moved_global params name))

mutual

/-- A node behind the frames of others has the value that has moved, if calls do the same. -/
theorem eval_tracks (calls : TracksCalls others apply)
    (params : Value.RelAll (Moved others.size) captured captured') : (node : Node) → ∀ frame,
      Tracks others (Value.Rel (Moved others.size)) (eval img apply captured frame node)
        (eval img apply captured' (frame + others.size) node)
  | .var v, frame => by
      rw [eval, eval]
      exact .readVar frame v
  | .param index, _ => by
      rw [eval, eval]
      exact .pureStep (params.capturedParam index)
  | .global name, _ => by
      rw [eval, eval]
      exact .pureStep (globalValue_moved params img name)
  | .packed kernel arity conv args, frame => by
      rw [eval, eval]
      exact (evalAll_tracks calls params args frame).bind fun related =>
        .pureStep (related.packedCall rfl rfl kernel arity conv)
  | .invoke callee args, frame => by
      rw [eval, eval]
      exact (eval_tracks calls params callee frame).bind fun function =>
        (evalAll_tracks calls params args frame).bind fun related => calls function related
  | .decl bindings body, frame => by
      rw [eval, eval]
      exact (evalBindings_tracks calls params bindings frame).bind fun _ =>
        eval_tracks calls params body frame
  | .cond test yes no, frame => by
      rw [eval, eval]
      refine (eval_tracks calls params test frame).bind fun {c d} related => ?_
      rw [related.truth_eq]
      refine (Tracks.pureStep (.refl d.truth)).bind fun {b b'} same => ?_
      cases same
      cases b
      · exact eval_tracks calls params no frame
      · exact eval_tracks calls params yes frame
  | .tuple fields, frame => by
      rw [eval, eval]
      exact (evalAll_tracks calls params fields frame).bind fun related => .pure (.tuple related)
  | .proj node index, frame => by
      rw [eval, eval]
      exact (eval_tracks calls params node frame).bind fun related =>
        .pureStep (related.field index)
  | .cases data clauses, frame => by
      rw [eval, eval]
      exact (eval_tracks calls params data frame).bind fun related =>
        evalClauses_tracks calls params clauses related frame
  | .fn vars body, frame => by
      rw [eval, eval]
      exact .pure (.func "func" vars.length (moved_closure params ⟨vars, body⟩ frame))
  | .construct ctor tag args, frame => by
      rw [eval, eval]
      exact (evalAll_tracks calls params args frame).bind fun related =>
        .pureStep (related.construct img.ctors ctor tag)

/-- So have several nodes. -/
theorem evalAll_tracks (calls : TracksCalls others apply)
    (params : Value.RelAll (Moved others.size) captured captured') : (nodes : List Node) →
      ∀ frame, Tracks others (Value.RelAll (Moved others.size))
        (evalAll img apply captured frame nodes)
        (evalAll img apply captured' (frame + others.size) nodes)
  | [], _ => by
      rw [evalAll, evalAll]
      exact .pure .nil
  | node :: nodes, frame => by
      rw [evalAll, evalAll]
      exact (eval_tracks calls params node frame).bind fun head =>
        (evalAll_tracks calls params nodes frame).bind fun tail => .pure (.cons head tail)

/-- Bindings write the frame that has moved. -/
theorem evalBindings_tracks (calls : TracksCalls others apply)
    (params : Value.RelAll (Moved others.size) captured captured') :
    (bindings : List (Var × Node)) → ∀ frame, Tracks others Eq
      (evalBindings img apply captured frame bindings)
      (evalBindings img apply captured' (frame + others.size) bindings)
  | [], _ => by
      rw [evalBindings, evalBindings]
      exact .pure rfl
  | (v, node) :: rest, frame => by
      rw [evalBindings, evalBindings]
      exact (eval_tracks calls params node frame).bind fun related =>
        (Tracks.writeVar frame v related).bind fun _ =>
          evalBindings_tracks calls params rest frame

/-- The same clause is chosen, and runs in a frame of its own. -/
theorem evalClauses_tracks (calls : TracksCalls others apply)
    (params : Value.RelAll (Moved others.size) captured captured') :
    (clauses : List (Matcher × List Var × Node)) → ∀ {x y : Value Code},
      Value.Rel (Moved others.size) x y → ∀ frame,
        Tracks others (Value.Rel (Moved others.size))
          (evalClauses img apply captured frame x clauses)
          (evalClauses img apply captured' (frame + others.size) y clauses)
  | [], x, y, related, _ => by
      rw [evalClauses, evalClauses, related.shown_eq]
      exact .throw _
  | (m, vars, body) :: rest, x, y, related, frame => by
      rw [evalClauses, evalClauses]
      have found := m.run_related related (.nil : Value.RelAll (Moved others.size) [] [])
      revert found
      generalize m.run x [] = binds
      generalize m.run y [] = binds'
      intro found
      cases found with
      | misses => exact evalClauses_tracks calls params rest related frame
      | hits bound =>
          exact .openFrame_bind bound fun inner => eval_tracks calls params body inner

end

end

/-- What the image answers a global function of the host. -/
theorem serve_moved {m : Nat} (img : Image) (service : Service) {xs ys : List (Value Code)}
    (related : Value.RelAll (Moved m) xs ys) :
    Agree (Value.Rel (Moved m)) (img.serve service xs) (img.serve service ys) := by
  cases service with
  | global name => exact globalValue_moved related img name
  | packed kernel arity conv => exact related.packedCall rfl rfl kernel arity conv
  | construct ctor tag => exact related.construct img.ctors ctor tag

/-- Functions of the host do the same behind the frames of others. -/
theorem port_alike {ρ : Type} {others : Frames}
    {apply : Value Code → List (Value Code) → RunM (Value Code)}
    (calls : TracksCalls others apply)
    {serve : ρ → List (Value Code) → Except RunError (Value Code)}
    (served : ∀ {xs ys} service, Value.RelAll (Moved others.size) xs ys →
      Agree (Value.Rel (Moved others.size)) (serve service xs) (serve service ys)) :
    HostPort.Alike (fun _ _ : Unit => True) (fun _ => Moved others.size)
      (fun _ => Tracks others (Value.Rel (Moved others.size)))
      (port apply serve) (port apply serve) where
  mono _ moved := moved
  make f kept := moved_host kept f
  serve := served
  finish := .pureStep
  call callee related next :=
    (calls callee related).attempt.bind fun outcome => @next () _ _ trivial outcome

/-- Out of depth, every call fails. -/
theorem exhausted_tracks (others : Frames) :
    TracksCalls others (fun _ _ => MonadExcept.throw .exhausted) :=
  fun _ _ => .throw _

/-- A call behind the frames of others does the same, if the calls inside it do. -/
theorem call_tracks (img : Image) {others : Frames} {fuel : Nat}
    (inner : ∀ d, fuel = d + 1 → TracksCalls others (apply img d)) :
    TracksCalls others (apply img fuel) := by
  intro f g xs ys function args
  rw [apply.eq_def, apply.eq_def]
  have shown := function.shown_eq
  cases function with
  | absent | tensor | tuple | data =>
      simp only [shown]
      exact .throw _
  | @func name arity code code' moved =>
      simp only [args.length_eq]
      by_cases wrong : 0 ≤ arity ∧ (ys.length : Int) ≠ arity
      · rw [if_pos wrong, if_pos wrong]
        exact .throw _
      · rw [if_neg wrong, if_neg wrong]
        cases code with
        | host h kept =>
            cases moved
            have keeps := relAll_shift others.size kept
            rw [← Code.shiftAll_eq] at keeps
            cases fuel with
            | zero =>
                exact (port_alike (exhausted_tracks others) fun service => nomatch service).start
                  (w := ()) (img.host.call h) keeps args
            | succ d =>
                exact (port_alike (inner d rfl) fun service => nomatch service).start
                  (w := ()) (img.host.call h) keeps args
        | global g captured =>
            cases moved
            have params := relAll_shift others.size captured
            rw [← Code.shiftAll_eq] at params
            dsimp only [Code.shift]
            rcases img.global? g with _ | ⟨_, _, h | r⟩
            · exact .throw _
            · cases fuel with
              | zero =>
                  have ports :=
                    port_alike (exhausted_tracks others) fun service => serve_moved img service
                  exact ports.start (w := ()) (img.host.serve h) params args
              | succ d =>
                  exact (port_alike (inner d rfl) fun service => serve_moved img service).start
                    (w := ()) (img.host.serve h) params args
            · cases fuel with
              | zero => exact .throw _
              | succ d =>
                  exact .openFrame_bind args fun frame =>
                    eval_tracks (inner d rfl) params r.body frame
        | closure r parent captured =>
            cases moved
            have params := relAll_shift others.size captured
            rw [← Code.shiftAll_eq] at params
            cases fuel with
            | zero => exact .throw _
            | succ d =>
                exact .openFrame_bind args fun frame =>
                  eval_tracks (inner d rfl) params r.body frame

/-- Calls of every depth behind the frames of others do the same. -/
theorem apply_tracks (img : Image) (others : Frames) (fuel : Nat) :
    TracksCalls others (apply img fuel) := by
  induction fuel with
  | zero => exact call_tracks img fun d hd => by cases hd
  | succ fuel ih => exact call_tracks img fun d hd => Nat.succ.inj hd ▸ ih

/-- A run that begins behind the frames of others does what it does without them, up to the
positions of its frames, and leaves the frames of others alone. -/
theorem run_tracks (lib : Library) (others : Frames) (fuel : Nat) (name : String)
    {captured captured' args args' : List (Value Code)}
    (params : Value.RelAll (Moved others.size) captured captured')
    (inputs : Value.RelAll (Moved others.size) args args') :
    Tracks others (Value.Rel (Moved others.size)) (lib.run fuel name captured args)
      (lib.run fuel name captured' args') :=
  (Tracks.pureStep (globalValue_moved params lib.image name)).bind fun function =>
    apply_tracks lib.image others fuel function inputs

end TensorCompiler.Linked
