import TensorCompiler.Proofs.Safety.Soundness
import TensorCompiler.Proofs.Safety.Watch

/-!
# Sound nodes run silently

Main statement: on sound ground a watched run sounds no alarm, for every depth of calls, and what it
returns and what it leaves in its frames holds sound function values only.
-/

namespace TensorCompiler.Safety

open Linked Watched
open Lowered (Convention)

variable (G : Ground)

/-- Frames in which every variable has had sound values only. -/
def SoundFrames (fs : Frames) : Prop :=
  ∀ (i : Nat) (f : Frame), fs[i]? = some f → ∀ p ∈ f.slots, SoundValue G p.2

variable {G}

theorem SoundValues.of_mem {xs : List (Value Code)} (h : SoundValues G xs) {x : Value Code}
    (hx : x ∈ xs) : SoundValue G x :=
  fun f hf => h f (Value.funcs_subset_funcsAll hx hf)

theorem SoundValues.cons {x : Value Code} {xs : List (Value Code)} (head : SoundValue G x)
    (tail : SoundValues G xs) : SoundValues G (x :: xs) := by
  intro f hf
  rcases List.mem_append.mp hf with hf | hf
  · exact head f hf
  · exact tail f hf

/-! ### Frames -/

/-- The values a frame is opened with are among those given. -/
theorem mem_slots_setAll {binds : List (Var × Value Code)} {f : Frame} {p : Var × Value Code}
    (h : p ∈ (f.setAll binds).slots) : p ∈ f.slots ∨ p ∈ binds := by
  induction binds generalizing f with
  | nil => exact Or.inl h
  | cons b binds ih =>
      rcases ih h with h | h
      · rcases List.mem_cons.mp h with rfl | h
        · exact Or.inr List.mem_cons_self
        · exact Or.inl h
      · exact Or.inr (List.mem_cons_of_mem b h)

/-- No frame, no value. -/
theorem soundFrames_empty : SoundFrames G #[] := by
  intro i f hf
  simp at hf

/-- A variable of sound frames has a sound value. -/
theorem SoundFrames.lookup {fs : Frames} (h : SoundFrames G fs) {i : Nat} {v : Var}
    {x : Value Code} (found : fs.lookup i v = some x) : SoundValue G x := by
  induction i using Nat.strongRecOn with
  | ind i ih =>
      rw [Frames.lookup_eq] at found
      obtain ⟨f, hf, found⟩ := Option.bind_eq_some_iff.mp found
      rcases Option.or_eq_some_iff.mp found with here | ⟨-, outer⟩
      · obtain ⟨p, hp, rfl⟩ := Option.map_eq_some_iff.mp here
        exact h i f hf p (List.mem_of_find?_eq_some hp)
      · obtain ⟨parent, -, outer⟩ := Option.bind_eq_some_iff.mp outer
        split at outer
        · rename_i older
          exact ih parent older outer
        · cases outer

/-- Reading a variable. -/
theorem silent_readVar (frame : Nat) (v : Var) :
    Silent (SoundFrames G) (watch .report (readVar frame v)) (readVar frame v)
      (SoundValue G) := by
  refine silent_watch fun fs hfs => ?_
  rw [run_readVar]
  cases found : fs.lookup frame v with
  | none =>
      refine ⟨hfs, by rintro _ ⟨⟩, ?_⟩
      rintro e ⟨⟩
      rfl
  | some x =>
      refine ⟨hfs, ?_, by rintro _ ⟨⟩⟩
      rintro a ⟨⟩
      exact hfs.lookup found

/-- Writing a sound value. -/
theorem silent_writeVar (frame : Nat) (v : Var) {x : Value Code} (hx : SoundValue G x) :
    Silent (SoundFrames G) (watch .report (writeVar frame v x)) (writeVar frame v x)
      fun _ => True := by
  refine silent_watch fun fs hfs => ⟨?_, fun _ _ => trivial, by rintro _ ⟨⟩⟩
  intro i f hf p hp
  rw [run_writeVar] at hf
  change (fs.write frame v x : Array Frame)[i]? = some f at hf
  rw [Frames.getElem?_write] at hf
  obtain ⟨f', hf', rfl⟩ := Option.map_eq_some_iff.mp hf
  split at hp
  · rcases List.mem_cons.mp hp with rfl | hp
    · exact hx
    · exact hfs i f' hf' p hp
  · exact hfs i f' hf' p hp

/-- Opening a frame with a sound value for every variable. -/
theorem silent_openFrame (parent : Option Nat) {vars : List Var} {values : List (Value Code)}
    (count : vars.length ≤ values.length) (sound : SoundValues G values) :
    Silent (SoundFrames G) (watch .report (openFrame parent vars values))
      (openFrame parent vars values) fun _ => True := by
  refine silent_watch fun fs hfs => ?_
  rw [run_openFrame count]
  refine ⟨?_, fun _ _ => trivial, nofun⟩
  intro i f hf p hp
  rw [Array.getElem?_push] at hf
  split at hf
  · cases hf
    rcases mem_slots_setAll hp with hp | hp
    · cases hp
    · exact sound.of_mem (List.of_mem_zip hp).2
  · exact hfs i f hf p hp

/-! ### Steps that can blame the linker -/

/-- As many slots are filled as there are inputs. -/
theorem length_slots {φ : Type} {kernel : String} {xs : List (Value φ)} {index : Nat}
    {slots : List Slot} (h : Value.slots kernel index xs = .ok slots) :
    slots.length = xs.length := by
  induction xs generalizing index slots with
  | nil =>
      cases h
      rfl
  | cons x xs ih =>
      cases x with
      | tensor cell =>
          rw [Value.slots] at h
          cases hr : Value.slots kernel (index + 1) xs with
          | error e =>
              rw [hr] at h
              cases h
          | ok rest =>
              rw [hr] at h
              cases h
              exact congrArg (· + 1) (ih hr)
      | _ => cases h

/-- The input that is no tensor is reported. -/
theorem slots_not_linking {φ : Type} {kernel : String} {xs : List (Value φ)} {index : Nat}
    {e : RunError} (h : Value.slots kernel index xs = .error e) : e.isLinking = false := by
  induction xs generalizing index with
  | nil => cases h
  | cons x xs ih =>
      cases x with
      | tensor cell =>
          rw [Value.slots] at h
          cases hr : Value.slots kernel (index + 1) xs with
          | error e' =>
              rw [hr] at h
              cases h
              exact ih hr
          | ok rest =>
              rw [hr] at h
              cases h
      | _ =>
          cases h
          rfl

/-- Inputs that cannot be spread are reported. -/
theorem kernelInputs_not_linking {φ : Type} {kernel : String} {conv : Convention}
    {xs : List (Value φ)} {e : RunError} (h : Image.kernelInputs kernel conv xs = .error e) :
    e.isLinking = false := by
  unfold Image.kernelInputs at h
  split at h
  · split at h <;> cases h <;> rfl
  · cases h

/-- An input that is not set or has another shape is reported. -/
theorem checkInputs_not_linking {name : String} {inputs : List KernelInput} {args : List Slot}
    {e : CallError} (h : Kernel.checkInputs name inputs args = .error e) :
    (RunError.kernelCall e).isLinking = false := by
  induction inputs generalizing args with
  | nil => cases args <;> cases h
  | cons i inputs ih =>
      cases args with
      | nil => cases h
      | cons s args =>
          rw [Kernel.checkInputs] at h
          split at h
          · cases h
            rfl
          · rename_i t _
            split at h
            · cases hr : Kernel.checkInputs name inputs args with
              | error e' =>
                  rw [hr] at h
                  cases h
                  exact ih hr
              | ok rest =>
                  rw [hr] at h
                  cases h
            · cases h
              rfl

/-- A kernel that is called with as many slots as it has reports no wrong number of them. -/
theorem kernelCall_not_linking {k : Kernel} {args : List Slot} (count : args.length = k.arity)
    {e : CallError} (h : k.call args = .error e) : (RunError.kernelCall e).isLinking = false := by
  unfold Kernel.call at h
  rw [if_neg (not_not.mpr count)] at h
  cases hi : Kernel.checkInputs k.name k.inputs args with
  | error e' =>
      rw [hi] at h
      cases h
      exact checkInputs_not_linking hi
  | ok inputs =>
      rw [hi] at h
      simp only [bind, Except.bind] at h
      split at h
      · split at h
        · cases h
        · cases h
          rfl
      · split at h
        · cases h
          rfl
        · cases h
          rfl
      · cases h
        rfl

/-- A packed call of a kernel with its arity reports no linking error and returns a tensor. -/
theorem packedCall_cases {φ : Type} {img : Image} {kernel : String} {arity : Int} {k : Kernel}
    (found : img.kernels.lookup kernel = some k) (count : (k.arity : Int) = arity)
    (conv : Convention) (xs : List (Value φ)) :
    (∃ cell, img.packedCall kernel arity conv xs = .ok (.tensor cell)) ∨
      ∃ e, img.packedCall kernel arity conv xs = .error e ∧ e.isLinking = false := by
  unfold Image.packedCall
  rw [found]
  simp only
  cases hi : Image.kernelInputs kernel conv xs with
  | error e => exact Or.inr ⟨e, rfl, kernelInputs_not_linking hi⟩
  | ok inputs =>
      simp only [ok_bind]
      by_cases right : ((inputs.length + 1 : Nat) : Int) = arity
      · rw [if_neg (not_not.mpr right)]
        cases hs : Value.slots kernel 0 inputs with
        | error e => exact Or.inr ⟨e, rfl, slots_not_linking hs⟩
        | ok slots =>
            have length : (slots ++ [Slot.empty]).length = k.arity := by
              rw [List.length_append, length_slots hs, List.length_singleton]
              omega
            cases hc : k.call (slots ++ [.empty]) with
            | error e =>
                refine Or.inr ⟨.kernelCall e, ?_, kernelCall_not_linking length hc⟩
                simp only [bind, Except.bind, hc]
                rfl
            | ok t =>
                refine Or.inl ⟨⟨img.device, some t⟩, ?_⟩
                simp only [bind, Except.bind, hc]
                rfl
      · rw [if_pos right]
        exact Or.inr ⟨_, rfl, rfl⟩

/-- A packed call of a sound node. -/
theorem silent_packedCall {kernel : String} {arity : Int} {conv : Convention} {args : List Node}
    (sound : SoundNode G (.packed kernel arity conv args)) {xs : List (Value Code)}
    (count : xs.length = args.length) :
    Silent (SoundFrames G) (Watched.packedCall G.image kernel arity conv xs)
      (pureStep (G.image.packedCall kernel arity conv xs)) (SoundValue G) := by
  rw [SoundNode] at sound
  obtain ⟨⟨k, found, same⟩, flat, -⟩ := sound
  have right : ¬ (conv = .flat ∧ ((xs.length + 1 : Nat) : Int) ≠ arity) := by
    rintro ⟨isFlat, wrong⟩
    rw [count] at wrong
    exact wrong (flat isFlat)
  unfold Watched.packedCall
  rw [if_neg right]
  rcases packedCall_cases found same conv xs with ⟨cell, h⟩ | ⟨e, h, blameless⟩
  · rw [h]
    refine silent_pureStep ?_ (by rintro _ ⟨⟩)
    rintro a ⟨⟩ f hf
    cases hf
  · rw [h]
    refine silent_pureStep (by rintro _ ⟨⟩) ?_
    rintro e' ⟨⟩
    exact blameless

/-- A captured parameter of a sound node. -/
theorem silent_param (ground : G.Sound) {index : Nat} (sound : SoundNode G (.param index)) :
    Silent (SoundFrames G) (watch .report (pureStep (capturedParam G.captured index)))
      (pureStep (capturedParam G.captured index)) (SoundValue G) := by
  rw [SoundNode] at sound
  have found : capturedParam G.captured index = .ok G.captured[index] := by
    have nonneg : ¬ ((index : Int) < 0) := by omega
    simp [capturedParam, nonneg, sound]
  rw [found]
  refine silent_pureStep ?_ (by rintro _ ⟨⟩)
  rintro a ⟨⟩
  exact SoundValues.of_mem ground.params (List.getElem_mem sound)

/-- A global of a sound node as a value. -/
theorem silent_globalValue (ground : G.Sound) {name : String} (known : G.known name) :
    Silent (SoundFrames G) (watch .report (pureStep (G.image.globalValue G.captured name)))
      (pureStep (G.image.globalValue G.captured name)) (SoundValue G) := by
  obtain ⟨r, found, -⟩ := ground.globals name known
  rw [Image.globalValue, found]
  refine silent_pureStep ?_ (by rintro _ ⟨⟩)
  rintro a ⟨⟩ f hf
  obtain rfl := List.mem_singleton.mp hf
  refine .global known ?_
  intro g hg
  rw [found] at hg
  cases hg
  rfl

/-- A constructor of a sound node builds its value. -/
theorem silent_construct {ctor : String} {tag : Int} {args : List Node}
    (sound : SoundNode G (.construct ctor tag args)) {xs : List (Value Code)}
    (count : xs.length = args.length) (values : SoundValues G xs) :
    Silent (SoundFrames G) (watch .report (pureStep (Value.construct G.image.ctors ctor tag xs)))
      (pureStep (Value.construct G.image.ctors ctor tag xs)) (SoundValue G) := by
  rw [SoundNode] at sound
  obtain ⟨⟨c, found, same, inputs⟩, -⟩ := sound
  have built : Value.construct G.image.ctors ctor tag xs = .ok (.data c xs) := by
    simp [Value.construct, found, same, count, inputs]
  rw [built]
  refine silent_pureStep ?_ (by rintro _ ⟨⟩)
  rintro a ⟨⟩
  exact values

/-- What is no condition is reported. -/
theorem truth_not_linking {φ : Type} {x : Value φ} {e : RunError} (h : x.truth = .error e) :
    e.isLinking = false := by
  unfold Value.truth at h
  repeat' split at h
  all_goals cases h
  all_goals rfl

/-- What has no such field is reported. -/
theorem field_not_linking {φ : Type} {x : Value φ} {index : Int} {e : RunError}
    (h : x.field index = .error e) : e.isLinking = false := by
  unfold Value.field at h
  repeat' split at h
  all_goals cases h
  all_goals rfl

/-! ### Nodes -/

/-- Calls of sound functions on sound values run silently. -/
def SilentCalls (G : Ground) (watched : Value Code → List (Value Code) → WatchM (Value Code))
    (plain : Value Code → List (Value Code) → RunM (Value Code)) : Prop :=
  ∀ f xs, SoundValue G f → SoundValues G xs →
    Silent (SoundFrames G) (watched f xs) (plain f xs) (SoundValue G)

section

variable (ground : G.Sound) {watched : Value Code → List (Value Code) → WatchM (Value Code)}
  {plain : Value Code → List (Value Code) → RunM (Value Code)} (calls : SilentCalls G watched plain)

set_option linter.unusedSectionVars false

include ground calls

mutual

/-- A sound node runs silently. -/
theorem eval_silent : (n : Node) → SoundNode G n → ∀ frame,
    Silent (SoundFrames G) (Watched.eval G.image watched G.captured frame n)
      (Linked.eval G.image plain G.captured frame n) (SoundValue G)
  | .var v => by
      intro _ frame
      rw [Watched.eval, Linked.eval]
      exact silent_readVar frame v
  | .param index => by
      intro sound frame
      rw [Watched.eval, Linked.eval]
      exact silent_param ground sound
  | .global name => by
      intro sound frame
      rw [Watched.eval, Linked.eval]
      exact silent_globalValue ground sound
  | .packed kernel arity conv args => by
      intro sound frame
      rw [Watched.eval, Linked.eval]
      have fields : SoundNodes G args := by
        rw [SoundNode] at sound
        exact sound.2.2
      exact (evalAll_silent args fields frame).bind fun xs hxs => silent_packedCall sound hxs.2
  | .invoke callee args => by
      intro sound frame
      rw [SoundNode] at sound
      rw [Watched.eval, Linked.eval]
      exact (eval_silent callee sound.1 frame).bind fun f hf =>
        (evalAll_silent args sound.2 frame).bind fun xs hxs => calls f xs hf hxs.1
  | .decl bindings body => by
      intro sound frame
      rw [SoundNode] at sound
      rw [Watched.eval, Linked.eval]
      exact (evalBindings_silent bindings sound.1 frame).bind fun _ _ =>
        eval_silent body sound.2 frame
  | .cond test yes no => by
      intro sound frame
      rw [SoundNode] at sound
      rw [Watched.eval, Linked.eval]
      refine (eval_silent test sound.1 frame).bind fun c hc => ?_
      refine (silent_pureStep (Q := fun _ => True) (fun _ _ => trivial) ?_).bind fun b _ => ?_
      · exact fun e h => truth_not_linking h
      · cases b with
        | true => exact eval_silent yes sound.2.1 frame
        | false => exact eval_silent no sound.2.2 frame
  | .tuple fields => by
      intro sound frame
      rw [SoundNode] at sound
      rw [Watched.eval, Linked.eval]
      exact (evalAll_silent fields sound frame).bind fun xs hxs => .pure hxs.1
  | .proj n index => by
      intro sound frame
      rw [SoundNode] at sound
      rw [Watched.eval, Linked.eval]
      refine (eval_silent n sound frame).bind fun x hx => silent_pureStep ?_ ?_
      · exact fun y h f hf => hx f (Value.funcs_field h hf)
      · exact fun e h => field_not_linking h
  | .cases data clauses => by
      intro sound frame
      rw [SoundNode] at sound
      rw [Watched.eval, Linked.eval]
      exact (eval_silent data sound.1 frame).bind fun x hx =>
        evalClauses_silent clauses sound.2 frame x hx
  | .fn params body => by
      intro sound frame
      rw [SoundNode] at sound
      rw [Watched.eval, Linked.eval]
      refine .pure ?_
      intro f hf
      obtain rfl := List.mem_singleton.mp hf
      exact @SoundFunc.closure G ⟨params, body⟩ frame sound
  | .construct ctor tag args => by
      intro sound frame
      rw [Watched.eval, Linked.eval]
      have fields : SoundNodes G args := by
        rw [SoundNode] at sound
        exact sound.2
      exact (evalAll_silent args fields frame).bind fun xs hxs =>
        silent_construct sound hxs.2 hxs.1

/-- Sound nodes run silently, each to one value. -/
theorem evalAll_silent : (ns : List Node) → SoundNodes G ns → ∀ frame,
    Silent (SoundFrames G) (Watched.evalAll G.image watched G.captured frame ns)
      (Linked.evalAll G.image plain G.captured frame ns)
      fun xs => SoundValues G xs ∧ xs.length = ns.length
  | [] => by
      intro _ frame
      rw [Watched.evalAll, Linked.evalAll]
      exact .pure ⟨by rintro _ ⟨⟩, rfl⟩
  | n :: ns => by
      intro sound frame
      rw [SoundNodes] at sound
      rw [Watched.evalAll, Linked.evalAll]
      exact (eval_silent n sound.1 frame).bind fun x hx =>
        (evalAll_silent ns sound.2 frame).bind fun xs hxs =>
          .pure ⟨.cons hx hxs.1, congrArg (· + 1) hxs.2⟩

/-- Sound bindings run silently. -/
theorem evalBindings_silent : (bs : List (Var × Node)) → SoundBindings G bs → ∀ frame,
    Silent (SoundFrames G) (Watched.evalBindings G.image watched G.captured frame bs)
      (Linked.evalBindings G.image plain G.captured frame bs) fun _ => True
  | [] => by
      intro _ frame
      rw [Watched.evalBindings, Linked.evalBindings]
      exact .pure trivial
  | (v, n) :: rest => by
      intro sound frame
      rw [SoundBindings] at sound
      rw [Watched.evalBindings, Linked.evalBindings]
      exact (eval_silent n sound.1 frame).bind fun x hx =>
        (silent_writeVar frame v hx).bind fun _ _ => evalBindings_silent rest sound.2 frame

/-- Sound clauses run silently on a sound value. -/
theorem evalClauses_silent : (cs : List (Matcher × List Var × Node)) → SoundClauses G cs →
    ∀ frame x, SoundValue G x →
      Silent (SoundFrames G) (Watched.evalClauses G.image watched G.captured frame x cs)
        (Linked.evalClauses G.image plain G.captured frame x cs) (SoundValue G)
  | [] => by
      intro _ frame x _
      rw [Watched.evalClauses, Linked.evalClauses]
      exact .report rfl
  | (m, vars, body) :: rest => by
      intro sound frame x hx
      rw [SoundClauses] at sound
      rw [Watched.evalClauses, Linked.evalClauses]
      cases matched : m.run x [] with
      | none => exact evalClauses_silent rest sound.2.2 frame x hx
      | some values =>
          have binds := m.run_binds x [] values matched
          have count : vars.length ≤ values.length := by
            rw [binds.length, sound.1]
            exact Nat.le_add_left _ _
          have within : SoundValues G values := fun f hf => hx f (by
            simpa [Value.funcsAll] using binds.within hf)
          exact (silent_openFrame (some frame) count within).bind fun inner _ =>
            eval_silent body sound.2.1 inner

end

end

/-! ### Functions of the host -/

section

variable {watched : Value Code → List (Value Code) → WatchM (Value Code)}
  {plain : Value Code → List (Value Code) → RunM (Value Code)}

/-- Out of depth, every call is reported. -/
theorem exhausted_silent (G : Ground) : SilentCalls G (fun _ _ => throw (.report .exhausted))
    (fun _ _ => throw .exhausted) :=
  fun _ _ _ _ => .report rfl

/-- Codes that are sound under the arities that they came with. -/
abbrev Knows (G : Ground) (arities : List Int) (known : List Code) : Prop :=
  List.Forall₂ (SoundFunc G) arities known

/-- What the host learns of sound function values is sound. -/
theorem Knows.append {arities : List Int} {known known' : List Code}
    (knows : Knows G arities known) {fs : List (String × Int × Code)}
    {told : List (String × Int × Nat)} (learned : Value.Learned known fs told known')
    (sound : ∀ f ∈ fs, SoundFunc G f.2.1 f.2.2) :
    Knows G (arities ++ told.map (·.2.1)) known' := by
  rw [learned.codes, learned.arities]
  refine List.rel_append knows ?_
  rw [List.forall₂_map_left_iff, List.forall₂_map_right_iff, List.forall₂_same]
  exact sound

/-- A known function is sound under the arity it came with. -/
theorem Knows.sound {arities : List Int} {known : List Code} (knows : Knows G arities known)
    {arity : Int} {index : Nat} (keeps : KeepsArity arities arity index) {code : Code}
    (found : known[index]? = some code) : SoundFunc G arity code := by
  have related := rel_getElem? knows index
  rw [found] at related
  generalize here : arities[index]? = a at related
  cases related with
  | some sound => exact keeps _ here ▸ sound

variable {arities : List Int} {known : List Code} (knows : Knows G arities known)

include knows

variable (plain) in
/-- What a host that respects arities hands out is sound. -/
theorem handsOut_sound {f : String × Int × HostCode} (handsOut : HandsOut arities f) {code : Code}
    (found : (port plain (nofun : Empty → _)).code known f.2.2 = some code) :
    SoundFunc G f.2.1 code := by
  obtain ⟨name, arity, index | ⟨h, kept⟩⟩ := f
  · exact knows.sound handsOut found
  · cases found
    refine .host fun g hg => ?_
    obtain ⟨index, member, found⟩ := Value.of_mem_funcsAll_recodeAll kept hg
    exact knows.sound (handsOut _ member) found

variable (plain) in
/-- A value that is handed out is sound. -/
theorem value_sound {v : Value HostCode} (handsOut : ∀ f ∈ v.funcs, HandsOut arities f) :
    SoundValue G ((port plain (nofun : Empty → _)).value known v) := by
  intro f hf
  obtain ⟨c, member, found⟩ := Value.of_mem_funcs_recode v hf
  exact handsOut_sound plain knows (handsOut _ member) found

variable (plain) in
theorem values_sound {vs : List (Value HostCode)}
    (handsOut : ∀ f ∈ Value.funcsAll vs, HandsOut arities f) :
    SoundValues G ((port plain (nofun : Empty → _)).values known vs) := by
  intro f hf
  obtain ⟨c, member, found⟩ := Value.of_mem_funcsAll_recodeAll vs hf
  exact handsOut_sound plain knows (handsOut _ member) found

omit knows

variable (calls : SilentCalls G watched plain)

include calls

/-- A run of a function of the host that respects arities is silent, if its calls are. -/
theorem run_host_silent (t : HostRun Empty) {arities : List Int} {known : List Code}
    (knows : Knows G arities known) (respects : t.Respects arities) :
    Silent (SoundFrames G) ((Watched.port watched nofun).run known t)
      ((Linked.port plain nofun).run known t) (SoundValue G) := by
  induction t generalizing arities known with
  | answer out =>
      refine silent_host fun y ran => ?_
      cases out with
      | error e => cases ran
      | ok v =>
          cases ran
          exact value_sound plain knows respects
  | call f args next ih =>
      obtain ⟨handsOut, later⟩ := respects
      have callee := value_sound plain knows fun g hg => handsOut g (List.mem_append_left _ hg)
      have inputs := values_sound plain knows fun g hg => handsOut g (List.mem_append_right _ hg)
      refine (calls _ _ callee inputs).attempt.bind fun out outcome => ?_
      have learned := learned_outcome known out
      have length : known.length = arities.length := knows.length_eq.symm
      refine ih _ (knows.append learned ?_) (later _ (length ▸ learned.numbers))
      cases out with
      | error e => nofun
      | ok v => exact outcome v rfl
  | ask service => exact nomatch service

/-- A call of a function of a host that respects arities is silent, if the calls inside it are. -/
theorem start_silent {host : Host} (respects : host.Respects) (h : HostFunction)
    {kept args : List (Value Code)} (keeps : SoundValues G kept) (values : SoundValues G args) :
    Silent (SoundFrames G) ((Watched.port watched nofun).start (host.call h) kept args)
      ((Linked.port plain nofun).start (host.call h) kept args) (SoundValue G) := by
  have first := Value.learnedAll [] kept
  have second := Value.learnedAll (Value.learnAll [] kept).2 args
  have both := first.append second
  rw [← Value.funcsAll_append, ← Value.funcsAll_append] at both
  have knows : Knows G [] [] := .nil
  refine run_host_silent calls _ (knows.append both ?_) ?_
  · rw [Value.funcsAll_append]
    intro f hf
    exact (List.mem_append.mp hf).elim (keeps f) (values f)
  · exact respects h _ _ both.numbers

end

/-! ### Calls -/

/-- The body of a sound function runs silently in a frame with its arguments. -/
theorem body_silent (ground : G.Sound) {fuel : Nat}
    (calls : SilentCalls G (Watched.apply G.image fuel) (Linked.apply G.image fuel)) {r : Routine}
    (sound : SoundNode G r.body) {args : List (Value Code)} (values : SoundValues G args)
    (count : args.length = r.params.length) (parent : Option Nat) :
    Silent (SoundFrames G)
      (do
        let frame ← watch .report (openFrame parent r.params args)
        Watched.eval G.image (Watched.apply G.image fuel) G.captured frame r.body)
      (do
        let frame ← openFrame parent r.params args
        Linked.eval G.image (Linked.apply G.image fuel) G.captured frame r.body)
      (SoundValue G) :=
  (silent_openFrame parent (Nat.le_of_eq count.symm) values).bind fun frame _ =>
    eval_silent ground calls r.body sound frame

/-- A call runs silently if the calls inside it do. -/
theorem call_silent (ground : G.Sound) {fuel : Nat}
    (inner : ∀ d, fuel = d + 1 →
      SilentCalls G (Watched.apply G.image d) (Linked.apply G.image d)) :
    SilentCalls G (Watched.apply G.image fuel) (Linked.apply G.image fuel) := by
  intro f args hf values
  rw [Watched.apply.eq_def, Linked.apply.eq_def]
  cases f with
  | absent | tensor | tuple | data => exact .report rfl
  | func name arity code =>
      simp only
      by_cases wrong : 0 ≤ arity ∧ (args.length : Int) ≠ arity
      · rw [if_pos wrong, if_pos wrong]
        exact .report rfl
      · rw [if_neg wrong, if_neg wrong]
        have func := hf (name, arity, code) (List.mem_singleton.mpr rfl)
        cases func with
        | host keeps =>
            cases fuel with
            | zero => exact start_silent (exhausted_silent G) ground.host _ keeps values
            | succ d => exact start_silent (inner d rfl) ground.host _ keeps values
        | @global _ g known same =>
            obtain ⟨r, found, sound⟩ := ground.globals g known
            have right := same _ found
            simp only at right
            simp only [found]
            cases fuel with
            | zero => exact .report rfl
            | succ d => exact body_silent ground (inner d rfl) sound values (by omega) none
        | @closure r parent sound =>
            cases fuel with
            | zero => exact .report rfl
            | succ d =>
                have right : args.length = r.params.length := by
                  rw [Int.ofNat_eq_natCast] at wrong
                  omega
                exact body_silent ground (inner d rfl) sound values right (some parent)

/-- Calls of every depth run silently on sound ground. -/
theorem apply_silent (ground : G.Sound) (fuel : Nat) :
    SilentCalls G (Watched.apply G.image fuel) (Linked.apply G.image fuel) := by
  induction fuel with
  | zero => exact call_silent ground fun d hd => by cases hd
  | succ fuel ih => exact call_silent ground fun d hd => Nat.succ.inj hd ▸ ih

/-- A global that is there runs silently. -/
theorem run_silent (ground : G.Sound) {name : String} (known : G.known name) (fuel : Nat)
    {args : List (Value Code)} (values : SoundValues G args) :
    Silent (SoundFrames G) (Watched.run G.image fuel name G.captured args)
      (do
        let f ← pureStep (G.image.globalValue G.captured name)
        Linked.apply G.image fuel f args)
      (SoundValue G) :=
  (silent_globalValue ground known).bind fun f hf => apply_silent ground fuel f args hf values

end TensorCompiler.Safety
