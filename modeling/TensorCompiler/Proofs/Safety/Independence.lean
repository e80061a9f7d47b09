import TensorCompiler.Proofs.Safety.EntryPoints
import TensorCompiler.Proofs.Safety.OlderFrames
import TensorCompiler.Proofs.Safety.Relocation

/-!
# Calls of an entry point are independent

An entry point keeps one buffer for all its calls. A call that fails while it converts its inputs
leaves some of them in the buffer, behind the captured parameters, and every later call finds what
earlier ones left.

Main statement: after any calls, failed or not, a call answers as it would on a new entry point; the
captured parameters are the values of the constants they were sent from; and no call writes the
frames that functions returned by earlier calls refer to.

## Implementation notes

The calls of an entry point take values of the host, and begin without any frames. A hosted entry
point is one in a process, where the arguments may hold functions that earlier calls returned and
the frames of all calls stay. Both are one call through a buffer, with something else done to a full
buffer. The frames of a call begin behind those of earlier ones, so what it returns refers to other
positions than it would in a new process, and to the same frames.
-/

namespace TensorCompiler

open Linked

/-! ### Calls through a buffer -/

namespace EntryPoint

section

variable {φ ρ σ : Type}

/-- Two buffers of the right length with the same parameters in front: an input that is refused for
one of them is refused for the other one, and if all inputs are written then the buffers are the
same. -/
theorem writeInputs_congr (device : DeviceId) (base : Nat) (args : List (HostArg φ)) (index : Nat)
    {buffer buffer' : List (Value φ)} (length : buffer.length = base + index + args.length)
    (length' : buffer'.length = base + index + args.length)
    (front : buffer'.take (base + index) = buffer.take (base + index)) :
    (∃ e left left', writeInputs device base index buffer args = (.error e, left) ∧
      writeInputs device base index buffer' args = (.error e, left')) ∨
    ∃ full, writeInputs device base index buffer args = (.ok (), full) ∧
      writeInputs device base index buffer' args = (.ok (), full) := by
  induction args generalizing index buffer buffer' with
  | nil =>
      simp only [List.length_nil, Nat.add_zero] at length length'
      have same : buffer' = buffer := by
        rwa [List.take_of_length_le (Nat.le_of_eq length'),
          List.take_of_length_le (Nat.le_of_eq length)] at front
      exact Or.inr ⟨buffer, rfl, same ▸ rfl⟩
  | cons a args ih =>
      simp only [List.length_cons] at length length'
      simp only [writeInputs]
      cases a.toValue device index with
      | error e => exact Or.inl ⟨e, buffer, buffer', rfl, rfl⟩
      | ok v =>
          have written {b : List (Value φ)} (h : b.length = base + index + (args.length + 1)) :
              (b.set (base + index) v).take (base + (index + 1)) =
                b.take (base + index) ++ [v] := by
            have inside : base + index < (b.set (base + index) v).length := by
              rw [List.length_set]
              omega
            rw [← Nat.add_assoc, List.take_succ_eq_append_getElem inside,
              List.take_set_of_le (Nat.le_refl _), List.getElem_set_self]
          refine ih (index + 1) ?_ ?_ ?_
          · rw [List.length_set]
            omega
          · rw [List.length_set]
            omega
          · rw [written length, written length', front]

/-- A call through a buffer: the inputs are counted, written behind the parameters, and the full
buffer is run. -/
def callThrough (name : String) (device : DeviceId) (params inputs : Nat)
    (run : List (Value φ) → σ → Except EntryError ρ × σ) (args : List (HostArg φ))
    (buffer : List (Value φ)) (s : σ) : Except EntryError ρ × List (Value φ) × σ :=
  if args.length ≠ inputs then (.error (.argCount name args.length inputs), buffer, s)
  else
    match writeInputs device params 0 buffer args with
    | (.error err, buffer) => (.error (.arg err), buffer, s)
    | (.ok (), buffer) => ((run buffer s).1, buffer, (run buffer s).2)

variable {name : String} {device : DeviceId} {params inputs : Nat}
  {run : List (Value φ) → σ → Except EntryError ρ × σ}

/-- What the buffer holds behind the parameters does not matter. -/
theorem callThrough_congr {buffer buffer' : List (Value φ)}
    (length : buffer.length = params + inputs) (length' : buffer'.length = params + inputs)
    (front : buffer'.take params = buffer.take params) (args : List (HostArg φ)) (s : σ) :
    (callThrough name device params inputs run args buffer' s).1 =
        (callThrough name device params inputs run args buffer s).1 ∧
      (callThrough name device params inputs run args buffer' s).2.2 =
        (callThrough name device params inputs run args buffer s).2.2 := by
  unfold callThrough
  by_cases count : args.length = inputs
  · rw [if_neg (not_not.mpr count), if_neg (not_not.mpr count)]
    rcases writeInputs_congr device params args 0 (count ▸ length) (count ▸ length') front with
      ⟨e, left, left', failed, failed'⟩ | ⟨full, wrote, wrote'⟩
    · rw [failed, failed']
      exact ⟨rfl, rfl⟩
    · rw [wrote, wrote']
      exact ⟨rfl, rfl⟩
  · rw [if_pos count, if_pos count]
    exact ⟨rfl, rfl⟩

/-- A call leaves the parameters in front of the buffer. -/
theorem callThrough_buffer (args : List (HostArg φ)) (buffer : List (Value φ)) (s : σ) :
    let buffer' := (callThrough name device params inputs run args buffer s).2.1
    buffer'.length = buffer.length ∧ buffer'.take params = buffer.take params := by
  have written := writeInputs_spec device params args 0 buffer
  unfold callThrough
  split
  · exact ⟨rfl, rfl⟩
  · split <;>
      rename_i wrote
    all_goals
      rw [wrote] at written
      exact written

end

/-- The call of an entry point goes through its buffer. -/
theorem call_eq (e : EntryPoint) (fuel : Nat) (args : List (HostArg HostFunction)) :
    e.call fuel args =
      let out := callThrough e.name e.library.image.device e.params e.inputs
        (fun buffer (_ : Unit) => (e.runBuffer fuel buffer, ())) args e.buffer ()
      (out.1, { e with buffer := out.2.1 }) := by
  unfold call callThrough
  split
  · rfl
  · split <;>
      rename_i wrote
    all_goals
      rw [wrote]

/-- Calls change nothing of an entry point but what is in its buffer. -/
theorem after_eq (e : EntryPoint) (calls : List (Nat × List (HostArg HostFunction))) :
    e.after calls = { e with buffer := (e.after calls).buffer } := by
  induction calls generalizing e with
  | nil => rfl
  | cons c calls ih =>
      have first : (e.call c.1 c.2).2 = { e with buffer := (e.call c.1 c.2).2.buffer } := by
        rw [call_eq]
      rw [after, List.foldl_cons, ← after, ih, first]

/-- A call of an entry point with a complete buffer answers as it would before other calls. -/
theorem call_after {e : EntryPoint} (complete : e.buffer.length = e.params + e.inputs)
    (earlier : List (Nat × List (HostArg HostFunction))) (fuel : Nat)
    (args : List (HostArg HostFunction)) :
    ((e.after earlier).call fuel args).1 = (e.call fuel args).1 := by
  have same := e.continues_after earlier
  have front : (e.after earlier).buffer.take e.params = e.buffer.take e.params :=
    same.params ▸ same.front
  rw [after_eq, call_eq, call_eq]
  exact (callThrough_congr complete (same.length.trans complete) front args ()).1

end EntryPoint

/-! ### Entry points in a process -/

/-- Calls a symbol in the frames of a process: the captured parameters, then the inputs. -/
def Library.callIn (lib : Library) (fuel : Nat) (name : String) (args : List (Value Code))
    (fs : Frames) : Except SymbolError (Value Code) × Frames :=
  match lib.arity? name with
  | none => (.error (.unknown name), fs)
  | some inputs =>
    let params := lib.source.params.length
    if args.length ≠ params + inputs then (.error (.argCount name args.length params inputs), fs)
    else
      let out := (lib.run fuel name (args.take params) (args.drop params)).run fs
      (out.1.mapError .run, out.2)

/-- A symbol that is called with host-made values is called where there are no frames. -/
theorem Library.call_eq_callIn (lib : Library) (fuel : Nat) (name : String)
    (args : List HostMade) :
    lib.call fuel name args =
      let out := lib.callIn fuel name (Value.mapAll Code.ofHost args) #[]
      out.1.map fun v => ⟨v, out.2⟩ := by
  unfold call callIn
  cases lib.arity? name with
  | none => rfl
  | some inputs =>
      simp only [Value.mapAll_eq_map, List.length_map]
      by_cases count : args.length = lib.source.params.length + inputs
      · simp only [count, ne_eq, not_true_eq_false, if_false]
        rcases (lib.run fuel name ((args.map (Value.map Code.ofHost)).take lib.source.params.length)
          ((args.map (Value.map Code.ofHost)).drop lib.source.params.length)).run #[] with
          ⟨e | v, fs⟩ <;> rfl
      · simp only [count, ne_eq, not_false_eq_true, if_true]
        rfl

/-- A call of a symbol writes none of the frames that were there before. -/
theorem Library.callIn_spares (lib : Library) (fuel : Nat) (name : String)
    (args : List (Value Code)) (fs : Frames) {i : Nat} (older : i < fs.size) :
    (lib.callIn fuel name args fs).2[i]? = fs[i]? := by
  unfold callIn
  cases lib.arity? name with
  | none => rfl
  | some inputs =>
      dsimp only
      split
      · rfl
      · exact (run_spares lib fuel name _ _ fs (Nat.le_refl _)).2 i older

/-- In the frames of a process a symbol makes of host-made values what it makes of them where there
are no frames, up to the positions of frames. -/
theorem Library.callIn_host (lib : Library) (fuel : Nat) (name : String) (args : List HostMade)
    (fs : Frames) :
    (lib.callIn fuel name (Value.mapAll Code.ofHost args) fs).1 =
      (lib.callIn fuel name (Value.mapAll Code.ofHost args) #[]).1.map
        (Value.map (Code.shift fs.size)) := by
  have unmoved (xs : List HostMade) : Value.RelAll (Moved fs.size) (Value.mapAll Code.ofHost xs)
      (Value.mapAll Code.ofHost xs) :=
    Value.relAll_mapAll (R := Moved fs.size) (f := Code.ofHost) (g := Code.ofHost) (fun _ => rfl) xs
  unfold callIn
  cases lib.arity? name with
  | none => rfl
  | some inputs =>
      dsimp only
      split
      · rfl
      · obtain ⟨agree, -⟩ := run_tracks lib fs fuel name
          (unmoved (args.take lib.source.params.length))
          (unmoved (args.drop lib.source.params.length)) #[]
        simp only [fs.behind_empty, Value.mapAll_eq_map, List.map_take, List.map_drop] at agree ⊢
        revert agree
        generalize ((lib.run fuel name _ _).run fs).1 = here
        generalize ((lib.run fuel name _ _).run #[]).1 = alone
        intro agree
        cases agree with
        | ok related => rw [eq_of_rel related]; rfl
        | error e => rfl

namespace EntryPoint

/-- A call that returned in a process. -/
structure HostedReport where
  name : String
  args : List (Value Code)
  out : Value Code

/-- The report of a call with values of the host, made in a process that has `m` frames. -/
def hostedReport (r : CallReport) (m : Nat) : HostedReport :=
  ⟨r.name, Value.mapAll Code.ofHost r.args, r.out.map (Code.shift m)⟩

/-- An entry point in a process: the frames of all calls stay, and the arguments may hold functions
that refer to them. An observer may look at what such functions refer to. -/
structure Hosted where
  library : Library
  name : String
  params : Nat
  inputs : Nat
  observer : HostedReport → Frames → Option String
  buffer : List (Value Code)
  frames : Frames

namespace Hosted

/-- An entry point in a process with some frames, and with an observer. -/
def start (e : EntryPoint) (observer : HostedReport → Frames → Option String) (fs : Frames) :
    Hosted where
  library := e.library
  name := e.name
  params := e.params
  inputs := e.inputs
  observer := observer
  buffer := Value.mapAll Code.ofHost e.buffer
  frames := fs

/-- The captured parameters as the program sees them. -/
def captured (p : Hosted) : List (Value Code) :=
  p.buffer.take p.params

/-- Runs the entry symbol on a full buffer and shows the observer what it returned. -/
def runBuffer (p : Hosted) (fuel : Nat) (buffer : List (Value Code)) (fs : Frames) :
    Except EntryError HostedReport × Frames :=
  match p.library.callIn fuel p.name buffer fs with
  | (.error err, fs) => (.error (.run p.name err), fs)
  | (.ok v, fs) =>
    let report : HostedReport := ⟨p.name, buffer.drop p.params, v⟩
    match p.observer report fs with
    | some message => (.error (.observer message), fs)
    | none => (.ok report, fs)

/-- Calls the entry point. -/
def call (p : Hosted) (fuel : Nat) (args : List (HostArg Code)) :
    Except EntryError HostedReport × Hosted :=
  let out := callThrough p.name p.library.image.device p.params p.inputs (p.runBuffer fuel) args
    p.buffer p.frames
  (out.1, { p with buffer := out.2.1, frames := out.2.2 })

/-- The entry point after several calls. -/
def after (p : Hosted) (calls : List (Nat × List (HostArg Code))) : Hosted :=
  calls.foldl (fun p c => (p.call c.1 c.2).2) p

/-- An entry point after other calls: the program and the parameters in front of the buffer are the
same. -/
structure Continues (p q : Hosted) : Prop where
  static : q = { p with buffer := q.buffer, frames := q.frames }
  length : q.buffer.length = p.buffer.length
  front : q.captured = p.captured

/-- A call changes the inputs in the buffer, and the frames. -/
theorem continues_call (p : Hosted) (fuel : Nat) (args : List (HostArg Code)) :
    p.Continues (p.call fuel args).2 := by
  have kept : (p.call fuel args).2.buffer.length = p.buffer.length ∧
      (p.call fuel args).2.buffer.take p.params = p.buffer.take p.params :=
    callThrough_buffer args p.buffer p.frames
  exact ⟨rfl, kept.1, kept.2⟩

/-- So do several calls. -/
theorem continues_after (p : Hosted) (calls : List (Nat × List (HostArg Code))) :
    p.Continues (p.after calls) := by
  induction calls generalizing p with
  | nil => exact ⟨rfl, rfl, rfl⟩
  | cons c calls ih =>
      have first := p.continues_call c.1 c.2
      have rest := ih (p.call c.1 c.2).2
      refine ⟨?_, rest.length.trans first.length, rest.front.trans first.front⟩
      exact rest.static

/-- A full buffer is run without writing older frames. -/
theorem runBuffer_spares (p : Hosted) (fuel : Nat) (buffer : List (Value Code)) (fs : Frames)
    {i : Nat} (older : i < fs.size) : (p.runBuffer fuel buffer fs).2[i]? = fs[i]? := by
  have spares := p.library.callIn_spares fuel p.name buffer fs older
  unfold runBuffer
  split <;>
    rename_i ran
  · rw [ran] at spares
    exact spares
  · rw [ran] at spares
    dsimp only
    split <;> exact spares

/-- A call writes no frame that functions returned by earlier calls refer to. -/
theorem call_spares (p : Hosted) (fuel : Nat) (args : List (HostArg Code)) {i : Nat}
    (older : i < p.frames.size) : (p.call fuel args).2.frames[i]? = p.frames[i]? := by
  unfold call callThrough
  split
  · rfl
  · split
    · rfl
    · exact p.runBuffer_spares fuel _ p.frames older

/-- A call answers as it would on a new entry point in the same frames. -/
theorem call_after {p q : Hosted} (complete : p.buffer.length = p.params + p.inputs)
    (h : p.Continues q) (fuel : Nat) (args : List (HostArg Code)) :
    (q.call fuel args).1 = (({ p with frames := q.frames } : Hosted).call fuel args).1 ∧
      (q.call fuel args).2.frames =
        (({ p with frames := q.frames } : Hosted).call fuel args).2.frames := by
  obtain ⟨static, length, front⟩ := h
  rw [static] at front ⊢
  exact callThrough_congr complete (length.trans complete) front args q.frames

end Hosted
end EntryPoint

/-! ### Arguments of the host in a process -/

namespace HostArg

variable {φ ψ : Type} (f : φ → ψ)

mutual

/-- An argument with other code in its functions. -/
def map : HostArg φ → HostArg ψ
  | .missing => .missing
  | .scalar kind x => .scalar kind x
  | .slice values => .slice values
  | .noSlice kind => .noSlice kind
  | .tensor values dims => .tensor values dims
  | .noTensor => .noTensor
  | .array t => .array t
  | .handle cell => .handle cell
  | .noHandle => .noHandle
  | .list items => .list (mapAll items)
  | .noList => .noList
  | .value v => .value (v.map f)
  | .other typeName => .other typeName

/-- Several arguments with other code in their functions. -/
def mapAll : List (HostArg φ) → List (HostArg ψ)
  | [] => []
  | a :: as => map a :: mapAll as

end

/-- A tensor holds no functions. -/
theorem send_map (device : DeviceId) (values : HostSlice) (dims : List Int) :
    (send device values dims : Except ArgError (Value φ)).map (Value.map f) =
      send device values dims := by
  unfold send
  cases Tensor.ofSlice values dims <;> rfl

theorem sendElements_map (device : DeviceId) (index : Nat) (values : HostSlice) (dims : List Int) :
    (sendElements device index values dims : Except ArgError (Value φ)).map (Value.map f) =
      sendElements device index values dims := by
  unfold sendElements
  cases values with
  | elements => exact send_map f device _ dims
  | _ => rfl

mutual

/-- An argument is converted before or after its functions get other code. -/
theorem toValue_map (device : DeviceId) (index : Nat) : (a : HostArg φ) →
    (a.toValue device index).map (Value.map f) = (a.map f).toValue device index
  | .missing | .noTensor | .noHandle | .other _ | .array _ | .noList | .value _ => rfl
  | .scalar kind x => send_map f device (.elements ⟨kind, [x]⟩) []
  | .slice values => sendElements_map f device index values _
  | .noSlice kind => sendElements_map f device index (.elements ⟨kind, []⟩) [0]
  | .tensor values dims => sendElements_map f device index values dims
  | .handle cell => by
      simp only [map, toValue]
      cases cell.toDevice device <;> rfl
  | .list items => by
      simp only [map, toValue, ← toValues_map device index items]
      cases toValues device index items <;> rfl

theorem toValues_map (device : DeviceId) (index : Nat) : (as : List (HostArg φ)) →
    (toValues device index as).map (Value.mapAll f) = toValues device index (mapAll f as)
  | [] => rfl
  | a :: as => by
      simp only [mapAll, toValues, ← toValue_map device index a, ← toValues_map device index as]
      cases toValue device index a with
      | error e => rfl
      | ok v => cases toValues device index as <;> rfl

end

/-- As many arguments. -/
theorem length_mapAll (as : List (HostArg φ)) : (mapAll f as).length = as.length := by
  induction as with
  | nil => rfl
  | cons a as ih => rw [mapAll, List.length_cons, List.length_cons, ih]

end HostArg

namespace EntryPoint

/-- Inputs are written before or after functions get other code. -/
theorem writeInputs_map {φ ψ : Type} (f : φ → ψ) (device : DeviceId) (base : Nat)
    (args : List (HostArg φ)) (index : Nat) (buffer : List (Value φ)) :
    writeInputs device base index (Value.mapAll f buffer) (HostArg.mapAll f args) =
      ((writeInputs device base index buffer args).1,
        Value.mapAll f (writeInputs device base index buffer args).2) := by
  induction args generalizing index buffer with
  | nil => rfl
  | cons a args ih =>
      simp only [HostArg.mapAll, writeInputs, ← HostArg.toValue_map]
      cases a.toValue device index with
      | error e => rfl
      | ok v =>
          have set : (Value.mapAll f buffer).set (base + index) (v.map f) =
              Value.mapAll f (buffer.set (base + index) v) := by
            rw [Value.mapAll_eq_map, Value.mapAll_eq_map, List.map_set]
          simp only [Except.map, set]
          exact ih (index + 1) _

/-- An observer in a process sees of calls with values of the host what an observer of the host
sees, whatever frames there are. -/
def Watches (watch : HostedReport → Frames → Option String) (observer : Observer) : Prop :=
  ∀ r m fs, watch (hostedReport r m) fs = observer r

/-- An entry point in a process answers calls with values of the host as the entry point does, up to
the positions of frames. -/
theorem start_call (e : EntryPoint) {watch : HostedReport → Frames → Option String}
    (watches : Watches watch e.observer) (fs : Frames) (fuel : Nat)
    (args : List (HostArg HostFunction)) :
    ((Hosted.start e watch fs).call fuel (HostArg.mapAll Code.ofHost args)).1 =
      (e.call fuel args).1.map (hostedReport · fs.size) := by
  unfold Hosted.call callThrough call
  simp only [Hosted.start, HostArg.length_mapAll, writeInputs_map]
  by_cases count : args.length = e.inputs
  · rw [if_neg (not_not.mpr count), if_neg (not_not.mpr count)]
    rcases writeInputs e.library.image.device e.params 0 e.buffer args with ⟨err | u, buffer⟩
    · rfl
    · have host := e.library.callIn_host fuel e.name buffer fs
      simp only [Hosted.runBuffer, runBuffer, Library.call_eq_callIn]
      generalize e.library.callIn fuel e.name (Value.mapAll Code.ofHost buffer) #[] = alone
        at host ⊢
      generalize e.library.callIn fuel e.name (Value.mapAll Code.ofHost buffer) fs = here at host ⊢
      obtain ⟨here, fs'⟩ := here
      cases host
      rcases alone with ⟨err | v, own⟩
      · rfl
      · have report : (⟨e.name, (Value.mapAll Code.ofHost buffer).drop e.params,
            v.map (Code.shift fs.size)⟩ : HostedReport) =
            hostedReport ⟨e.name, buffer.drop e.params, v⟩ fs.size := by
          rw [hostedReport, Value.mapAll_eq_map, Value.mapAll_eq_map, List.map_drop]
        simp only [Except.map, report, watches _ _ _]
        cases e.observer ⟨e.name, buffer.drop e.params, v⟩ <;> rfl
  · rw [if_pos count, if_pos count]
    rfl

/-! ### Captured parameters -/

/-- The value of a constant on a device. -/
def SentAs (device : DeviceId) (c : Constant) (x : Value Code) : Prop :=
  ∃ t, Tensor.ofSlice c.values c.shape.dims = .ok t ∧ x = .tensor ⟨device, some t⟩

/-- Constants that are sent arrive in order. -/
theorem sendParams_sentAs {name : String} {device : DeviceId} {index : Nat} {cs : List Constant}
    {sent : List HostMade} (h : sendParams name device index cs = .ok sent) :
    List.Forall₂ (SentAs device) cs (Value.mapAll Code.ofHost sent) := by
  induction cs generalizing index sent with
  | nil =>
      cases h
      exact .nil
  | cons c cs ih =>
      rw [sendParams] at h
      cases ht : Tensor.ofSlice c.values c.shape.dims with
      | error e =>
          rw [ht] at h
          cases h
      | ok t =>
          rw [ht] at h
          obtain ⟨rest, hr, h⟩ := ok_of_bind_ok h
          cases h
          exact .cons ⟨t, ht, rfl⟩ (ih hr)

/-- A new entry point captured the values of the constants. -/
theorem captured_of_make {lib : Library} {name : String} {observer : Observer} {e : EntryPoint}
    (made : make lib name observer = .ok e) :
    List.Forall₂ (SentAs lib.image.device) lib.source.params e.captured := by
  obtain ⟨sent, params, made⟩ := ok_of_bind_ok made
  cases made
  obtain ⟨count, -⟩ := sendParams_spec params
  rw [captured, List.take_left' count]
  exact sendParams_sentAs params

/-- A new entry point has the observer that it was made with. -/
theorem observer_of_make {lib : Library} {name : String} {observer : Observer} {e : EntryPoint}
    (made : make lib name observer = .ok e) : e.observer = observer := by
  obtain ⟨sent, -, made⟩ := ok_of_bind_ok made
  cases made
  rfl

/-- Calls of an entry point do not influence one another. Whatever it was called with before, and
however these calls failed, a call answers as on the new entry point. So it is in a process, where
arguments may hold functions that earlier calls returned: the program is given the values of the
captured constants in order, a call answers as on a new entry point in the frames of the process,
leaves the frames as it would there, and does not touch those that were there before. With values of
the host it answers as the first call of a new entry point where there are no frames, up to the
positions of frames. -/
theorem calls_independent {lib : Library} {name : String} {observer : Observer} {e : EntryPoint}
    (made : make lib name observer = .ok e) :
    (∀ earlier fuel args, ((e.after earlier).call fuel args).1 = (e.call fuel args).1) ∧
    ∀ watch fs calls,
      let p := (Hosted.start e watch fs).after calls
      List.Forall₂ (SentAs lib.image.device) lib.source.params p.captured ∧
      (∀ fuel args,
        let fresh := Hosted.start e watch p.frames
        (p.call fuel args).1 = (fresh.call fuel args).1 ∧
          (p.call fuel args).2.frames = (fresh.call fuel args).2.frames ∧
          ∀ i < p.frames.size, (p.call fuel args).2.frames[i]? = p.frames[i]?) ∧
      (Watches watch observer → ∀ fuel args,
        (p.call fuel (HostArg.mapAll Code.ofHost args)).1 =
          (e.call fuel args).1.map (hostedReport · p.frames.size)) := by
  obtain ⟨sent, hold⟩ := make_spec made
  refine ⟨call_after hold.complete, ?_⟩
  intro watch fs calls p
  have continues : (Hosted.start e watch fs).Continues p := Hosted.continues_after _ calls
  have complete : (Hosted.start e watch fs).buffer.length =
      (Hosted.start e watch fs).params + (Hosted.start e watch fs).inputs := by
    simp only [Hosted.start, Value.mapAll_eq_map, List.length_map, hold.complete]
  have captured : p.captured = e.captured := by
    rw [continues.front]
    simp only [Hosted.captured, Hosted.start, EntryPoint.captured, Value.mapAll_eq_map,
      List.map_take]
  have fresh (fuel : Nat) (args : List (HostArg Code)) := Hosted.call_after complete continues
    fuel args
  refine ⟨captured ▸ captured_of_make made, fun fuel args => ?_, fun watches fuel args => ?_⟩
  · obtain ⟨answer, frames⟩ := fresh fuel args
    exact ⟨answer, frames, fun i older => p.call_spares fuel args older⟩
  · rw [(fresh fuel _).1]
    exact e.start_call (observer_of_make made ▸ watches) p.frames fuel args

/-! ### Calls that fail -/

/-- An entry function of a function and a number: it returns a constant, what the function makes of
the number, and a function that does the same with any number. -/
def offset : Function :=
  let number : Ty := .scalar .int32
  let f : Var := ⟨0, "f", .func [number] number⟩
  let x : Var := ⟨1, "x", number⟩
  let y : Var := ⟨2, "y", number⟩
  let three : Constant := ⟨0, ⟨.int32, []⟩, .elements ⟨.int32, [3]⟩⟩
  let apply (v : Var) : Expr := .call (.var f) [.var v] number
  ⟨[f, x], .tuple [.const three, apply x, .fn [y] (apply y) number false] .unknown, .unknown,
    false⟩

/-- A function of the host and a number. -/
def pair (f : HostFunction) (n : Kind.int32.Carrier) : List (HostArg HostFunction) :=
  [.value (.func "f" 1 f), .scalar .int32 n]

/-- Calls that fail: in the number of inputs, in the conversion of the second one, in the program,
and in the observer. -/
def failing : List (Nat × List (HostArg HostFunction)) :=
  [(4, []), (4, [.value (.func "f" 1 ⟨"last"⟩), .other "string"]), (4, pair ⟨"broken"⟩ 5),
    (4, pair ⟨"first"⟩ 13)]

/-- Says no to a call whose last argument is thirteen. -/
def unlucky {φ : Type} (args : List (Value φ)) : Option String :=
  if args.getLast?.map Value.text = some "int32(13)" then some "unlucky" else none

/-- What it says does not depend on the code of functions. -/
theorem unlucky_mapAll {φ ψ : Type} (f : φ → ψ) (args : List (Value φ)) :
    unlucky (Value.mapAll f args) = unlucky args := by
  have text (v : Value φ) : (v.map f).text = v.text := by
    have related := Value.rel_map (R := fun _ _ => True) (f := f) (g := id)
      (fun _ => trivial) v
    rw [Value.map_id] at related
    exact related.text_eq
  simp only [unlucky, Value.mapAll_eq_map, List.getLast?_map, Option.map_map, Function.comp_def,
    text]

/-- After calls that failed in every way a call answers as if there had been none. So it does in a
process; there the function that it returned is passed to the next call. -/
theorem offset_independent :
    let m : Module := ⟨"numbers", []⟩
    let watch (r : HostedReport) (_ : Frames) := unlucky r.args
    let hosted (calls : List (Nat × List (HostArg HostFunction))) :=
      calls.map fun c => (c.1, HostArg.mapAll Code.ofHost c.2)
    ∃ emitted lib e,
      m.emitEntry offset.toExpr "offset" ⟨"", "", none⟩ = .ok emitted ∧
      Library.link [] 0 .plain (some emitted.registry) emitted.program emitted.entry
        emitted.source = .ok lib ∧
      make lib "offset" (unlucky ·.args) = .ok e ∧
      (failing.map fun c => match (e.call c.1 c.2).1 with
        | .error err => err.message
        | .ok r => r.out.text) =
        ["offset: got 0 argument(s) but want 2", "argument 1: cannot convert string to a value",
          "offset: broken", "unlucky"] ∧
      ((e.after failing).call 4 (pair ⟨"first"⟩ 5)).1.toOption.map (fun r => r.out.text) =
        some "(int32(3), int32(5), func func/1)" ∧
      ((e.after failing).call 4 (pair ⟨"first"⟩ 5)).1 = (e.call 4 (pair ⟨"first"⟩ 5)).1 ∧
      ∃ r f, ((Hosted.start e watch #[]).call 4 (HostArg.mapAll Code.ofHost (pair ⟨"first"⟩ 5))).1 =
          .ok r ∧ f ∈ r.out.funcs ∧
        let p := (Hosted.start e watch #[]).after (hosted ((4, pair ⟨"first"⟩ 5) :: failing))
        let args : List (HostArg Code) := [.value (.func f.1 f.2.1 f.2.2), .scalar .int32 7]
        (p.call 4 args).1.toOption.map (fun r => r.out.text) =
            some "(int32(3), int32(7), func func/1)" ∧
          (p.call 4 args).1 = ((Hosted.start e watch p.frames).call 4 args).1 ∧
          p.frames.size = 3 ∧ Watches watch (unlucky ·.args) ∧
          (p.call 4 (HostArg.mapAll Code.ofHost (pair ⟨"first"⟩ 5))).1 =
            (e.call 4 (pair ⟨"first"⟩ 5)).1.map (hostedReport · p.frames.size) := by
  intro m watch hosted
  let calls := hosted ((4, pair ⟨"first"⟩ 5) :: failing)
  have ran : ((m.emitEntry offset.toExpr "offset" ⟨"", "", none⟩).toOption.bind
      fun emitted => (Library.link [] 0 .plain (some emitted.registry) emitted.program emitted.entry
        emitted.source).toOption.bind
      fun lib => (make lib "offset" (unlucky ·.args)).toOption.bind
      fun e => ((Hosted.start e watch #[]).call 4
        (HostArg.mapAll Code.ofHost (pair ⟨"first"⟩ 5))).1.toOption.bind
      fun r => r.out.funcs.head?.map fun f =>
        let p := (Hosted.start e watch #[]).after calls
        let args : List (HostArg Code) := [.value (.func f.1 f.2.1 f.2.2), .scalar .int32 7]
        ((failing.map fun c => match (e.call c.1 c.2).1 with
          | .error err => err.message
          | .ok r => r.out.text),
          ((e.after failing).call 4 (pair ⟨"first"⟩ 5)).1.toOption.map (fun r => r.out.text),
          (p.call 4 args).1.toOption.map (fun r => r.out.text), p.frames.size)) =
        some (["offset: got 0 argument(s) but want 2",
          "argument 1: cannot convert string to a value", "offset: broken", "unlucky"],
          some "(int32(3), int32(5), func func/1)", some "(int32(3), int32(7), func func/1)",
          3) := by
    decide +kernel
  obtain ⟨emitted, lowered, ran⟩ := Option.bind_eq_some_iff.mp ran
  obtain ⟨lib, linked, ran⟩ := Option.bind_eq_some_iff.mp ran
  obtain ⟨e, made, ran⟩ := Option.bind_eq_some_iff.mp ran
  obtain ⟨r, returned, ran⟩ := Option.bind_eq_some_iff.mp ran
  obtain ⟨f, head, shown⟩ := Option.map_eq_some_iff.mp ran
  simp only [Prod.mk.injEq] at shown
  obtain ⟨messages, host, process, frames⟩ := shown
  have watches : Watches watch (unlucky ·.args) := fun r _ _ => unlucky_mapAll Code.ofHost r.args
  obtain ⟨same, processes⟩ := calls_independent (ok_of_toOption made)
  obtain ⟨-, again, first⟩ := processes watch #[] calls
  exact ⟨emitted, lib, e, ok_of_toOption lowered, ok_of_toOption linked, ok_of_toOption made,
    messages, host, same failing 4 _, r, f, ok_of_toOption returned, List.mem_of_head? head,
    process, (again 4 _).1, frames, watches, first watches 4 _⟩

end EntryPoint
end TensorCompiler
