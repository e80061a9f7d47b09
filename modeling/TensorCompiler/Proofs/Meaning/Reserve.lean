import TensorCompiler.Proofs.Meaning.Frames
import TensorCompiler.Proofs.Meaning.Relation

/-!
# Reserves

A linked program keeps the variables of a function in one frame and writes it after functions were
made in it; one frame is shared by all of them. A reserve gives for each frame the variables that
it, and the frames it is chained to, may ever hold. It is fixed when the frame is opened. What a
function binds is never reserved by the frame it was made in, so no later write can come between its
body and its environment.

A coding relates the code of function values in some other program to linked code, in given frames
with a given reserve, and lasts while these grow.
-/

namespace TensorCompiler.Meaning

open Linked

/-! ### Reserves -/

/-- The variables that a frame and those it is chained to may hold. -/
abbrev Reserve := Nat → Var → Prop

/-- A reserve that holds for all frames of a run. -/
structure Reserve.Covers (C : Reserve) (fs : Frames) : Prop where
  slots : ∀ {i f v x}, fs[i]? = some f → f.get? v = some x → C i v
  parent : ∀ {i f p v}, fs[i]? = some f → f.parent = some p → p < i → C p v → C i v

/-- A variable that is found is reserved. -/
theorem Reserve.Covers.of_lookup {C : Reserve} {fs : Frames} (h : C.Covers fs) {i : Nat} {v : Var}
    {x : Value Code} (found : fs.lookup i v = some x) : C i v := by
  induction i using Nat.strongRecOn with
  | ind i ih =>
      rw [Frames.lookup_eq] at found
      obtain ⟨f, hf, found⟩ := Option.bind_eq_some_iff.mp found
      cases hv : f.get? v with
      | some y => exact h.slots hf hv
      | none =>
          rw [hv, Option.none_or] at found
          obtain ⟨p, hp, found⟩ := Option.bind_eq_some_iff.mp found
          by_cases older : p < i
          · rw [if_pos older] at found
            exact h.parent hf hp older (ih p older found)
          · rw [if_neg older] at found
            cases found

/-- The variables that frames hold. -/
def held (fs : Frames) : Reserve :=
  fun i v => (fs.lookup i v).isSome = true

/-- The variables that frames hold are a reserve. -/
theorem covers_held (fs : Frames) : (held fs).Covers fs := by
  refine ⟨?_, ?_⟩
  · intro i f v x hf hv
    rw [held, Frames.lookup_eq, hf]
    simp [hv]
  · intro i f p v hf hp older found
    rw [held, Frames.lookup_eq, hf, Option.bind_some, hp, Option.bind_some, if_pos older]
    cases hv : f.get? v with
    | some y => rfl
    | none => simpa [held] using found

/-! ### Steps -/

/-- The places a step may change. -/
abbrev Region := Nat → Var → Prop

/-- No place. -/
def Region.empty : Region := fun _ _ => False

/-- Some variables of a frame, and everything in newer frames. -/
def Region.local (frame : Nat) (vs : List Var) : Region :=
  fun i v => frame < i ∨ frame = i ∧ v ∈ vs

theorem Region.local_mono {frame size : Nat} {vs ws : List Var} (h : vs ⊆ ws) :
    ∀ i < size, ∀ v, Region.local frame vs i v → Region.local frame ws i v :=
  fun _ _ v => Or.imp_right (And.imp_right (@h v))

/-- A frame that is not there yet and those after it are not among the old ones. -/
theorem Region.local_new {T : Region} {size : Nat} {vs : List Var} :
    ∀ i < size, ∀ v, Region.local size vs i v → T i v := by
  intro i h v there
  exfalso
  rcases there with newer | ⟨same, -⟩
  · exact Nat.lt_asymm h newer
  · exact Nat.ne_of_lt h same.symm

/-- A step of a run with the reserves before and after it. Old frames keep their reserves and every
value that was found; outside a region nothing changes. -/
structure Step (T : Region) (C : Reserve) (fs : Frames) (C' : Reserve) (fs' : Frames) : Prop where
  covers : C'.Covers fs'
  size : fs.size ≤ fs'.size
  reserve : ∀ i < fs.size, C' i = C i
  found : ∀ {i v x}, fs.lookup i v = some x → fs'.lookup i v = some x
  kept : ∀ i < fs.size, ∀ v, ¬ T i v → fs'.lookup i v = fs.lookup i v

theorem Step.refl {T : Region} {C : Reserve} {fs : Frames} (h : C.Covers fs) : Step T C fs C fs :=
  ⟨h, Nat.le_refl _, fun _ _ => rfl, id, fun _ _ _ _ => rfl⟩

/-- Two steps in a row. What the second one does to frames that the first one opened does not
count. -/
theorem Step.trans {T T' U : Region} {C C' C'' : Reserve} {fs fs' fs'' : Frames}
    (h : Step T C fs C' fs') (h' : Step T' C' fs' C'' fs'')
    (first : ∀ i < fs.size, ∀ v, T i v → U i v) (second : ∀ i < fs.size, ∀ v, T' i v → U i v) :
    Step U C fs C'' fs'' := by
  refine ⟨h'.covers, Nat.le_trans h.size h'.size, ?_, fun found => h'.found (h.found found), ?_⟩
  · intro i hi
    rw [h'.reserve i (Nat.lt_of_lt_of_le hi h.size), h.reserve i hi]
  · intro i hi v outside
    rw [h'.kept i (Nat.lt_of_lt_of_le hi h.size) v fun t => outside (second i hi v t),
      h.kept i hi v fun t => outside (first i hi v t)]

theorem Step.mono {T U : Region} {C C' : Reserve} {fs fs' : Frames} (h : Step T C fs C' fs')
    (imp : ∀ i < fs.size, ∀ v, T i v → U i v) : Step U C fs C' fs' :=
  ⟨h.covers, h.size, h.reserve, h.found, fun i hi v outside => h.kept i hi v fun t =>
    outside (imp i hi v t)⟩

/-- Writing a reserved variable that is not found yet. -/
theorem step_write {C : Reserve} {fs : Frames} (h : C.Covers fs) {frame : Nat}
    {v : Var} (reserved : C frame v) (free : fs.lookup frame v = none) (x : Value Code) :
    Step (.local frame [v]) C fs C (fs.write frame v x) := by
  refine ⟨⟨?_, ?_⟩, ?_, fun _ _ => rfl, Frames.lookup_write_of_none fs frame v x free, ?_⟩
  · intro i f w y written hw
    rw [Frames.getElem?_write] at written
    obtain ⟨f, hf, rfl⟩ := Option.map_eq_some_iff.mp written
    by_cases here : frame = i
    · subst here
      rw [if_pos rfl] at hw
      by_cases same : v = w
      · exact same ▸ reserved
      · rw [f.get?_set_of_ne same] at hw
        exact h.slots hf hw
    · rw [if_neg here] at hw
      exact h.slots hf hw
  · intro i f p w written hp older
    rw [Frames.getElem?_write] at written
    obtain ⟨f, hf, rfl⟩ := Option.map_eq_some_iff.mp written
    refine h.parent hf ?_ older
    rw [← hp]
    split <;> rfl
  · exact Nat.le_of_eq (Frames.size_write fs frame v x).symm
  · intro i hi w outside
    by_cases same : v = w
    · refine Frames.lookup_write_of_lt fs frame v x ?_ w
      rcases Nat.lt_trichotomy i frame with lt | rfl | gt
      · exact lt
      · exact absurd (Or.inr ⟨rfl, List.mem_singleton.mpr same.symm⟩) outside
      · exact absurd (Or.inl gt) outside
    · exact Frames.lookup_write_of_ne fs frame v x same i

/-- What has to stay for related codes to stay related. -/
structure Lasts (C : Reserve) (fs : Frames) (C' : Reserve) (fs' : Frames) : Prop where
  size : fs.size ≤ fs'.size
  reserve : ∀ i < fs.size, ∀ v, C' i v → C i v
  found : ∀ {i v x}, fs.lookup i v = some x → fs'.lookup i v = some x

theorem Step.lasts {T : Region} {C C' : Reserve} {fs fs' : Frames} (h : Step T C fs C' fs') :
    Lasts C fs C' fs' :=
  ⟨h.size, fun i hi _ => h.reserve i hi ▸ id, h.found⟩

/-! ### Settled frames -/

section

variable {C C' : Reserve} {fs fs' : Frames}

/-- What is related after a run needs no more than what the frames hold then. -/
theorem lasts_held (covers : C.Covers fs) : Lasts C fs (held fs) fs := by
  refine ⟨Nat.le_refl _, ?_, id⟩
  intro i _ v found
  obtain ⟨x, found⟩ := Option.isSome_iff_exists.mp found
  exact covers.of_lookup found

/-- A call adds nothing to what the old frames hold. -/
theorem Step.lasts_held (s : Step .empty C fs C' fs') : Lasts (held fs) fs (held fs') fs' := by
  refine ⟨s.size, ?_, s.found⟩
  intro i hi v found
  rw [held, ← s.kept i hi v id]
  exact found

end

/-! ### Codings -/

/-- A relation of codes that lasts. -/
structure Coding (φ : Type) where
  rel : Reserve → Frames → φ → Code → Prop
  lasts : ∀ {C fs C' fs'}, Lasts C fs C' fs' → ∀ {c d}, rel C fs c d → rel C' fs' c d

/-- Values with linked values of one shape, by the codes of a coding. -/
abbrev Coding.Rel {φ : Type} (K : Coding φ) (C : Reserve) (fs : Frames) :
    Value φ → Value Code → Prop :=
  Value.Rel (K.rel C fs)

end TensorCompiler.Meaning

/-!
## Simulated outcomes

What it means that a linked run does what some other program does, and how such runs are put
together.
-/

namespace TensorCompiler.Meaning

open Linked

section

variable {C C' : Reserve} {fs fs' : Frames} {α β γ δ : Type}

/-- The outcome of another program and a linked run that starts in some frames: the linked run is a
step, and both fail with one error, or the results are related after it. -/
inductive Simulated (T : Region) (C : Reserve) (fs : Frames)
    (P : Reserve → Frames → α → β → Prop) :
    Except RunError α → Except RunError β × Frames → Prop
  | ok {a b C' fs'} (step : Step T C fs C' fs') (related : P C' fs' a b) :
      Simulated T C fs P (.ok a) (.ok b, fs')
  | error (e : RunError) {C' fs'} (step : Step T C fs C' fs') :
      Simulated T C fs P (.error e) (.error e, fs')

variable {T T' U : Region} {P : Reserve → Frames → α → β → Prop}
  {Q : Reserve → Frames → γ → δ → Prop}

/-- A run after a step. -/
theorem Simulated.after {x : Except RunError α} {out : Except RunError β × Frames}
    (h : Simulated T' C' fs' P x out) (s : Step T C fs C' fs')
    (first : ∀ i < fs.size, ∀ v, T i v → U i v) (second : ∀ i < fs.size, ∀ v, T' i v → U i v) :
    Simulated U C fs P x out := by
  cases h with
  | error e step => exact .error e (s.trans step first second)
  | ok step related => exact .ok (s.trans step first second) related

/-- Two runs in a row. -/
theorem Simulated.bind {x : Except RunError α} {m : RunM β} {f : α → Except RunError γ}
    {g : β → RunM δ} (h : Simulated T C fs P x (m.run fs))
    (first : ∀ i < fs.size, ∀ v, T i v → U i v) (second : ∀ i < fs.size, ∀ v, T' i v → U i v)
    (next : ∀ {a b C' fs'}, Step T C fs C' fs' → P C' fs' a b →
      Simulated T' C' fs' Q (f a) ((g b).run fs')) :
    Simulated U C fs Q (x >>= f) ((m >>= g).run fs) := by
  rw [run_bind]
  generalize m.run fs = out at h
  cases h with
  | error e step => exact .error e (step.mono first)
  | @ok a b C' fs' step related =>
      exact (next step related).after step first second

/-- A step that touches no frame. -/
theorem Simulated.of_agree {x : Except RunError α} {y : Except RunError β} (covers : C.Covers fs)
    (h : Agree (P C fs) x y) : Simulated T C fs P x ((pureStep y).run fs) := by
  rw [run_pureStep]
  cases h with
  | ok related => exact .ok (.refl covers) related
  | error e => exact .error e (.refl covers)

/-- A result that is at hand. -/
theorem Simulated.pure {a : α} {b : β} (covers : C.Covers fs) (h : P C fs a b) :
    Simulated T C fs P (.ok a) ((pure b : RunM β).run fs) :=
  .ok (.refl covers) h

/-- A run that may change more. -/
theorem Simulated.mono {x : Except RunError α} {out : Except RunError β × Frames}
    (h : Simulated T C fs P x out) (imp : ∀ i < fs.size, ∀ v, T i v → U i v) :
    Simulated U C fs P x out := by
  cases h with
  | ok step related => exact .ok (step.mono imp) related
  | error e step => exact .error e (step.mono imp)

/-- A run whose report is handed to the host. -/
theorem Simulated.attempt {x : Except RunError α} {m : RunM β}
    (h : Simulated T C fs P x (m.run fs)) :
    Simulated T C fs (fun C fs => Agree (P C fs)) (reported x) ((attempt m).run fs) := by
  rw [run_attempt]
  generalize m.run fs = out at h
  cases h with
  | ok step related => exact .ok step (.ok related)
  | error e step =>
      cases e with
      | exhausted => exact .error _ step
      | _ => exact .ok step (.error _)

/-- What is known of every result. -/
theorem Simulated.and {x : Except RunError α} {out : Except RunError β × Frames}
    (h : Simulated T C fs P x out) {K : α → Prop} (known : ∀ a, x = .ok a → K a) :
    Simulated T C fs (fun C fs a b => P C fs a b ∧ K a) x out := by
  cases h with
  | ok step related => exact .ok step ⟨related, known _ rfl⟩
  | error e step => exact .error e step

end

end TensorCompiler.Meaning
