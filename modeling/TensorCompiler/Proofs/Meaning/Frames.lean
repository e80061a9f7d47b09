import TensorCompiler.Linked.Eval
import TensorCompiler.Proofs.Outcome

/-!
# Frames of a linked run

What the steps of a linked run do to the values of variables: writing a variable that was not found
before changes no value that was found, and opening a frame changes nothing in older frames.
-/

namespace TensorCompiler.Linked

/-! ### Steps -/

section

variable {α β : Type}

/-- A step that touches no frame. -/
@[simp]
theorem run_pureStep (r : Except RunError α) (fs : Frames) : (pureStep r).run fs = (r, fs) := by
  cases r <;> rfl

/-- A run whose report is handed to the host leaves the frames that it left. -/
theorem run_attempt (m : RunM α) (fs : Frames) :
    (attempt m).run fs = (reported (m.run fs).1, (m.run fs).2) := rfl

/-- Reading a variable changes no frame. -/
theorem run_readVar (frame : Nat) (v : Var) (fs : Frames) :
    (readVar frame v).run fs =
      match fs.lookup frame v with
      | some x => (.ok x, fs)
      | none => (.error (.undefinedVariable v.name), fs) := by
  change (match fs.lookup frame v with
    | some x => (pure x : RunM (Value Code))
    | none => throw (RunError.undefinedVariable v.name)).run fs = _
  cases fs.lookup frame v <;> rfl

@[simp]
theorem run_writeVar (frame : Nat) (v : Var) (x : Value Code) (fs : Frames) :
    (writeVar frame v x).run fs = (.ok (), fs.modify frame fun f => f.set v x) := rfl

/-- A frame is opened for variables that have values. -/
theorem run_openFrame {vars : List Var} {values : List (Value Code)}
    (enough : vars.length ≤ values.length) (parent : Option Nat) (fs : Frames) :
    (openFrame parent vars values).run fs =
      (.ok fs.size, fs.push (Frame.setAll ⟨parent, []⟩ (vars.zip values))) := by
  rw [openFrame, if_neg (Nat.not_lt.mpr enough)]
  rfl

/-- No frame is opened for more variables than there are values. -/
theorem run_openFrame_short {vars : List Var} {values : List (Value Code)}
    (short : values.length < vars.length) (parent : Option Nat) (fs : Frames) :
    (openFrame parent vars values).run fs =
      (.error (.valueRange values.length values.length), fs) := by
  rw [openFrame, if_pos short]
  rfl

end

/-! ### Values of variables -/

/-- Values without a variable are not paired. -/
theorem zip_take_length {α β : Type} (as : List α) (bs : List β) :
    as.zip (bs.take as.length) = as.zip bs := by
  induction as generalizing bs with
  | nil => rfl
  | cons a as ih =>
      cases bs with
      | nil => rfl
      | cons b bs =>
          rw [List.length_cons, List.take_succ_cons, List.zip_cons_cons, ih, List.zip_cons_cons]

namespace Frame

@[simp]
theorem parent_set (f : Frame) (v : Var) (x : Value Code) : (f.set v x).parent = f.parent := rfl

@[simp]
theorem parent_setAll (f : Frame) (binds : List (Var × Value Code)) :
    (f.setAll binds).parent = f.parent := by
  induction binds generalizing f with
  | nil => rfl
  | cons b binds ih => exact ih (f.set b.1 b.2)

@[simp]
theorem get?_set_self (f : Frame) (v : Var) (x : Value Code) : (f.set v x).get? v = some x := by
  simp [get?, set]

theorem get?_set_of_ne (f : Frame) {v w : Var} (h : v ≠ w) (x : Value Code) :
    (f.set v x).get? w = f.get? w := by
  simp [get?, set, h]

/-- Variables that are not written keep their values. -/
theorem get?_setAll_of_notMem (f : Frame) {binds : List (Var × Value Code)} {w : Var}
    (h : w ∉ binds.map Prod.fst) : (f.setAll binds).get? w = f.get? w := by
  induction binds generalizing f with
  | nil => rfl
  | cons b binds ih =>
      simp only [List.map_cons, List.mem_cons, not_or] at h
      rw [setAll, ih _ h.2, get?_set_of_ne f (Ne.symm h.1)]

/-- Variables written once have the value they were given. -/
theorem get?_setAll_of_mem (f : Frame) {binds : List (Var × Value Code)}
    (nodup : (binds.map Prod.fst).Nodup) {v : Var} {x : Value Code} (h : (v, x) ∈ binds) :
    (f.setAll binds).get? v = some x := by
  induction binds generalizing f with
  | nil => cases h
  | cons b binds ih =>
      rw [List.map_cons, List.nodup_cons] at nodup
      rcases List.mem_cons.mp h with rfl | h
      · rw [setAll, get?_setAll_of_notMem _ nodup.1, get?_set_self]
      · exact ih _ nodup.2 h

/-- Of several values written to a variable the last one counts. -/
theorem get?_setAll_last (f : Frame) (before : List (Var × Value Code))
    {after : List (Var × Value Code)} {v : Var} (h : v ∉ after.map Prod.fst) (x : Value Code) :
    (f.setAll (before ++ (v, x) :: after)).get? v = some x := by
  induction before generalizing f with
  | nil => rw [List.nil_append, setAll, get?_setAll_of_notMem _ h, get?_set_self]
  | cons b before ih => exact ih (f.set b.1 b.2)

/-- A new frame holds only the variables it is opened for. -/
theorem get?_setAll_zip {parent : Option Nat} {names : List Var} {v : Var} (h : v ∉ names)
    (ys : List (Value Code)) : (setAll ⟨parent, []⟩ (names.zip ys)).get? v = none := by
  rw [get?_setAll_of_notMem]
  · rfl
  · intro member
    obtain ⟨b, hb, rfl⟩ := List.mem_map.mp member
    exact h (List.of_mem_zip hb).1

end Frame

namespace Frames

/-- A variable in a frame, or in the frames it is chained to. -/
theorem lookup_eq (fs : Frames) (i : Nat) (v : Var) :
    fs.lookup i v =
      fs[i]?.bind fun f => (f.get? v).or
        (f.parent.bind fun p => if p < i then fs.lookup p v else none) := by
  rw [lookup]
  cases fs[i]? with
  | none => rfl
  | some f =>
      simp only [Option.bind_some]
      cases f.get? v with
      | some x => rfl
      | none => cases f.parent <;> rfl

/-- There is nothing beyond the last frame. -/
theorem lookup_of_size_le {fs : Frames} {i : Nat} (h : fs.size ≤ i) (v : Var) :
    fs.lookup i v = none := by
  rw [lookup_eq, Array.getElem?_eq_none h]
  rfl

theorem lt_size_of_lookup {fs : Frames} {i : Nat} {v : Var} {x : Value Code}
    (h : fs.lookup i v = some x) : i < fs.size := by
  rcases Nat.lt_or_ge i fs.size with inside | beyond
  · exact inside
  · rw [lookup_of_size_le beyond] at h
    cases h

/-- Frames that agree up to a place have the same values there. -/
theorem lookup_congr {fs fs' : Frames} {i : Nat} (h : ∀ j ≤ i, fs'[j]? = fs[j]?) (v : Var) :
    fs'.lookup i v = fs.lookup i v := by
  induction i using Nat.strongRecOn with
  | ind i ih =>
      rw [lookup_eq, lookup_eq, h i (Nat.le_refl i)]
      refine congrArg _ (funext fun f => congrArg _ (congrArg _ (funext fun p => ?_)))
      split
      · rename_i older
        exact ih p older fun j hj => h j (Nat.le_trans hj (Nat.le_of_lt older))
      · rfl

/-! ### Opening a frame -/

/-- A new frame changes nothing in the others. -/
theorem lookup_push_of_lt {fs : Frames} {i : Nat} (h : i < fs.size) (f : Frame) (v : Var) :
    lookup (fs.push f) i v = fs.lookup i v := by
  refine lookup_congr ?_ v
  intro j hj
  have inside : j < fs.size := Nat.lt_of_le_of_lt hj h
  rw [Array.getElem?_push_lt inside, Array.getElem?_eq_getElem inside]

/-- A variable in a new frame. -/
theorem lookup_push_size (fs : Frames) (f : Frame) (v : Var) :
    lookup (fs.push f) fs.size v = (f.get? v).or (f.parent.bind fun p => fs.lookup p v) := by
  rw [lookup_eq, Array.getElem?_push_size]
  simp only [Option.bind_some]
  refine congrArg _ (congrArg _ (funext fun p => ?_))
  split
  · rename_i older
    exact lookup_push_of_lt older f v
  · rename_i beyond
    exact (lookup_of_size_le (Nat.le_of_not_lt beyond) v).symm

/-- The frames after one is opened for values of some variables. -/
def opened (fs : Frames) (parent : Option Nat) (names : List Var) (ys : List (Value Code)) :
    Frames :=
  fs.push (Frame.setAll ⟨parent, []⟩ (names.zip ys))

section

variable {fs : Frames} {parent : Option Nat} {names : List Var} {ys : List (Value Code)} {v : Var}

/-- Values without a variable are not kept. -/
theorem opened_take :
    fs.opened parent names (ys.take names.length) = fs.opened parent names ys := by
  rw [opened, opened, zip_take_length]

/-- A variable that a new frame is not opened for. -/
theorem lookup_opened_of_notMem (h : v ∉ names) :
    (fs.opened parent names ys).lookup fs.size v = parent.bind fun q => fs.lookup q v := by
  rw [opened, lookup_push_size, Frame.get?_setAll_zip h, Frame.parent_setAll]
  rfl

/-- A variable that a new frame is opened for. -/
theorem lookup_opened_of_mem (nodup : names.Nodup) (len : names.length = ys.length)
    {y : Value Code} (h : (v, y) ∈ names.zip ys) :
    (fs.opened parent names ys).lookup fs.size v = some y := by
  have distinct : ((names.zip ys).map Prod.fst).Nodup := by
    rw [List.map_fst_zip (Nat.le_of_eq len)]
    exact nodup
  rw [opened, lookup_push_size, Frame.get?_setAll_of_mem _ distinct h]
  rfl

end

/-! ### Writing a variable -/

/-- The frames after a variable of one frame was written. -/
def write (fs : Frames) (frame : Nat) (v : Var) (x : Value Code) : Frames :=
  fs.modify frame fun f => f.set v x

section

variable (fs : Frames) (frame : Nat) (v : Var) (x : Value Code)

@[simp]
theorem size_write : Array.size (fs.write frame v x) = Array.size fs := by
  simp [write]

/-- The frame at a place after a variable was written. -/
theorem getElem?_write (i : Nat) : (fs.write frame v x : Array Frame)[i]? =
    fs[i]?.map fun f => if frame = i then f.set v x else f := by
  rw [write, Array.getElem?_modify]
  split
  · rfl
  · simp

/-- The variable that was written has its value. -/
theorem lookup_write_self (h : frame < fs.size) : (fs.write frame v x).lookup frame v = some x := by
  rw [lookup_eq, getElem?_write, Array.getElem?_eq_getElem h]
  simp

/-- Other variables keep their values. -/
theorem lookup_write_of_ne {w : Var} (h : v ≠ w) (i : Nat) :
    (fs.write frame v x).lookup i w = fs.lookup i w := by
  induction i using Nat.strongRecOn with
  | ind i ih =>
      rw [lookup_eq, lookup_eq, getElem?_write]
      cases fs[i]? with
      | none => rfl
      | some f =>
          have get : (if frame = i then f.set v x else f).get? w = f.get? w := by
            split
            · exact f.get?_set_of_ne h x
            · rfl
          have parent : (if frame = i then f.set v x else f).parent = f.parent := by
            split <;> rfl
          simp only [Option.map_some, Option.bind_some, get, parent]
          refine congrArg _ (congrArg _ (funext fun p => ?_))
          split
          · rename_i older
            exact ih p older
          · rfl

/-- Older frames are not affected. -/
theorem lookup_write_of_lt {i : Nat} (h : i < frame) (w : Var) :
    (fs.write frame v x).lookup i w = fs.lookup i w := by
  refine lookup_congr ?_ w
  intro j hj
  rw [getElem?_write]
  have ne : frame ≠ j := by omega
  simp [ne]

/-- A variable that was not found before it is written hides no value in any frame. -/
theorem lookup_write_of_none (free : fs.lookup frame v = none) {i : Nat} {w : Var} {y : Value Code}
    (h : fs.lookup i w = some y) : (fs.write frame v x).lookup i w = some y := by
  by_cases same : v = w
  · subst same
    induction i using Nat.strongRecOn with
    | ind i ih =>
        by_cases here : frame = i
        · subst here
          rw [free] at h
          cases h
        · rw [lookup_eq] at h ⊢
          rw [getElem?_write]
          cases hf : fs[i]? with
          | none => simp [hf] at h
          | some f =>
              simp only [hf, Option.bind_some, Option.map_some, here, if_false] at h ⊢
              cases hg : f.get? v with
              | some z => simpa [hg] using h
              | none =>
                  simp only [hg, Option.none_or] at h ⊢
                  cases hp : f.parent with
                  | none => simp [hp] at h
                  | some p =>
                      simp only [hp, Option.bind_some] at h ⊢
                      by_cases older : p < i
                      · simp only [older, if_true] at h ⊢
                        exact ih p older h
                      · simp [older] at h
  · rw [lookup_write_of_ne fs frame v x same]
    exact h

end

end Frames

/-- What follows a step that writes a variable. -/
theorem run_writeVar_bind {α : Type} (frame : Nat) (v : Var) (x : Value Code) (m : Unit → RunM α)
    (fs : Frames) : (writeVar frame v x >>= m).run fs = (m ()).run (fs.write frame v x) := by
  rw [run_bind]
  rfl

/-- What follows a step that opens a frame. -/
theorem run_openFrame_bind {α : Type} {names : List Var} {ys : List (Value Code)}
    (enough : names.length ≤ ys.length) (parent : Option Nat) (m : Nat → RunM α) (fs : Frames) :
    (openFrame parent names ys >>= m).run fs = (m fs.size).run (fs.opened parent names ys) := by
  rw [run_bind, run_openFrame enough]
  rfl

/-- Nothing follows a frame for more variables than there are values. -/
theorem run_openFrame_bind_short {α : Type} {names : List Var} {ys : List (Value Code)}
    (short : ys.length < names.length) (parent : Option Nat) (m : Nat → RunM α) (fs : Frames) :
    (openFrame parent names ys >>= m).run fs =
      (.error (.valueRange ys.length ys.length), fs) := by
  rw [run_bind, run_openFrame_short short]

end TensorCompiler.Linked
