import TensorCompiler.Proofs.Meaning.Reserve

/-!
# Frames ready for an expression

What has to hold of frames before an expression is evaluated in one of them, and how it comes to
hold: by an expression evaluated before, by a variable written, or by a frame opened.
-/

namespace TensorCompiler.Meaning

open Linked

section

variable {φ : Type} {K : Coding φ} {C C' : Reserve} {fs fs' : Frames}

/-- A frame in which the variables of an environment are found with values related to their own. -/
def Coding.Holds (K : Coding φ) (C : Reserve) (fs : Frames) (env : List (Var × Value φ))
    (frame : Nat) : Prop :=
  ∀ b ∈ env, ∃ y, fs.lookup frame b.1 = some y ∧ K.Rel C fs b.2 y

/-- What a frame holds lasts. -/
theorem Coding.Holds.lasts (l : Lasts C fs C' fs') {env : List (Var × Value φ)} {frame : Nat}
    (h : K.Holds C fs env frame) : K.Holds C' fs' env frame := by
  intro b hb
  obtain ⟨y, found, related⟩ := h b hb
  exact ⟨y, l.found found, related.mono fun _ _ => K.lasts l⟩

/-- Frames in which an expression can be evaluated: the environment is held, the variables
`ls` that it binds in the frame are reserved and not found yet, and the variables `is` that it
binds in inner frames are not reserved. -/
structure Ready (K : Coding φ) (C : Reserve) (fs : Frames) (frame : Nat)
    (env : List (Var × Value φ)) (ls is : List Var) : Prop where
  covers : C.Covers fs
  inside : frame < fs.size
  env : K.Holds C fs env frame
  once : (ls ++ is).Nodup
  locals : ∀ v ∈ ls, C frame v ∧ fs.lookup frame v = none
  inner : ∀ v ∈ is, ¬ C frame v

variable {frame : Nat} {env : List (Var × Value φ)} {ls ls' is is' : List Var}

namespace Ready

/-- Part of the variables. -/
theorem sublist (h : Ready K C fs frame env ls is) (hl : ls'.Sublist ls)
    (hi : is'.Sublist is) : Ready K C fs frame env ls' is' :=
  ⟨h.covers, h.inside, h.env, h.once.sublist (hl.append hi), fun v hv => h.locals v (hl.subset hv),
    fun v hv => h.inner v (hi.subset hv)⟩

/-- The first of two expressions. -/
theorem first (h : Ready K C fs frame env (ls ++ ls') (is ++ is')) :
    Ready K C fs frame env ls is :=
  h.sublist (List.sublist_append_left _ _) (List.sublist_append_left _ _)

/-- The second of two expressions, after the first one was evaluated. -/
theorem next (h : Ready K C fs frame env (ls ++ ls') (is ++ is'))
    (s : Step (.local frame ls) C fs C' fs') : Ready K C' fs' frame env ls' is' := by
  have second : Ready K C fs frame env ls' is' :=
    h.sublist (List.sublist_append_right _ _) (List.sublist_append_right _ _)
  refine ⟨s.covers, Nat.lt_of_lt_of_le h.inside s.size, h.env.lasts s.lasts,
    second.once, ?_, ?_⟩
  · intro v hv
    obtain ⟨reserved, free⟩ := second.locals v hv
    refine ⟨s.reserve frame h.inside ▸ reserved, ?_⟩
    rw [s.kept frame h.inside v ?_, free]
    rintro (newer | ⟨-, member⟩)
    · exact Nat.lt_irrefl frame newer
    · have disjoint := (List.nodup_append.mp (List.nodup_append.mp h.once).1).2.2
      exact disjoint v member v hv rfl
  · intro v hv
    rw [s.reserve frame h.inside]
    exact second.inner v hv

/-- The clauses of a match, after the expression in front of them was evaluated. -/
theorem clauses (h : Ready K C fs frame env ls (is ++ is'))
    (s : Step (.local frame ls) C fs C' fs') : Ready K C' fs' frame env [] is' := by
  have split : Ready K C fs frame env (ls ++ []) (is ++ is') := by
    rw [List.append_nil]
    exact h
  exact split.next s

/-- Writing the first variable that an expression binds. -/
theorem step_write {v : Var} (h : Ready K C fs frame env (v :: ls) is)
    (y : Value Code) : Step (.local frame [v]) C fs C (fs.write frame v y) := by
  obtain ⟨reserved, free⟩ := h.locals v List.mem_cons_self
  exact Meaning.step_write h.covers reserved free y

/-- The variables after the first one, when that was written. -/
theorem write {v : Var} (h : Ready K C fs frame env (v :: ls) is) {x : Value φ}
    {y : Value Code} (related : K.Rel C fs x y) :
    Ready K C (fs.write frame v y) frame ((v, x) :: env) ls is := by
  have step := h.step_write y
  have split : Ready K C fs frame env ([v] ++ ls) ([] ++ is) := h
  have rest := split.next step
  have later := related.mono fun _ _ => K.lasts step.lasts
  refine { rest with env := ?_ }
  intro b hb
  rcases List.mem_cons.mp hb with rfl | hb
  · exact ⟨y, Frames.lookup_write_self fs frame v y h.inside, later⟩
  · exact rest.env b hb

/-- A variable of the environment is found with a realization of its value. -/
theorem find (h : Ready K C fs frame env ls is) {v : Var}
    (hv : v ∈ env.map Prod.fst) : ∃ b y, env.find? (·.1 == v) = some b ∧ b.1 = v ∧
      fs.lookup frame v = some y ∧ K.Rel C fs b.2 y := by
  obtain ⟨a, ha, rfl⟩ := List.mem_map.mp hv
  obtain ⟨b, hb⟩ : ∃ b, List.find? (fun b : Var × Value φ => b.1 == a.1) env = some b :=
    Option.isSome_iff_exists.mp (List.find?_isSome.mpr ⟨a, ha, beq_self_eq_true a.1⟩)
  have same : b.1 = a.1 := eq_of_beq (List.find?_some hb :)
  obtain ⟨y, found, related⟩ := h.env b (List.mem_of_find?_eq_some hb)
  exact ⟨b, y, hb, same, same ▸ found, related⟩

end Ready

/-! ### Opening a frame -/

/-- The reserve after a frame is opened that will hold some variables. -/
def Reserve.extend (C : Reserve) (size : Nat) (parent : Option Nat) (vs : List Var) : Reserve :=
  fun i v => if i = size then (∃ q, parent = some q ∧ C q v) ∨ v ∈ vs else C i v

/-- Frames in which one is opened before an expression is evaluated in it. The variables `vs` are
those the frame is opened for and all that the expression binds; the parent holds the environment
`outer`. -/
structure Opens (K : Coding φ) (C : Reserve) (fs : Frames) (parent : Option Nat)
    (outer : List (Var × Value φ)) (vs : List Var) : Prop where
  covers : C.Covers fs
  older : ∀ q, parent = some q → q < fs.size
  apart : ∀ q, parent = some q → ∀ v ∈ vs, ¬ C q v
  once : vs.Nodup
  outer : ∀ b ∈ outer, ∃ q y, parent = some q ∧ fs.lookup q b.1 = some y ∧
    K.Rel C fs b.2 y

/-- A frame opened below another one, for variables that this does not reserve. -/
theorem Opens.below (covers : C.Covers fs) (inside : frame < fs.size)
    (holds : K.Holds C fs env frame) {vs : List Var} (once : vs.Nodup)
    (apart : ∀ v ∈ vs, ¬ C frame v) : Opens K C fs (some frame) env vs := by
  refine ⟨covers, ?_, ?_, once, ?_⟩
  · rintro q ⟨⟩
    exact inside
  · rintro q ⟨⟩
    exact apart
  · intro b hb
    obtain ⟨y, found, related⟩ := holds b hb
    exact ⟨frame, y, rfl, found, related⟩

/-- A frame of its own. -/
theorem Opens.alone (covers : C.Covers fs) {vs : List Var} (once : vs.Nodup) :
    Opens K C fs none [] vs :=
  ⟨covers, by rintro _ ⟨⟩, by rintro _ ⟨⟩, once, by rintro _ ⟨⟩⟩

/-- A clause opens a frame below the one it stands in. -/
theorem Ready.opens (h : Ready K C fs frame env ls is) :
    Opens K C fs (some frame) env is :=
  .below h.covers h.inside h.env (List.nodup_append.mp h.once).2.1 h.inner

variable {parent : Option Nat} {outer : List (Var × Value φ)} {names vs : List Var}

/-- Each variable stands beside a value that is related to its own. -/
theorem exists_mem_zip {R : φ → Code → Prop} {binds : List (Var × Value φ)}
    {ys : List (Value Code)} (related : Value.RelAll R (binds.map Prod.snd) ys)
    {b : Var × Value φ} (hb : b ∈ binds) :
    ∃ y, (b.1, y) ∈ (binds.map Prod.fst).zip ys ∧ Value.Rel R b.2 y := by
  induction binds generalizing ys with
  | nil => cases hb
  | cons a binds ih =>
      generalize values : (a :: binds).map Prod.snd = xs at related
      cases related with
      | nil => cases values
      | @cons x y xs ys head tail =>
          obtain ⟨rfl, rfl⟩ := List.cons.inj values
          rcases List.mem_cons.mp hb with rfl | hb
          · exact ⟨y, List.mem_cons_self, head⟩
          · obtain ⟨z, hz, h⟩ := ih tail hb
            exact ⟨z, List.mem_cons_of_mem _ hz, h⟩

namespace Opens

/-- The variables a frame is opened for are none of the environment. -/
theorem unbound (h : Opens K C fs parent outer vs) {v : Var} (hv : v ∈ vs) :
    v ∉ outer.map Prod.fst := by
  intro member
  obtain ⟨b, hb, rfl⟩ := List.mem_map.mp member
  obtain ⟨q, y, hq, found, -⟩ := h.outer b hb
  exact h.apart q hq b.1 hv (h.covers.of_lookup found)

/-- Opening a frame changes nothing in older frames. -/
theorem step (h : Opens K C fs parent outer vs) (names ls : List Var)
    (ys : List (Value Code)) :
    Step .empty C fs (C.extend fs.size parent (names ++ ls)) (fs.opened parent names ys) := by
  have below {i : Nat} (hi : i < fs.size) (v : Var) :
      (fs.opened parent names ys).lookup i v = fs.lookup i v :=
    Frames.lookup_push_of_lt hi _ v
  have ne {i : Nat} (hi : i < fs.size) : i ≠ fs.size := Nat.ne_of_lt hi
  have cases {i : Nat} {f : Frame} (hf : (fs.opened parent names ys)[i]? = some f) :
      (i = fs.size ∧ f = Frame.setAll ⟨parent, []⟩ (names.zip ys)) ∨
        (i < fs.size ∧ fs[i]? = some f) := by
    rw [Frames.opened, Array.getElem?_push] at hf
    split at hf
    · exact Or.inl ⟨‹_›, (Option.some.inj hf).symm⟩
    · exact Or.inr ⟨(Array.getElem?_eq_some_iff.mp hf).1, hf⟩
  refine ⟨⟨?_, ?_⟩, ?_, ?_, ?_, fun i hi v _ => below hi v⟩
  · intro i f v x hf hv
    rcases cases hf with ⟨rfl, rfl⟩ | ⟨hi, hf⟩
    · simp only [Reserve.extend, if_true]
      by_cases member : v ∈ names
      · exact Or.inr (List.mem_append_left _ member)
      · rw [Frame.get?_setAll_zip member] at hv
        cases hv
    · simp only [Reserve.extend, ne hi, if_false]
      exact h.covers.slots hf hv
  · intro i f q v hf hp older reserved
    rcases cases hf with ⟨rfl, rfl⟩ | ⟨hi, hf⟩
    · rw [Frame.parent_setAll] at hp
      simp only [Reserve.extend, ne older, if_false, if_true] at reserved ⊢
      exact Or.inl ⟨q, hp, reserved⟩
    · simp only [Reserve.extend, ne hi, ne (Nat.lt_trans older hi), if_false] at reserved ⊢
      exact h.covers.parent hf hp older reserved
  · rw [Frames.opened, Array.size_push]
    exact Nat.le_succ _
  · intro i hi
    funext v
    simp only [Reserve.extend, ne hi, if_false]
  · intro i v x found
    rw [below (Frames.lt_size_of_lookup found)]
    exact found

/-- In the new frame the expression can be evaluated. -/
theorem ready (h : Opens K C fs parent outer (names ++ (ls ++ is))) {binds : List (Var × Value φ)}
    (hn : binds.map Prod.fst = names) {ys : List (Value Code)}
    (related : Value.RelAll (K.rel C fs) (binds.map Prod.snd) ys) :
    Ready K (C.extend fs.size parent (names ++ ls)) (fs.opened parent names ys) fs.size
      (binds ++ outer) ls is := by
  have step := h.step names ls ys
  have size : fs.size < Array.size (fs.opened parent names ys) := by
    rw [Frames.opened, Array.size_push]
    exact Nat.lt_succ_self _
  have len : names.length = ys.length := by
    rw [← hn, List.length_map, ← related.length_eq, List.length_map]
  have parts := List.nodup_append.mp h.once
  have rest := List.nodup_append.mp parts.2.1
  have later {x : Value φ} {y : Value Code}
      (hx : K.Rel C fs x y) :=
    hx.mono fun _ _ => K.lasts step.lasts
  refine ⟨step.covers, size, ?_, parts.2.1, ?_, ?_⟩
  · intro b hb
    rcases List.mem_append.mp hb with hb | hb
    · obtain ⟨y, hy, hx⟩ := exists_mem_zip related hb
      rw [hn] at hy
      exact ⟨y, Frames.lookup_opened_of_mem parts.1 len hy, later hx⟩
    · obtain ⟨q, y, hq, found, hy⟩ := h.outer b hb
      refine ⟨y, ?_, later hy⟩
      rw [Frames.lookup_opened_of_notMem, hq, Option.bind_some, found]
      intro member
      exact h.apart q hq b.1 (List.mem_append_left _ member) (h.covers.of_lookup found)
  · intro v hv
    have notName : v ∉ names := fun member =>
      parts.2.2 v member v (List.mem_append_left _ hv) rfl
    refine ⟨?_, ?_⟩
    · simp only [Reserve.extend, if_true]
      exact Or.inr (List.mem_append_right _ hv)
    · rw [Frames.lookup_opened_of_notMem notName]
      cases hp : parent with
      | none => rfl
      | some q =>
          rw [Option.bind_some]
          cases found : fs.lookup q v with
          | none => rfl
          | some y =>
              exact absurd (h.covers.of_lookup found)
                (h.apart q hp v (List.mem_append_right _ (List.mem_append_left _ hv)))
  · intro v hv
    simp only [Reserve.extend, if_true, not_or, not_exists, not_and, List.mem_append]
    refine ⟨?_, ?_, ?_⟩
    · intro q hq
      exact h.apart q hq v (List.mem_append_right _ (List.mem_append_right _ hv))
    · exact fun member => parts.2.2 v member v (List.mem_append_right _ hv) rfl
    · exact fun member => rest.2.2 v member v hv rfl

/-- In a new frame that is opened for some of the values the expression can be evaluated. -/
theorem ready_zip (h : Opens K C fs parent outer (names ++ (ls ++ is))) {xs : List (Value φ)}
    {ys : List (Value Code)} (count : names.length ≤ xs.length)
    (related : Value.RelAll (K.rel C fs) xs ys) :
    Ready K (C.extend fs.size parent (names ++ ls)) (fs.opened parent names ys) fs.size
      (names.zip xs ++ outer) ls is := by
  have short : (xs.take names.length).length ≤ names.length := by
    rw [List.length_take]
    exact Nat.min_le_left _ _
  have values : Value.RelAll (K.rel C fs) ((names.zip xs).map Prod.snd) (ys.take names.length) := by
    rw [← zip_take_length, List.map_snd_zip short]
    exact related.take _
  have ready := h.ready (List.map_fst_zip count) values
  rwa [Frames.opened_take] at ready

end Opens

end

end TensorCompiler.Meaning
