import TensorCompiler.Linked.Image

/-!
# Registered constructors

The constructors of a data type are registered one by one, and a name that is taken by another
constructor ends the registration.

Main statements: a registration that succeeds makes all its constructors known, and no other ones; a
registration that is refused has registered the constructors in front of the refused one and has no
other effect. Nothing can tell the images before and after it apart exactly if those in front were
known before.
-/

namespace TensorCompiler.Linked.Image

/-! ### Constructors that are found -/

/-- The constructor with a name. -/
def ctor? (img : Image) (name : String) : Option Ctor :=
  img.ctors.find? (·.name == name)

/-- A constructor that is found under its name. -/
def Declares (img : Image) (c : Ctor) : Prop :=
  img.ctors.find? (·.name == c.name) = some c

/-- An image grown by constructors only. -/
structure Registers (img img' : Image) : Prop where
  kernels : img'.kernels = img.kernels
  device : img'.device = img.device
  host : img'.host = img.host
  globals : img'.globals = img.globals
  kept : ∀ {c}, img.Declares c → img'.Declares c

section

variable {img img' : Image} {c known : Ctor} {cs front : List Ctor} {e : ImageError} {name : String}

theorem name_of_ctor? (h : img.ctor? name = some c) : c.name = name :=
  beq_iff_eq.mp (List.find?_some (p := fun c : Ctor => c.name == name) h)

/-- A constructor behind the others is found under its name if none of them is. -/
theorem ctor?_add (img : Image) (c : Ctor) (name : String) :
    ctor? { img with ctors := img.ctors ++ [c] } name =
      (img.ctor? name).or ([c].find? (·.name == name)) :=
  List.find?_append

theorem Registers.refl (img : Image) : img.Registers img :=
  ⟨rfl, rfl, rfl, rfl, id⟩

theorem Registers.trans {a b c : Image} (h : a.Registers b) (h' : b.Registers c) :
    a.Registers c :=
  ⟨h'.kernels.trans h.kernels, h'.device.trans h.device, h'.host.trans h.host,
    h'.globals.trans h.globals, fun hc => h'.kept (h.kept hc)⟩

/-- A new constructor with a free name. -/
theorem registers_add (free : img.ctor? c.name = none) :
    img.Registers { img with ctors := img.ctors ++ [c] } ∧
      Declares { img with ctors := img.ctors ++ [c] } c := by
  refine ⟨⟨rfl, rfl, rfl, rfl, fun {d} known => ?_⟩, ?_⟩
  · refine (ctor?_add img c d.name).trans ?_
    rw [show img.ctor? d.name = some d from known, Option.some_or]
  · refine (ctor?_add img c c.name).trans ?_
    rw [free, Option.none_or]
    simp

/-! ### Registrations -/

/-- A constructor with a free name is added. -/
theorem registerCtors_free (free : img.ctor? c.name = none) (cs : List Ctor) :
    img.registerCtors (c :: cs) = { img with ctors := img.ctors ++ [c] }.registerCtors cs := by
  rw [ctor?] at free
  simp only [registerCtors, free]

/-- A constructor that is known is passed over. -/
theorem registerCtors_known (found : img.ctor? c.name = some c) (cs : List Ctor) :
    img.registerCtors (c :: cs) = img.registerCtors cs := by
  rw [ctor?] at found
  simp only [registerCtors, found, if_true]

/-- A constructor whose name another one has ends a registration. -/
theorem registerCtors_taken (found : img.ctor? c.name = some known) (other : known ≠ c)
    (cs : List Ctor) :
    img.registerCtors (c :: cs) = (.error (.ctorTaken c.name known.data.name), img) := by
  rw [ctor?] at found
  simp only [registerCtors, found, if_neg other]

/-- What becomes of a constructor: it is added, was known, or is refused. -/
inductive Step (img : Image) (c : Ctor) : Prop where
  | adds (free : img.ctor? c.name = none)
  | knows (found : img.ctor? c.name = some c)
  | refuses (known : Ctor) (found : img.ctor? c.name = some known) (other : known ≠ c)

theorem step (img : Image) (c : Ctor) : img.Step c := by
  cases found : img.ctor? c.name with
  | none => exact .adds found
  | some known =>
      by_cases same : known = c
      · exact .knows (same ▸ found)
      · exact .refuses known found same

/-- Constructors that are registered are found. -/
theorem registerCtors_spec (h : img.registerCtors cs = (.ok (), img')) :
    img.Registers img' ∧ ∀ c ∈ cs, img'.Declares c := by
  induction cs generalizing img with
  | nil =>
      cases h
      exact ⟨.refl _, by rintro _ ⟨⟩⟩
  | cons c cs ih =>
      cases img.step c with
      | adds free =>
          obtain ⟨added, new⟩ := registers_add free
          obtain ⟨registers, all⟩ := ih (registerCtors_free free cs ▸ h)
          exact ⟨added.trans registers, List.forall_mem_cons.mpr ⟨registers.kept new, all⟩⟩
      | knows found =>
          obtain ⟨registers, all⟩ := ih (registerCtors_known found cs ▸ h)
          exact ⟨registers, List.forall_mem_cons.mpr ⟨registers.kept found, all⟩⟩
      | refuses known found other =>
          rw [registerCtors_taken found other] at h
          cases h

/-- What is found after a registration was found before, or is the first one registered under its
name. -/
theorem ctor?_of_registerCtors (h : img.registerCtors cs = (.ok (), img')) (name : String) :
    img'.ctor? name = (img.ctor? name).or (cs.find? (·.name == name)) := by
  induction cs generalizing img with
  | nil =>
      cases h
      rw [List.find?_nil, Option.or_none]
  | cons c cs ih =>
      cases img.step c with
      | adds free =>
          rw [ih (registerCtors_free free cs ▸ h), ctor?_add, Option.or_assoc, ← List.find?_append,
            List.singleton_append]
      | knows found =>
          rw [ih (registerCtors_known found cs ▸ h), List.find?_cons]
          split
          · rename_i named
            rw [← beq_iff_eq.mp named, found, Option.some_or, Option.some_or]
          · rfl
      | refuses known found other =>
          rw [registerCtors_taken found other] at h
          cases h

/-- A registration goes on where that of its front ends. -/
theorem registerCtors_append (img : Image) (front rest : List Ctor) :
    img.registerCtors (front ++ rest) =
      match img.registerCtors front with
      | (.ok (), mid) => mid.registerCtors rest
      | (.error e, mid) => (.error e, mid) := by
  induction front generalizing img with
  | nil => rfl
  | cons c front ih =>
      cases img.step c with
      | adds free => rw [List.cons_append, registerCtors_free free, registerCtors_free free, ih]
      | knows found =>
          rw [List.cons_append, registerCtors_known found, registerCtors_known found, ih]
      | refuses known found other =>
          rw [List.cons_append, registerCtors_taken found other, registerCtors_taken found other]

/-- Registering several data types is registering all their constructors in order. -/
theorem registerAll_eq (css : List (List Ctor)) (img : Image) :
    img.registerAll css = img.registerCtors css.flatten := by
  induction css generalizing img with
  | nil => rfl
  | cons cs css ih =>
      rw [List.flatten_cons, registerCtors_append, registerAll]
      split
      · rename_i mid first
        rw [first]
        exact ih mid
      · rename_i refused
        rcases result : img.registerCtors cs with ⟨_ | ⟨⟩, mid⟩
        · rfl
        · exact absurd result (refused mid)

/-- Constructors of data types that are registered are found. -/
theorem registerAll_spec {css : List (List Ctor)} (h : img.registerAll css = (.ok (), img')) :
    img.Registers img' ∧ ∀ cs ∈ css, ∀ c ∈ cs, img'.Declares c := by
  rw [registerAll_eq] at h
  obtain ⟨registers, all⟩ := registerCtors_spec h
  exact ⟨registers, fun cs hcs c hc => all c (List.mem_flatten.mpr ⟨cs, hcs, hc⟩)⟩

/-! ### Refused registrations -/

/-- A registration that is refused at a constructor whose name another one has. -/
structure Refused (img : Image) (cs : List Ctor) (e : ImageError) (img' : Image)
    (front : List Ctor) : Prop where
  registered : img.registerCtors front = (.ok (), img')
  conflict : ∃ c rest known, cs = front ++ c :: rest ∧ img'.ctor? c.name = some known ∧
    known ≠ c ∧ e = .ctorTaken c.name known.data.name

/-- A registration that is refused has an effect up to the conflict. -/
theorem refused_of_registerCtors (h : img.registerCtors cs = (.error e, img')) :
    ∃ front, img.Refused cs e img' front := by
  induction cs generalizing img with
  | nil => cases h
  | cons c cs ih =>
      cases img.step c with
      | adds free =>
          rw [registerCtors_free free] at h
          obtain ⟨front, registered, d, rest, known, rfl, conflict⟩ := ih h
          exact ⟨c :: front, (registerCtors_free free front).trans registered, d, rest, known, rfl,
            conflict⟩
      | knows found =>
          rw [registerCtors_known found] at h
          obtain ⟨front, registered, d, rest, known, rfl, conflict⟩ := ih h
          exact ⟨c :: front, (registerCtors_known found front).trans registered, d, rest, known,
            rfl, conflict⟩
      | refuses known found other =>
          rw [registerCtors_taken found other] at h
          obtain ⟨failed, rfl⟩ := Prod.mk.inj h
          exact ⟨[], rfl, c, cs, known, rfl, found, other, (Except.error.inj failed).symm⟩

/-- Data types are refused for two of their constructors if nothing was registered before. -/
theorem conflict_of_registerAll {kernels : Registry Kernel} {device : DeviceId} {host : Host}
    {css : List (List Ctor)} (h : (start kernels device host).registerAll css = (.error e, img')) :
    ∃ c ∈ css.flatten, ∃ known ∈ css.flatten, known ≠ c ∧ known.name = c.name ∧
      e = .ctorTaken c.name known.data.name := by
  rw [registerAll_eq] at h
  obtain ⟨front, registered, c, rest, known, split, found, other, conflict⟩ :=
    refused_of_registerCtors h
  have first : front.find? (·.name == c.name) = some known := by
    rw [← found, ctor?_of_registerCtors registered]
    rfl
  have earlier : known ∈ front := List.mem_of_find?_eq_some first
  refine ⟨c, ?_, known, ?_, other, name_of_ctor? found, conflict⟩
  · rw [split]
    exact List.mem_append_right _ List.mem_cons_self
  · rw [split]
    exact List.mem_append_left _ earlier

end

/-! ### Images that answer alike -/

/-- A change of an image. -/
inductive Change where
  | register (cs : List Ctor)
  | define (g : Global)

/-- The answer to a change, and the image after it. -/
def change (img : Image) : Change → Except ImageError Unit × Image
  | .register cs => img.registerCtors cs
  | .define g =>
    match img.define g with
    | .ok img' => (.ok (), img')
    | .error e => (.error e, img)

/-- The answers to changes made in order. -/
def answers (img : Image) : List Change → List (Except ImageError Unit)
  | [] => []
  | ch :: chs => (img.change ch).1 :: (img.change ch).2.answers chs

/-- Nothing tells one image from another: every construction has the same result in both, and all
changes are answered alike. -/
structure Indistinguishable (img img' : Image) : Prop where
  constructions : ∀ (name : String) (tag : Int) (args : List (Value Code)),
    Value.construct img'.ctors name tag args = Value.construct img.ctors name tag args
  answers : ∀ changes, img'.answers changes = img.answers changes

/-- Images with the same globals in which the same constructors are found. -/
structure Alike (img img' : Image) : Prop where
  globals : img'.globals = img.globals
  ctor : ∀ name, img'.ctor? name = img.ctor? name

section

variable {img img' : Image} {front : List Ctor}

/-- A constructor that is added is added to both. -/
theorem Alike.add (h : img.Alike img') (c : Ctor) :
    Alike { img with ctors := img.ctors ++ [c] } { img' with ctors := img'.ctors ++ [c] } :=
  ⟨h.globals, fun name => by rw [ctor?_add, ctor?_add, h.ctor]⟩

/-- Constructors are registered alike in images that are alike. -/
theorem Alike.registerCtors (h : img.Alike img') (cs : List Ctor) :
    (img'.registerCtors cs).1 = (img.registerCtors cs).1 ∧
      (img.registerCtors cs).2.Alike (img'.registerCtors cs).2 := by
  induction cs generalizing img img' with
  | nil => exact ⟨rfl, h⟩
  | cons c cs ih =>
      have same := h.ctor c.name
      cases img.step c with
      | adds free =>
          rw [registerCtors_free free, registerCtors_free (same.trans free)]
          exact ih (h.add c)
      | knows found =>
          rw [registerCtors_known found, registerCtors_known (same.trans found)]
          exact ih h
      | refuses known found other =>
          rw [registerCtors_taken found other, registerCtors_taken (same.trans found) other]
          exact ⟨rfl, h⟩

/-- Changes are answered alike in images that are alike, and leave them alike. -/
theorem Alike.change (h : img.Alike img') (ch : Change) :
    (img'.change ch).1 = (img.change ch).1 ∧ (img.change ch).2.Alike (img'.change ch).2 := by
  cases ch with
  | register cs => exact h.registerCtors cs
  | define g =>
      have same : img'.global? g.name = img.global? g.name := by rw [global?, global?, h.globals]
      cases taken : img.global? g.name with
      | some known =>
          simp only [Image.change, define, same, taken]
          exact ⟨trivial, h⟩
      | none =>
          simp only [Image.change, define, same, taken]
          exact ⟨trivial, congrArg (· ++ [g]) h.globals, h.ctor⟩

/-- Nothing tells images that are alike from each other. -/
theorem Alike.indistinguishable (h : img.Alike img') : img.Indistinguishable img' := by
  refine ⟨fun name tag args => ?_, fun changes => ?_⟩
  · have same : img'.ctors.find? (·.name == name) = img.ctors.find? (·.name == name) := h.ctor name
    rw [Value.construct, same, Value.construct]
  · induction changes generalizing img img' with
    | nil => rfl
    | cons ch changes ih =>
        obtain ⟨same, after⟩ := h.change ch
        rw [answers, answers, same, ih after]

/-- A constructor that can be told from its absence. -/
theorem Indistinguishable.declares (h : img.Indistinguishable img') {c : Ctor}
    (declared : img'.Declares c) : img.Declares c := by
  have built := h.constructions c.name c.tag (List.replicate c.inputs.length .absent)
  rw [Declares] at declared ⊢
  simp only [Value.construct, declared, ne_eq, not_true_eq_false, if_false,
    List.length_replicate] at built
  split at built
  · cases built
  · rename_i known found
    split at built
    · cases built
    · split at built
      · cases built
      · obtain ⟨rfl, -⟩ := Value.data.inj (Except.ok.inj built)
        exact found

/-- What a refused registration leaves behind: the constructors in front of the refused one and
nothing else. It has no effect exactly if all of them were known before. -/
theorem refused_registration_keeps_front {img img' : Image} {cs : List Ctor} {e : ImageError}
    (refused : img.registerCtors cs = (.error e, img')) :
    ∃ front, img.Refused cs e img' front ∧
      (∀ name, img'.ctor? name = (img.ctor? name).or (front.find? (·.name == name))) ∧
      (img.Indistinguishable img' ↔ ∀ c ∈ front, img.Declares c) := by
  obtain ⟨front, refusal⟩ := refused_of_registerCtors refused
  obtain ⟨registers, declared⟩ := registerCtors_spec refusal.registered
  have found := ctor?_of_registerCtors refusal.registered
  refine ⟨front, refusal, found, fun same c hc => same.declares (declared c hc), fun known => ?_⟩
  refine Alike.indistinguishable ⟨registers.globals, fun name => ?_⟩
  rw [found]
  cases before : img.ctor? name with
  | some c => rfl
  | none =>
      rw [Option.none_or, List.find?_eq_none]
      rintro c hc named
      obtain rfl := beq_iff_eq.mp named
      have := known c hc
      rw [Declares, ← ctor?, before] at this
      cases this

end

/-- The constructors of a data type, of one that has a new constructor in front of a name that is
taken, and of one that has the new name. -/
def clashingTypes (i : Fin 3) : List Ctor :=
  match i with
  | 0 => [⟨"A", 0, [], ⟨0, "First"⟩⟩]
  | 1 => [⟨"B", 0, [], ⟨1, "Second"⟩⟩, ⟨"A", 1, [], ⟨1, "Second"⟩⟩]
  | 2 => [⟨"B", 0, [], ⟨2, "Third"⟩⟩]

/-- The second type is refused behind the first one, and its new constructor stays. -/
theorem refused_registration_keeps_new : ∃ img img' e,
    (start Registry.empty 0 .plain).registerCtors (clashingTypes 0) = (.ok (), img) ∧
      img.registerCtors (clashingTypes 1) = (.error e, img') ∧
      ∃ front, img.Refused (clashingTypes 1) e img' front ∧
        (∀ name, img'.ctor? name = (img.ctor? name).or (front.find? (·.name == name))) ∧
        (img.Indistinguishable img' ↔ ∀ c ∈ front, img.Declares c) :=
  ⟨_, _, _, rfl, rfl, refused_registration_keeps_front rfl⟩

/-- After the refusal a value of the second type can be constructed, and the third type is refused.
Without the refused registration the constructor is unknown and the third type is accepted. -/
theorem refused_registration_leaks : ∃ img img' e,
    (start Registry.empty 0 .plain).registerCtors (clashingTypes 0) = (.ok (), img) ∧
      img.registerCtors (clashingTypes 1) = (.error e, img') ∧
      Value.construct img.ctors "B" 0 ([] : List (Value Code)) = .error (.unknownCtor "B") ∧
      Value.construct img'.ctors "B" 0 ([] : List (Value Code)) =
        .ok (.data ⟨"B", 0, [], ⟨1, "Second"⟩⟩ []) ∧
      img.answers [.register (clashingTypes 2)] = [.ok ()] ∧
      img'.answers [.register (clashingTypes 2)] = [.error (.ctorTaken "B" "Second")] :=
  ⟨_, _, _, rfl, rfl, rfl, rfl, rfl, rfl⟩

end TensorCompiler.Linked.Image
