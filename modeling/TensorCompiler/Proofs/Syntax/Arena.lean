import TensorCompiler.Proofs.Lowering.Failure
import TensorCompiler.Syntax.Arena

/-!
# Modules in storage

Adding a global is two changes, a declaration and a definition, so it is all or nothing only because
the second one is never refused: the type of a function compared with itself is equal, or the
comparison panics at a null pointer in it.

Main statements: after every sequence of calls, with null pointers anywhere, the arena and the index
are inverse to each other, handles and functions stay what they are, and a call that is refused has
changed nothing; an addition is refused exactly if its name is declared. An addition that panics in
the comparison leaves its declaration, and no other call that panics leaves anything. Without null
pointers the storage is that of the module which the same calls make.
-/

namespace TensorCompiler

namespace TypePtr

mutual

/-- A null pointer is in a type where the comparison of the type with itself follows it. Two null
pointers to data types are compared as pointers. -/
def hasNull : TypePtr → Bool
  | .absent | .tensor _ | .data _ => false
  | .null form => form != .data
  | .tuple fields => hasNulls fields
  | .func params result => hasNulls params || hasNull result

/-- A null pointer is in one of several types. -/
def hasNulls : List TypePtr → Bool
  | [] => false
  | t :: ts => hasNull t || hasNulls ts

end

mutual

/-- A type is equal to itself, or the comparison panics. -/
theorem equal?_self : (t : TypePtr) → t.equal? t = if t.hasNull then none else some true
  | .absent => rfl
  | .null form => by cases form <;> rfl
  | .tensor s => by simp [equal?, hasNull]
  | .tuple fields => by
      rw [equal?, hasNull]
      exact equals?_self fields
  | .func params result => by
      rw [equal?, hasNull, equals?_self params, equal?_self result]
      cases hasNulls params <;> simp
  | .data d => by simp [equal?, hasNull]

/-- Types are equal to themselves, one by one, up to the first comparison that panics. -/
theorem equals?_self : (ts : List TypePtr) →
    equals? ts ts = if hasNulls ts then none else some true
  | [] => rfl
  | t :: ts => by
      rw [equals?, if_pos rfl, hasNulls, equal?_self t, equals?_self ts]
      cases hasNull t <;> simp

end

end TypePtr

namespace Arena

variable {φ : Type}

/-! ### Changes of the storage -/

/-- The storage with one more global. -/
def extend (a : Arena φ) (name : String) : Arena φ :=
  { a with
    entries := a.entries ++ [⟨a.entries.length + 1, name, none⟩]
    index := a.index.insert name (a.entries.length + 1) }

/-- The storage with a function in the entry of a handle. -/
def fill (a : Arena φ) (id : Int) (d : StoredGlobal φ) (f : φ) : Arena φ :=
  { a with entries := a.entries.set (id - 1).toNat { d with function := some f } }

theorem definition_eq_some_iff {a : Arena φ} {id : Int} {d : StoredGlobal φ} :
    a.definition id = some d ↔ ∃ i : Nat, id = i + 1 ∧ a.entries[i]? = some d := by
  unfold definition
  constructor
  · intro found
    by_cases positive : id ≤ 0
    · simp [positive] at found
    · rw [if_neg positive] at found
      exact ⟨(id - 1).toNat, by omega, found⟩
  · rintro ⟨i, rfl, found⟩
    have place : ((i : Int) + 1 - 1).toNat = i := by omega
    rw [if_neg (by omega), place, found]

/-- The entries and the index are in step with each other. -/
structure Sound (a : Arena φ) : Prop where
  handles : ∀ (i : Nat) d, a.entries[i]? = some d → d.id = i + 1
  distinct : (a.entries.map StoredGlobal.name).Nodup
  index : ∀ name id, a.lookup name = some id ↔ ∃ d, a.definition id = some d ∧ d.name = name

/-- A later state of the storage: handles, names and functions stay. -/
structure Grows (a b : Arena φ) : Prop where
  lookup : ∀ name id, a.lookup name = some id → b.lookup name = some id
  definition : ∀ id d, a.definition id = some d → ∃ d', b.definition id = some d' ∧ d'.id = d.id ∧
    d'.name = d.name ∧ ∀ f, d.function = some f → d'.function = some f

theorem Grows.refl (a : Arena φ) : a.Grows a :=
  ⟨fun _ _ => id, fun _ d found => ⟨d, found, rfl, rfl, fun _ => id⟩⟩

theorem Grows.trans {a b c : Arena φ} (h : a.Grows b) (h' : b.Grows c) : a.Grows c := by
  refine ⟨fun name id found => h'.lookup name id (h.lookup name id found), fun id d found => ?_⟩
  obtain ⟨d', found', handle', name', function'⟩ := h.definition id d found
  obtain ⟨d'', found'', handle'', name'', function''⟩ := h'.definition id d' found'
  exact ⟨d'', found'', handle''.trans handle', name''.trans name',
    fun f defined => function'' f (function' f defined)⟩

/-- An arena that is sound and grown from another one. -/
structure Follows (a b : Arena φ) : Prop where
  sound : b.Sound
  grows : a.Grows b

variable {a b : Arena φ}

/-- A name without a handle is the name of no entry. -/
theorem Sound.not_mem (h : a.Sound) {name : String} (free : a.lookup name = none) :
    name ∉ a.entries.map StoredGlobal.name := by
  intro member
  obtain ⟨d, listed, rfl⟩ := List.mem_map.mp member
  obtain ⟨i, place⟩ := List.getElem?_of_mem listed
  have found : a.lookup d.name = some ((i : Int) + 1) :=
    (h.index _ _).mpr ⟨d, definition_eq_some_iff.mpr ⟨i, rfl, place⟩, rfl⟩
  rw [free] at found
  cases found

theorem definition_extend (a : Arena φ) (name : String) {id : Int} {d : StoredGlobal φ} :
    (a.extend name).definition id = some d ↔ a.definition id = some d ∨
      id = a.entries.length + 1 ∧ d = ⟨a.entries.length + 1, name, none⟩ := by
  rw [definition_eq_some_iff, definition_eq_some_iff]
  constructor
  · rintro ⟨i, rfl, found⟩
    rcases Nat.lt_or_ge i a.entries.length with inside | beyond
    · exact Or.inl ⟨i, rfl, by rwa [extend, List.getElem?_append_left inside] at found⟩
    · rw [extend, List.getElem?_append_right beyond, List.getElem?_singleton] at found
      split at found
      · rename_i last
        obtain rfl := Option.some.inj found
        exact Or.inr ⟨by omega, rfl⟩
      · cases found
  · rintro (⟨i, rfl, found⟩ | ⟨rfl, rfl⟩)
    · refine ⟨i, rfl, ?_⟩
      rw [extend, List.getElem?_append_left (List.getElem?_eq_some_iff.mp found).1]
      exact found
    · exact ⟨a.entries.length, rfl, by simp [extend]⟩

/-- A new name takes the next handle. -/
theorem Sound.extend (h : a.Sound) {name : String} (free : a.lookup name = none) :
    a.Follows (a.extend name) := by
  have beyond {d : StoredGlobal φ} (found : a.definition (a.entries.length + 1) = some d) :
      False := by
    obtain ⟨i, place, entry⟩ := definition_eq_some_iff.mp found
    have := (List.getElem?_eq_some_iff.mp entry).1
    omega
  have lookup (n : String) : (a.extend name).lookup n =
      if name = n then some ((a.entries.length : Int) + 1) else a.lookup n := by
    rw [Arena.lookup, Arena.extend, Std.HashMap.getElem?_insert]
    simp [Arena.lookup]
  refine ⟨⟨?_, ?_, ?_⟩, ⟨?_, ?_⟩⟩
  · intro i d found
    have : (a.extend name).definition ((i : Int) + 1) = some d :=
      definition_eq_some_iff.mpr ⟨i, rfl, found⟩
    rcases (definition_extend a name).mp this with old | ⟨place, rfl⟩
    · obtain ⟨j, place, entry⟩ := definition_eq_some_iff.mp old
      rw [h.handles j d entry]
      omega
    · exact place.symm
  · rw [Arena.extend, List.map_append]
    exact List.nodup_append'.mpr ⟨h.distinct, List.nodup_singleton _, by
      simpa using h.not_mem free⟩
  · intro n id
    rw [lookup]
    by_cases same : name = n
    · subst same
      rw [if_pos rfl]
      constructor
      · intro place
        obtain rfl := Option.some.inj place
        exact ⟨_, (definition_extend a name).mpr (Or.inr ⟨rfl, rfl⟩), rfl⟩
      · rintro ⟨d, found, named⟩
        rcases (definition_extend a name).mp found with old | ⟨rfl, -⟩
        · rw [(h.index name id).mpr ⟨d, old, named⟩] at free
          cases free
        · rfl
    · rw [if_neg same, h.index]
      constructor
      · rintro ⟨d, found, named⟩
        exact ⟨d, (definition_extend a name).mpr (Or.inl found), named⟩
      · rintro ⟨d, found, named⟩
        rcases (definition_extend a name).mp found with old | ⟨-, rfl⟩
        · exact ⟨d, old, named⟩
        · exact absurd named same
  · intro n id found
    rw [lookup]
    by_cases same : name = n
    · subst same
      rw [free] at found
      cases found
    · rw [if_neg same]
      exact found
  · intro id d found
    exact ⟨d, (definition_extend a name).mpr (Or.inl found), rfl, rfl, fun _ defined => defined⟩

/-- The entries with a function put into one of them. -/
theorem definition_fill {id : Int} {d : StoredGlobal φ} (found : a.definition id = some d) (f : φ)
    (other : Int) : (a.fill id d f).definition other =
      if other = id then some { d with function := some f } else a.definition other := by
  obtain ⟨i, rfl, entry⟩ := definition_eq_some_iff.mp found
  have place : ((i : Int) + 1 - 1).toNat = i := by omega
  unfold definition
  by_cases positive : other ≤ 0
  · rw [if_pos positive, if_neg (by omega), if_pos positive]
  · have inside := (List.getElem?_eq_some_iff.mp entry).1
    rw [if_neg positive, if_neg positive, Arena.fill, place]
    by_cases same : other = i + 1
    · subst same
      rw [if_pos rfl, place, List.getElem?_set_self inside]
    · rw [if_neg same, List.getElem?_set_ne (by omega)]

/-- A function is put where there was none. -/
theorem Sound.fill (h : a.Sound) {id : Int} {d : StoredGlobal φ} (found : a.definition id = some d)
    (empty : d.function = none) (f : φ) : a.Follows (a.fill id d f) := by
  have handle (other : Int) (e : StoredGlobal φ)
      (there : (a.fill id d f).definition other = some e) :
      ∃ e', a.definition other = some e' ∧ e'.id = e.id ∧ e'.name = e.name := by
    rw [definition_fill found] at there
    by_cases same : other = id
    · rw [if_pos same] at there
      obtain rfl := Option.some.inj there
      exact ⟨d, same ▸ found, rfl, rfl⟩
    · rw [if_neg same] at there
      exact ⟨e, there, rfl, rfl⟩
  have later (other : Int) (e : StoredGlobal φ) (there : a.definition other = some e) :
      ∃ e', (a.fill id d f).definition other = some e' ∧ e'.id = e.id ∧ e'.name = e.name ∧
        ∀ g, e.function = some g → e'.function = some g := by
    rw [definition_fill found]
    by_cases same : other = id
    · rw [if_pos same]
      rw [same, found] at there
      obtain rfl := Option.some.inj there
      exact ⟨_, rfl, rfl, rfl, fun g defined => by rw [empty] at defined; cases defined⟩
    · rw [if_neg same]
      exact ⟨e, there, rfl, rfl, fun _ defined => defined⟩
  refine ⟨⟨?_, ?_, ?_⟩, ⟨fun _ _ there => there, later⟩⟩
  · intro i e entry
    obtain ⟨e', there, same, -⟩ := handle _ e (definition_eq_some_iff.mpr ⟨i, rfl, entry⟩)
    obtain ⟨j, place, entry'⟩ := definition_eq_some_iff.mp there
    rw [← same, h.handles j e' entry']
    omega
  · have names : (a.fill id d f).entries.map StoredGlobal.name =
        a.entries.map StoredGlobal.name := by
      obtain ⟨i, rfl, entry⟩ := definition_eq_some_iff.mp found
      have place : ((i : Int) + 1 - 1).toNat = i := by omega
      rw [Arena.fill, place, List.map_set]
      refine List.ext_getElem? fun j => ?_
      rw [List.getElem?_set]
      split
      · rename_i same
        subst same
        have inside := (List.getElem?_eq_some_iff.mp entry).1
        rw [List.getElem?_map, entry, if_pos (by simpa using inside)]
        rfl
      · rfl
    rw [names]
    exact h.distinct
  · intro n other
    change a.lookup n = some other ↔ _
    rw [h.index]
    constructor
    · rintro ⟨e, there, rfl⟩
      obtain ⟨e', there', -, named, -⟩ := later other e there
      exact ⟨e', there', named⟩
    · rintro ⟨e, there, rfl⟩
      obtain ⟨e', there', -, named⟩ := handle other e there
      exact ⟨e', there', named⟩

/-! ### Calls -/

theorem declare_forms (a : Arena φ) (name : String) (type : Option FuncPtr) :
    (∃ id, a.lookup name = some id ∧
      a.declare name type = (.refused (.alreadyDeclared name a.name), a)) ∨
    a.lookup name = none ∧ a.declare name type = (.returned ⟨name, type⟩, a.extend name) := by
  unfold declare
  cases found : a.lookup name with
  | some id => exact Or.inl ⟨id, rfl, rfl⟩
  | none => exact Or.inr ⟨rfl, rfl⟩

variable [Typed φ]

/-- A definition fills an empty entry, or it changes nothing. -/
theorem define_forms (a : Arena φ) (g : Option GlobalPtr) (f : φ) :
    (∃ e, a.define g f = (.refused e, a)) ∨ a.define g f = (.panicked, a) ∨
    ∃ id d, a.definition id = some d ∧ d.function = none ∧
      a.define g f = (.returned (), a.fill id d f) := by
  cases g with
  | none => exact Or.inr (Or.inl rfl)
  | some g =>
      unfold define
      dsimp only
      cases found : a.definition ((a.lookup g.name).getD 0) with
      | none => exact Or.inl ⟨_, rfl⟩
      | some d =>
          dsimp only
          cases empty : d.function with
          | some old => exact Or.inl ⟨_, rfl⟩
          | none =>
              rw [if_neg (by simp)]
              cases Typed.type? f with
              | none => exact Or.inr (Or.inl rfl)
              | some t =>
                  dsimp only
                  rcases (FuncPtr.ofOption g.type).equal? t.ptr with _ | _ | _
                  · exact Or.inr (Or.inl rfl)
                  · cases (FuncPtr.ofOption g.type).text? <;> cases t.ptr.text?
                    · exact Or.inr (Or.inl rfl)
                    · exact Or.inr (Or.inl rfl)
                    · exact Or.inr (Or.inl rfl)
                    · exact Or.inl ⟨_, rfl⟩
                  · exact Or.inr (Or.inr ⟨_, d, found, empty, rfl⟩)

/-- A new global takes its function, unless the comparison of its type with itself panics. -/
theorem define_extend {a : Arena φ} {name : String} {f : φ} {t : FuncPtr}
    (type : Typed.type? f = some t) :
    (a.extend name).define (some ⟨name, some t⟩) f =
      if t.ptr.hasNull then (.panicked, a.extend name)
      else (.returned (),
        (a.extend name).fill (a.entries.length + 1) ⟨a.entries.length + 1, name, none⟩ f) := by
  have handle : (a.extend name).lookup name = some ((a.entries.length : Int) + 1) := by
    simp [extend, lookup]
  have entry := (definition_extend a name).mpr (Or.inr ⟨rfl, rfl⟩)
  unfold define
  simp only [handle, Option.getD_some, entry, type, FuncPtr.ofOption, TypePtr.equal?_self]
  cases t.ptr.hasNull <;> rfl

/-- What an addition comes to. -/
theorem add_forms (a : Arena φ) (name : String) (f : φ) :
    (Typed.type? f = none ∧ a.add name f = (.panicked, a)) ∨
    ∃ t, Typed.type? f = some t ∧
      ((∃ id, a.lookup name = some id ∧
          a.add name f = (.refused (.alreadyDeclared name a.name), a)) ∨
        a.lookup name = none ∧ t.ptr.hasNull = true ∧ a.add name f = (.panicked, a.extend name) ∨
        a.lookup name = none ∧ t.ptr.hasNull = false ∧ a.add name f = (.returned ⟨name, some t⟩,
          (a.extend name).fill (a.entries.length + 1) ⟨a.entries.length + 1, name, none⟩ f)) := by
  unfold add
  cases type : Typed.type? f with
  | none => exact Or.inl ⟨rfl, rfl⟩
  | some t =>
      refine Or.inr ⟨t, rfl, ?_⟩
      dsimp only
      rcases declare_forms a name (some t) with ⟨id, found, run⟩ | ⟨free, run⟩
      · rw [run]
        exact Or.inl ⟨id, found, rfl⟩
      · rw [run]
        dsimp only
        rw [define_extend type]
        cases null : t.ptr.hasNull
        · exact Or.inr (Or.inr ⟨free, rfl, rfl⟩)
        · exact Or.inr (Or.inl ⟨free, rfl, rfl⟩)

/-- A call keeps the storage sound, whatever it comes to. -/
theorem Sound.call (h : a.Sound) (c : Call φ) : a.Follows (a.call c).2 := by
  have same : a.Follows a := ⟨h, .refl a⟩
  cases c with
  | declare name type =>
      rcases declare_forms a name type with ⟨id, -, run⟩ | ⟨free, run⟩
      · simpa only [Arena.call, run] using same
      · simpa only [Arena.call, run] using h.extend free
  | define g f =>
      rcases define_forms a g f with ⟨e, run⟩ | run | ⟨id, d, found, empty, run⟩
      · simpa only [Arena.call, run] using same
      · simpa only [Arena.call, run] using same
      · simpa only [Arena.call, run] using h.fill found empty f
  | add name f =>
      rcases add_forms a name f with
        ⟨-, run⟩ | ⟨t, -, ⟨id, -, run⟩ | ⟨free, -, run⟩ | ⟨free, -, run⟩⟩
      · simpa only [Arena.call, run] using same
      · simpa only [Arena.call, run] using same
      · simpa only [Arena.call, run] using h.extend free
      · have first := h.extend free
        have second := first.sound.fill ((definition_extend a name).mpr (Or.inr ⟨rfl, rfl⟩)) rfl f
        simpa only [Arena.call, run] using
          (⟨second.sound, first.grows.trans second.grows⟩ : a.Follows _)

/-- Calls keep the storage sound, whatever they come to. -/
theorem Sound.after (h : a.Sound) (calls : List (Call φ)) : a.Follows (a.after calls) := by
  induction calls generalizing a with
  | nil => exact ⟨h, .refl a⟩
  | cons c calls ih =>
      have step := h.call c
      have rest := ih step.sound
      exact ⟨rest.sound, step.grows.trans rest.grows⟩

end Arena

/-! ### Storage without null pointers -/

namespace Ty

mutual

/-- A type behind pointers. What was not typed is absent. -/
def ptr : Ty → TypePtr
  | .unknown => .absent
  | .tensor s => .tensor s
  | .tuple fields => .tuple (ptrs fields)
  | .func params result => .func (ptrs params) (ptr result)
  | .data d => .data d

/-- Several types behind pointers. -/
def ptrs : List Ty → List TypePtr
  | [] => []
  | t :: ts => ptr t :: ptrs ts

end

theorem ptrs_eq_map (ts : List Ty) : ptrs ts = ts.map ptr := by
  induction ts with
  | nil => rfl
  | cons t ts ih => rw [ptrs, ih, List.map_cons]

theorem length_eq_of_beqs {as bs : List Ty} (h : beqs as bs = true) : as.length = bs.length :=
  congrArg List.length (eq_of_beqs as bs h)

mutual

/-- Without null pointers a comparison has an answer. -/
theorem equal?_ptr : (a b : Ty) → a.ptr.equal? b.ptr = some (a.beq b)
  | .unknown, b => by cases b <;> rfl
  | .tensor s, b => by cases b <;> simp [ptr, TypePtr.equal?, beq, TypePtr.form?]
  | .tuple as, b => by
      cases b with
      | tuple bs => exact equals?_ptrs as bs
      | _ => simp [ptr, TypePtr.equal?, beq, TypePtr.form?]
  | .func ps r, b => by
      cases b with
      | func qs t =>
          rw [ptr, ptr, TypePtr.equal?, equals?_ptrs ps qs, beq]
          cases beqs ps qs
          · rfl
          · exact equal?_ptr r t
      | _ => simp [ptr, TypePtr.equal?, beq, TypePtr.form?]
  | .data d, b => by cases b <;> simp [ptr, TypePtr.equal?, beq]

/-- Without null pointers a comparison of lists has an answer. -/
theorem equals?_ptrs : (as bs : List Ty) →
    TypePtr.equals? (ptrs as) (ptrs bs) = some (beqs as bs)
  | [], [] => rfl
  | [], b :: bs => rfl
  | a :: as, [] => rfl
  | a :: as, b :: bs => by
      rw [ptrs, ptrs, TypePtr.equals?, beqs, ptrs_eq_map, ptrs_eq_map, List.length_map,
        List.length_map, ← ptrs_eq_map, ← ptrs_eq_map, equal?_ptr a b, equals?_ptrs as bs]
      by_cases length : as.length = bs.length
      · rw [if_pos length]
        cases a.beq b <;> rfl
      · have different : beqs as bs = false :=
          Bool.eq_false_iff.mpr fun same => length (length_eq_of_beqs same)
        rw [if_neg length, different, Bool.and_false]

end

mutual

/-- Without null pointers a type is printed. -/
theorem text?_ptr : (t : Ty) → t.ptr.text? = some t.text
  | .unknown | .tensor _ | .data _ => rfl
  | .tuple fields => by rw [ptr, TypePtr.text?, texts?_ptrs fields, text]; rfl
  | .func params result => by
      rw [ptr, TypePtr.text?, texts?_ptrs params, text?_ptr result, text]
      rfl

/-- Without null pointers several types are printed. -/
theorem texts?_ptrs : (ts : List Ty) → TypePtr.texts? (ptrs ts) = some (texts ts)
  | [] => rfl
  | t :: ts => by
      rw [ptrs, TypePtr.texts?, text?_ptr t, texts?_ptrs ts, texts]
      rfl

end

end Ty

namespace Module

/-- What can be asked of a module. -/
inductive Call where
  | declare (name : String) (params : List Ty) (result : Ty)
  | define (name : String) (params : List Ty) (result : Ty) (f : Function)
  | add (name : String) (f : Function)

variable {m n : Module} {name : String} {ty : Ty} {f : Function} {g : GlobalRef}

/-- A call on a module: the global that it declares, and the changed module. -/
def call (m : Module) : Call → Except ModuleError (Option GlobalRef × Module)
  | .declare name params result =>
    (m.declare name (.func params result)).map fun p => (some p.1, p.2)
  | .define name params result f =>
    (m.define ⟨name, .func params result⟩ f).map fun n => (none, n)
  | .add name f => (m.add name f).map fun p => (some p.1, p.2)

/-- The module after several calls. A call that is refused is passed over. -/
def after (m : Module) (calls : List Call) : Module :=
  calls.foldl (fun m c => ((m.call c).toOption.map Prod.snd).getD m) m

/-- A name has a handle exactly if it is declared. -/
theorem lookup_eq_none_iff : m.lookup name = none ↔ m.find name = none := by
  rw [find_eq_none_iff, lookup_eq_findIdx?, Option.map_eq_none_iff, List.findIdx?_eq_none_iff]
  constructor
  · intro all declared
    exact absurd (all name declared) (by simp)
  · intro free other declared
    exact beq_eq_false_iff_ne.mpr fun same => free (same ▸ declared)

/-- A new name takes the next handle, and the others keep theirs. -/
theorem lookup_snoc (free : m.find name = none) (other : String) :
    lookup { m with defs := m.defs ++ [⟨name, none⟩] } other =
      if name = other then some (m.defs.length + 1) else m.lookup other := by
  have unknown : m.defs.findIdx? (·.name == name) = none :=
    Option.map_eq_none_iff.mp (lookup_eq_none_iff.mpr free)
  rw [lookup, lookup, List.findIdx?_append]
  by_cases same : name = other
  · subst same
    simp [unknown]
  · cases m.defs.findIdx? (·.name == other) <;> simp [same]

/-- The place of a name is filled at its handle. -/
theorem fill_eq_set {ds : List Definition} {i : Nat}
    (place : ds.findIdx? (·.name == name) = some i) : fill name f ds = ds.set i ⟨name, some f⟩ := by
  induction ds generalizing i with
  | nil => cases place
  | cons d ds ih =>
      by_cases named : d.name = name
      · simp only [List.findIdx?_cons, named, beq_self_eq_true, if_true, Option.some.injEq] at place
        simp [fill, named, ← place]
      · simp only [List.findIdx?_cons, beq_iff_eq, named, if_false] at place
        obtain ⟨j, rest, rfl⟩ := Option.map_eq_some_iff.mp place
        simp [fill, named, ih rest]

/-- Filling a place leaves all handles. -/
theorem lookup_fill (m : Module) (name : String) (f : Function) (other : String) :
    lookup { m with defs := fill name f m.defs } other = m.lookup other := by
  rw [lookup_eq_findIdx?, lookup_eq_findIdx?, globalNames, fill_names]
  rfl

/-- A new name takes its function, since the type of the function is its own. -/
theorem add_of_free (free : m.find name = none) (f : Function) :
    m.add name f =
      .ok (⟨name, f.ty⟩, { m with defs := fill name f (m.defs ++ [⟨name, none⟩]) }) := by
  have found : find { m with defs := m.defs ++ [⟨name, none⟩] } name = some ⟨name, none⟩ := by
    rw [find] at free
    simp [find, free]
  rw [add, declare, free, if_neg (by simp), ok_bind]
  dsimp only
  rw [define, found]
  simp only [if_true, ok_bind]
  rfl

/-- The place of a new name is the last one. -/
theorem findIdx?_snoc (free : m.find name = none) :
    (m.defs ++ [(⟨name, none⟩ : Definition)]).findIdx? (·.name == name) = some m.defs.length := by
  have unknown : m.defs.findIdx? (·.name == name) = none :=
    Option.map_eq_none_iff.mp (lookup_eq_none_iff.mpr free)
  simp [List.findIdx?_append, unknown]

end Module

/-- A reference to a global with a pointer to its type, which is the type of a function. -/
def GlobalRef.ptr (g : GlobalRef) : GlobalPtr :=
  ⟨g.name, match g.ty with
    | .func params result => some ⟨Ty.ptrs params, result.ptr⟩
    | _ => none⟩

instance : Typed Function where
  type? f := some ⟨Ty.ptrs (f.params.map Var.ty), f.ret.ptr⟩

/-- A call on storage without null pointers. -/
def Module.Call.ptr : Module.Call → Arena.Call Function
  | .declare name params result => .declare name (some ⟨Ty.ptrs params, result.ptr⟩)
  | .define name params result f => .define (some ⟨name, some ⟨Ty.ptrs params, result.ptr⟩⟩) f
  | .add name f => .add name f

namespace Arena

/-- The entries of definitions in order. -/
def stored (defs : List Definition) : List (StoredGlobal Function) :=
  defs.mapIdx fun i d => ⟨i + 1, d.name, d.function⟩

/-- The storage holds a module: the entries are its definitions with their handles, and the index
has the handle of every name. -/
structure Holds (a : Arena Function) (m : Module) : Prop where
  name : a.name = m.name
  entries : a.entries = stored m.defs
  index : ∀ name, a.lookup name = (m.lookup name).map Int.ofNat

/-- What a call does on the storage of a module, by what it does on the module: the same answer, and
the changed module is stored. If it is refused, the storage is the same. -/
inductive Mirrors (a : Arena Function) : CallEnd (Option GlobalPtr) × Arena Function →
    Except ModuleError (Option GlobalRef × Module) → Prop
  | ok {g b n} (holds : Holds b n) : Mirrors a (.returned (g.map GlobalRef.ptr), b) (.ok (g, n))
  | error (e) : Mirrors a (.refused e, a) (.error e)

variable {a b : Arena Function} {m n : Module}

theorem holds_new (name : String) : (new name).Holds (.empty name) :=
  ⟨rfl, rfl, fun _ => by simp [new, lookup, Module.empty, Module.lookup]⟩

/-- The entry of a handle is its definition. -/
theorem Holds.definition (h : a.Holds m) (id : Int) :
    a.definition id = (m.definition id.toNat).map fun d => ⟨id, d.name, d.function⟩ := by
  unfold Arena.definition
  by_cases positive : id ≤ 0
  · rw [if_pos positive, Int.toNat_of_nonpos positive]
    rfl
  · obtain ⟨i, rfl⟩ : ∃ i : Nat, id = i + 1 := ⟨(id - 1).toNat, by omega⟩
    have place : (((i : Int) + 1 - 1)).toNat = i := by omega
    have handle : ((i : Int) + 1).toNat = i + 1 := by omega
    rw [if_neg positive, place, handle, h.entries, stored, List.getElem?_mapIdx]
    rfl

/-- The entry of a name is its definition. -/
theorem Holds.definition_lookup (h : a.Holds m) (name : String) :
    a.definition ((a.lookup name).getD 0) =
      (m.find name).map fun d => ⟨(a.lookup name).getD 0, d.name, d.function⟩ := by
  rw [h.definition, Module.find_eq_lookup, h.index]
  cases m.lookup name <;> rfl

/-- A name has a handle exactly if it is declared. -/
theorem Holds.lookup_eq_none_iff (h : a.Holds m) (name : String) :
    a.lookup name = none ↔ m.find name = none := by
  rw [h.index, Option.map_eq_none_iff, Module.lookup_eq_none_iff]

/-- The storage of a module with one more global. -/
theorem Holds.extend (h : a.Holds m) {name : String} (free : m.find name = none) :
    (a.extend name).Holds { m with defs := m.defs ++ [⟨name, none⟩] } := by
  have count : a.entries.length = m.defs.length := by
    rw [h.entries, stored, List.length_mapIdx]
  refine ⟨h.name, ?_, ?_⟩
  · simp only [Arena.extend, h.entries, stored, List.mapIdx_append, List.length_mapIdx]
    simp
  · intro other
    rw [Module.lookup_snoc free, lookup, Arena.extend, Std.HashMap.getElem?_insert, count]
    by_cases same : name = other
    · simp [same]
    · rw [if_neg (by simpa using same), if_neg same]
      exact h.index other

/-- The storage of a module with a function in an empty place. -/
theorem Holds.fill (h : a.Holds m) {name : String} {i : Nat} {d : StoredGlobal Function}
    (place : m.defs.findIdx? (·.name == name) = some i) (handle : d.id = i + 1)
    (named : d.name = name) (f : Function) :
    (a.fill (i + 1) d f).Holds { m with defs := Module.fill name f m.defs } := by
  refine ⟨h.name, ?_, ?_⟩
  · have position : ((i : Int) + 1 - 1).toNat = i := by omega
    rw [Module.fill_eq_set place, Arena.fill, position, h.entries, stored, stored, List.mapIdx_set,
      handle, named]
  · intro other
    rw [Module.lookup_fill]
    exact h.index other

theorem declare_mirrors (h : a.Holds m) (name : String) (params : List Ty) (result : Ty) :
    a.Mirrors (a.call (Module.Call.ptr (.declare name params result)))
      (m.call (.declare name params result)) := by
  simp only [Module.Call.ptr, call, Module.call, Module.declare]
  rcases declare_forms a name (some ⟨Ty.ptrs params, result.ptr⟩) with
    ⟨id, found, run⟩ | ⟨free, run⟩
  · have declared : (m.find name).isSome = true := by
      rw [← Option.ne_none_iff_isSome, Ne, ← h.lookup_eq_none_iff, found]
      exact Option.some_ne_none id
    rw [run, if_pos declared, h.name]
    exact .error _
  · have free' := (h.lookup_eq_none_iff name).mp free
    rw [run, free', if_neg (by simp)]
    exact .ok (g := some ⟨name, .func params result⟩) (h.extend free')

theorem define_mirrors (h : a.Holds m) (name : String) (params : List Ty) (result : Ty)
    (f : Function) :
    a.Mirrors (a.call (Module.Call.ptr (.define name params result f)))
      (m.call (.define name params result f)) := by
  have entry := h.definition_lookup name
  simp only [Module.Call.ptr, call, Module.call]
  cases found : m.find name with
  | none =>
      rw [found] at entry
      simp only [define, entry, Module.define, found, h.name, Option.map_none, CallEnd.map]
      exact .error _
  | some d =>
      obtain ⟨i, place⟩ : ∃ i, m.defs.findIdx? (·.name == name) = some i := by
        refine Option.ne_none_iff_exists'.mp fun absent => ?_
        rw [Module.lookup_eq_none_iff.mp (Option.map_eq_none_iff.mpr absent)] at found
        cases found
      have handle : (a.lookup name).getD 0 = (i : Int) + 1 := by
        rw [h.index, Module.lookup, place]
        rfl
      obtain ⟨other, function⟩ := d
      obtain rfl : other = name := by simpa using List.find?_some found
      rw [found, handle, Option.map_some] at entry
      cases function with
      | some old =>
          simp only [define, handle, entry, Module.define, found, h.name, Option.isSome_some,
            if_true, CallEnd.map]
          exact .error _
      | none =>
          have compared : (FuncPtr.ptr ⟨Ty.ptrs params, result.ptr⟩).equal?
              (FuncPtr.ptr ⟨Ty.ptrs (f.params.map Var.ty), f.ret.ptr⟩) =
                some ((Ty.func params result).beq f.ty) :=
            Ty.equal?_ptr (.func params result) f.ty
          simp only [define, handle, entry, Module.define, found, Option.isSome_none,
            Bool.false_eq_true, if_false, Typed.type?, FuncPtr.ofOption, compared]
          by_cases same : Ty.func params result = f.ty
          · rw [same, Ty.beq_self, if_pos rfl]
            exact .ok (g := none) (h.fill (d := ⟨i + 1, other, none⟩) place rfl rfl f)
          · have different : (Ty.func params result).beq f.ty = false :=
              Bool.eq_false_iff.mpr fun equal => same (Ty.eq_of_beq _ _ equal)
            have declared : (FuncPtr.ptr ⟨Ty.ptrs params, result.ptr⟩).text? =
                some (Ty.func params result).text := Ty.text?_ptr (.func params result)
            have defined : (FuncPtr.ptr ⟨Ty.ptrs (f.params.map Var.ty), f.ret.ptr⟩).text? =
                some f.ty.text := Ty.text?_ptr f.ty
            rw [different, if_neg same]
            simp only [declared, defined]
            exact .error _

theorem hasNull_ptr (t : Ty) : t.ptr.hasNull = false := by
  have equal := TypePtr.equal?_self t.ptr
  rw [Ty.equal?_ptr, Ty.beq_self] at equal
  cases null : t.ptr.hasNull
  · rfl
  · rw [null] at equal
    cases equal

theorem add_mirrors (h : a.Holds m) (name : String) (f : Function) :
    a.Mirrors (a.call (Module.Call.ptr (.add name f))) (m.call (.add name f)) := by
  simp only [Module.Call.ptr, call, Module.call]
  rcases add_forms a name f with ⟨type, -⟩ |
    ⟨t, type, ⟨id, found, run⟩ | ⟨-, null, -⟩ | ⟨free, -, run⟩⟩
  · cases type
  · have declared : (m.find name).isSome = true := by
      rw [← Option.ne_none_iff_isSome, Ne, ← h.lookup_eq_none_iff, found]
      exact Option.some_ne_none id
    rw [run, Module.add, Module.declare, if_pos declared, h.name]
    exact .error _
  · obtain rfl := Option.some.inj type
    have none := hasNull_ptr f.ty
    have pointer : f.ty.ptr = FuncPtr.ptr ⟨Ty.ptrs (f.params.map Var.ty), f.ret.ptr⟩ := rfl
    rw [pointer, null] at none
    cases none
  · obtain rfl := Option.some.inj type
    have free' := (h.lookup_eq_none_iff name).mp free
    have count : a.entries.length = m.defs.length := by
      rw [h.entries, stored, List.length_mapIdx]
    rw [run, Module.add_of_free free', count]
    refine .ok (g := some ⟨name, f.ty⟩) ?_
    exact (h.extend free').fill (Module.findIdx?_snoc free') rfl rfl f

/-- A call on storage does what it does on the module. -/
theorem call_mirrors (h : a.Holds m) (c : Module.Call) : a.Mirrors (a.call c.ptr) (m.call c) := by
  cases c with
  | declare name params result => exact declare_mirrors h name params result
  | define name params result f => exact define_mirrors h name params result f
  | add name f => exact add_mirrors h name f

/-- Without null pointers the storage is that of the module which the same calls make, and gives the
same answers. -/
theorem storage_of_module (name : String) (calls : List Module.Call) :
    let a := (new name).after (calls.map Module.Call.ptr)
    let m := (Module.empty name).after calls
    a.Holds m ∧ ∀ c, a.Mirrors (a.call (Module.Call.ptr c)) (m.call c) := by
  intro a m
  have holds : a.Holds m := by
    suffices ∀ (a : Arena Function) (m : Module), a.Holds m →
        (a.after (calls.map Module.Call.ptr)).Holds (m.after calls) from this _ _ (holds_new name)
    induction calls with
    | nil => exact fun _ _ h => h
    | cons c calls ih =>
        intro a m h
        have step := call_mirrors h c
        simp only [List.map_cons, after, Module.after, List.foldl_cons]
        generalize m.call c = q at step ⊢
        generalize a.call c.ptr = r at step ⊢
        cases step with
        | error e => exact ih a m h
        | ok holds => exact ih _ _ holds
  exact ⟨holds, call_mirrors holds⟩

end Arena
end TensorCompiler
