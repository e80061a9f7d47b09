import Mathlib.Data.List.Forall2
import TensorCompiler.Proofs.Meaning.Evaluator
import TensorCompiler.Proofs.Outcome

/-!
# Related values

Two values with different code in their functions are related if they have one shape, equal tensors
and constructors, and related code in equal places. Related values print alike, what a program does
to a value without calling it has related results, and a function of the host does not tell related
values apart.
-/

namespace TensorCompiler

variable {φ ψ : Type}

namespace Value

section

variable (R : φ → ψ → Prop)

mutual

/-- Values that differ in the code of functions only, by code that is related. -/
inductive Rel : Value φ → Value ψ → Prop
  | absent : Rel .absent .absent
  | tensor (cell : Cell) : Rel (.tensor cell) (.tensor cell)
  | tuple {xs ys} (fields : RelAll xs ys) : Rel (.tuple xs) (.tuple ys)
  | data (c : Ctor) {xs ys} (fields : RelAll xs ys) : Rel (.data c xs) (.data c ys)
  | func (name : String) (arity : Int) {c d} (code : R c d) :
      Rel (.func name arity c) (.func name arity d)

/-- Lists of values related one by one. -/
inductive RelAll : List (Value φ) → List (Value ψ) → Prop
  | nil : RelAll [] []
  | cons {x y xs ys} (head : Rel x y) (tail : RelAll xs ys) : RelAll (x :: xs) (y :: ys)

end

end

variable {R : φ → ψ → Prop}

mutual

/-- Related values stay related under a weaker relation of codes. -/
theorem Rel.mono {R' : φ → ψ → Prop} (h : ∀ c d, R c d → R' c d) {x : Value φ}
    {y : Value ψ} : Rel R x y → Rel R' x y
  | .absent => .absent
  | .tensor cell => .tensor cell
  | .tuple fields => .tuple (RelAll.mono h fields)
  | .data c fields => .data c (RelAll.mono h fields)
  | .func name arity code => .func name arity (h _ _ code)

theorem RelAll.mono {R' : φ → ψ → Prop} (h : ∀ c d, R c d → R' c d)
    {xs : List (Value φ)} {ys : List (Value ψ)} : RelAll R xs ys → RelAll R' xs ys
  | .nil => .nil
  | .cons head tail => .cons (Rel.mono h head) (RelAll.mono h tail)

end

mutual

/-- Related values print alike. -/
theorem Rel.text_eq {x : Value φ} {y : Value ψ} : Rel R x y → x.text = y.text
  | .absent => rfl
  | .tensor cell => rfl
  | .tuple fields => by rw [text, text, RelAll.texts_eq fields]
  | .data c .nil => rfl
  | .data c (.cons head tail) => by
      rw [text, text, Rel.text_eq head, RelAll.texts_eq tail]
  | .func name arity code => rfl

theorem RelAll.texts_eq {xs : List (Value φ)} {ys : List (Value ψ)} :
    RelAll R xs ys → texts xs = texts ys
  | .nil => rfl
  | .cons head tail => by rw [texts, texts, Rel.text_eq head, RelAll.texts_eq tail]

end

/-- Reports show related values alike. -/
theorem Rel.shown_eq {x : Value φ} {y : Value ψ} (h : Rel R x y) : x.shown = y.shown := by
  have text := h.text_eq
  cases h with
  | absent => rfl
  | tensor | tuple | data | func =>
      simp only [shown, formName]
      rw [text]

theorem RelAll.length_eq {xs : List (Value φ)} {ys : List (Value ψ)} (h : RelAll R xs ys) :
    xs.length = ys.length := by
  induction xs generalizing ys with
  | nil =>
      cases h
      rfl
  | cons x xs ih =>
      cases h with
      | cons head tail => rw [List.length_cons, List.length_cons, ih tail]

theorem RelAll.append {xs xs' : List (Value φ)} {ys ys' : List (Value ψ)} (h : RelAll R xs ys)
    (h' : RelAll R xs' ys') : RelAll R (xs ++ xs') (ys ++ ys') := by
  induction xs generalizing ys with
  | nil =>
      cases h
      exact h'
  | cons x xs ih =>
      cases h with
      | cons head tail => exact .cons head (ih tail)

theorem RelAll.take {xs : List (Value φ)} {ys : List (Value ψ)} (h : RelAll R xs ys) (n : Nat) :
    RelAll R (xs.take n) (ys.take n) := by
  induction xs generalizing ys n with
  | nil =>
      cases h
      simp only [List.take_nil]
      exact .nil
  | cons x xs ih =>
      cases h with
      | cons head tail =>
          cases n with
          | zero => exact .nil
          | succ n => exact .cons head (ih tail n)

/-- Values at one place of related lists. -/
theorem RelAll.getElem? {xs : List (Value φ)} {ys : List (Value ψ)} (h : RelAll R xs ys)
    (i : Nat) : (xs[i]? = none ∧ ys[i]? = none) ∨
      ∃ x y, xs[i]? = some x ∧ ys[i]? = some y ∧ Rel R x y := by
  induction xs generalizing ys i with
  | nil =>
      cases h
      exact Or.inl ⟨rfl, rfl⟩
  | cons x xs ih =>
      cases h with
      | cons head tail =>
          cases i with
          | zero => exact Or.inr ⟨x, _, rfl, rfl, head⟩
          | succ i => exact ih tail i

mutual

/-- One value with two codes put into its functions. -/
theorem rel_map {χ : Type} {f : χ → φ} {g : χ → ψ} (h : ∀ c, R (f c) (g c)) :
    (x : Value χ) → Rel R (x.map f) (x.map g)
  | .absent => .absent
  | .tensor cell => .tensor cell
  | .tuple fields => .tuple (relAll_mapAll h fields)
  | .data c fields => .data c (relAll_mapAll h fields)
  | .func name arity code => .func name arity (h code)

theorem relAll_mapAll {χ : Type} {f : χ → φ} {g : χ → ψ} (h : ∀ c, R (f c) (g c)) :
    (xs : List (Value χ)) → RelAll R (mapAll f xs) (mapAll g xs)
  | [] => .nil
  | x :: xs => .cons (rel_map h x) (relAll_mapAll h xs)

end

/-! ### Values without functions -/

mutual

/-- A value in which no function occurs. -/
def isPlain : Value φ → Bool
  | .absent | .tensor _ => true
  | .tuple fields => arePlain fields
  | .data _ fields => arePlain fields
  | .func _ _ _ => false

/-- Values in which no function occurs. -/
def arePlain : List (Value φ) → Bool
  | [] => true
  | x :: xs => isPlain x && arePlain xs

end

mutual

/-- Related values without functions are one value, whatever code they may hold. -/
theorem Rel.map_eq {χ : Type} (f : φ → χ) (g : ψ → χ) {x : Value φ} {y : Value ψ} :
    Rel R x y → x.isPlain = true → x.map f = y.map g
  | .absent, _ => rfl
  | .tensor _, _ => rfl
  | .tuple fields, h => by rw [map, map, RelAll.mapAll_eq f g fields h]
  | .data _ fields, h => by rw [map, map, RelAll.mapAll_eq f g fields h]
  | .func _ _ _, h => by cases h

theorem RelAll.mapAll_eq {χ : Type} (f : φ → χ) (g : ψ → χ) {xs : List (Value φ)}
    {ys : List (Value ψ)} : RelAll R xs ys → arePlain xs = true → mapAll f xs = mapAll g ys
  | .nil, _ => rfl
  | .cons head tail, h => by
      simp only [arePlain, Bool.and_eq_true] at h
      rw [mapAll, mapAll, Rel.map_eq f g head h.1, RelAll.mapAll_eq f g tail h.2]

end

mutual

/-- A value with its own code in its functions is itself. -/
theorem map_id : (x : Value φ) → x.map id = x
  | .absent => rfl
  | .tensor _ => rfl
  | .tuple xs => by rw [map, mapAll_id xs]
  | .data _ xs => by rw [map, mapAll_id xs]
  | .func _ _ _ => rfl

theorem mapAll_id : (xs : List (Value φ)) → mapAll id xs = xs
  | [] => rfl
  | x :: xs => by rw [mapAll, map_id x, mapAll_id xs]

end

/-- Lists of values are mapped value by value. -/
theorem mapAll_eq_map {χ : Type} (f : φ → χ) (xs : List (Value φ)) :
    mapAll f xs = xs.map (map f) := by
  induction xs with
  | nil => rfl
  | cons x xs ih => rw [mapAll, ih, List.map_cons]

end Value

/-! ### Operations -/

namespace Value

variable {R : φ → ψ → Prop}

theorem Rel.truth_eq {x : Value φ} {y : Value ψ} (h : Rel R x y) : x.truth = y.truth := by
  have text := h.text_eq
  cases h with
  | absent => rfl
  | tensor => rfl
  | tuple | data | func =>
      simp only [truth]
      rw [text]

theorem Rel.field {x : Value φ} {y : Value ψ} (h : Rel R x y) (index : Int) :
    Agree (Rel R) (x.field index) (y.field index) := by
  have text := h.text_eq
  have shown := h.shown_eq
  cases h with
  | tuple fields =>
      simp only [Value.field]
      by_cases negative : index < 0
      · simp only [negative, if_true, text]
        exact .error _
      · simp only [negative, if_false, text]
        rcases fields.getElem? index.toNat with ⟨hx, hy⟩ | ⟨x, y, hx, hy, related⟩
        · rw [hx, hy]
          exact .error _
        · rw [hx, hy]
          exact .ok related
  | absent | tensor | data | func =>
      simp only [Value.field, shown]
      exact .error _

theorem RelAll.slots_eq {xs : List (Value φ)} {ys : List (Value ψ)} (h : RelAll R xs ys)
    (kernel : String) (index : Nat) : slots kernel index xs = slots kernel index ys := by
  induction xs generalizing ys index with
  | nil =>
      cases h
      rfl
  | cons x xs ih =>
      cases h with
      | cons head tail =>
          have shown := head.shown_eq
          cases head with
          | tensor cell =>
              rw [slots, slots, ih tail]
          | absent | tuple | data | func =>
              simp only [slots, shown]

theorem RelAll.kernelInputs {xs : List (Value φ)} {ys : List (Value ψ)} (h : RelAll R xs ys)
    (kernel : String) (conv : Lowered.Convention) :
    Agree (RelAll R) (Linked.Image.kernelInputs kernel conv xs)
      (Linked.Image.kernelInputs kernel conv ys) := by
  unfold Linked.Image.kernelInputs
  split
  · cases h with
    | nil => exact .error _
    | cons head tail =>
        cases tail with
        | nil =>
            have shown := head.shown_eq
            cases head with
            | tuple fields => exact .ok fields
            | absent | tensor | data | func =>
                simp only [shown]
                exact .error _
        | cons head' tail =>
            simp only [List.length_cons, tail.length_eq]
            exact .error _
  · exact .ok h

end Value

/-! ### Functions of the host -/

namespace Value

variable {R : φ → ψ → Prop}

mutual

/-- The host learns one thing of related values, and related codes. -/
theorem Rel.learn {x : Value φ} {y : Value ψ} : Rel R x y → ∀ {known known'},
    List.Forall₂ R known known' → (x.learn known).1 = (y.learn known').1 ∧
      List.Forall₂ R (x.learn known).2 (y.learn known').2
  | .absent => fun same => ⟨rfl, same⟩
  | .tensor _ => fun same => ⟨rfl, same⟩
  | .tuple fields => fun same => (RelAll.learn fields same).imp_left (congrArg _)
  | .data _ fields => fun same => (RelAll.learn fields same).imp_left (congrArg _)
  | .func _ _ code => fun same =>
      ⟨congrArg _ same.length_eq, List.rel_append same (.cons code .nil)⟩

theorem RelAll.learn {xs : List (Value φ)} {ys : List (Value ψ)} : RelAll R xs ys →
    ∀ {known known'}, List.Forall₂ R known known' →
      (learnAll known xs).1 = (learnAll known' ys).1 ∧
        List.Forall₂ R (learnAll known xs).2 (learnAll known' ys).2
  | .nil => fun same => ⟨rfl, same⟩
  | .cons head tail => fun same => by
      obtain ⟨first, same⟩ := Rel.learn head same
      obtain ⟨rest, same⟩ := RelAll.learn tail same
      simp only [learnAll, first, rest]
      exact ⟨trivial, same⟩

end

mutual

/-- One value with related codes for its functions, or with none. -/
theorem rel_recode {χ : Type} {f : χ → Option φ} {g : χ → Option ψ}
    (h : ∀ c, Option.Rel R (f c) (g c)) : (x : Value χ) → Rel R (x.recode f) (x.recode g)
  | .absent => .absent
  | .tensor cell => .tensor cell
  | .tuple fields => .tuple (relAll_recodeAll h fields)
  | .data c fields => .data c (relAll_recodeAll h fields)
  | .func name arity c => by
      have codes := h c
      simp only [recode]
      generalize f c = code at codes
      generalize g c = code' at codes
      cases codes with
      | some code => exact .func name arity code
      | none => exact .absent

theorem relAll_recodeAll {χ : Type} {f : χ → Option φ} {g : χ → Option ψ}
    (h : ∀ c, Option.Rel R (f c) (g c)) : (xs : List (Value χ)) →
      RelAll R (recodeAll f xs) (recodeAll g xs)
  | [] => .nil
  | x :: xs => .cons (rel_recode h x) (relAll_recodeAll h xs)

end

end Value

/-- Codes at one place of related lists. -/
theorem rel_getElem? {R : φ → ψ → Prop} {known : List φ} {known' : List ψ}
    (same : List.Forall₂ R known known') (i : Nat) : Option.Rel R known[i]? known'[i]? := by
  induction same generalizing i with
  | nil => exact .none
  | cons head _ ih =>
      cases i with
      | zero => exact .some head
      | succ i => exact ih i

/-- Two ways to run functions of the host that treat related codes alike. The relation is that of a
world, which grows from call to call; `Good` is what a run in a world should be. -/
structure HostPort.Alike {W : Type} {ρ : Type} {m n : Type → Type} [Monad m] [Monad n]
    (grows : W → W → Prop) (R : W → φ → ψ → Prop) (Good : W → m (Value φ) → n (Value ψ) → Prop)
    (port : HostPort φ ρ m) (port' : HostPort ψ ρ n) : Prop where
  mono : ∀ {w w' c d}, grows w w' → R w c d → R w' c d
  make : ∀ {w xs ys} f, Value.RelAll (R w) xs ys → R w (port.make f xs) (port'.make f ys)
  serve : ∀ {w xs ys} service, Value.RelAll (R w) xs ys →
    Agree (Value.Rel (R w)) (port.serve service xs) (port'.serve service ys)
  finish : ∀ {w x y}, Agree (Value.Rel (R w)) x y → Good w (port.finish x) (port'.finish y)
  call : ∀ {w f g xs ys k k'}, Value.Rel (R w) f g → Value.RelAll (R w) xs ys →
    (∀ {w' x y}, grows w w' → Agree (Value.Rel (R w')) x y → Good w' (k x) (k' y)) →
      Good w (port.call f xs >>= k) (port'.call g ys >>= k')

namespace HostPort

variable {W : Type} {ρ : Type} {m n : Type → Type} [Monad m] [Monad n] {grows : W → W → Prop}
  {R : W → φ → ψ → Prop} {Good : W → m (Value φ) → n (Value ψ) → Prop} {port : HostPort φ ρ m}
  {port' : HostPort ψ ρ n}

/-- What the host learns of outcomes that agree. -/
theorem learnOutcome_agree {R : φ → ψ → Prop} {known : List φ} {known' : List ψ}
    (same : List.Forall₂ R known known') {x : Except RunError (Value φ)}
    {y : Except RunError (Value ψ)} (h : Agree (Value.Rel R) x y) :
    (learnOutcome known x).1 = (learnOutcome known' y).1 ∧
      List.Forall₂ R (learnOutcome known x).2 (learnOutcome known' y).2 := by
  cases h with
  | ok related => exact (related.learn same).imp_left (congrArg _)
  | error e => exact ⟨rfl, same⟩

variable (alike : HostPort.Alike grows R Good port port')

include alike

/-- What the host puts into a function value is related. -/
theorem Alike.code {w : W} {known : List φ} {known' : List ψ}
    (same : List.Forall₂ (R w) known known') (c : HostCode) :
    Option.Rel (R w) (port.code known c) (port'.code known' c) := by
  cases c with
  | known i => exact rel_getElem? same i
  | made f kept =>
      exact .some (alike.make f (Value.relAll_recodeAll (rel_getElem? same) kept))

/-- A function of the host does not tell related codes apart. -/
theorem Alike.run (t : HostRun ρ) {w : W} {known : List φ} {known' : List ψ}
    (same : List.Forall₂ (R w) known known') :
    Good w (port.run known t) (port'.run known' t) := by
  induction t generalizing w known known' with
  | answer out =>
      refine alike.finish ?_
      cases out with
      | error e => exact .error e
      | ok v => exact .ok (Value.rel_recode (alike.code same) v)
  | call f args next ih =>
      refine alike.call (Value.rel_recode (alike.code same) f)
        (Value.relAll_recodeAll (alike.code same) args) fun {w' x y} later outcome => ?_
      obtain ⟨told, codes⟩ := learnOutcome_agree (same.imp fun _ _ => alike.mono later) outcome
      have after := ih (learnOutcome known x).1 codes
      exact told ▸ after
  | ask service args next ih =>
      have outcome := alike.serve service (Value.relAll_recodeAll (alike.code same) args)
      obtain ⟨told, known⟩ := learnOutcome_agree same outcome
      simp only [HostPort.run, HostPort.values, told]
      exact ih _ known

/-- A call of a function of the host does not tell related values apart. -/
theorem Alike.start (act : (kept args : List (Value Nat)) → HostRun ρ) {w : W}
    {kept args : List (Value φ)} {kept' args' : List (Value ψ)}
    (keeps : Value.RelAll (R w) kept kept') (related : Value.RelAll (R w) args args') :
    Good w (port.start act kept args) (port'.start act kept' args') := by
  obtain ⟨told, known⟩ := keeps.learn (R := R w) .nil
  obtain ⟨told', known⟩ := related.learn known
  simp only [HostPort.start, told, told']
  exact alike.run _ known

end HostPort

namespace Meaning

/-- The kernel of a primitive function treats related arguments alike. -/
theorem SourceProgram.runPrimitive_agree {R : φ → ψ → Prop} (p : SourceProgram)
    (f : Function) (types : List Ty) {xs : List (Value φ)} {ys : List (Value ψ)}
    (h : Value.RelAll R xs ys) :
    Agree (Value.Rel R) (p.runPrimitive f types xs) (p.runPrimitive f types ys) := by
  unfold runPrimitive
  cases p.kernel? f with
  | none => exact .error _
  | some k =>
      refine (h.kernelInputs k.name (spreads types)).bind fun as bs related => ?_
      rw [related.length_eq, related.slots_eq]
      by_cases count : bs.length + 1 = k.arity
      · simp only [count, ne_eq, not_true_eq_false, if_false]
        cases Value.slots k.name 0 bs with
        | error e => exact .error e
        | ok slots =>
            simp only [ok_bind]
            cases k.call (slots ++ [.empty]) with
            | ok t => exact .ok (.tensor _)
            | error e => exact .error _
      · simp only [count, ne_eq, not_false_eq_true, if_true]
        exact .error _

/-! ### Patterns -/

variable {R : SourceCode → ψ → Prop}

/-- A pattern and its matcher on related values: neither describes its value, or both do and bind
related values to the variables of the pattern. -/
inductive Matched (R : SourceCode → ψ → Prop) (vars : List Var) :
    Option Env → (List (Value ψ) → Option (List (Value ψ))) → Prop
  | misses {run} (h : ∀ before, run before = none) : Matched R vars none run
  | hits {run} {binds : Env} {ys : List (Value ψ)} (names : binds.map Prod.fst = vars)
      (related : Value.RelAll R (binds.map Prod.snd) ys)
      (h : ∀ before, run before = some (before ++ ys)) : Matched R vars (some binds) run

mutual

/-- A matcher does what its pattern says. -/
theorem matched_ofPattern : (q : Pattern) → ∀ (m : Matcher), Matcher.ofPattern q = .ok m →
    ∀ (x : SourceValue) (y : Value ψ), Value.Rel R x y →
      Matched R q.vars (matchPattern q x) (m.run y)
  | .hole => by
      intro m h x y related
      cases h
  | .wildcard => by
      intro m h x y related
      cases h
      simp only [matchPattern]
      refine .hits rfl .nil ?_
      intro before
      simp [Matcher.run]
  | .var v => by
      intro m h x y related
      cases h
      simp only [matchPattern]
      exact .hits rfl (.cons related .nil) fun before => by simp [Matcher.run]
  | .ctor c ps => by
      intro m h x y related
      obtain ⟨ms, hms, h⟩ := ok_of_bind_ok h
      cases h
      cases related with
      | data d fields =>
          simp only [matchPattern, Pattern.vars]
          by_cases same : d.tag = c.tag
          · have all := matched_ofPatterns ps ms hms _ _ fields
            simp only [same, if_true]
            generalize matchPatterns ps _ = found at all
            cases all with
            | misses h => exact .misses fun before => by simp [Matcher.run, same, h]
            | hits names related h =>
                exact .hits names related fun before => by simp [Matcher.run, same, h]
          · simp only [same, if_false]
            exact .misses fun before => by simp [Matcher.run, same]
      | absent | tensor | tuple | func => exact .misses fun before => by simp [Matcher.run]
  | .tuple ps => by
      intro m h x y related
      obtain ⟨ms, hms, h⟩ := ok_of_bind_ok h
      cases h
      cases related with
      | tuple fields =>
          have all := matched_ofPatterns ps ms hms _ _ fields
          simp only [matchPattern, Pattern.vars]
          generalize matchPatterns ps _ = found at all
          cases all with
          | misses h => exact .misses fun before => by simp [Matcher.run, h]
          | hits names related h => exact .hits names related fun before => by simp [Matcher.run, h]
      | absent | tensor | data | func => exact .misses fun before => by simp [Matcher.run]

/-- Matchers do what their patterns say. -/
theorem matched_ofPatterns : (qs : List Pattern) → ∀ (ms : List Matcher),
    Matcher.ofPatterns qs = .ok ms → ∀ (xs : List SourceValue) (ys : List (Value ψ)),
      Value.RelAll R xs ys →
        Matched R (Pattern.varsAll qs) (matchPatterns qs xs) (Matcher.runAll ms ys)
  | [] => by
      intro ms h xs ys related
      cases h
      cases related with
      | nil =>
          refine .hits rfl .nil ?_
          intro before
          simp [Matcher.runAll]
      | cons head tail => exact .misses fun before => by simp [Matcher.runAll]
  | q :: qs => by
      intro ms h xs ys related
      obtain ⟨m, hm, h⟩ := ok_of_bind_ok h
      obtain ⟨ms, hms, h⟩ := ok_of_bind_ok h
      cases h
      cases related with
      | nil => exact .misses fun before => by simp [Matcher.runAll]
      | cons head tail =>
          have first := matched_ofPattern q m hm _ _ head
          have rest := matched_ofPatterns qs ms hms _ _ tail
          simp only [matchPatterns]
          generalize matchPattern q _ = found at first
          generalize matchPatterns qs _ = others at rest
          cases first with
          | misses h => exact .misses fun before => by simp [Matcher.runAll, h]
          | hits names related h =>
              cases rest with
              | misses h' => exact .misses fun before => by simp [Matcher.runAll, h, h']
              | hits names' related' h' =>
                  have bound := related.append related'
                  rw [← List.map_append] at bound
                  refine .hits ?_ bound fun before => ?_
                  · rw [List.map_append, names, names', Pattern.varsAll]
                  · simp [Matcher.runAll, h, h']

end

end Meaning
end TensorCompiler
