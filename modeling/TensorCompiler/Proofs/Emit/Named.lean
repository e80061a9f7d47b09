import TensorCompiler.Proofs.Emit.Evaluator
import TensorCompiler.Proofs.Emit.Written
import TensorCompiler.Proofs.Meaning.Ready

/-!
# Named values

How the scope of the writer stays in step with the locals of a run: every declared local is a taken
name, and the local of each variable holds its value. Writing only takes names, and it moves no
variable but those that are bound.
-/

namespace TensorCompiler.Emit

open Lowered (Node)

/-! ### Growing scopes -/

/-- A scope and a later one, with the variables bound in between. -/
structure Scope.Grows (σ σ' : Scope) (vs : List Var) : Prop where
  keeps : ∀ name, σ.names.isTaken name = true → σ'.names.isTaken name = true
  same : ∀ v ∉ vs, σ'.local? v = σ.local? v

section

variable {σ σ₁ σ₂ σ' : Scope} {vs ws : List Var} {x : String} {s : NameSupply}

theorem Scope.Grows.refl (σ : Scope) : σ.Grows σ [] :=
  ⟨fun _ h => h, fun _ _ => rfl⟩

theorem Scope.Grows.trans (h : σ.Grows σ₁ vs) (h' : σ₁.Grows σ₂ ws) : σ.Grows σ₂ (vs ++ ws) := by
  refine ⟨fun name taken => h'.keeps name (h.keeps name taken), ?_⟩
  intro v outside
  rw [List.mem_append, not_or] at outside
  rw [h'.same v outside.2, h.same v outside.1]

/-- A new local that holds no variable. -/
theorem Scope.Grows.new (h : σ.Grows σ₁ vs) (new : New σ₁.names x s) :
    σ.Grows ⟨s, σ₁.locals⟩ vs :=
  ⟨fun name taken => new.keeps name (h.keeps name taken), h.same⟩

theorem Scope.local?_cons_of_ne {v w : Var} (h : v ≠ w) :
    Scope.local? ⟨s, (v, x) :: σ.locals⟩ w = σ.local? w := by
  simp [Scope.local?, h]

@[simp]
theorem Scope.local?_cons_self {v : Var} :
    Scope.local? ⟨s, (v, x) :: σ.locals⟩ v = some x := by
  simp [Scope.local?]

/-- A new local for a variable. -/
theorem Scope.Grows.of_new {v : Var} (new : New σ.names x s) :
    σ.Grows ⟨s, (v, x) :: σ.locals⟩ [v] := by
  refine ⟨new.keeps, ?_⟩
  intro w outside
  exact Scope.local?_cons_of_ne fun same => outside (List.mem_singleton.mpr same.symm)

theorem Binds.grows {origin : Nat → Origin} {i : Nat} {ss : List Stmt}
    (h : Binds origin i σ vs ss σ') : σ.Grows σ' vs := by
  induction h with
  | nil => exact .refl _
  | cons new _ ih => exact (Scope.Grows.of_new new).trans ih

variable {consts : List Constant}

mutual

/-- What is written for a node binds the variables of the node. -/
theorem Written.grows {σ n ss x σ' k} : Written consts σ n ss x σ' k → σ.Grows σ' n.bound
  | .var _ => .refl _
  | .const _ new | .global new => (Scope.Grows.refl _).new new
  | .packed all new | .tuple all new | .construct all new => (WrittenAll.grows all).new new
  | .invoke head all new => ((Written.grows head).trans (WrittenAll.grows all)).new new
  | .decl all tail => (WrittenBindings.grows all).trans (Written.grows tail)
  | .cond head left right new =>
      ((Written.grows head).trans ((Written.grows left).trans (Written.grows right))).new new
  | .proj head new => (Written.grows head).new new
  | .cases head all new => ((Written.grows head).trans (WrittenClauses.grows all)).new new
  | .fn body new => (WrittenBody.grows body).new new

theorem WrittenAll.grows {σ ns ss xs σ' ks} :
    WrittenAll consts σ ns ss xs σ' ks → σ.Grows σ' (Node.boundAll ns)
  | .nil => .refl _
  | .cons head tail => (Written.grows head).trans (WrittenAll.grows tail)

theorem WrittenBindings.grows {σ bs ss σ' ks} :
    WrittenBindings consts σ bs ss σ' ks → σ.Grows σ' (Node.boundBindings bs)
  | .nil => .refl _
  | .cons head new tail =>
      (Written.grows head).trans ((Scope.Grows.of_new new).trans (WrittenBindings.grows tail))

theorem WrittenClauses.grows {σ cs bs σ' ks} :
    WrittenClauses consts σ cs bs σ' ks → σ.Grows σ' (Node.boundClauses cs)
  | .nil => .refl _
  | .cons _ head tail => (WrittenBody.grows head).trans (WrittenClauses.grows tail)

theorem WrittenBody.grows {origin σ vs n block σ' k} :
    WrittenBody consts origin σ vs n block σ' k → σ.Grows σ' (vs ++ n.bound)
  | .mk binds body => binds.grows.trans (Written.grows body)

end

end

end TensorCompiler.Emit

namespace TensorCompiler.Printed

open Emit

/-! ### Locals -/

section

variable {locals locals' locals'' : Locals} {name : String} {x y : Value Code}

@[simp]
theorem Locals.read?_cons_self : Locals.read? ((name, x) :: locals) name = some x := by
  simp [Locals.read?]

theorem Locals.read?_cons_of_ne {other : String} (h : name ≠ other) :
    Locals.read? ((name, x) :: locals) other = locals.read? other := by
  simp [Locals.read?, h]

/-- Locals that are read later as before. -/
def Locals.Kept (locals locals' : Locals) : Prop :=
  ∀ name x, locals.read? name = some x → locals'.read? name = some x

theorem Locals.Kept.refl (locals : Locals) : locals.Kept locals :=
  fun _ _ h => h

theorem Locals.Kept.trans (h : locals.Kept locals') (h' : locals'.Kept locals'') :
    locals.Kept locals'' :=
  fun name x found => h' name x (h name x found)

/-- Several locals are read one by one. -/
theorem Locals.readAll?_cons {names : List String} {xs : List (Value Code)}
    (head : locals.read? name = some x) (tail : locals.readAll? names = some xs) :
    locals.readAll? (name :: names) = some (x :: xs) := by
  rw [Locals.readAll?] at tail ⊢
  rw [List.mapM_cons, head, tail]
  rfl

end

/-! ### The invariant -/

/-- Locals in step with a scope: the names used in the text and the declared locals are taken, and
the local of each variable holds its value. -/
structure Named (σ : Scope) (env : List (Var × Value Code)) (locals : Locals) : Prop where
  text : ∀ name ∈ reservedLocals, σ.names.isTaken name = true
  taken : ∀ name x, locals.read? name = some x → σ.names.isTaken name = true
  found : ∀ b ∈ env, ∃ name, σ.local? b.1 = some name ∧ locals.read? name = some b.2

section

variable {σ σ' : Scope} {env env' : List (Var × Value Code)} {locals : Locals} {name : String}
  {s : NameSupply}

/-- Nothing is declared in front of a function. -/
theorem named_start : Named .start [] [] :=
  ⟨fun _ member => NameSupply.isTaken_reserveAll.mpr (Or.inl member), by rintro _ _ ⟨⟩,
    by rintro _ ⟨⟩⟩

/-- Fewer variables. -/
theorem Named.subset (h : Named σ env' locals) (sub : env ⊆ env') : Named σ env locals :=
  ⟨h.text, h.taken, fun b hb => h.found b (sub hb)⟩

/-- Writing that binds other variables. -/
theorem Named.grow (h : Named σ env locals) {vs : List Var} (g : σ.Grows σ' vs)
    (apart : ∀ b ∈ env, b.1 ∉ vs) : Named σ' env locals := by
  refine ⟨fun n member => g.keeps n (h.text n member),
    fun n x found => g.keeps n (h.taken n x found), ?_⟩
  intro b hb
  obtain ⟨name, place, found⟩ := h.found b hb
  exact ⟨name, (g.same b.1 (apart b hb)).trans place, found⟩

/-- A new local is not declared yet. -/
theorem Named.free (h : Named σ env locals) (new : New σ.names name s) :
    locals.read? name = none := by
  cases found : locals.read? name with
  | none => rfl
  | some x =>
      have taken := h.taken name x found
      rw [new.free] at taken
      cases taken

/-- A new local can be declared. -/
theorem Named.declare? (h : Named σ env locals) (new : New σ.names name s) (x : Value Code) :
    locals.declare? name x = some ((name, x) :: locals) := by
  have unused : name ∉ textNames := by
    intro member
    rcases List.mem_append.mp (show name ∈ reservedLocals ++ ["_", "nil", "error"] from member) with
      member | member
    · have taken := h.text name member
      rw [new.free] at taken
      cases taken
    · exact new.usable member
  rw [Locals.declare?, if_neg]
  rintro (member | declared)
  · exact unused member
  · rw [h.free new] at declared
    cases declared

/-- Declared locals stay as they are when a new one is declared. -/
theorem Named.kept (h : Named σ env locals) (new : New σ.names name s) (x : Value Code) :
    locals.Kept ((name, x) :: locals) := by
  intro other y found
  rw [Locals.read?_cons_of_ne]
  · exact found
  · rintro rfl
    rw [h.free new] at found
    cases found

/-- Declared locals are taken. -/
theorem Named.taken_cons (h : Named σ env locals) (new : New σ.names name s) {x : Value Code} :
    ∀ other y, Locals.read? ((name, x) :: locals) other = some y → s.isTaken other = true := by
  intro other y found
  by_cases same : name = other
  · exact same ▸ new.taken
  · rw [Locals.read?_cons_of_ne same] at found
    exact new.keeps other (h.taken other y found)

/-- A new local that holds no variable. -/
theorem Named.declare (h : Named σ env locals) (new : New σ.names name s) (x : Value Code) :
    Named ⟨s, σ.locals⟩ env ((name, x) :: locals) := by
  refine ⟨fun n member => new.keeps n (h.text n member), h.taken_cons new, ?_⟩
  intro b hb
  obtain ⟨n, place, found⟩ := h.found b hb
  exact ⟨n, place, h.kept new x n b.2 found⟩

/-- A new local that holds a new variable. -/
theorem Named.bind (h : Named σ env locals) (new : New σ.names name s) {v : Var}
    (fresh : v ∉ env.map Prod.fst) (x : Value Code) :
    Named ⟨s, (v, name) :: σ.locals⟩ ((v, x) :: env) ((name, x) :: locals) := by
  refine ⟨fun n member => new.keeps n (h.text n member), h.taken_cons new, ?_⟩
  intro b hb
  rcases List.mem_cons.mp hb with rfl | hb
  · exact ⟨name, Scope.local?_cons_self, Locals.read?_cons_self⟩
  · obtain ⟨n, place, found⟩ := h.found b hb
    have other : v ≠ b.1 := fun same => fresh (List.mem_map.mpr ⟨b, hb, same.symm⟩)
    refine ⟨n, ?_, h.kept new x n b.2 found⟩
    rw [Scope.local?_cons_of_ne other]
    exact place

end

end TensorCompiler.Printed

/-!
## Realized values

A linked value realizes a value of the emitted program in some frames if the two are related, and
each function in it was linked from the node that its literal was written for, with a frame in which
every variable in scope of the literal is found with a realization of the value of its local.
-/

namespace TensorCompiler.Printed

open Emit Meaning
open Linked (Frames)

/-- A function that may be made in a frame: no variable is bound twice, each is used in scope, and
none that the function binds is reserved by the frame. -/
structure Stands (C : Reserve) (fs : Frames) (params : List Var) (n : Lowered.Node) (vs : List Var)
    (frame : Nat) : Prop where
  once : (params ++ (n.locals ++ n.inner)).Nodup
  inScope : n.isScoped (params ++ vs) = true
  apart : ∀ v ∈ params ++ (n.locals ++ n.inner), ¬ C frame v
  inside : frame < fs.size

theorem Stands.lasts {C C' : Reserve} {fs fs' : Frames} (l : Lasts C fs C' fs') {params : List Var}
    {n : Lowered.Node} {vs : List Var} {frame : Nat} (h : Stands C fs params n vs frame) :
    Stands C' fs' params n vs frame :=
  ⟨h.once, h.inScope, fun v hv reserved => h.apart v hv (l.reserve frame h.inside v reserved),
    Nat.lt_of_lt_of_le h.inside l.size⟩

section

variable (C : Reserve) (fs : Frames)

mutual

/-- A linked value that realizes a value of an emitted program. -/
inductive RealizedValue : Value Code → Value Linked.Code → Prop
  | absent : RealizedValue .absent .absent
  | tensor (cell : Cell) : RealizedValue (.tensor cell) (.tensor cell)
  | tuple {xs ys} (fields : RealizedAll xs ys) : RealizedValue (.tuple xs) (.tuple ys)
  | data (c : Ctor) {xs ys} (fields : RealizedAll xs ys) : RealizedValue (.data c xs) (.data c ys)
  | func (name : String) (arity : Int) {c d} (code : Realized c d) :
      RealizedValue (.func name arity c) (.func name arity d)

/-- Linked values that realize values of an emitted program one by one. -/
inductive RealizedAll : List (Value Code) → List (Value Linked.Code) → Prop
  | nil : RealizedAll [] []
  | cons {x y xs ys} (head : RealizedValue x y) (tail : RealizedAll xs ys) :
      RealizedAll (x :: xs) (y :: ys)

/-- Linked code that realizes code of an emitted program. -/
inductive Realized : Code → Linked.Code → Prop
  | host (h : HostFunction) {kept kept'} (keeps : RealizedAll kept kept') :
      Realized (.host h kept) (.host h kept')
  | global {name captured captured'} (params : RealizedAll captured captured') :
      Realized (.global name captured) (.global name captured')
  | literal {consts σ params n block σ' k env locals captured captured' frame}
      (binds : List (Value Code)) (written : WrittenBody consts .arg σ params n block σ' k)
      (named : Named σ env locals) (stands : Stands C fs params n (env.map Prod.fst) frame)
      (holds : RealizedEnv env frame) (given : RealizedAll captured captured') :
      Realized (.literal block captured binds locals)
        (.closure ⟨params, k⟩ frame captured')

/-- A frame in which variables are found with realizations of their values. -/
inductive RealizedEnv : List (Var × Value Code) → Nat → Prop
  | nil {frame} : RealizedEnv [] frame
  | cons {v x y env frame} (found : fs.lookup frame v = some y) (head : RealizedValue x y)
      (tail : RealizedEnv env frame) : RealizedEnv ((v, x) :: env) frame

end

end

section

variable {C C' : Reserve} {fs fs' : Frames}

mutual

/-- A realization is a related value. -/
theorem RealizedValue.rel {x y} :
    RealizedValue C fs x y → Value.Rel (Realized C fs) x y
  | .absent => .absent
  | .tensor cell => .tensor cell
  | .tuple fields => .tuple (RealizedAll.rel fields)
  | .data c fields => .data c (RealizedAll.rel fields)
  | .func name arity code => .func name arity code

theorem RealizedAll.rel {xs ys} :
    RealizedAll C fs xs ys → Value.RelAll (Realized C fs) xs ys
  | .nil => .nil
  | .cons head tail => .cons (RealizedValue.rel head) (RealizedAll.rel tail)

end

mutual

/-- A related value is a realization. -/
theorem realizedValue_of_rel {x y} :
    Value.Rel (Realized C fs) x y → RealizedValue C fs x y
  | .absent => .absent
  | .tensor cell => .tensor cell
  | .tuple fields => .tuple (realizedAll_of_relAll fields)
  | .data c fields => .data c (realizedAll_of_relAll fields)
  | .func name arity code => .func name arity code

theorem realizedAll_of_relAll {xs ys} :
    Value.RelAll (Realized C fs) xs ys → RealizedAll C fs xs ys
  | .nil => .nil
  | .cons head tail => .cons (realizedValue_of_rel head) (realizedAll_of_relAll tail)

end

mutual

/-- A realization of a value lasts. -/
theorem RealizedValue.lasts (l : Lasts C fs C' fs') {x y} :
    RealizedValue C fs x y → RealizedValue C' fs' x y
  | .absent => .absent
  | .tensor cell => .tensor cell
  | .tuple fields => .tuple (RealizedAll.lasts l fields)
  | .data c fields => .data c (RealizedAll.lasts l fields)
  | .func name arity code => .func name arity (Realized.lasts l code)

theorem RealizedAll.lasts (l : Lasts C fs C' fs') {xs ys} :
    RealizedAll C fs xs ys → RealizedAll C' fs' xs ys
  | .nil => .nil
  | .cons head tail => .cons (RealizedValue.lasts l head) (RealizedAll.lasts l tail)

/-- A realization of code lasts. -/
theorem Realized.lasts (l : Lasts C fs C' fs') {c d} :
    Realized C fs c d → Realized C' fs' c d
  | .host h keeps => .host h (RealizedAll.lasts l keeps)
  | .global params => .global (RealizedAll.lasts l params)
  | .literal binds written named stands holds given =>
      .literal binds written named (stands.lasts l) (RealizedEnv.lasts l holds)
        (RealizedAll.lasts l given)

theorem RealizedEnv.lasts (l : Lasts C fs C' fs') {env frame} :
    RealizedEnv C fs env frame → RealizedEnv C' fs' env frame
  | .nil => .nil
  | .cons found head tail =>
      .cons (l.found found) (RealizedValue.lasts l head) (RealizedEnv.lasts l tail)

end

/-- Realizations as a coding. -/
def realization : Coding Code where
  rel := Realized
  lasts l _ _ := Realized.lasts l

/-- A frame in which an environment is realized holds it. -/
theorem realizedEnv_iff_holds {env : List (Var × Value Code)} {frame : Nat} :
    RealizedEnv C fs env frame ↔ realization.Holds C fs env frame := by
  induction env with
  | nil => exact ⟨fun _ => by rintro _ ⟨⟩, fun _ => .nil⟩
  | cons b env ih =>
      obtain ⟨v, x⟩ := b
      rw [Coding.Holds, List.forall_mem_cons]
      constructor
      · intro h
        cases h with
        | cons found head tail => exact ⟨⟨_, found, head.rel⟩, ih.mp tail⟩
      · rintro ⟨⟨y, found, head⟩, tail⟩
        exact .cons found (realizedValue_of_rel head) (ih.mpr tail)

end

end TensorCompiler.Printed
