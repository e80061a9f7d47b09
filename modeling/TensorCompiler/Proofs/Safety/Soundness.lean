import TensorCompiler.Proofs.Meaning.Compilation
import TensorCompiler.Proofs.Value.Matcher

/-!
# Sound nodes

What is needed so that a node of a linked program finds what it asks for: its kernels with their
arities, its constructors as they are declared, its captured parameters, and the globals it refers
to. Nothing is asked of variables.

Main statement: a node compiled from an expression is sound, and what its values can call is sound.
-/

namespace TensorCompiler

open Linked
open Lowered (Convention)

/-! ### Function values -/

namespace Value

variable {φ : Type}

mutual

/-- The function values in a value: the name, the arity and the code of each. -/
def funcs : Value φ → List (String × Int × φ)
  | .absent => []
  | .tensor _ => []
  | .tuple fields => funcsAll fields
  | .data _ fields => funcsAll fields
  | .func name arity code => [(name, arity, code)]

/-- The function values in several values. -/
def funcsAll : List (Value φ) → List (String × Int × φ)
  | [] => []
  | v :: vs => funcs v ++ funcsAll vs

end

theorem funcsAll_append (xs ys : List (Value φ)) :
    funcsAll (xs ++ ys) = funcsAll xs ++ funcsAll ys := by
  induction xs with
  | nil => rfl
  | cons x xs ih => rw [List.cons_append, funcsAll, funcsAll, ih, List.append_assoc]

/-- The function values of one value among several. -/
theorem funcs_subset_funcsAll {xs : List (Value φ)} {x : Value φ} (h : x ∈ xs) :
    x.funcs ⊆ funcsAll xs := by
  obtain ⟨before, after, rfl⟩ := List.append_of_mem h
  rw [funcsAll_append, funcsAll]
  intro f hf
  simp [hf]

/-- A field holds no other function values than its tuple. -/
theorem funcs_field {x y : Value φ} {index : Int} (h : x.field index = .ok y) :
    y.funcs ⊆ x.funcs := by
  unfold field at h
  split at h
  · rename_i fields
    split at h
    · rename_i found
      cases h
      have member : y ∈ fields := by
        split at found
        · cases found
        · exact List.mem_of_getElem? found
      exact funcs_subset_funcsAll member
    · cases h
  · cases h

mutual

/-- A value with other code has function values with that code. -/
theorem funcs_map {ψ : Type} (g : φ → ψ) : (x : Value φ) →
    (x.map g).funcs = x.funcs.map fun f => (f.1, f.2.1, g f.2.2)
  | .absent => rfl
  | .tensor _ => rfl
  | .tuple fields => by rw [map, funcs, funcs, funcsAll_mapAll g fields]
  | .data _ fields => by rw [map, funcs, funcs, funcsAll_mapAll g fields]
  | .func _ _ _ => rfl

theorem funcsAll_mapAll {ψ : Type} (g : φ → ψ) : (xs : List (Value φ)) →
    funcsAll (mapAll g xs) = (funcsAll xs).map fun f => (f.1, f.2.1, g f.2.2)
  | [] => rfl
  | x :: xs => by
      rw [mapAll, funcsAll, funcsAll, funcs_map g x, funcsAll_mapAll g xs, List.map_append]

end

mutual

/-- A function value with a code of its own was one with another code. -/
theorem of_mem_funcs_recode {ψ : Type} {code : φ → Option ψ} : (x : Value φ) →
    ∀ {f}, f ∈ (x.recode code).funcs → ∃ c, (f.1, f.2.1, c) ∈ x.funcs ∧ code c = some f.2.2
  | .absent => nofun
  | .tensor _ => nofun
  | .tuple fields => by
      rw [recode, funcs, funcs]
      exact of_mem_funcsAll_recodeAll fields
  | .data _ fields => by
      rw [recode, funcs, funcs]
      exact of_mem_funcsAll_recodeAll fields
  | .func name arity c => by
      intro hf
      rw [recode] at hf
      split at hf
      · rename_i d found
        obtain rfl := List.mem_singleton.mp hf
        exact ⟨c, List.mem_singleton.mpr rfl, found⟩
      · cases hf

theorem of_mem_funcsAll_recodeAll {ψ : Type} {code : φ → Option ψ} : (xs : List (Value φ)) →
    ∀ {f}, f ∈ funcsAll (recodeAll code xs) →
      ∃ c, (f.1, f.2.1, c) ∈ funcsAll xs ∧ code c = some f.2.2
  | [] => nofun
  | x :: xs => by
      intro hf
      rw [recodeAll, funcsAll] at hf
      rcases List.mem_append.mp hf with hf | hf
      · obtain ⟨c, member, found⟩ := of_mem_funcs_recode x hf
        exact ⟨c, List.mem_append_left _ member, found⟩
      · obtain ⟨c, member, found⟩ := of_mem_funcsAll_recodeAll xs hf
        exact ⟨c, List.mem_append_right _ member, found⟩

end

/-! ### Function values that the host comes to know -/

/-- Function values with numbers in order. -/
def Numbered (first : Nat) (funcs : List (String × Int × Nat)) : Prop :=
  funcs.map (·.2.2) = List.range' first funcs.length

/-- Function values that come to be known: they get the next numbers and keep their arities, and
their codes are remembered. -/
structure Learned (known : List φ) (fs : List (String × Int × φ)) (told : List (String × Int × Nat))
    (known' : List φ) : Prop where
  codes : known' = known ++ fs.map (·.2.2)
  arities : told.map (·.2.1) = fs.map (·.2.1)
  numbers : Numbered known.length told

theorem Learned.append {known known' known'' : List φ} {fs gs : List (String × Int × φ)}
    {told told' : List (String × Int × Nat)} (h : Learned known fs told known')
    (h' : Learned known' gs told' known'') :
    Learned known (fs ++ gs) (told ++ told') known'' := by
  have length : told.length = fs.length := by simpa using congrArg List.length h.arities
  refine ⟨?_, ?_, ?_⟩
  · rw [h'.codes, h.codes, List.map_append, List.append_assoc]
  · rw [List.map_append, List.map_append, h.arities, h'.arities]
  · have rest : told'.map (·.2.2) = List.range' (known.length + told.length) told'.length := by
      have numbers := h'.numbers
      rwa [Numbered, h.codes, List.length_append, List.length_map, ← length] at numbers
    rw [Numbered, List.map_append, h.numbers, rest, List.length_append, List.range'_append_1]

mutual

theorem learned (known : List φ) : (x : Value φ) →
    Learned known x.funcs (x.learn known).1.funcs (x.learn known).2
  | .absent => ⟨(List.append_nil _).symm, rfl, rfl⟩
  | .tensor _ => ⟨(List.append_nil _).symm, rfl, rfl⟩
  | .tuple fields => learnedAll known fields
  | .data _ fields => learnedAll known fields
  | .func _ _ _ => ⟨rfl, rfl, rfl⟩

theorem learnedAll (known : List φ) : (xs : List (Value φ)) →
    Learned known (funcsAll xs) (funcsAll (learnAll known xs).1) (learnAll known xs).2
  | [] => ⟨(List.append_nil _).symm, rfl, rfl⟩
  | x :: xs => (learned known x).append (learnedAll _ xs)

end

end Value

/-! ### Hosts that respect arities

A function value that the host came to know may be called or handed out under another arity than it
came with, even without any check of the number of its arguments. A host that never does so respects
arities. -/

/-- A function value that is known under its number has the arity it came with. -/
def KeepsArity (arities : List Int) (arity : Int) (index : Nat) : Prop :=
  ∀ a, arities[index]? = some a → arity = a

/-- A function value that the host hands out: a known one with the arity it came with, or a new one
that keeps such values. -/
def HandsOut (arities : List Int) : String × Int × HostCode → Prop
  | (_, arity, .known index) => KeepsArity arities arity index
  | (_, _, .made _ kept) => ∀ f ∈ Value.funcsAll kept, KeepsArity arities f.2.1 f.2.2

/-- The function values that the host is told of with an outcome. -/
def toldFuncs {φ : Type} : Except RunError (Value φ) → List (String × Int × φ)
  | .ok v => v.funcs
  | .error _ => []

/-- What the host is told of an outcome. -/
theorem learned_outcome {φ : Type} (known : List φ) : (out : Except RunError (Value φ)) →
    Value.Learned known (toldFuncs out) (toldFuncs (learnOutcome known out).1)
      (learnOutcome known out).2
  | .ok v => Value.learned known v
  | .error _ => ⟨(List.append_nil _).symm, rfl, rfl⟩

/-- A run of a function of the host that respects the arities of the functions it knows, whatever
its calls come to. -/
def HostRun.Respects {ρ : Type} : HostRun ρ → List Int → Prop
  | .answer out, arities => ∀ f ∈ toldFuncs out, HandsOut arities f
  | .call f args next, arities =>
    (∀ g ∈ Value.funcsAll (f :: args), HandsOut arities g) ∧
      ∀ out, Value.Numbered arities.length (toldFuncs out) →
        (next out).Respects (arities ++ (toldFuncs out).map (·.2.1))
  | .ask _ args next, arities =>
    (∀ g ∈ Value.funcsAll args, HandsOut arities g) ∧
      ∀ out, Value.Numbered arities.length (toldFuncs out) →
        (next out).Respects (arities ++ (toldFuncs out).map (·.2.1))

/-- A host whose functions respect arities. -/
def Host.Respects (host : Host) : Prop :=
  ∀ f kept args, Value.Numbered 0 (Value.funcsAll (kept ++ args)) →
    (host.call f kept args).Respects ((Value.funcsAll (kept ++ args)).map (·.2.1))

/-- Known function values that are handed out as they came. -/
theorem handsOut_known {fs : List (String × Int × Nat)} (numbers : Value.Numbered 0 fs)
    {v : Value Nat} (within : v.funcs ⊆ fs) :
    ∀ f ∈ (v.map HostCode.known).funcs, HandsOut (fs.map (·.2.1)) f := by
  intro f hf
  rw [Value.funcs_map] at hf
  obtain ⟨⟨name, arity, index⟩, member, rfl⟩ := List.mem_map.mp hf
  intro a found
  obtain ⟨i, inside, here⟩ := List.getElem_of_mem (within member)
  have number := congrArg (·[i]?) numbers
  simp only [List.getElem?_map, List.getElem?_eq_getElem inside, here, Option.map_some,
    List.getElem?_range' inside, Nat.zero_add, Nat.one_mul, Option.some.injEq] at number
  rw [number, List.getElem?_map, List.getElem?_eq_getElem inside, here] at found
  exact Option.some.inj found

/-- A plain host calls nothing and hands out what it is given. -/
theorem Host.plain_respects : Host.plain.Respects := by
  intro f kept args numbers
  have within {v : Value Nat} (h : v.funcs ⊆ Value.funcsAll args) :
      ∀ f ∈ (v.map HostCode.known).funcs,
        HandsOut ((Value.funcsAll (kept ++ args)).map (·.2.1)) f := by
    refine handsOut_known numbers (List.Subset.trans h ?_)
    rw [Value.funcsAll_append]
    exact List.subset_append_right _ _
  change (plainRun f args).Respects _
  rw [plainRun]
  split
  · cases args with
    | nil => exact within (v := .absent) (List.nil_subset _)
    | cons x xs => exact within (Value.funcs_subset_funcsAll List.mem_cons_self)
  · rcases List.eq_nil_or_concat args with rfl | ⟨xs, x, rfl⟩
    · exact within (v := .absent) (List.nil_subset _)
    · rw [List.concat_eq_append, List.getLastD_concat]
      rw [List.concat_eq_append] at within
      refine within (Value.funcs_subset_funcsAll ?_)
      exact List.mem_append_right _ List.mem_cons_self
  · exact within (v := .tuple args) fun _ => id
  · exact within (v := .absent) (List.nil_subset _)
  · nofun

/-! ### Matchers -/

namespace Matcher

variable {φ : Type}

/-- Values bound in addition to others: as many as there are places, with no function values but
those of the value they were found in. -/
structure Binds (count : Nat) (funcs : List (String × Int × φ)) (before after : List (Value φ)) :
    Prop where
  length : after.length = before.length + count
  within : Value.funcsAll after ⊆ Value.funcsAll before ++ funcs

mutual

/-- What a match binds. -/
theorem run_binds : (m : Matcher) → ∀ (x : Value φ) (before after : List (Value φ)),
    m.run x before = some after → Binds m.places x.funcs before after
  | .any => by
      intro x before after h
      simp only [run, Option.some.injEq] at h
      subst h
      exact ⟨rfl, List.subset_append_left _ _⟩
  | .bind => by
      intro x before after h
      simp only [run, Option.some.injEq] at h
      subst h
      refine ⟨by rw [List.length_append]; rfl, ?_⟩
      rw [Value.funcsAll_append]
      simp [Value.funcsAll]
  | .ctor tag ms => by
      intro x before after h
      cases x with
      | data c fields =>
          rw [run] at h
          split at h
          · exact runAll_binds ms _ _ _ h
          · cases h
      | _ => simp [run] at h
  | .tuple ms => by
      intro x before after h
      cases x with
      | tuple fields =>
          rw [run] at h
          exact runAll_binds ms _ _ _ h
      | _ => simp [run] at h

/-- What a match of several values binds. -/
theorem runAll_binds : (ms : List Matcher) → ∀ xs before after : List (Value φ),
    runAll ms xs before = some after → Binds (placesAll ms) (Value.funcsAll xs) before after
  | [] => by
      intro xs before after h
      cases xs with
      | nil =>
          simp only [runAll, Option.some.injEq] at h
          subst h
          exact ⟨rfl, List.subset_append_left _ _⟩
      | cons x xs => simp [runAll] at h
  | m :: ms => by
      intro xs before after h
      cases xs with
      | nil => simp [runAll] at h
      | cons x xs =>
          rw [runAll] at h
          split at h
          · rename_i mid first
            have head := run_binds m _ _ _ first
            have tail := runAll_binds ms _ _ _ h
            refine ⟨?_, ?_⟩
            · rw [tail.length, head.length, placesAll, Nat.add_assoc]
            · intro f hf
              rcases List.mem_append.mp (tail.within hf) with hf | hf
              · rcases List.mem_append.mp (head.within hf) with hf | hf
                · exact List.mem_append_left _ hf
                · exact List.mem_append_right _ (List.mem_append_left _ hf)
              · exact List.mem_append_right _ (List.mem_append_right _ hf)
          · cases h

end

end Matcher

/-! ### Sound nodes -/

namespace Safety

/-- What nodes are run with: an image, the captured parameters, and the globals that are taken to be
there. -/
structure Ground where
  image : Image
  captured : List (Value Code)
  known : String → Prop

variable (G : Ground)

mutual

/-- A node that finds what it asks for. -/
def SoundNode : Node → Prop
  | .var _ => True
  | .param index => index < G.captured.length
  | .global name => G.known name
  | .packed kernel arity conv args =>
    (∃ k, G.image.kernels.lookup kernel = some k ∧ (k.arity : Int) = arity) ∧
      (conv = .flat → ((args.length + 1 : Nat) : Int) = arity) ∧ SoundNodes args
  | .invoke callee args => SoundNode callee ∧ SoundNodes args
  | .decl bindings body => SoundBindings bindings ∧ SoundNode body
  | .cond test yes no => SoundNode test ∧ SoundNode yes ∧ SoundNode no
  | .tuple fields => SoundNodes fields
  | .proj n _ => SoundNode n
  | .cases data clauses => SoundNode data ∧ SoundClauses clauses
  | .fn _ body => SoundNode body
  | .construct ctor tag args =>
    (∃ c, G.image.ctors.find? (·.name == ctor) = some c ∧ (c.tag : Int) = tag ∧
      args.length = c.inputs.length) ∧ SoundNodes args

/-- Nodes that find what they ask for. -/
def SoundNodes : List Node → Prop
  | [] => True
  | n :: ns => SoundNode n ∧ SoundNodes ns

/-- Bindings of sound nodes. -/
def SoundBindings : List (Var × Node) → Prop
  | [] => True
  | (_, n) :: rest => SoundNode n ∧ SoundBindings rest

/-- Clauses with sound bodies that bind a value for each of their variables. -/
def SoundClauses : List (Matcher × List Var × Node) → Prop
  | [] => True
  | (m, vars, n) :: rest => m.places = vars.length ∧ SoundNode n ∧ SoundClauses rest

end

/-- A function value that can be called safely under an arity. A function of the host keeps such
values; a function of the program was made with the captured parameters, has a sound body and the
arity of its parameters. -/
inductive SoundFunc : Int → Code → Prop
  | host {arity h kept} (keeps : ∀ f ∈ Value.funcsAll kept, SoundFunc f.2.1 f.2.2) :
      SoundFunc arity (.host h kept)
  | global {arity name} (known : G.known name)
      (same : ∀ g, G.image.global? name = some g → arity = g.arity) :
      SoundFunc arity (.global name G.captured)
  | closure {r frame} (body : SoundNode G r.body) :
      SoundFunc r.params.length (.closure r frame G.captured)

/-- A value whose function values are sound. -/
def SoundValue (x : Value Code) : Prop :=
  ∀ f ∈ x.funcs, SoundFunc G f.2.1 f.2.2

/-- Values whose function values are sound. -/
def SoundValues (xs : List (Value Code)) : Prop :=
  ∀ f ∈ Value.funcsAll xs, SoundFunc G f.2.1 f.2.2

/-- A ground with sound globals and captured parameters, and with a host that respects arities. -/
structure Ground.Sound : Prop where
  params : SoundValues G G.captured
  globals : ∀ name, G.known name → ∃ r : Routine,
    G.image.global? name = some ⟨name, r.params.length, .routine r⟩ ∧ SoundNode G r.body
  host : G.image.host.Respects

variable {G}

/-- A binding in front of a node. -/
theorem SoundNode.bindBefore {v : Var} {x n : Node} (head : SoundNode G x)
    (tail : SoundNode G n) : SoundNode G (Node.bindBefore v x n) := by
  cases n with
  | decl bindings body => exact ⟨⟨head, tail.1⟩, tail.2⟩
  | _ => exact ⟨⟨head, trivial⟩, tail⟩

/-- Variables are sound. -/
theorem soundNodes_vars (vs : List Var) : SoundNodes G (vs.map Node.var) := by
  induction vs with
  | nil => trivial
  | cons v vs ih => exact ⟨trivial, ih⟩

/-! ### Compiled nodes -/

/-- What a ground has to offer to what is compiled in some surroundings. -/
structure Offers (G : Ground) (J : Surroundings) : Prop where
  known : ∀ g, J.known g → G.known g.name
  place : ∀ c i, J.place c i → i < G.captured.length
  ctor : ∀ c, J.ctor c → G.image.Declares c
  kernel : ∀ f tys form, J.prim f tys form → ∃ k : Kernel,
    G.image.kernels.lookup form.kernel = some k ∧ (k.arity : Int) = (form.inputs + 1 : Nat)
  flat : ∀ f tys form, J.prim f tys form → form.conv = .flat → tys.length = form.inputs

/-- As many nodes are compiled as there are expressions. -/
theorem length_of_compiledAll {J : Surroundings} {es : List Expr} {ns : List Node}
    (h : CompiledAll J es ns) : ns.length = es.length := by
  induction es generalizing ns with
  | nil =>
      cases h
      rfl
  | cons e es ih =>
      cases h with
      | cons head tail => rw [List.length_cons, List.length_cons, ih tail]

section

variable {J : Surroundings} (offers : Offers G J)

set_option linter.unusedSectionVars false

include offers

/-- A packed call of as many nodes as the convention was chosen for. -/
theorem sound_packed {f : Function} {tys : List Ty} {form : PackedForm} (ok : J.prim f tys form)
    {nodes : List Node} (count : nodes.length = tys.length) (sound : SoundNodes G nodes) :
    SoundNode G (form.linked nodes) := by
  refine ⟨offers.kernel f tys form ok, ?_, sound⟩
  intro flat
  rw [count, offers.flat f tys form ok flat]

mutual

/-- What an expression is compiled to is sound. -/
theorem sound_of_compiled {e : Expr} {n : Node} : Compiled J e n → SoundNode G n
  | .var _ => trivial
  | .const place => offers.place _ _ place
  | .global ok => offers.known _ ok
  | .primCall ok fields => by
      refine sound_packed offers ok ?_ (soundAll_of_compiled fields)
      rw [length_of_compiledAll fields, List.length_map]
  | .ctorCall ok count fields => by
      refine ⟨⟨_, offers.ctor _ ok, rfl, ?_⟩, soundAll_of_compiled fields⟩
      rw [length_of_compiledAll fields, count]
  | .call _ head fields => ⟨sound_of_compiled head, soundAll_of_compiled fields⟩
  | .bind head tail => (sound_of_compiled head).bindBefore (sound_of_compiled tail)
  | .cond head left right =>
    ⟨sound_of_compiled head, sound_of_compiled left, sound_of_compiled right⟩
  | .tuple all => soundAll_of_compiled all
  | .proj head => by
      rw [SoundNode]
      exact sound_of_compiled head
  | .cases head all => ⟨sound_of_compiled head, soundClauses_of_compiled all⟩
  | .primFn ok => by
      refine sound_packed offers ok ?_ (soundNodes_vars _)
      rw [List.length_map, List.length_map]
  | .fn head => by
      rw [SoundNode]
      exact sound_of_compiled head

/-- What expressions are compiled to is sound. -/
theorem soundAll_of_compiled {es : List Expr} {ns : List Node} :
    CompiledAll J es ns → SoundNodes G ns
  | .nil => trivial
  | .cons head tail => ⟨sound_of_compiled head, soundAll_of_compiled tail⟩

/-- What clauses are compiled to is sound. -/
theorem soundClauses_of_compiled {es : List (Pattern × Expr)}
    {ns : List (Matcher × List Var × Node)} : CompiledClauses J es ns → SoundClauses G ns
  | .nil => trivial
  | .cons pattern head tail =>
    ⟨Matcher.places_ofPattern _ _ pattern, sound_of_compiled head, soundClauses_of_compiled tail⟩

end

/-- What a function is compiled to is sound. -/
theorem sound_of_compiledFunction {f : Function} {r : Routine} (h : CompiledFunction J f r) :
    SoundNode G r.body ∧ r.params = f.params := by
  cases h with
  | prim ok =>
      refine ⟨sound_packed offers ok ?_ (soundNodes_vars _), rfl⟩
      rw [List.length_map, List.length_map]
  | plain head => exact ⟨sound_of_compiled offers head, rfl⟩

end

end Safety
end TensorCompiler
