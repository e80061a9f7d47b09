import TensorCompiler.Lowering.Outline
import TensorCompiler.Proofs.Kernel.Reuse
import TensorCompiler.Proofs.Lowering.Compilations
import TensorCompiler.Proofs.Meaning.Evaluator

/-!
# Kernels of a compiled program

Why a packed call runs the kernel that the source runs. A registry serves a primitive function by
its encoding, so the kernel may be that of another function, compiled for this program or for one
before it.

Main statements: lowering adds to a registry only kernels of the primitive functions that the
expression and the globals of its module use, and such a registry has a server for each primitive
function, with its encoding, whose own kernel is the registered one.
-/

namespace TensorCompiler

open Lowering Lowered

/-! ### Primitive functions in use -/

/-- The primitive functions that an expression uses, in the order in which lowering meets them. -/
def Expr.primitives (e : Expr) : List Function :=
  e.parts.filterMap fun x => x.primitiveUse?.map Prod.fst

/-- A primitive function that is used at a node. -/
theorem Expr.mem_primitives {e x : Expr} (hx : x ∈ e.parts) {f : Function} {tys : List Ty}
    (use : x.primitiveUse? = some (f, tys)) : f ∈ e.primitives :=
  List.mem_filterMap.mpr ⟨x, hx, by rw [use, Option.map_some]⟩

/-! ### Sharing -/

/-- One function can be served by the kernel of another one: this answers every call as its own
kernel does. -/
def Function.ServedBy (g f : Function) (name : String) : Prop :=
  ∀ k, Kernel.compile name f = .ok k → ∃ l, Kernel.compile name g = .ok l ∧ l.arity = k.arity ∧
    ∀ slots, l.call slots = k.call slots

/-- Functions that can share kernels: those with one encoding serve each other. -/
def Shareable (P : Function → Prop) : Prop :=
  ∀ f g fp, P f → P g → f.fingerprint = .ok fp → g.fingerprint = .ok fp → g.ServedBy f fp.kernelName

/-- A function that the encoder can keep apart from those that do not rename it: it binds no
variable twice, its types can be read back, and its constants hold what they declare. -/
structure Function.Regular (f : Function) : Prop where
  once : f.toExpr.binders.Nodup
  readable : f.toExpr.isReadable = true
  held : ∀ c ∈ f.toExpr.constants, c.isDeclared = true

/-- A choice of servers for primitive functions, each one with the encoding of the function that its
kernel serves. The kernels of regular functions answer as those of their servers, but for the names
of parameters in reports. Functions that can share kernels are served by their own ones. -/
structure Serves (P : Function → Prop) (server : Function → Function) : Prop where
  used : ∀ f, P f → P (server f)
  encoded : ∀ f, (server f).fingerprint = f.fingerprint
  answers : ∀ f fp k l, f.fingerprint = .ok fp → Kernel.compile fp.kernelName f = .ok k →
    Kernel.compile fp.kernelName (server f) = .ok l → f.Regular → (server f).Regular →
      l.arity = k.arity ∧
        ∀ slots, (l.call slots).mapError CallError.unnamed =
          (k.call slots).mapError CallError.unnamed
  own : Shareable P → server = id

/-- A registry of native kernels: each was compiled under the name of its entry, for a function with
the encoding of the entry. -/
def Registry.Native (P : Function → Prop) (r : Registry Kernel) : Prop :=
  ∀ e ∈ r.entries, ∃ f fp, P f ∧ f.fingerprint = .ok fp ∧ fp.kernelName = e.name ∧
    fp.encoding = e.encoding ∧ Kernel.compile e.name f = .ok e.kernel

variable {P : Function → Prop}

theorem Registry.native_empty : Registry.Native P .empty := nofun

/-- A kernel has the name it is compiled under. -/
theorem Kernel.name_of_compile {name : String} {f : Function} {k : Kernel}
    (h : Kernel.compile name f = .ok k) : k.name = name := by
  unfold compile at h
  split at h
  · cases h
    rfl
  · cases h

/-- The encoding of a function fixes its fingerprint. -/
theorem Function.fingerprint_eq {f : Function} {fp fq : Fingerprint} (hf : f.fingerprint = .ok fp)
    {g : Function} (hg : g.fingerprint = .ok fq) (same : fp.encoding = fq.encoding) : fp = fq := by
  obtain ⟨s, -, hf⟩ := ok_of_bind_ok hf
  obtain ⟨u, -, hg⟩ := ok_of_bind_ok hg
  cases hf
  cases hg
  exact congrArg Fingerprint.ofEncoding same

/-- A kernel that is found was compiled for a function with its encoding. -/
theorem Registry.Native.of_find? {r : Registry Kernel} (h : r.Native P) {g : Function}
    {fp : Fingerprint} (hg : g.fingerprint = .ok fp) {e : RegistryEntry Kernel}
    (found : r.find? fp.kernelName = some e) (encoding : e.encoding = fp.encoding) :
    ∃ f, P f ∧ f.fingerprint = .ok fp ∧ Kernel.compile fp.kernelName f = .ok e.kernel := by
  obtain ⟨f, fp', hP, hf, -, encoding', compiled⟩ := h e (List.mem_of_find?_eq_some found)
  have name : e.name = fp.kernelName := by simpa using List.find?_some found
  obtain rfl := Function.fingerprint_eq hf hg (encoding'.trans encoding)
  exact ⟨f, hP, hf, name ▸ compiled⟩

/-- The kernels of a registry answer as those that the servers of functions compile to. -/
def Registry.RunsServers (P : Function → Prop) (server : Function → Function)
    (r : Registry Kernel) : Prop :=
  ∀ f fp e, P f → f.fingerprint = .ok fp → r.find? fp.kernelName = some e →
    e.encoding = fp.encoding → ∃ k, Kernel.compile fp.kernelName (server f) = .ok k ∧
      k.name = e.kernel.name ∧ k.arity = e.kernel.arity ∧
        ∀ slots, k.call slots = e.kernel.call slots

/-- Regular functions with one encoding have kernels that answer alike but for names in reports. -/
theorem Function.Regular.answers {f g : Function} (regF : f.Regular) (regG : g.Regular)
    {fp : Fingerprint} (hf : f.fingerprint = .ok fp) (hg : g.fingerprint = .ok fp) {name : String}
    {k l : Kernel} (hk : Kernel.compile name f = .ok k) (hl : Kernel.compile name g = .ok l) :
    l.arity = k.arity ∧ ∀ slots, (l.call slots).mapError CallError.unnamed =
      (k.call slots).mapError CallError.unnamed := by
  obtain ⟨s, encF, hf⟩ := ok_of_bind_ok hf
  obtain ⟨u, encG, hg⟩ := ok_of_bind_ok hg
  cases hf
  obtain rfl : u = s := congrArg Fingerprint.encoding (Except.ok.inj hg)
  obtain ⟨ρ, ok, renamed⟩ := Function.renamed_of_encoding encF encG regF.once regG.once
    regF.readable regG.readable
  have alike := Kernel.alike_of_renamed ok renamed regF.held regG.held hk hl
  have names : k.name = l.name :=
    (Kernel.name_of_compile hk).trans (Kernel.name_of_compile hl).symm
  exact ⟨alike.arity_eq.symm, fun slots => (alike.call_unnamed names slots).symm⟩

/-- There is a function that the kernel for a function was compiled for, if there is this kernel. -/
theorem Registry.Native.exists_server {r : Registry Kernel} (h : r.Native P) (f : Function) :
    ∃ g, (P f → P g) ∧ g.fingerprint = f.fingerprint ∧
      ∀ fp e, f.fingerprint = .ok fp → r.find? fp.kernelName = some e →
        e.encoding = fp.encoding → Kernel.compile fp.kernelName g = .ok e.kernel := by
  by_cases served : ∃ fp e, f.fingerprint = .ok fp ∧ r.find? fp.kernelName = some e ∧
      e.encoding = fp.encoding
  · obtain ⟨fp, e, hf, found, encoding⟩ := served
    obtain ⟨g, hg, same, compiled⟩ := h.of_find? hf found encoding
    refine ⟨g, fun _ => hg, same.trans hf.symm, ?_⟩
    intro fp' e' hf' found' _
    obtain rfl := Except.ok.inj (hf.symm.trans hf')
    obtain rfl := Option.some.inj (found.symm.trans found')
    exact compiled
  · refine ⟨f, id, rfl, ?_⟩
    intro fp e hf found encoding
    exact absurd ⟨fp, e, hf, found, encoding⟩ served

/-- Functions that can share kernels serve themselves. -/
theorem Registry.Native.runsServers_id {r : Registry Kernel} (h : r.Native P)
    (shareable : Shareable P) : r.RunsServers P id := by
  intro f fp e hP hf found encoding
  obtain ⟨g, hg, same, compiled⟩ := h.of_find? hf found encoding
  obtain ⟨k, own, arity, calls⟩ := shareable g f fp hg hP same hf _ compiled
  have names : k.name = e.kernel.name :=
    (Kernel.name_of_compile own).trans (Kernel.name_of_compile compiled).symm
  exact ⟨k, own, names, arity, calls⟩

/-- A registry of native kernels chooses servers: the functions that its kernels were compiled for,
or every function itself if they can share kernels. -/
theorem Registry.Native.exists_serves {r : Registry Kernel} (h : r.Native P) :
    ∃ server, Serves P server ∧ r.RunsServers P server := by
  by_cases shareable : Shareable P
  · refine ⟨id, ⟨fun _ => id, fun _ => rfl, ?_, fun _ => rfl⟩, h.runsServers_id shareable⟩
    intro f fp k l hf hk hl regular _
    exact regular.answers regular hf hf hk hl
  · choose server used encoded compiled using h.exists_server
    refine ⟨server, ⟨used, encoded, ?_, fun own => absurd own shareable⟩, ?_⟩
    · intro f fp k l hf hk hl regular regular'
      exact regular.answers regular' hf ((encoded f).trans hf) hk hl
    · intro f fp e _ hf found encoding
      exact ⟨_, compiled f fp e hf found encoding, rfl, rfl, fun _ => rfl⟩

/-! ### What lowering adds -/

namespace Lowering

/-- A kernel for a function is compiled for it, or is there before. -/
theorem kernelFor_native {f : Function} (hP : P f) (conv : Convention) (arity : Nat) :
    (Conduct.keeping fun s : Session Kernel => s.registry.Native P).Follows
      (kernelFor Backend.native f conv arity) := by
  refine Conduct.follows_keeping_iff.mpr fun s native => ?_
  cases hf : f.fingerprint with
  | error e =>
      rw [kernelFor, hf]
      exact native
  | ok fp =>
      obtain ⟨reports, -, -, run⟩ := run_kernelFor Backend.native hf conv arity s
      rw [run]
      rcases s.registry.load_forms fp fun name => Backend.native.compile name f with
        ⟨k, -, load⟩ | ⟨k, -, compiled, load⟩ | ⟨e, load, -⟩
      · rwa [load]
      · rw [load]
        intro e he
        rcases List.mem_append.mp he with he | he
        · exact native e he
        · obtain rfl := List.mem_singleton.mp he
          refine ⟨f, fp, hP, hf, rfl, rfl, ?_⟩
          simp only [Backend.native] at compiled
          split at compiled
          · cases compiled
            assumption
          · cases compiled
      · rwa [load]

/-- Packing a primitive function adds its kernel at most. -/
theorem packedCall_native (site : Expr) {f : Function} (hP : P f) (tys : List Ty) :
    (Conduct.keeping fun s : Session Kernel => s.registry.Native P).Follows
      (packedCall Backend.native site f tys) := by
  refine Conduct.follows_keeping_iff.mpr fun s native => ?_
  cases hc : convention site f.params.length tys with
  | error e =>
      rw [packedCall, run_bind, hc, run_lift]
      exact native
  | ok form =>
      rw [packedCall_snd Backend.native hc]
      exact Conduct.follows_keeping_iff.mp (kernelFor_native hP form.1 (form.2 + 1)) s native

/-- Nodes add the kernels of the primitive functions they use, if the globals do. -/
theorem guides_native {resolve : GlobalRef → LowerM Kernel Unit} {e : Expr}
    (uses : ∀ f ∈ e.primitives, P f)
    (inner : ∀ g, (Conduct.keeping fun s : Session Kernel => s.registry.Native P).Follows
      (resolve g)) :
    (Conduct.keeping fun s : Session Kernel => s.registry.Native P).Guides Backend.native resolve
      e.parts where
  refuse _ _ _ _ := id
  resolve g _ := inner g
  pack x hx f tys use := packedCall_native x (uses f (Expr.mem_primitives hx use)) tys

/-- Resolving globals adds the kernels of the primitive functions that they use. -/
theorem resolve_native {m : Module}
    (uses : ∀ id f, m.function? id = some f → ∀ q ∈ f.toExpr.primitives, P q) (depth : Nat)
    (g : GlobalRef) : (Conduct.keeping fun s : Session Kernel => s.registry.Native P).Follows
      (resolve m Backend.native depth g) := by
  induction depth using Nat.strong_induction_on generalizing g with
  | _ depth ih =>
      refine Conduct.follows_keeping_iff.mpr fun s native => ?_
      rcases resolve_cases m Backend.native depth g s with ⟨e, run⟩ | ⟨id, -, -, run⟩ |
        ⟨id, -, -, run⟩ | ⟨d, id, f, rfl, -, hf, -, -, run⟩
      · rwa [run]
      · rwa [run]
      · rwa [run]
      · have guides := guides_native (uses id f hf) fun g => ih d d.lt_succ_self g
        have inner := Conduct.follows_keeping_iff.mp (Conduct.lowerFunction_follows guides)
          { s with active := id :: s.active, log := s.log ++ [.resolving g.name] } native
        rw [run, run_complete]
        rcases hrun : (lowerFunction Backend.native (resolve m Backend.native d) f :
            LowerM Kernel Routine).run
            { s with active := id :: s.active, log := s.log ++ [.resolving g.name] } with ⟨e | r, t⟩
          <;> rwa [hrun] at inner

/-- Lowering a function adds the kernels of the primitive functions that it and the globals of its
module use. -/
theorem lowerFunction_native {m : Module} {f : Function} (used : ∀ q ∈ f.toExpr.primitives, P q)
    (uses : ∀ id f, m.function? id = some f → ∀ q ∈ f.toExpr.primitives, P q)
    {s : Session Kernel} (native : s.registry.Native P) :
    (s.lowerFunction m Backend.native f).2.registry.Native P :=
  Conduct.follows_keeping_iff.mp
    (Conduct.lowerFunction_follows (guides_native used (resolve_native uses m.defs.length))) s
      native

/-! ### Translations of the functions in use -/

section

variable {prim : PrimJudgement} {known : GlobalRef → Prop}

/-- A judgement for some primitive functions only. -/
def PrimJudgement.on (prim : PrimJudgement) (P : Function → Prop) : PrimJudgement :=
  fun f tys form => prim f tys form ∧ P f

mutual

/-- A translation judges no primitive functions but those that the expression uses. -/
theorem Translates.on {e : Expr} {n : Node} : Translates prim known e n →
    (∀ x ∈ e.parts, ∀ f tys, x.primitiveUse? = some (f, tys) → P f) →
      Translates (PrimJudgement.on prim P) known e n
  | .var v, _ => .var v
  | .const c, _ => .const c
  | .global ok, _ => .global ok
  | .primCall ok fields, uses =>
      .primCall ⟨ok, uses _ List.mem_cons_self _ _ rfl⟩
        (TranslatesAll.on fields fun x hx => uses x (List.mem_cons_of_mem _ hx))
  | .ctorCall count fields, uses =>
      .ctorCall count (TranslatesAll.on fields fun x hx => uses x (List.mem_cons_of_mem _ hx))
  | .call plain head fields, uses => by
      have node := head.isHead_eq.trans plain
      simp only [Expr.parts, node, Bool.false_eq_true, if_false, List.forall_mem_cons,
        List.forall_mem_append] at uses
      exact .call plain (Translates.on head uses.2.1) (TranslatesAll.on fields uses.2.2)
  | .bind head tail, uses => by
      simp only [Expr.parts, List.forall_mem_cons, List.forall_mem_append] at uses
      exact .bind (Translates.on head uses.2.1) (Translates.on tail uses.2.2)
  | .cond head left right, uses => by
      simp only [Expr.parts, List.forall_mem_cons, List.forall_mem_append] at uses
      exact .cond (Translates.on head uses.2.1.1) (Translates.on left uses.2.1.2)
        (Translates.on right uses.2.2)
  | .tuple all, uses =>
      .tuple (TranslatesAll.on all fun x hx => uses x (List.mem_cons_of_mem _ hx))
  | .proj head, uses => .proj (Translates.on head fun x hx => uses x (List.mem_cons_of_mem _ hx))
  | .cases head all, uses => by
      simp only [Expr.parts, List.forall_mem_cons, List.forall_mem_append] at uses
      exact .cases (Translates.on head uses.2.1) (TranslatesClauses.on all uses.2.2)
  | .primFn ok, uses => .primFn ⟨ok, uses _ List.mem_cons_self _ _ rfl⟩
  | .fn head, uses => .fn (Translates.on head fun x hx => uses x (List.mem_cons_of_mem _ hx))

theorem TranslatesAll.on {es : List Expr} {ns : List Node} : TranslatesAll prim known es ns →
    (∀ x ∈ Expr.partsAll es, ∀ f tys, x.primitiveUse? = some (f, tys) → P f) →
      TranslatesAll (PrimJudgement.on prim P) known es ns
  | .nil, _ => .nil
  | .cons head tail, uses => by
      simp only [Expr.partsAll, List.forall_mem_append] at uses
      exact .cons (Translates.on head uses.1) (TranslatesAll.on tail uses.2)

theorem TranslatesClauses.on {es : List (Pattern × Expr)} {ns : List (Pattern × Node)} :
    TranslatesClauses prim known es ns →
    (∀ x ∈ Expr.partsClauses es, ∀ f tys, x.primitiveUse? = some (f, tys) → P f) →
      TranslatesClauses (PrimJudgement.on prim P) known es ns
  | .nil, _ => .nil
  | .cons head tail, uses => by
      simp only [Expr.partsClauses, List.forall_mem_append] at uses
      exact .cons (Translates.on head uses.1) (TranslatesClauses.on tail uses.2)

end

/-- The translation of a function judges no primitive functions but those that it uses. -/
theorem TranslatesFunction.on {f : Function} {r : Routine} (h : TranslatesFunction prim known f r)
    (uses : ∀ q ∈ f.toExpr.primitives, P q) :
    TranslatesFunction (PrimJudgement.on prim P) known f r := by
  have parts (x) (hx : x ∈ f.toExpr.parts) (q tys) (use : x.primitiveUse? = some (q, tys)) : P q :=
    uses q (Expr.mem_primitives hx use)
  cases h with
  | prim ok => exact .prim ⟨ok, parts _ List.mem_cons_self _ _ rfl⟩
  | plain head => exact .plain (head.on fun x hx => parts x (List.mem_cons_of_mem _ hx))

end

end Lowering

/-! ### Packed calls -/

namespace Meaning

variable {φ : Type}

/-- The calling convention of the source is that of packed calls. -/
theorem spreads_eq {site : Expr} {params : Nat} {types : List Ty} {conv : Convention}
    {inputs : Nat} (h : convention site params types = .ok (conv, inputs)) :
    SourceProgram.spreads types = conv := by
  unfold convention at h
  split at h
  · split at h
    · cases h
    · cases h
      rfl
  · rename_i tuple
    split at h
    · cases h
    · split at h
      · cases h
        unfold SourceProgram.spreads
        split
        · exact absurd rfl (tuple _)
        · rfl
      · cases h

/-- A packed call answers as the primitive function does that it was made for. -/
theorem packedCall_eq {p : SourceProgram} {img : Linked.Image}
    (runs : img.kernels.RunsServers P p.server) (device : p.device = img.device) {f : Function}
    (hP : P f) {types : List Ty} {form : PackedForm} (h : Packs img.kernels f types form)
    (args : List (Value φ)) :
    img.packedCall form.kernel (form.inputs + 1 : Nat) form.conv args =
      p.runPrimitive f types args := by
  obtain ⟨site, fp, e, hf, found, encoding, name, arity, conv⟩ := h
  obtain ⟨own, compiled, names, arities, calls⟩ := runs f fp e hP hf found encoding
  have kernel : p.kernel? f = some own := by
    simp only [SourceProgram.kernel?, hf, compiled, Except.toOption]
  have ownName : own.name = fp.kernelName := Kernel.name_of_compile compiled
  have named : form.kernel = fp.kernelName := name.symm.trans (names.symm.trans ownName)
  have looked : img.kernels.lookup fp.kernelName = some e.kernel := by
    rw [Registry.lookup, found, Option.map_some]
  have count : own.arity = form.inputs + 1 := by
    have : (e.kernel.arity : Int) = (form.inputs + 1 : Nat) := arity
    omega
  unfold Linked.Image.packedCall SourceProgram.runPrimitive
  rw [named, looked, kernel, spreads_eq conv]
  simp only [ownName, count, calls, device]
  refine bind_congr fun inputs => ?_
  have counted : ((inputs.length + 1 : Nat) : Int) ≠ (form.inputs + 1 : Nat) ↔
      inputs.length + 1 ≠ form.inputs + 1 := by omega
  by_cases wrong : inputs.length + 1 ≠ form.inputs + 1
  · exact (if_pos (counted.mpr wrong)).trans (if_pos wrong).symm
  · exact (if_neg (mt counted.mp wrong)).trans (if_neg wrong).symm

end Meaning
end TensorCompiler
