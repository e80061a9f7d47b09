import TensorCompiler.Proofs.Lowering.Translation
import TensorCompiler.Proofs.Outcome

/-!
# Disciplines of lowering steps

A discipline is an invariant of sessions with an order in which sessions grow, and the two
judgements of a translation read in a session. A lowering step keeps a discipline if it leads from
a session with the invariant to a larger one with the invariant, whether it fails or not.

Main statement: if the resolution of globals and the packing of primitive functions keep a
discipline, then so does the lowering of every expression, and a node it returns translates the
expression.
-/

namespace TensorCompiler.Lowering

open Lowered

variable {κ α β : Type}

/-- An invariant of sessions, an order of growth, and judgements that growth preserves. -/
structure Discipline (κ : Type) where
  Inv : Session κ → Prop
  Grows : Session κ → Session κ → Prop
  prim : Session κ → PrimJudgement
  known : Session κ → GlobalRef → Prop
  refl : ∀ s, Grows s s
  trans : ∀ {s t u}, Grows s t → Grows t u → Grows s u
  prim_mono : ∀ {s t}, Grows s t → ∀ f tys form, prim s f tys form → prim t f tys form
  known_mono : ∀ {s t}, Grows s t → ∀ g, known s g → known t g

namespace Discipline

variable (D : Discipline κ)

/-- A step keeps a discipline, and what it returns has a property in the session it leaves. -/
def Keeps (x : LowerM κ α) (Q : α → Session κ → Prop) : Prop :=
  ∀ s, D.Inv s → D.Inv (x.run s).2 ∧ D.Grows s (x.run s).2 ∧
    ∀ a, (x.run s).1 = .ok a → Q a (x.run s).2

/-- The translation of an expression in a session. -/
def Lowers (e : Expr) (n : Node) (s : Session κ) : Prop :=
  Translates (D.prim s) (D.known s) e n

/-- Growth keeps translations. -/
theorem lowers_mono {s t : Session κ} (h : D.Grows s t) {e : Expr} {n : Node}
    (he : D.Lowers e n s) : D.Lowers e n t :=
  he.mono (D.prim_mono h) (D.known_mono h)

variable {D}

namespace Keeps

theorem pure (a : α) : D.Keeps (Pure.pure a) fun b _ => b = a := by
  intro s hs
  refine ⟨hs, D.refl s, ?_⟩
  intro b hb
  exact (Except.ok.inj hb).symm

theorem throw (e : LowerError) {Q : α → Session κ → Prop} :
    D.Keeps (MonadExcept.throw e) Q := by
  intro s hs
  refine ⟨hs, D.refl s, ?_⟩
  intro a ha
  cases ha

theorem mono {x : LowerM κ α} {Q R : α → Session κ → Prop} (h : D.Keeps x Q)
    (imp : ∀ a s, Q a s → R a s) : D.Keeps x R := by
  intro s hs
  obtain ⟨hi, hg, hq⟩ := h s hs
  exact ⟨hi, hg, fun a ha => imp a _ (hq a ha)⟩

/-- Two steps in a row. What the first one returned still holds after the second one. -/
theorem bind {x : LowerM κ α} {f : α → LowerM κ β} {Q : α → Session κ → Prop}
    {R : α → β → Session κ → Prop} (hx : D.Keeps x Q)
    (stable : ∀ a {s t}, D.Grows s t → Q a s → Q a t) (hf : ∀ a, D.Keeps (f a) (R a)) :
    D.Keeps (x >>= f) fun b s => ∃ a, Q a s ∧ R a b s := by
  intro s hs
  obtain ⟨hi, hg, hq⟩ := hx s hs
  rw [run_bind]
  rcases hrun : x.run s with ⟨a | a, t⟩
  · rw [hrun] at hi hg
    refine ⟨hi, hg, ?_⟩
    intro b hb
    cases hb
  · rw [hrun] at hi hg hq
    obtain ⟨hi', hg', hr⟩ := hf a t hi
    refine ⟨hi', D.trans hg hg', ?_⟩
    intro b hb
    exact ⟨a, stable a hg' (hq a rfl), hr b hb⟩

end Keeps

/-- Expressions whose call is neither packed nor constructed nor refused at once. -/
theorem lower_call_plain {σ κ ρ : Type} [SessionState σ κ ρ] [CompiledKernel κ] {b : Backend κ}
    {resolve : GlobalRef → LowerIn σ Unit} {callee : Expr} (plain : callee.isPrimitive = false)
    (ctor : ∀ c, callee ≠ .ctor c) (op : ∀ name, callee ≠ .op name) (hole : callee ≠ .hole)
    (args : List Expr) (ty : Ty) :
    lower b resolve (.call callee args ty) = (do
      let f ← lower b resolve callee
      let nodes ← lowerAll b resolve args
      return .invoke f nodes ty) := by
  rw [lower]
  · intro params body ret h
    subst h
    cases plain
  · exact ctor
  · exact op
  · exact hole

section Lower

variable [CompiledKernel κ] {b : Backend κ} {resolve : GlobalRef → LowerM κ Unit}

/-- What the two outside steps of lowering have to keep. -/
structure Admits (D : Discipline κ) (b : Backend κ) (resolve : GlobalRef → LowerM κ Unit) :
    Prop where
  resolve : ∀ g, D.Keeps (resolve g) fun _ s => D.known s g
  pack : ∀ site f tys, D.Keeps (packedCall b site f tys) fun pack s =>
    ∃ form, D.prim s f tys form ∧ pack = fun nodes => form.node nodes f.ret

/-- Lowering a call keeps the discipline if lowering its parts does. -/
theorem lower_call_keeps (h : D.Admits b resolve) (callee : Expr) (args : List Expr) (ty : Ty)
    (head : D.Keeps (lower b resolve callee) fun n s => D.Lowers callee n s)
    (tail : D.Keeps (lowerAll b resolve args) fun ns s =>
      TranslatesAll (D.prim s) (D.known s) args ns) :
    D.Keeps (lower b resolve (.call callee args ty)) fun n s =>
      D.Lowers (.call callee args ty) n s := by
  have stable : ∀ ns {s t}, D.Grows s t → TranslatesAll (D.prim s) (D.known s) args ns →
      TranslatesAll (D.prim t) (D.known t) args ns :=
    fun _ _ _ hg he => he.mono (D.prim_mono hg) (D.known_mono hg)
  have plain (hp : callee.isPrimitive = false) (hc : ∀ c, callee ≠ .ctor c)
      (ho : ∀ name, callee ≠ .op name) (hh : callee ≠ .hole) :
      D.Keeps (lower b resolve (.call callee args ty)) fun n s =>
        D.Lowers (.call callee args ty) n s := by
    rw [lower_call_plain hp hc ho hh]
    refine (head.bind (fun _ _ _ hg he => D.lowers_mono hg he) fun f =>
      tail.bind stable fun ns => Keeps.pure _).mono ?_
    rintro n s ⟨f, hf, ns, hns, rfl⟩
    exact .call hp hf hns
  cases callee with
  | hole => rw [lower]; exact Keeps.throw _
  | op name => rw [lower]; exact Keeps.throw _
  | ctor c =>
      rw [lower]
      by_cases count : args.length = c.inputs.length
      · simp only [count, ne_eq, not_true_eq_false, if_false]
        refine (tail.bind stable fun ns => Keeps.pure _).mono ?_
        rintro n s ⟨ns, hns, rfl⟩
        exact .ctorCall count hns
      · simp only [ne_eq, count, not_false_eq_true, if_true]
        exact Keeps.throw _
  | fn params body ret primitive =>
      cases primitive with
      | false => exact plain rfl (by simp) (by simp) (by simp)
      | true =>
          rw [lower]
          refine ((h.pack _ ⟨params, body, ret, true⟩ _).bind ?_ fun pack =>
            tail.bind stable fun ns => Keeps.pure _).mono ?_
          · rintro pack s t hg ⟨form, ok, rfl⟩
            exact ⟨form, D.prim_mono hg _ _ _ ok, rfl⟩
          · rintro n s ⟨pack, ⟨form, ok, rfl⟩, ns, hns, rfl⟩
            exact .primCall ok hns
  | _ => exact plain rfl (by simp) (by simp) (by simp)

mutual

/-- Lowering an expression keeps every discipline its outside steps keep. -/
theorem lower_keeps (h : D.Admits b resolve) :
    (e : Expr) → D.Keeps (lower b resolve e) fun n s => D.Lowers e n s
  | .hole => by rw [lower]; exact Keeps.throw _
  | .var v => by
      rw [lower]
      exact (Keeps.pure _).mono fun n s hn => hn ▸ .var v
  | .const c => by
      rw [lower]
      exact (Keeps.pure _).mono fun n s hn => hn ▸ .const c
  | .global g => by
      rw [lower]
      refine ((h.resolve g).bind (fun _ _ _ hg hk => D.known_mono hg g hk)
        fun _ => Keeps.pure _).mono ?_
      rintro n s ⟨_, hk, rfl⟩
      exact .global hk
  | .op name => by rw [lower]; exact Keeps.throw _
  | .ctor c => by rw [lower]; exact Keeps.throw _
  | .call callee args ty => lower_call_keeps h callee args ty (lower_keeps h callee)
      (lowerAll_keeps h args)
  | .bind v value body => by
      rw [lower]
      refine ((lower_keeps h value).bind (fun _ _ _ hg he => D.lowers_mono hg he) fun x =>
        (lower_keeps h body).bind (fun _ _ _ hg he => D.lowers_mono hg he) fun n =>
          Keeps.pure _).mono ?_
      rintro n s ⟨x, hx, n', hn, rfl⟩
      exact .bind hx hn
  | .cond test yes no ty => by
      rw [lower]
      refine ((lower_keeps h test).bind (fun _ _ _ hg he => D.lowers_mono hg he) fun c =>
        (lower_keeps h yes).bind (fun _ _ _ hg he => D.lowers_mono hg he) fun y =>
          (lower_keeps h no).bind (fun _ _ _ hg he => D.lowers_mono hg he) fun n =>
            Keeps.pure _).mono ?_
      rintro n s ⟨c, hc, y, hy, n', hn, rfl⟩
      exact .cond hc hy hn
  | .tuple fields ty => by
      rw [lower]
      refine ((lowerAll_keeps h fields).bind (fun _ _ _ hg he => he.mono (D.prim_mono hg)
        (D.known_mono hg)) fun nodes => Keeps.pure _).mono ?_
      rintro n s ⟨nodes, hn, rfl⟩
      exact .tuple hn
  | .proj e index ty => by
      rw [lower]
      refine ((lower_keeps h e).bind (fun _ _ _ hg he => D.lowers_mono hg he) fun n =>
        Keeps.pure _).mono ?_
      rintro n s ⟨n', hn, rfl⟩
      exact .proj hn
  | .cases data clauses ty => by
      rw [lower]
      refine ((lower_keeps h data).bind (fun _ _ _ hg he => D.lowers_mono hg he) fun d =>
        (lowerClauses_keeps h clauses).bind (fun _ _ _ hg he => he.mono (D.prim_mono hg)
          (D.known_mono hg)) fun cs => Keeps.pure _).mono ?_
      rintro n s ⟨d, hd, cs, hcs, rfl⟩
      exact .cases hd hcs
  | .fn params body ret true => by
      rw [lower]
      refine ((h.pack _ ⟨params, body, ret, true⟩ _).bind ?_ fun pack => Keeps.pure _).mono ?_
      · rintro pack s t hg ⟨form, ok, rfl⟩
        exact ⟨form, D.prim_mono hg _ _ _ ok, rfl⟩
      · rintro n s ⟨pack, ⟨form, ok, rfl⟩, rfl⟩
        exact .primFn ok
  | .fn params body ret false => by
      rw [lower]
      refine ((lower_keeps h body).bind (fun _ _ _ hg he => D.lowers_mono hg he) fun n =>
        Keeps.pure _).mono ?_
      rintro n s ⟨n', hn, rfl⟩
      exact .fn hn

/-- Lowering several expressions keeps the discipline. -/
theorem lowerAll_keeps (h : D.Admits b resolve) :
    (es : List Expr) → D.Keeps (lowerAll b resolve es) fun ns s =>
      TranslatesAll (D.prim s) (D.known s) es ns
  | [] => by
      rw [lowerAll]
      exact (Keeps.pure _).mono fun ns s hn => hn ▸ .nil
  | e :: es => by
      rw [lowerAll]
      refine ((lower_keeps h e).bind (fun _ _ _ hg he => D.lowers_mono hg he) fun n =>
        (lowerAll_keeps h es).bind (fun _ _ _ hg he => he.mono (D.prim_mono hg)
          (D.known_mono hg)) fun ns => Keeps.pure _).mono ?_
      rintro ns s ⟨n, hn, ns', hns, rfl⟩
      exact .cons hn hns

/-- Lowering clauses keeps the discipline. -/
theorem lowerClauses_keeps (h : D.Admits b resolve) :
    (cs : List (Pattern × Expr)) → D.Keeps (lowerClauses b resolve cs) fun ns s =>
      TranslatesClauses (D.prim s) (D.known s) cs ns
  | [] => by
      rw [lowerClauses]
      exact (Keeps.pure _).mono fun ns s hn => hn ▸ .nil
  | (p, e) :: cs => by
      rw [lowerClauses]
      refine ((lower_keeps h e).bind (fun _ _ _ hg he => D.lowers_mono hg he) fun n =>
        (lowerClauses_keeps h cs).bind (fun _ _ _ hg he => he.mono (D.prim_mono hg)
          (D.known_mono hg)) fun ns => Keeps.pure _).mono ?_
      rintro ns s ⟨n, hn, ns', hns, rfl⟩
      exact .cons hn hns

end

end Lower

end Discipline
end TensorCompiler.Lowering
