import TensorCompiler.Proofs.Fingerprint.Types
import TensorCompiler.Proofs.Outcome

/-!
# Skeletons

What the encoder keeps of an expression, as a tree: variables are numbers, types are nominal,
constructors are a data type and a tag, constants are a nominal shape and printed values.
The encoding of an expression is the text of its skeleton.

## Implementation notes

An expression and its skeleton are related by `Encodes`, which also carries the numbering before
and after. The relation is deterministic, but no proof needs that: cases on a derivation replace
the unfolding of the encoder.
-/

namespace TensorCompiler

/-- A binding occurrence: a number and the type of the variable. -/
structure Binder where
  number : Nat
  ty : Ty

/-- The text of a binding occurrence. -/
def Binder.text (b : Binder) : String :=
  "%" ++ Text.ofNat b.number ++ ":" ++ b.ty.encoding

/-- A constructor by the name of its data type and its tag. -/
def ctorText (data : String) (tag : Nat) : String :=
  "(ctor data" ++ Text.quoted data ++ " " ++ Text.ofNat tag

/-- What the encoder keeps of a pattern. -/
inductive PatternSkeleton where
  | hole
  | wildcard
  | var (b : Binder)
  | ctor (data : String) (tag : Nat) (fields : List PatternSkeleton)
  | tuple (fields : List PatternSkeleton)

/-- What the encoder keeps of an expression. -/
inductive Skeleton where
  | ref (number : Nat)
  | const (shape : Shape) (values : String)
  | global (name : String)
  | op (name : String)
  | ctor (data : String) (tag : Nat)
  | call (callee : Skeleton) (args : List Skeleton) (ty : Ty)
  | bind (b : Binder) (value body : Skeleton)
  | cond (test yes no : Skeleton)
  | tuple (fields : List Skeleton)
  | proj (tuple : Skeleton) (index : Int)
  | cases (data : Skeleton) (clauses : List (PatternSkeleton × Skeleton))
  | fn (params : List Binder) (body : Skeleton) (ret : Ty) (primitive : Bool)

namespace PatternSkeleton

mutual

/-- The text of a pattern. -/
def text : PatternSkeleton → String
  | .hole => ""
  | .wildcard => "_"
  | .var b => b.text
  | .ctor data tag fields => ctorText data tag ++ textAll fields ++ ")"
  | .tuple fields => "(tuple" ++ textAll fields ++ ")"

/-- The texts of several patterns, a space before each. -/
def textAll : List PatternSkeleton → String
  | [] => ""
  | p :: ps => " " ++ text p ++ textAll ps

end

end PatternSkeleton

namespace Skeleton

mutual

/-- The text of an expression. -/
def text : Skeleton → String
  | .ref n => "%" ++ Text.ofNat n
  | .const shape values => "(const " ++ shape.text ++ " " ++ values ++ ")"
  | .global name => "@" ++ Text.quoted name
  | .op name => "#" ++ Text.quoted name
  | .ctor data tag => ctorText data tag ++ ")"
  | .call callee args ty =>
    "(call " ++ text callee ++ " " ++ ty.encoding ++ "(" ++ textAll args ++ "))"
  | .bind b value body => "(let " ++ text value ++ " " ++ b.text ++ " " ++ text body ++ ")"
  | .cond test yes no => "(if " ++ text test ++ " " ++ text yes ++ " " ++ text no ++ ")"
  | .tuple fields => "(tuple" ++ textAll fields ++ ")"
  | .proj e index => "(get " ++ Text.ofInt index ++ " " ++ text e ++ ")"
  | .cases data clauses => "(match " ++ text data ++ textClauses clauses ++ ")"
  | .fn params body ret primitive =>
    (if primitive then "(fn primitive (" else "(fn (") ++
      Text.joinWith " " (params.map Binder.text) ++ ") " ++ ret.encoding ++ " " ++ text body ++ ")"

/-- The texts of several expressions, a space before each. -/
def textAll : List Skeleton → String
  | [] => ""
  | k :: ks => " " ++ text k ++ textAll ks

/-- The texts of clauses, a space before each. -/
def textClauses : List (PatternSkeleton × Skeleton) → String
  | [] => ""
  | (p, k) :: rest => " (" ++ p.text ++ " " ++ text k ++ ")" ++ textClauses rest

end

end Skeleton

/-! ### Skeletons of expressions -/

/-- The binding occurrence of a variable. -/
def Var.binder (σ : Numbering) (v : Var) : Binder :=
  ⟨σ.length, v.ty.nominal⟩

theorem Var.text_binder (σ : Numbering) (v : Var) : (v.binder σ).text = v.encoding σ := by
  rw [Binder.text, Var.binder, Ty.encoding_nominal]
  rfl

/-- The numbering after several variables are bound in order. -/
def Numbering.insertAll (σ : Numbering) (vs : List Var) : Numbering :=
  vs.foldl Numbering.insert σ

@[simp]
theorem Numbering.insertAll_nil (σ : Numbering) : σ.insertAll [] = σ := rfl

@[simp]
theorem Numbering.insertAll_cons (σ : Numbering) (v : Var) (vs : List Var) :
    σ.insertAll (v :: vs) = (σ.insert v).insertAll vs := rfl

theorem Numbering.insertAll_append (σ : Numbering) (vs ws : List Var) :
    σ.insertAll (vs ++ ws) = (σ.insertAll vs).insertAll ws := by
  simp [Numbering.insertAll]

/-- The binding occurrences of parameters. -/
def paramBinders (σ : Numbering) : List Var → List Binder
  | [] => []
  | v :: vs => v.binder σ :: paramBinders (σ.insert v) vs

/-- Parameters are encoded by their binding occurrences. -/
theorem encodeParams_eq (σ : Numbering) (vs : List Var) :
    encodeParams σ vs =
      (Text.joinWith " " ((paramBinders σ vs).map Binder.text), σ.insertAll vs) := by
  induction vs generalizing σ with
  | nil => rfl
  | cons v vs ih =>
      cases vs with
      | nil => rw [encodeParams, ← Var.text_binder]; rfl
      | cons w vs => rw [encodeParams, ih, ← Var.text_binder]; rfl

namespace Pattern

mutual

/-- The skeleton of a pattern. -/
def skeleton (σ : Numbering) : Pattern → PatternSkeleton
  | .hole => .hole
  | .wildcard => .wildcard
  | .var v => .var (v.binder σ)
  | .ctor c fields => .ctor c.data.name c.tag (skeletonAll σ fields)
  | .tuple fields => .tuple (skeletonAll σ fields)

/-- The skeletons of several patterns. -/
def skeletonAll (σ : Numbering) : List Pattern → List PatternSkeleton
  | [] => []
  | p :: ps => skeleton σ p :: skeletonAll (σ.insertAll p.vars) ps

end

mutual

/-- A pattern is encoded by its skeleton and binds its variables from left to right. -/
theorem encode_eq (σ : Numbering) :
    (p : Pattern) → p.encode σ = ((p.skeleton σ).text, σ.insertAll p.vars)
  | .hole => rfl
  | .wildcard => rfl
  | .var v => by
      rw [encode, skeleton, PatternSkeleton.text, Var.text_binder]
      rfl
  | .ctor c fields => by
      rw [encode, encodeAll_eq σ fields]
      rfl
  | .tuple fields => by
      rw [encode, encodeAll_eq σ fields]
      rfl

/-- Several patterns are encoded by their skeletons. -/
theorem encodeAll_eq (σ : Numbering) : (ps : List Pattern) →
    encodeAll σ ps = (PatternSkeleton.textAll (skeletonAll σ ps), σ.insertAll (varsAll ps))
  | [] => rfl
  | p :: ps => by
      rw [encodeAll, encode_eq σ p, encodeAll_eq _ ps, varsAll, Numbering.insertAll_append]
      rfl

end

end Pattern

mutual

/-- The skeleton of an expression, with the numbering before and after it. -/
inductive Encodes : Numbering → Expr → Skeleton → Numbering → Prop
  | var {σ v n} (found : σ.find? v = some n) : Encodes σ (.var v) (.ref n) σ
  | const {σ c} : Encodes σ (.const c) (.const c.shape.nominal c.values.text) σ
  | global {σ g} : Encodes σ (.global g) (.global g.name) σ
  | op {σ name} : Encodes σ (.op name) (.op name) σ
  | ctor {σ c} : Encodes σ (.ctor c) (.ctor c.data.name c.tag) σ
  | call {σ σ₁ σ₂ callee f args ks t} (head : Encodes σ callee f σ₁)
      (tail : EncodesAll σ₁ args ks σ₂) :
      Encodes σ (.call callee args t) (.call f ks t.nominal) σ₂
  | bind {σ σ₁ σ₂ v value x body b} (head : Encodes σ value x σ₁)
      (tail : Encodes (σ₁.insert v) body b σ₂) :
      Encodes σ (.bind v value body) (.bind (v.binder σ₁) x b) σ₂
  | cond {σ σ₁ σ₂ σ₃ test c yes y no n t} (head : Encodes σ test c σ₁)
      (left : Encodes σ₁ yes y σ₂) (right : Encodes σ₂ no n σ₃) :
      Encodes σ (.cond test yes no t) (.cond c y n) σ₃
  | tuple {σ σ₁ fields ks t} (all : EncodesAll σ fields ks σ₁) :
      Encodes σ (.tuple fields t) (.tuple ks) σ₁
  | proj {σ σ₁ e x index t} (head : Encodes σ e x σ₁) :
      Encodes σ (.proj e index t) (.proj x index) σ₁
  | cases {σ σ₁ σ₂ data d clauses cs t} (head : Encodes σ data d σ₁)
      (all : EncodesClauses σ₁ clauses cs σ₂) :
      Encodes σ (.cases data clauses t) (.cases d cs) σ₂
  | fn {σ σ₁ params body b ret primitive} (head : Encodes (σ.insertAll params) body b σ₁) :
      Encodes σ (.fn params body ret primitive)
        (.fn (paramBinders σ params) b ret.nominal primitive) σ₁

/-- The skeletons of several expressions. -/
inductive EncodesAll : Numbering → List Expr → List Skeleton → Numbering → Prop
  | nil {σ} : EncodesAll σ [] [] σ
  | cons {σ σ₁ σ₂ e k es ks} (head : Encodes σ e k σ₁) (tail : EncodesAll σ₁ es ks σ₂) :
      EncodesAll σ (e :: es) (k :: ks) σ₂

/-- The skeletons of clauses. -/
inductive EncodesClauses : Numbering → List (Pattern × Expr) →
    List (PatternSkeleton × Skeleton) → Numbering → Prop
  | nil {σ} : EncodesClauses σ [] [] σ
  | cons {σ σ₁ σ₂ p e k es ks} (head : Encodes (σ.insertAll p.vars) e k σ₁)
      (tail : EncodesClauses σ₁ es ks σ₂) :
      EncodesClauses σ ((p, e) :: es) ((p.skeleton σ, k) :: ks) σ₂

end

namespace Expr

mutual

/-- An encoding that is returned is the text of a skeleton. -/
theorem encodes_of_encode {σ τ : Numbering} {s : String} :
    (e : Expr) → e.encode σ = .ok (s, τ) → ∃ k, Encodes σ e k τ ∧ s = k.text
  | .hole, h => by cases h
  | .var v, h => by
      rw [encode] at h
      split at h
      · rename_i n found
        cases h
        exact ⟨_, .var found, rfl⟩
      · cases h
  | .const c, h => by
      cases h
      exact ⟨_, .const, by rw [Skeleton.text, Shape.text_nominal]⟩
  | .global g, h => by
      cases h
      exact ⟨_, .global, rfl⟩
  | .op name, h => by
      cases h
      exact ⟨_, .op, rfl⟩
  | .ctor c, h => by
      cases h
      exact ⟨_, .ctor, rfl⟩
  | .call callee args t, h => by
      rw [encode] at h
      obtain ⟨⟨f, σ₁⟩, hf, h⟩ := ok_of_bind_ok h
      obtain ⟨⟨as, σ₂⟩, ha, h⟩ := ok_of_bind_ok h
      obtain ⟨k, hk, rfl⟩ := encodes_of_encode callee hf
      obtain ⟨ks, hks, rfl⟩ := encodesAll_of_encode args ha
      cases h
      exact ⟨_, .call hk hks, by rw [Skeleton.text, Ty.encoding_nominal]⟩
  | .bind v value body, h => by
      rw [encode] at h
      obtain ⟨⟨x, σ₁⟩, hx, h⟩ := ok_of_bind_ok h
      obtain ⟨⟨b, σ₂⟩, hb, h⟩ := ok_of_bind_ok h
      obtain ⟨k, hk, rfl⟩ := encodes_of_encode value hx
      obtain ⟨l, hl, rfl⟩ := encodes_of_encode body hb
      cases h
      exact ⟨_, .bind hk hl, by rw [Skeleton.text, Var.text_binder]⟩
  | .cond test yes no t, h => by
      rw [encode] at h
      obtain ⟨⟨c, σ₁⟩, hc, h⟩ := ok_of_bind_ok h
      obtain ⟨⟨y, σ₂⟩, hy, h⟩ := ok_of_bind_ok h
      obtain ⟨⟨n, σ₃⟩, hn, h⟩ := ok_of_bind_ok h
      obtain ⟨k, hk, rfl⟩ := encodes_of_encode test hc
      obtain ⟨l, hl, rfl⟩ := encodes_of_encode yes hy
      obtain ⟨m, hm, rfl⟩ := encodes_of_encode no hn
      cases h
      exact ⟨_, .cond hk hl hm, rfl⟩
  | .tuple fields t, h => by
      rw [encode] at h
      obtain ⟨⟨fs, σ₁⟩, hf, h⟩ := ok_of_bind_ok h
      obtain ⟨ks, hks, rfl⟩ := encodesAll_of_encode fields hf
      cases h
      exact ⟨_, .tuple hks, rfl⟩
  | .proj e index t, h => by
      rw [encode] at h
      obtain ⟨⟨x, σ₁⟩, hx, h⟩ := ok_of_bind_ok h
      obtain ⟨k, hk, rfl⟩ := encodes_of_encode e hx
      cases h
      exact ⟨_, .proj hk, rfl⟩
  | .cases data clauses t, h => by
      rw [encode] at h
      obtain ⟨⟨d, σ₁⟩, hd, h⟩ := ok_of_bind_ok h
      obtain ⟨⟨cs, σ₂⟩, hc, h⟩ := ok_of_bind_ok h
      obtain ⟨k, hk, rfl⟩ := encodes_of_encode data hd
      obtain ⟨ks, hks, rfl⟩ := encodesClauses_of_encode clauses hc
      cases h
      exact ⟨_, .cases hk hks, rfl⟩
  | .fn params body ret primitive, h => by
      rw [encode, encodeParams_eq] at h
      obtain ⟨⟨b, σ₁⟩, hb, h⟩ := ok_of_bind_ok h
      obtain ⟨k, hk, rfl⟩ := encodes_of_encode body hb
      cases h
      exact ⟨_, .fn hk, by rw [Skeleton.text, Ty.encoding_nominal]⟩

/-- Encodings of several expressions are texts of skeletons. -/
theorem encodesAll_of_encode {σ τ : Numbering} {s : String} : (es : List Expr) →
    encodeAll σ es = .ok (s, τ) → ∃ ks, EncodesAll σ es ks τ ∧ s = Skeleton.textAll ks
  | [], h => by
      cases h
      exact ⟨_, .nil, rfl⟩
  | e :: es, h => by
      rw [encodeAll] at h
      obtain ⟨⟨x, σ₁⟩, hx, h⟩ := ok_of_bind_ok h
      obtain ⟨⟨xs, σ₂⟩, hxs, h⟩ := ok_of_bind_ok h
      obtain ⟨k, hk, rfl⟩ := encodes_of_encode e hx
      obtain ⟨ks, hks, rfl⟩ := encodesAll_of_encode es hxs
      cases h
      exact ⟨_, .cons hk hks, rfl⟩

/-- Encodings of clauses are texts of skeletons. -/
theorem encodesClauses_of_encode {σ τ : Numbering} {s : String} :
    (cs : List (Pattern × Expr)) → encodeClauses σ cs = .ok (s, τ) →
      ∃ ks, EncodesClauses σ cs ks τ ∧ s = Skeleton.textClauses ks
  | [], h => by
      cases h
      exact ⟨_, .nil, rfl⟩
  | (p, e) :: rest, h => by
      rw [encodeClauses, Pattern.encode_eq] at h
      obtain ⟨⟨b, σ₁⟩, hb, h⟩ := ok_of_bind_ok h
      obtain ⟨⟨cs, σ₂⟩, hcs, h⟩ := ok_of_bind_ok h
      obtain ⟨k, hk, rfl⟩ := encodes_of_encode e hb
      obtain ⟨ks, hks, rfl⟩ := encodesClauses_of_encode rest hcs
      cases h
      exact ⟨_, .cons hk hks, rfl⟩

end

mutual

/-- The text of a skeleton is the encoding of every expression with this skeleton. -/
theorem encode_of_encodes {σ τ : Numbering} {e : Expr} {k : Skeleton} :
    Encodes σ e k τ → e.encode σ = .ok (k.text, τ)
  | .var found => by simp [encode, found, Skeleton.text]
  | .const => by rw [encode, Skeleton.text, Shape.text_nominal]
  | .global | .op | .ctor => rfl
  | .call head tail => by
      simp only [encode, encode_of_encodes head, ok_bind, encodeAll_of_encodes tail, Skeleton.text,
        Ty.encoding_nominal]
      rfl
  | .bind head tail => by
      simp only [encode, encode_of_encodes head, ok_bind, encode_of_encodes tail, Skeleton.text,
        Var.text_binder]
      rfl
  | .cond head left right => by
      simp only [encode, encode_of_encodes head, ok_bind, encode_of_encodes left,
        encode_of_encodes right]
      rfl
  | .tuple all => by
      simp only [encode, encodeAll_of_encodes all, ok_bind]
      rfl
  | .proj head => by
      simp only [encode, encode_of_encodes head, ok_bind]
      rfl
  | .cases head all => by
      simp only [encode, encode_of_encodes head, ok_bind, encodeClauses_of_encodes all]
      rfl
  | .fn head => by
      simp only [encode, encodeParams_eq, encode_of_encodes head, ok_bind, Skeleton.text,
        Ty.encoding_nominal]
      rfl

/-- The texts of skeletons are the encodings of expressions with these skeletons. -/
theorem encodeAll_of_encodes {σ τ : Numbering} {es : List Expr} {ks : List Skeleton} :
    EncodesAll σ es ks τ → encodeAll σ es = .ok (Skeleton.textAll ks, τ)
  | .nil => rfl
  | .cons head tail => by
      simp only [encodeAll, encode_of_encodes head, ok_bind, encodeAll_of_encodes tail]
      rfl

/-- The texts of skeletons are the encodings of clauses with these skeletons. -/
theorem encodeClauses_of_encodes {σ τ : Numbering} {cs : List (Pattern × Expr)}
    {ks : List (PatternSkeleton × Skeleton)} :
    EncodesClauses σ cs ks τ → encodeClauses σ cs = .ok (Skeleton.textClauses ks, τ)
  | .nil => rfl
  | .cons head tail => by
      simp only [encodeClauses, Pattern.encode_eq, encode_of_encodes head, ok_bind,
        encodeClauses_of_encodes tail]
      rfl

end

end Expr

/-- A function has an encoding exactly if it has a skeleton, and the encoding is its text. -/
theorem Function.encoding_eq_ok_iff (f : Function) (s : String) :
    f.encoding = .ok s ↔ ∃ k τ, Encodes [] f.toExpr k τ ∧ s = k.text := by
  constructor
  · intro h
    obtain ⟨⟨t, τ⟩, ht, h⟩ := ok_of_bind_ok h
    cases h
    obtain ⟨k, hk, rfl⟩ := Expr.encodes_of_encode _ ht
    exact ⟨k, τ, hk, rfl⟩
  · rintro ⟨k, τ, hk, rfl⟩
    rw [encoding, Expr.encode_of_encodes hk]
    rfl

end TensorCompiler
