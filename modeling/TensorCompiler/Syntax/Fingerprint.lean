import TensorCompiler.Digest.Sha2
import TensorCompiler.Syntax.Print
import TensorCompiler.Text.Quoted

/-!
# Fingerprints

The canonical encoding of a function: variables are replaced by numbers given in the order they
are bound, names of globals, operators and data types are quoted. The digest of the encoding names
the kernel compiled for the function.
-/

namespace TensorCompiler

/-- Why a function has no encoding. -/
inductive EncodeError where
  | unbound (name : String)
  | missing
deriving DecidableEq

/-- The wording of a refusal. -/
def EncodeError.message : EncodeError → String
  | .unbound name => "variable " ++ name ++ " is not bound"
  | .missing => "cannot fingerprint expression of type <nil>"

instance : ToString EncodeError := ⟨EncodeError.message⟩

/-- The numbers of the variables bound so far. -/
abbrev Numbering := List (Var × Nat)

namespace Numbering

/-- The number of a variable. -/
def find? (σ : Numbering) (v : Var) : Option Nat :=
  (List.find? (fun p => p.1 == v) σ).map Prod.snd

/-- Gives a variable the count of distinct variables seen before it. A variable bound again is
renumbered and does not raise the count. -/
def insert (σ : Numbering) (v : Var) : Numbering :=
  if σ.any (fun p => p.1 == v) then σ.map fun p => if p.1 == v then (v, σ.length) else p
  else σ ++ [(v, σ.length)]

end Numbering

/-- The encoded form of a type: data types are nominal. -/
def Ty.encoding : Ty → String
  | .unknown => "_"
  | .data d => "data" ++ Text.quoted d.name
  | t => t.text

/-- A binding occurrence: the number the variable receives and its type. -/
def Var.encoding (σ : Numbering) (v : Var) : String :=
  "%" ++ Text.ofNat σ.length ++ ":" ++ v.ty.encoding

/-- Binding occurrences in order, separated by spaces. -/
def encodeParams (σ : Numbering) : List Var → String × Numbering
  | [] => ("", σ)
  | [v] => (v.encoding σ, σ.insert v)
  | v :: w :: vs =>
    let rest := encodeParams (σ.insert v) (w :: vs)
    (v.encoding σ ++ " " ++ rest.1, rest.2)

/-- A constructor by the name of its data type and its tag. -/
def Ctor.encoding (c : Ctor) : String :=
  "(ctor data" ++ Text.quoted c.data.name ++ " " ++ Text.ofNat c.tag

namespace Pattern

mutual

/-- The encoding of a pattern. -/
def encode (σ : Numbering) : Pattern → String × Numbering
  | .hole => ("", σ)
  | .wildcard => ("_", σ)
  | .var v => (v.encoding σ, σ.insert v)
  | .ctor c fields =>
    let r := encodeAll σ fields
    (c.encoding ++ r.1 ++ ")", r.2)
  | .tuple fields =>
    let r := encodeAll σ fields
    ("(tuple" ++ r.1 ++ ")", r.2)

/-- The encodings of several patterns, a space before each. -/
def encodeAll (σ : Numbering) : List Pattern → String × Numbering
  | [] => ("", σ)
  | p :: ps =>
    let r := encode σ p
    let rs := encodeAll r.2 ps
    (" " ++ r.1 ++ rs.1, rs.2)

end

end Pattern

namespace Expr

mutual

/-- The encoding of an expression under the variables bound so far. -/
def encode (σ : Numbering) : Expr → Except EncodeError (String × Numbering)
  | .hole => .error .missing
  | .var v =>
    match σ.find? v with
    | some n => .ok ("%" ++ Text.ofNat n, σ)
    | none => .error (.unbound v.name)
  | .const c => .ok ("(const " ++ c.shape.text ++ " " ++ c.values.text ++ ")", σ)
  | .global g => .ok ("@" ++ Text.quoted g.name, σ)
  | .op name => .ok ("#" ++ Text.quoted name, σ)
  | .ctor c => .ok (c.encoding ++ ")", σ)
  | .call callee args t => do
    let (f, σ) ← encode σ callee
    let (as, σ) ← encodeAll σ args
    return ("(call " ++ f ++ " " ++ t.encoding ++ "(" ++ as ++ "))", σ)
  | .bind v value body => do
    let (x, σ) ← encode σ value
    let (b, σ') ← encode (σ.insert v) body
    return ("(let " ++ x ++ " " ++ v.encoding σ ++ " " ++ b ++ ")", σ')
  | .cond test yes no _ => do
    let (c, σ) ← encode σ test
    let (y, σ) ← encode σ yes
    let (n, σ) ← encode σ no
    return ("(if " ++ c ++ " " ++ y ++ " " ++ n ++ ")", σ)
  | .tuple fields _ => do
    let (fs, σ) ← encodeAll σ fields
    return ("(tuple" ++ fs ++ ")", σ)
  | .proj e index _ => do
    let (x, σ) ← encode σ e
    return ("(get " ++ Text.ofInt index ++ " " ++ x ++ ")", σ)
  | .cases data clauses _ => do
    let (d, σ) ← encode σ data
    let (cs, σ) ← encodeClauses σ clauses
    return ("(match " ++ d ++ cs ++ ")", σ)
  | .fn params body ret primitive => do
    let ps := encodeParams σ params
    let (b, σ) ← encode ps.2 body
    return ((if primitive then "(fn primitive (" else "(fn (") ++ ps.1 ++ ") " ++ ret.encoding ++
      " " ++ b ++ ")", σ)

/-- The encodings of several expressions, a space before each. -/
def encodeAll (σ : Numbering) : List Expr → Except EncodeError (String × Numbering)
  | [] => .ok ("", σ)
  | e :: es => do
    let (x, σ) ← encode σ e
    let (xs, σ) ← encodeAll σ es
    return (" " ++ x ++ xs, σ)

/-- The encodings of the clauses of a match, a space before each. -/
def encodeClauses (σ : Numbering) :
    List (Pattern × Expr) → Except EncodeError (String × Numbering)
  | [] => .ok ("", σ)
  | (p, e) :: rest => do
    let r := p.encode σ
    let (b, σ) ← encode r.2 e
    let (cs, σ) ← encodeClauses σ rest
    return (" (" ++ r.1 ++ " " ++ b ++ ")" ++ cs, σ)

end

end Expr

/-- The structural identity of a function. -/
structure Fingerprint where
  encoding : String
  digest : List UInt8
deriving DecidableEq

namespace Fingerprint

/-- The fingerprint with a given encoding. -/
def ofEncoding (encoding : String) : Fingerprint :=
  ⟨encoding, Digest.sha256 encoding.toUTF8.toList⟩

/-- The name of the kernel of a function: `op` and the first eight bytes of the digest. -/
def kernelName (f : Fingerprint) : String :=
  "op" ++ Digest.hex (f.digest.take 8)

end Fingerprint

namespace Function

/-- The canonical encoding of a function. -/
def encoding (f : Function) : Except EncodeError String := do
  let (s, _) ← f.toExpr.encode []
  return s

/-- The fingerprint of a function. -/
def fingerprint (f : Function) : Except EncodeError Fingerprint := do
  let s ← f.encoding
  return .ofEncoding s

end Function
end TensorCompiler
