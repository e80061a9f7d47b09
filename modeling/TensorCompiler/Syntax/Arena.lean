import Std.Data.HashMap
import TensorCompiler.Syntax.Module

/-!
# Modules in storage

A module is stored as an arena of entries, each with its handle, and an index from names to handles
beside it. Calls change the storage in place, and what a call has stored before it fails stays
there.

The caller passes pointers, and any of them may be null: the type of a declared global, a type
inside another one, a reference to a global, a function or its parameters. A call that follows a
null pointer panics. It neither returns nor is refused.
-/

namespace TensorCompiler

/-! ## Types behind pointers -/

/-- What a pointer to a type points to. -/
inductive TypeForm where
  | tensor
  | tuple
  | func
  | data
deriving DecidableEq, Repr

/-- A type as the caller passes it: nothing, a null pointer, or a type with more of them inside. -/
inductive TypePtr where
  | absent
  | null (form : TypeForm)
  | tensor (shape : Shape)
  | tuple (fields : List TypePtr)
  | func (params : List TypePtr) (result : TypePtr)
  | data (ref : DataRef)

namespace TypePtr

/-- The form of a type that is there, or of a null pointer. -/
def form? : TypePtr → Option TypeForm
  | .absent => none
  | .null form => some form
  | .tensor _ => some .tensor
  | .tuple _ => some .tuple
  | .func _ _ => some .func
  | .data _ => some .data

mutual

/-- Structural equality. No answer stands for a panic: two tensors, tuples or functions are compared
by what their pointers point to, and two data types by the pointers themselves. -/
def equal? : TypePtr → TypePtr → Option Bool
  | .absent, b => some b.form?.isNone
  | .null .data, .null .data => some true
  | .null .data, _ => some false
  | .null form, b => if b.form? = some form then none else some false
  | .tensor s, .tensor t => some (decide (s = t))
  | .tuple as, .tuple bs => equals? as bs
  | .func ps r, .func qs t => do if ← equals? ps qs then equal? r t else some false
  | .data d, .data e => some (decide (d = e))
  | .tensor _, b => if b.form? = some .tensor then none else some false
  | .tuple _, b => if b.form? = some .tuple then none else some false
  | .func _ _, b => if b.form? = some .func then none else some false
  | .data _, _ => some false

/-- Structural equality of lists. Lists of different lengths are not looked into. -/
def equals? : List TypePtr → List TypePtr → Option Bool
  | [], [] => some true
  | a :: as, b :: bs =>
    if as.length = bs.length then do if ← equal? a b then equals? as bs else some false
    else some false
  | _, _ => some false

end

mutual

/-- The printed form of a type. No text stands for a panic: a null pointer cannot be printed. -/
def text? : TypePtr → Option String
  | .absent => some "<nil>"
  | .null _ => none
  | .tensor s => some s.text
  | .tuple fields => do return "(" ++ Text.commaList (← texts? fields) ++ ")"
  | .func params result => do
    let ps ← texts? params
    let r ← text? result
    return "fn(" ++ Text.commaList ps ++ ") " ++ r
  | .data d => some d.name

/-- The printed forms of a list of types. -/
def texts? : List TypePtr → Option (List String)
  | [] => some []
  | t :: ts => do
    let x ← text? t
    let xs ← texts? ts
    return x :: xs

end

end TypePtr

/-- What a pointer to the type of a function points to. -/
structure FuncPtr where
  params : List TypePtr
  result : TypePtr

/-- The type of a function as a type. -/
def FuncPtr.ptr (t : FuncPtr) : TypePtr :=
  .func t.params t.result

/-- A pointer to the type of a function as a type. -/
def FuncPtr.ofOption : Option FuncPtr → TypePtr
  | none => .null .func
  | some t => t.ptr

/-- Functions as the caller passes them. To read the type of one panics if it or a parameter is
null. -/
class Typed (φ : Type) where
  type? : φ → Option FuncPtr

/-- A reference to a global, with a pointer to its type. -/
structure GlobalPtr where
  name : String
  type : Option FuncPtr

/-! ## Storage -/

/-- How a call ends. -/
inductive CallEnd (α : Type) where
  | returned (answer : α)
  | refused (cause : ModuleError)
  | panicked

/-- The end of a call with its answer changed. -/
def CallEnd.map {α β : Type} (f : α → β) : CallEnd α → CallEnd β
  | .returned a => .returned (f a)
  | .refused e => .refused e
  | .panicked => .panicked

/-- A global in storage. -/
structure StoredGlobal (φ : Type) where
  id : Int
  name : String
  function : Option φ

/-- The storage of a module. -/
structure Arena (φ : Type) where
  name : String
  entries : List (StoredGlobal φ)
  index : Std.HashMap String Int

namespace Arena

variable {φ : Type}

/-- The storage of a module without globals. -/
def new (name : String) : Arena φ :=
  ⟨name, [], ∅⟩

/-- The handle of a name. -/
def lookup (a : Arena φ) (name : String) : Option Int :=
  a.index[name]?

/-- The entry of a handle. -/
def definition (a : Arena φ) (id : Int) : Option (StoredGlobal φ) :=
  if id ≤ 0 then none else a.entries[(id - 1).toNat]?

/-- Takes the next handle for a name. -/
def declare (a : Arena φ) (name : String) (type : Option FuncPtr) :
    CallEnd GlobalPtr × Arena φ :=
  match a.lookup name with
  | some _ => (.refused (.alreadyDeclared name a.name), a)
  | none =>
    let id : Int := a.entries.length + 1
    (.returned ⟨name, type⟩,
      { a with entries := a.entries ++ [⟨id, name, none⟩], index := a.index.insert name id })

variable [Typed φ]

/-- Fills the entry of a name. A name without a handle has that of no entry. -/
def define (a : Arena φ) : Option GlobalPtr → φ → CallEnd Unit × Arena φ
  | none, _ => (.panicked, a)
  | some g, f =>
    let id := (a.lookup g.name).getD 0
    match a.definition id with
    | none => (.refused (.notDeclared g.name a.name), a)
    | some d =>
      if d.function.isSome then (.refused (.alreadyDefined g.name a.name), a)
      else
        match Typed.type? f with
        | none => (.panicked, a)
        | some t =>
          match (FuncPtr.ofOption g.type).equal? t.ptr with
          | none => (.panicked, a)
          | some true =>
            (.returned (),
              { a with entries := a.entries.set (id - 1).toNat { d with function := some f } })
          | some false =>
            match (FuncPtr.ofOption g.type).text?, t.ptr.text? with
            | some declared, some defined => (.refused (.typeMismatch g.name declared defined), a)
            | _, _ => (.panicked, a)

/-- Declares a name and then fills its entry. -/
def add (a : Arena φ) (name : String) (f : φ) : CallEnd GlobalPtr × Arena φ :=
  match Typed.type? f with
  | none => (.panicked, a)
  | some t =>
    match a.declare name (some t) with
    | (.returned g, a) =>
      let (r, a) := a.define (some g) f
      (r.map fun _ => g, a)
    | (r, a) => (r, a)

/-- What can be asked of a module. -/
inductive Call (φ : Type) where
  | declare (name : String) (type : Option FuncPtr)
  | define (g : Option GlobalPtr) (f : φ)
  | add (name : String) (f : φ)

/-- A call: how it ends, with the reference it hands out, and the storage it leaves. -/
def call (a : Arena φ) : Call φ → CallEnd (Option GlobalPtr) × Arena φ
  | .declare name type => let (r, a) := a.declare name type; (r.map some, a)
  | .define g f => let (r, a) := a.define g f; (r.map fun _ => none, a)
  | .add name f => let (r, a) := a.add name f; (r.map some, a)

/-- The storage after several calls, whatever they came to. -/
def after (a : Arena φ) (calls : List (Call φ)) : Arena φ :=
  calls.foldl (fun a c => (a.call c).2) a

end Arena
end TensorCompiler
