import TensorCompiler.Value.Basic

/-!
# Matchers

A pattern with nothing missing, reduced to what a match needs at run time: the tags of constructors
and the places that bind. A match yields the sub-values at those places from left to right.
-/

namespace TensorCompiler

/-- What a value is matched with. -/
inductive Matcher where
  | any
  | bind
  | ctor (tag : Nat) (fields : List Matcher)
  | tuple (fields : List Matcher)
deriving Inhabited

/-- A pattern that is missing cannot be matched. -/
inductive PatternError where
  | missing
deriving DecidableEq, Repr

/-- The wording of a refusal. -/
def PatternError.message : PatternError → String
  | .missing => "pattern <nil> not supported"

instance : ToString PatternError := ⟨PatternError.message⟩

namespace Matcher

mutual

/-- The matcher of a pattern. -/
def ofPattern : Pattern → Except PatternError Matcher
  | .hole => .error .missing
  | .wildcard => .ok .any
  | .var _ => .ok .bind
  | .ctor c fields => do
    let ms ← ofPatterns fields
    return .ctor c.tag ms
  | .tuple fields => do
    let ms ← ofPatterns fields
    return .tuple ms

/-- The matchers of several patterns. -/
def ofPatterns : List Pattern → Except PatternError (List Matcher)
  | [] => .ok []
  | p :: ps => do
    let m ← ofPattern p
    let ms ← ofPatterns ps
    return m :: ms

end

variable {φ : Type}

mutual

/-- Matches a value and appends what it binds. -/
def run : Matcher → Value φ → List (Value φ) → Option (List (Value φ))
  | .any, _, binds => some binds
  | .bind, v, binds => some (binds ++ [v])
  | .ctor tag ms, .data c fields, binds => if c.tag = tag then runAll ms fields binds else none
  | .tuple ms, .tuple fields, binds => runAll ms fields binds
  | _, _, _ => none

/-- Matches as many values as there are matchers. -/
def runAll : List Matcher → List (Value φ) → List (Value φ) → Option (List (Value φ))
  | [], [], binds => some binds
  | m :: ms, v :: vs, binds =>
    match run m v binds with
    | some binds => runAll ms vs binds
    | none => none
  | _, _, _ => none

end

/-- The first of several matchers that describes a value, with what it binds. -/
def first {α : Type} (v : Value φ) : List (Matcher × α) → Option (α × List (Value φ))
  | [] => none
  | (m, a) :: rest =>
    match m.run v [] with
    | some binds => some (a, binds)
    | none => first v rest

end Matcher
end TensorCompiler
