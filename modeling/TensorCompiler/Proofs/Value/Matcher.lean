import TensorCompiler.Proofs.Meaning.Relation

/-!
# What matchers bind

A matcher of a pattern binds as many values as the pattern has variables, and matchers do not tell
related values apart.
-/

namespace TensorCompiler.Matcher

mutual

/-- The number of values a matcher binds. -/
def places : Matcher → Nat
  | .any => 0
  | .bind => 1
  | .ctor _ fields => placesAll fields
  | .tuple fields => placesAll fields

/-- The number of values several matchers bind. -/
def placesAll : List Matcher → Nat
  | [] => 0
  | m :: ms => places m + placesAll ms

end

mutual

/-- The matcher of a pattern binds a value for each variable of the pattern. -/
theorem places_ofPattern : (p : Pattern) → ∀ m, ofPattern p = .ok m → m.places = p.vars.length
  | .hole => by
      intro m h
      cases h
  | .wildcard => by
      intro m h
      cases h
      rfl
  | .var v => by
      intro m h
      cases h
      rfl
  | .ctor c ps => by
      intro m h
      obtain ⟨ms, hms, h⟩ := ok_of_bind_ok h
      cases h
      exact places_ofPatterns ps ms hms
  | .tuple ps => by
      intro m h
      obtain ⟨ms, hms, h⟩ := ok_of_bind_ok h
      cases h
      exact places_ofPatterns ps ms hms

/-- The matchers of patterns bind a value for each variable. -/
theorem places_ofPatterns : (ps : List Pattern) → ∀ ms, ofPatterns ps = .ok ms →
    placesAll ms = (Pattern.varsAll ps).length
  | [] => by
      intro ms h
      cases h
      rfl
  | p :: ps => by
      intro ms h
      obtain ⟨m, hm, h⟩ := ok_of_bind_ok h
      obtain ⟨ms, hms, h⟩ := ok_of_bind_ok h
      cases h
      rw [placesAll, Pattern.varsAll, List.length_append, places_ofPattern p m hm,
        places_ofPatterns ps ms hms]

end

/-- Matches of related values, with related values bound before: none, or related values are bound,
some more than before. -/
inductive Related {φ ψ : Type} (R : φ → ψ → Prop) (count : Nat) :
    Option (List (Value φ)) → Option (List (Value ψ)) → Prop
  | misses : Related R count none none
  | hits {xs ys} (related : Value.RelAll R xs ys) (length : xs.length = count) :
      Related R count (some xs) (some ys)

section

variable {φ ψ : Type} {R : φ → ψ → Prop}

mutual

/-- A matcher does the same on related values. -/
theorem run_related : (m : Matcher) → ∀ {x : Value φ} {y : Value ψ} {xs : List (Value φ)}
    {ys : List (Value ψ)}, Value.Rel R x y → Value.RelAll R xs ys →
      Related R (xs.length + m.places) (m.run x xs) (m.run y ys)
  | .any => by
      intro related before
      simp only [run]
      exact .hits before rfl
  | .bind => by
      intro related before
      simp only [run]
      refine .hits (before.append (.cons related .nil)) ?_
      rw [List.length_append]
      rfl
  | .ctor tag ms => by
      intro related before
      cases related with
      | data c fields =>
          simp only [run, places]
          by_cases same : c.tag = tag
          · simp only [same, if_true]
            exact runAll_related ms fields before
          · simp only [same, if_false]
            exact .misses
      | absent | tensor | tuple | func =>
          simp only [run]
          exact .misses
  | .tuple ms => by
      intro related before
      cases related with
      | tuple fields =>
          simp only [run, places]
          exact runAll_related ms fields before
      | absent | tensor | data | func =>
          simp only [run]
          exact .misses

/-- Matchers do the same on related values. -/
theorem runAll_related : (ms : List Matcher) → ∀ {as : List (Value φ)} {bs : List (Value ψ)}
    {xs : List (Value φ)} {ys : List (Value ψ)}, Value.RelAll R as bs → Value.RelAll R xs ys →
      Related R (xs.length + placesAll ms) (runAll ms as xs) (runAll ms bs ys)
  | [] => by
      intro related before
      cases related with
      | nil =>
          simp only [runAll]
          exact .hits before rfl
      | cons head tail =>
          simp only [runAll]
          exact .misses
  | m :: ms => by
      intro related before
      cases related with
      | nil =>
          simp only [runAll]
          exact .misses
      | cons head tail =>
          have first := run_related m head before
          simp only [runAll, placesAll]
          revert first
          generalize run m _ _ = found
          generalize run m _ _ = found'
          intro first
          cases first with
          | misses => exact .misses
          | hits related length =>
              have rest := runAll_related ms tail related
              rw [length, Nat.add_assoc] at rest
              exact rest

end

end

end TensorCompiler.Matcher
