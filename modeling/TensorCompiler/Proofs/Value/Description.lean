import Mathlib.Data.List.Forall2
import TensorCompiler.Proofs.Meaning.Frames
import TensorCompiler.Proofs.Outcome

/-!
# What patterns describe

The variables of a pattern are listed when a program is linked, and the values they stand for when a
value is matched. The two lists are paired by position.

Main statements: a pattern with nothing missing has a matcher, which accepts exactly the values that
the pattern describes and gives, for each variable of the list, the sub-value at the place of the
variable. A match runs the body of the first clause whose pattern describes the value, in a frame
where the variables have these sub-values.

## Implementation notes

A place is the list of the indices on the way to it. The places of several patterns keep the first
index apart, so that the walk over the fields of a value is followed field by field.
-/

namespace TensorCompiler

/-! ### Sub-values -/

namespace Value

variable {φ : Type}

/-- The parts of a value that patterns look into. -/
def parts : Value φ → List (Value φ)
  | .tuple fields => fields
  | .data _ fields => fields
  | _ => []

/-- The sub-value at a place. -/
def at? (v : Value φ) : List Nat → Option (Value φ)
  | [] => some v
  | i :: is => v.parts[i]?.bind fun w => w.at? is

end Value

namespace Pattern

/-! ### Patterns and what they describe -/

/-- The parts of a pattern. -/
def parts : Pattern → List Pattern
  | .ctor _ fields => fields
  | .tuple fields => fields
  | _ => []

/-- The pattern at a place. -/
def at? (p : Pattern) : List Nat → Option Pattern
  | [] => some p
  | i :: is => p.parts[i]?.bind fun q => q.at? is

mutual

/-- Nothing is missing in a pattern. -/
def isWhole : Pattern → Bool
  | .hole => false
  | .wildcard | .var _ => true
  | .ctor _ fields => areWhole fields
  | .tuple fields => areWhole fields

/-- Nothing is missing in several patterns. -/
def areWhole : List Pattern → Bool
  | [] => true
  | p :: ps => isWhole p && areWhole ps

end

mutual

/-- The variables of a pattern with their places, from left to right. -/
def varPlaces : Pattern → List (Var × List Nat)
  | .hole | .wildcard => []
  | .var v => [(v, [])]
  | .ctor _ fields => (fieldPlaces 0 fields).map fun q => (q.1, q.2.1 :: q.2.2)
  | .tuple fields => (fieldPlaces 0 fields).map fun q => (q.1, q.2.1 :: q.2.2)

/-- The variables of several patterns, numbered from `i`, with the pattern and their place in it. -/
def fieldPlaces (i : Nat) : List Pattern → List (Var × Nat × List Nat)
  | [] => []
  | p :: ps => (varPlaces p).map (fun q => (q.1, i, q.2)) ++ fieldPlaces (i + 1) ps

end

variable {φ : Type}

mutual

/-- A value has the form that a pattern describes. -/
inductive Describes : Pattern → Value φ → Prop
  | wildcard {v} : Describes .wildcard v
  | var {w v} : Describes (.var w) v
  | ctor {c d ps vs} (tag : d.tag = c.tag) (fields : DescribesAll ps vs) :
      Describes (.ctor c ps) (.data d vs)
  | tuple {ps vs} (fields : DescribesAll ps vs) : Describes (.tuple ps) (.tuple vs)

/-- As many values as patterns have the forms that these describe. -/
inductive DescribesAll : List Pattern → List (Value φ) → Prop
  | nil : DescribesAll [] []
  | cons {p v ps vs} (head : Describes p v) (tail : DescribesAll ps vs) :
      DescribesAll (p :: ps) (v :: vs)

end

theorem describes_ctor {c d : Ctor} {ps : List Pattern} {vs : List (Value φ)} :
    (Pattern.ctor c ps).Describes (.data d vs) ↔ d.tag = c.tag ∧ DescribesAll ps vs := by
  constructor
  · intro h
    cases h with
    | ctor tag fields => exact ⟨tag, fields⟩
  · exact fun h => .ctor h.1 h.2

theorem describes_tuple {ps : List Pattern} {vs : List (Value φ)} :
    (Pattern.tuple ps).Describes (.tuple vs) ↔ DescribesAll ps vs := by
  constructor
  · intro h
    cases h with
    | tuple fields => exact fields
  · exact .tuple

theorem describesAll_cons {p : Pattern} {ps : List Pattern} {v : Value φ} {vs : List (Value φ)} :
    DescribesAll (p :: ps) (v :: vs) ↔ p.Describes v ∧ DescribesAll ps vs := by
  constructor
  · intro h
    cases h with
    | cons head tail => exact ⟨head, tail⟩
  · exact fun h => .cons h.1 h.2

/-- Values are the sub-values of a value for the variables of a pattern, in the order of these. -/
def Selects (p : Pattern) (v : Value φ) (found : List (Value φ)) : Prop :=
  p.varPlaces.map (fun q => v.at? q.2) = found.map some

/-- A clause is the first one whose pattern describes a value. -/
inductive FirstDescribing {α : Type} (v : Value φ) :
    List (Pattern × α) → Pattern × α → Prop
  | here {c cs} (describes : c.1.Describes v) : FirstDescribing v (c :: cs) c
  | later {c d cs} (other : ¬ c.1.Describes v) (first : FirstDescribing v cs d) :
      FirstDescribing v (c :: cs) d

section

variable {α : Type} {v : Value φ} {cs : List (Pattern × α)} {c d : Pattern × α}

theorem FirstDescribing.unique (h : FirstDescribing v cs c) (h' : FirstDescribing v cs d) :
    c = d := by
  induction h with
  | here describes =>
      cases h' with
      | here _ => rfl
      | later other _ => exact absurd describes other
  | later other _ ih =>
      cases h' with
      | here describes => exact absurd describes other
      | later _ first => exact ih first

theorem FirstDescribing.describes (h : FirstDescribing v cs c) : c ∈ cs ∧ c.1.Describes v := by
  induction h with
  | here describes => exact ⟨List.mem_cons_self, describes⟩
  | later _ _ ih => exact ⟨List.mem_cons_of_mem _ ih.1, ih.2⟩

end

/-! ### Places of variables -/

mutual

/-- The listed variables are those of the pattern. -/
theorem map_fst_varPlaces : (p : Pattern) → p.varPlaces.map Prod.fst = p.vars
  | .hole | .wildcard | .var _ => rfl
  | .ctor _ ps | .tuple ps => by
      rw [varPlaces, vars, List.map_map]
      exact map_fst_fieldPlaces ps 0

theorem map_fst_fieldPlaces : (ps : List Pattern) → ∀ i,
    (fieldPlaces i ps).map Prod.fst = varsAll ps
  | [] => fun _ => rfl
  | p :: ps => by
      intro i
      have head : ((varPlaces p).map fun q => (q.1, i, q.2)).map Prod.fst = p.vars := by
        rw [List.map_map]
        exact map_fst_varPlaces p
      rw [fieldPlaces, varsAll, List.map_append, head, map_fst_fieldPlaces ps (i + 1)]

end

mutual

/-- A variable is listed with its places. -/
theorem mem_varPlaces : (p : Pattern) → ∀ (w : Var) (place : List Nat),
    (w, place) ∈ p.varPlaces ↔ p.at? place = some (.var w)
  | .hole | .wildcard => by
      intro w place
      cases place <;> simp [varPlaces, at?, parts]
  | .var v => by
      intro w place
      cases place <;> simp [varPlaces, at?, parts, eq_comm]
  | .ctor c ps | .tuple ps => by
      intro w place
      rw [varPlaces, List.mem_map]
      constructor
      · rintro ⟨⟨w, j, rest⟩, member, same⟩
        cases same
        obtain ⟨k, same, found⟩ := (mem_fieldPlaces ps 0 w j rest).mp member
        rw [Nat.zero_add] at same
        subst same
        exact found
      · intro found
        cases place with
        | nil => cases found
        | cons j rest =>
            refine ⟨(w, j, rest), (mem_fieldPlaces ps 0 w j rest).mpr ⟨j, ?_, found⟩, rfl⟩
            rw [Nat.zero_add]

theorem mem_fieldPlaces : (ps : List Pattern) → ∀ (i : Nat) (w : Var) (j : Nat) (place : List Nat),
    (w, j, place) ∈ fieldPlaces i ps ↔
      ∃ k, j = i + k ∧ (ps[k]?.bind fun q => q.at? place) = some (.var w)
  | [] => by
      intro i w j place
      simp [fieldPlaces]
  | p :: ps => by
      intro i w j place
      have head : (w, j, place) ∈ (varPlaces p).map (fun q => (q.1, i, q.2)) ↔
          j = i ∧ p.at? place = some (.var w) := by
        rw [← mem_varPlaces p, List.mem_map]
        constructor
        · rintro ⟨q, member, same⟩
          cases same
          exact ⟨rfl, member⟩
        · rintro ⟨rfl, member⟩
          exact ⟨(w, place), member, rfl⟩
      rw [fieldPlaces, List.mem_append, head, mem_fieldPlaces ps]
      constructor
      · rintro (⟨rfl, found⟩ | ⟨k, rfl, found⟩)
        · exact ⟨0, rfl, found⟩
        · exact ⟨k + 1, by omega, found⟩
      · rintro ⟨k, rfl, found⟩
        cases k with
        | zero => exact .inl ⟨rfl, found⟩
        | succ k => exact .inr ⟨k, by omega, found⟩

end

end Pattern

/-! ### Matchers -/

namespace Matcher

variable {φ : Type}

mutual

/-- A pattern with nothing missing has a matcher. -/
theorem ofPattern_of_isWhole : (p : Pattern) → p.isWhole = true → ∃ m, ofPattern p = .ok m
  | .hole => nofun
  | .wildcard => fun _ => ⟨.any, rfl⟩
  | .var _ => fun _ => ⟨.bind, rfl⟩
  | .ctor c ps => by
      intro whole
      obtain ⟨ms, compiled⟩ := ofPatterns_of_areWhole ps whole
      refine ⟨.ctor c.tag ms, ?_⟩
      rw [ofPattern, compiled]
      rfl
  | .tuple ps => by
      intro whole
      obtain ⟨ms, compiled⟩ := ofPatterns_of_areWhole ps whole
      refine ⟨.tuple ms, ?_⟩
      rw [ofPattern, compiled]
      rfl

theorem ofPatterns_of_areWhole : (ps : List Pattern) → Pattern.areWhole ps = true →
    ∃ ms, ofPatterns ps = .ok ms
  | [] => fun _ => ⟨[], rfl⟩
  | p :: ps => by
      intro whole
      obtain ⟨head, tail⟩ := Bool.and_eq_true_iff.mp whole
      obtain ⟨m, first⟩ := ofPattern_of_isWhole p head
      obtain ⟨ms, rest⟩ := ofPatterns_of_areWhole ps tail
      refine ⟨m :: ms, ?_⟩
      rw [ofPatterns, first, ok_bind, rest]
      rfl

end

mutual

/-- A matcher gives the sub-values of a value that its pattern describes, behind those bound before,
and nothing on other values. -/
theorem run_ofPattern : (p : Pattern) → ∀ m, ofPattern p = .ok m → ∀ (v : Value φ)
    (b : List (Value φ)),
    (p.Describes v ∧ ∃ found, m.run v b = some (b ++ found) ∧ p.Selects v found) ∨
      (¬ p.Describes v ∧ m.run v b = none)
  | .hole => nofun
  | .wildcard => by
      intro m compiled v b
      cases compiled
      exact .inl ⟨.wildcard, [], by rw [run, List.append_nil], rfl⟩
  | .var w => by
      intro m compiled v b
      cases compiled
      exact .inl ⟨.var, [v], by rw [run], rfl⟩
  | .ctor c ps => by
      intro m compiled v b
      obtain ⟨ms, inner, compiled⟩ := ok_of_bind_ok compiled
      cases compiled
      cases v with
      | data d vs =>
          rw [run, Pattern.describes_ctor]
          by_cases tag : d.tag = c.tag
          · rw [if_pos tag]
            rcases runAll_ofPatterns ps ms inner [] vs b with
              ⟨fields, found, hit, selected⟩ | ⟨other, miss⟩
            · refine .inl ⟨⟨tag, fields⟩, found, hit, ?_⟩
              rw [Pattern.Selects, Pattern.varPlaces, List.map_map]
              exact selected
            · exact .inr ⟨fun describes => other describes.2, miss⟩
          · rw [if_neg tag]
            exact .inr ⟨fun describes => tag describes.1, rfl⟩
      | absent | tensor | tuple | func => exact .inr ⟨nofun, by rw [run] <;> nofun⟩
  | .tuple ps => by
      intro m compiled v b
      obtain ⟨ms, inner, compiled⟩ := ok_of_bind_ok compiled
      cases compiled
      cases v with
      | tuple vs =>
          rw [run, Pattern.describes_tuple]
          rcases runAll_ofPatterns ps ms inner [] vs b with
            ⟨fields, found, hit, selected⟩ | ⟨other, miss⟩
          · refine .inl ⟨fields, found, hit, ?_⟩
            rw [Pattern.Selects, Pattern.varPlaces, List.map_map]
            exact selected
          · exact .inr ⟨other, miss⟩
      | absent | tensor | data | func => exact .inr ⟨nofun, by rw [run] <;> nofun⟩

/-- Matchers follow the fields of a value. Those before the ones that are left count for places. -/
theorem runAll_ofPatterns : (ps : List Pattern) → ∀ ms, ofPatterns ps = .ok ms →
    ∀ before vs b : List (Value φ),
    (Pattern.DescribesAll ps vs ∧ ∃ found, runAll ms vs b = some (b ++ found) ∧
        (Pattern.fieldPlaces before.length ps).map
          (fun q => (before ++ vs)[q.2.1]?.bind (·.at? q.2.2)) = found.map some) ∨
      (¬ Pattern.DescribesAll ps vs ∧ runAll ms vs b = none)
  | [] => by
      intro ms compiled before vs b
      cases compiled
      cases vs with
      | nil => exact .inl ⟨.nil, [], by rw [runAll, List.append_nil], rfl⟩
      | cons v vs => exact .inr ⟨nofun, by rw [runAll] <;> nofun⟩
  | p :: ps => by
      intro ms compiled before vs b
      obtain ⟨m, first, compiled⟩ := ok_of_bind_ok compiled
      obtain ⟨ms, rest, compiled⟩ := ok_of_bind_ok compiled
      cases compiled
      cases vs with
      | nil => exact .inr ⟨nofun, by rw [runAll] <;> nofun⟩
      | cons v vs =>
          rw [runAll, Pattern.describesAll_cons]
          rcases run_ofPattern p m first v b with ⟨head, xs, hit, here⟩ | ⟨other, miss⟩
          · rw [hit]
            -- What the first value gives is bound before the rest is matched.
            rcases runAll_ofPatterns ps ms rest (before ++ [v]) vs (b ++ xs) with
              ⟨tail, ys, hit, there⟩ | ⟨other, miss⟩
            · refine .inl ⟨⟨head, tail⟩, xs ++ ys, ?_, ?_⟩
              · rw [← List.append_assoc]
                exact hit
              · have place : (before ++ v :: vs)[before.length]? = some v := by
                  rw [List.getElem?_append_right (Nat.le_refl _), Nat.sub_self]
                  rfl
                rw [List.length_append, List.length_singleton, List.append_assoc,
                  List.singleton_append] at there
                rw [Pattern.fieldPlaces, List.map_append, List.map_append, List.map_map, there,
                  ← here]
                refine congrArg (· ++ _) (List.map_congr_left ?_)
                intro q _
                exact congrArg (·.bind fun w => w.at? q.2) place
            · exact .inr ⟨fun describes => other describes.2, miss⟩
          · rw [miss]
            exact .inr ⟨fun describes => other describes.1, rfl⟩

end

/-- Clauses of matchers are compiled from clauses of patterns. -/
def Compiled {α β : Type} (R : Pattern × α → β → Prop) (cs : List (Pattern × α))
    (ls : List (Matcher × β)) : Prop :=
  List.Forall₂ (fun c l => ofPattern c.1 = .ok l.1 ∧ R c l.2) cs ls

/-- The first clause that is run is the first one whose pattern describes the value. -/
theorem first_cases {α β : Type} {R : Pattern × α → β → Prop} {cs : List (Pattern × α)}
    {ls : List (Matcher × β)} (compiled : Compiled R cs ls) (v : Value φ) :
    (∃ c l found, Pattern.FirstDescribing v cs c ∧ R c l ∧ c.1.Selects v found ∧
        first v ls = some (l, found)) ∨
      ((∀ c ∈ cs, ¬ c.1.Describes v) ∧ first v ls = none) := by
  induction compiled with
  | nil => exact .inr ⟨fun c member => absurd member List.not_mem_nil, rfl⟩
  | @cons c l cs ls head tail ih =>
      rw [first]
      rcases run_ofPattern c.1 l.1 head.1 v [] with
        ⟨describes, found, hit, selected⟩ | ⟨other, miss⟩
      · rw [hit]
        exact .inl ⟨c, l.2, found, .here describes, head.2, selected, rfl⟩
      · rw [miss]
        rcases ih with ⟨d, k, found, describes, ran⟩ | ⟨others, none⟩
        · exact .inl ⟨d, k, found, .later other describes, ran⟩
        · exact .inr ⟨List.forall_mem_cons.mpr ⟨other, others⟩, none⟩

/-- No clause is run exactly if no pattern describes the value, and else the first one that does, on
the sub-values for its variables. -/
theorem first_spec {α β : Type} {R : Pattern × α → β → Prop} {cs : List (Pattern × α)}
    {ls : List (Matcher × β)} (compiled : Compiled R cs ls) (v : Value φ) :
    (first v ls = none ↔ ∀ c ∈ cs, ¬ c.1.Describes v) ∧
      ∀ c, Pattern.FirstDescribing v cs c → ∃ l found, R c l ∧ c.1.Selects v found ∧
        first v ls = some (l, found) := by
  rcases first_cases compiled v with ⟨c, l, found, describing, kept, selected, ran⟩ | ⟨others, none⟩
  · obtain ⟨member, describes⟩ := describing.describes
    rw [ran]
    refine ⟨iff_of_false nofun fun others => others c member describes, ?_⟩
    intro d describing'
    obtain rfl := describing.unique describing'
    exact ⟨l, found, kept, selected, rfl⟩
  · refine ⟨iff_of_true none others, ?_⟩
    intro c describing
    obtain ⟨member, describes⟩ := describing.describes
    exact absurd describes (others c member)

end Matcher

/-! ### Clauses of linked programs -/

namespace Linked

variable {consts : List Constant}

/-- A clause is linked to the variables of its pattern and to its body. -/
def LinkedClause (consts : List Constant) (c : Pattern × Lowered.Node) (l : List Var × Node) :
    Prop :=
  l.1 = c.1.vars ∧ node consts c.2 = .ok l.2

theorem compiled_nodeClauses {cs : List (Pattern × Lowered.Node)}
    {ls : List (Matcher × List Var × Node)} (link : nodeClauses consts cs = .ok ls) :
    Matcher.Compiled (LinkedClause consts) cs ls := by
  induction cs generalizing ls with
  | nil =>
      cases link
      exact .nil
  | cons c cs ih =>
      obtain ⟨p, n⟩ := c
      rw [nodeClauses] at link
      split at link
      · cases link
      · rename_i m pattern
        obtain ⟨body, linked, link⟩ := ok_of_bind_ok link
        obtain ⟨rest, tail, link⟩ := ok_of_bind_ok link
        cases link
        exact .cons ⟨pattern, rfl, linked⟩ (ih tail)

/-- Clauses are run by the first matcher that accepts, in a frame of its own. -/
theorem run_evalClauses (img : Image) (apply : Value Code → List (Value Code) → RunM (Value Code))
    (captured : List (Value Code)) (frame : Nat) (x : Value Code)
    (ls : List (Matcher × List Var × Node)) (fs : Frames) :
    (evalClauses img apply captured frame x ls).run fs =
      match Matcher.first x ls with
      | some ((vars, body), found) =>
        (do eval img apply captured (← openFrame (some frame) vars found) body).run fs
      | none => (.error (.noClause x.shown), fs) := by
  induction ls with
  | nil =>
      rw [evalClauses]
      rfl
  | cons l ls ih =>
      obtain ⟨m, vars, body⟩ := l
      rw [evalClauses, Matcher.first]
      cases m.run x [] with
      | none => exact ih
      | some found => rfl

end Linked

/-- Each variable of a pattern has the sub-value at its place; of several places of one variable the
last one counts. -/
def Pattern.BoundIn (p : Pattern) (x : Value Linked.Code) (fs : Linked.Frames) (frame : Nat) :
    Prop :=
  ∀ before w place after, p.varPlaces = before ++ (w, place) :: after →
    w ∉ after.map Prod.fst → fs.lookup frame w = x.at? place

/-- There is a selected sub-value for each variable of a pattern. -/
theorem Pattern.Selects.length_vars {φ : Type} {p : Pattern} {x : Value φ} {found : List (Value φ)}
    (selected : p.Selects x found) : p.vars.length = found.length := by
  have lengths := congrArg List.length selected
  rw [List.length_map, List.length_map] at lengths
  rw [← map_fst_varPlaces, List.length_map, lengths]

/-- A frame that is opened for the variables of a pattern and sub-values of a value binds them. -/
theorem Pattern.Selects.boundIn {p : Pattern} {x : Value Linked.Code}
    {found : List (Value Linked.Code)} (selected : p.Selects x found) (fs : Linked.Frames)
    (parent : Option Nat) : p.BoundIn x (fs.opened parent p.vars found) fs.size := by
  intro before w place after split last
  rw [Pattern.Selects, split, List.map_append, List.map_cons] at selected
  obtain ⟨front, rest, rfl, first, selected⟩ := List.map_eq_append_iff.mp selected.symm
  obtain ⟨y, back, rfl, here, -⟩ := List.map_eq_cons_iff.mp selected
  have count : (before.map Prod.fst).length = front.length := by
    have lengths := congrArg List.length first
    rw [List.length_map, List.length_map] at lengths
    rw [List.length_map, lengths]
  have pairs : p.vars.zip (front ++ y :: back) =
      (before.map Prod.fst).zip front ++ (w, y) :: (after.map Prod.fst).zip back := by
    rw [← map_fst_varPlaces, split, List.map_append, List.map_cons, List.zip_append count,
      List.zip_cons_cons]
  have free : w ∉ ((after.map Prod.fst).zip back).map Prod.fst := by
    intro member
    obtain ⟨b, pair, rfl⟩ := List.mem_map.mp member
    exact last (List.of_mem_zip pair).1
  rw [Linked.Frames.opened, Linked.Frames.lookup_push_size, pairs,
    Linked.Frame.get?_setAll_last _ _ free, ← here]
  rfl

/-- Pattern matching binds the right sub-values.

A pattern with nothing missing has a matcher, which accepts the values that the pattern describes
and then gives, behind what was bound before, the sub-value at its place for each variable. Of
several clauses the body of the first one is run whose pattern describes the value, and none exactly
if no pattern does. In a linked program the body is run in a frame where the variables of the
pattern have their sub-values, and a match that no clause describes is an error. -/
theorem Pattern.binds_subvalues {p : Pattern} (whole : p.isWhole)
    {cs : List (Pattern × Lowered.Node)} {consts : List Constant}
    {ls : List (Matcher × List Var × Linked.Node)}
    (link : Linked.nodeClauses consts cs = .ok ls) :
    (∃ m, Matcher.ofPattern p = .ok m ∧ p.varPlaces.map Prod.fst = p.vars ∧
      (∀ w place, (w, place) ∈ p.varPlaces ↔ p.at? place = some (.var w)) ∧
      ∀ {φ : Type} (v : Value φ) (b : List (Value φ)), ((m.run v b).isSome ↔ p.Describes v) ∧
        (p.Describes v → ∃ found, m.run v b = some (b ++ found) ∧ p.Selects v found)) ∧
    (∀ {φ α : Type} {clauses : List (Pattern × α)} {ms : List (Matcher × α)},
      Matcher.Compiled (fun c body => body = c.2) clauses ms → ∀ v : Value φ,
        (Matcher.first v ms = none ↔ ∀ c ∈ clauses, ¬ c.1.Describes v) ∧
          ∀ c, FirstDescribing v clauses c →
            ∃ found, c.1.Selects v found ∧ Matcher.first v ms = some (c.2, found)) ∧
    ∀ img apply captured frame (x : Value Linked.Code) (fs : Linked.Frames),
      ((∀ c ∈ cs, ¬ c.1.Describes x) →
        (Linked.evalClauses img apply captured frame x ls).run fs =
          (.error (.noClause x.shown), fs)) ∧
      ∀ c, FirstDescribing x cs c → ∃ body found, Linked.node consts c.2 = .ok body ∧
        c.1.Selects x found ∧
        (Linked.evalClauses img apply captured frame x ls).run fs =
          (Linked.eval img apply captured fs.size body).run
            (fs.opened (some frame) c.1.vars found) ∧
        c.1.BoundIn x (fs.opened (some frame) c.1.vars found) fs.size := by
  refine ⟨?_, ?_, ?_⟩
  · obtain ⟨m, compiled⟩ := Matcher.ofPattern_of_isWhole p whole
    refine ⟨m, compiled, map_fst_varPlaces p, mem_varPlaces p, ?_⟩
    intro φ v b
    rcases Matcher.run_ofPattern p m compiled v b with
      ⟨describes, found, hit, selected⟩ | ⟨other, miss⟩
    · have accepts : (m.run v b).isSome := by rw [hit]; rfl
      exact ⟨iff_of_true accepts describes, fun _ => ⟨found, hit, selected⟩⟩
    · have refuses : ¬ (m.run v b).isSome := by rw [miss]; nofun
      exact ⟨iff_of_false refuses other, fun describes => absurd describes other⟩
  · intro φ α clauses ms compiled v
    obtain ⟨none, some⟩ := Matcher.first_spec compiled v
    refine ⟨none, ?_⟩
    intro c describing
    obtain ⟨_, found, rfl, selected, ran⟩ := some c describing
    exact ⟨found, selected, ran⟩
  · intro img apply captured frame x fs
    obtain ⟨none, some⟩ := Matcher.first_spec (Linked.compiled_nodeClauses link) x
    have run := Linked.run_evalClauses img apply captured frame x ls fs
    constructor
    · intro others
      rw [run, none.mpr others]
    · intro c describing
      obtain ⟨⟨_, body⟩, found, ⟨rfl, linked⟩, selected, ran⟩ := some c describing
      rw [ran] at run
      have opened := Linked.run_openFrame_bind (Nat.le_of_eq selected.length_vars) (.some frame)
        (Linked.eval img apply captured · body) fs
      exact ⟨body, found, linked, selected, run.trans opened, selected.boundIn fs (.some frame)⟩

/-- A constructor of two fields. -/
def pairCtor : Ctor := ⟨"Pair", 1, [.tuple [], .tuple []], ⟨0, "Pairs"⟩⟩

/-- The first field of a pair, and the last part of the second one. -/
def nestedPattern : Pattern :=
  .ctor pairCtor [.var ⟨0, "first", .tuple []⟩,
    .tuple [.wildcard, .var ⟨1, "last", .tuple []⟩]]

/-- A clause for values without parts, and one for pairs. -/
def nestedClauses : List (Pattern × Lowered.Node) :=
  [(.tuple [], .tuple [] (.tuple [])), (nestedPattern, .var ⟨1, "last", .tuple []⟩)]

/-- A pair of nothing and of nothing beside a value without parts. -/
def nestedValue : Value Linked.Code :=
  .data pairCtor [.absent, .tuple [.absent, .tuple []]]

/-- The pair is matched by the second clause, and its parts are bound in the order of the
variables. -/
theorem nestedPattern_bound : nestedPattern.isWhole ∧
    ∃ ls, Linked.nodeClauses [] nestedClauses = .ok ls ∧
      (∃ m, Matcher.ofPattern nestedPattern = .ok m ∧
        m.run nestedValue [.tuple []] = some [.tuple [], .absent, .tuple []]) ∧
      ∀ img apply fs, ∃ found,
        (Linked.evalClauses img apply [] 0 nestedValue ls).run fs =
          (Linked.eval img apply [] fs.size (.var ⟨1, "last", .tuple []⟩)).run
            (fs.opened (some 0) nestedPattern.vars found) := by
  have whole : nestedPattern.isWhole := rfl
  obtain ⟨ls, link⟩ : ∃ ls, Linked.nodeClauses [] nestedClauses = .ok ls := ⟨_, rfl⟩
  refine ⟨whole, ls, link, ?_⟩
  obtain ⟨⟨m, compiled, -, -, matching⟩, -, running⟩ := Pattern.binds_subvalues whole link
  have describes : nestedPattern.Describes nestedValue :=
    .ctor rfl (.cons .var (.cons (.tuple (.cons .wildcard (.cons .var .nil))) .nil))
  constructor
  · obtain ⟨found, ran, selected⟩ := (matching nestedValue [.tuple []]).2 describes
    have parts : [.absent, .tuple []] = found :=
      (List.map_inj_right fun _ _ => Option.some.inj).mp selected
    subst parts
    exact ⟨m, compiled, ran⟩
  · intro img apply fs
    obtain ⟨body, found, linked, -, ran, -⟩ :=
      (running img apply [] 0 nestedValue fs).2 _ (.later nofun (.here describes))
    cases linked
    exact ⟨found, ran⟩

end TensorCompiler
