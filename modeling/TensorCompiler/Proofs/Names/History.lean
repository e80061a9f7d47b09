import TensorCompiler.Proofs.Names.Supply

/-!
# The history of a supply

Names are reserved in a supply and handed out from it in any order. A root and a numbered name share
one table, so a name like `a1` may be reserved, asked for itself, or made from `a`. What carries the
argument is that all numbers below the next one to try behind a root are taken.

Main statement: whatever was asked before, the search for a number ends, the name is an identifier
that was neither handed out nor reserved, and it is the identifier of its root, or that with the
least number that makes it new.
-/

namespace TensorCompiler.NameSupply

open Names

variable {s : NameSupply} {name root other : String}

/-- The names that requests reserve. -/
def reserved : List Request → List String
  | [] => []
  | .reserve names :: requests => names ++ reserved requests
  | .name _ :: requests => reserved requests

/-- Taken are exactly the names that were handed out or reserved. -/
theorem isTaken_serve {requests : List Request} :
    (s.serve requests).2.isTaken name = true ↔
      name ∈ (s.serve requests).1 ++ reserved requests ∨ s.isTaken name = true := by
  induction requests generalizing s with
  | nil => simp [serve, reserved]
  | cons request requests ih =>
      cases request with
      | reserve names =>
          rw [serve, ih, isTaken_reserveAll, reserved]
          simp only [List.mem_append]
          tauto
      | name root =>
          rw [serve_name, ih, isTaken_fresh, reserved]
          simp only [List.cons_append, List.mem_cons]
          tauto

theorem isTaken_empty (name : String) : empty.isTaken name = false := rfl

/-- From a supply without names, taken are the names that were handed out or reserved. -/
theorem isTaken_serve_empty {requests : List Request} :
    (empty.serve requests).2.isTaken name = true ↔
      name ∈ (empty.serve requests).1 ++ reserved requests := by
  rw [isTaken_serve, isTaken_empty]
  exact or_iff_left Bool.false_ne_true

/-! ### The numbers behind a root -/

/-- The next number to try behind a name is positive, and all positive numbers below it are taken
behind this name. -/
def Counted (s : NameSupply) : Prop :=
  ∀ name next, s.next? name = some next →
    0 < next ∧ ∀ i, 0 < i → i < next → s.isTaken (numbered name i) = true

theorem next?_take {next : Nat} :
    (s.take name next).next? other = if name = other then some next else s.next? other := by
  by_cases same : name = other <;> simp [take, next?, same]

theorem counted_empty : empty.Counted := by
  intro name next h
  cases h

/-- There is no positive number below the first one. -/
theorem Counted.take_one (h : s.Counted) (name : String) : (s.take name 1).Counted := by
  intro other next found
  rw [next?_take] at found
  split at found
  · obtain rfl := Option.some.inj found
    exact ⟨Nat.one_pos, fun i lower upper => absurd upper (Nat.not_lt.mpr lower)⟩
  · obtain ⟨positive, tried⟩ := h other next found
    exact ⟨positive, fun i lower upper => isTaken_take.mpr (Or.inr (tried i lower upper))⟩

theorem Counted.reserveAll (h : s.Counted) (names : List String) :
    (s.reserveAll names).Counted := by
  induction names generalizing s with
  | nil => exact h
  | cons name names ih =>
      refine ih ?_
      rw [reserve]
      split
      · exact h
      · exact h.take_one name

/-- The search for a number behind a taken root ends at the least positive one that makes a free
name, since all numbers before its start are taken. -/
theorem Counted.least (h : s.Counted) {next n : Nat} (found : s.next? root = some next)
    (search : SearchEnds s root next n) :
    0 < n ∧ s.isTaken (numbered root n) = false ∧
      ∀ i, 0 < i → i < n → s.isTaken (numbered root i) = true := by
  obtain ⟨positive, tried⟩ := h root next found
  obtain ⟨free, met⟩ := search.first
  refine ⟨Nat.lt_of_lt_of_le positive search.le, free, fun i lower upper => ?_⟩
  rcases Nat.lt_or_ge i next with before | later
  · exact tried i lower before
  · exact met i later upper

theorem Counted.fresh (h : s.Counted) (root : String) : (s.fresh root).2.Counted := by
  cases next : s.next? (identifier root) with
  | none =>
      rw [fresh_of_free next]
      exact h.take_one _
  | some start =>
      obtain ⟨n, search, fresh⟩ := fresh_of_taken next
      obtain ⟨-, -, tried⟩ := h.least next search
      rw [fresh]
      intro other number found
      rw [next?_take, next?_take] at found
      split at found
      · -- The new name has no number behind it yet.
        obtain rfl := Option.some.inj found
        exact ⟨Nat.one_pos, fun i lower upper => absurd upper (Nat.not_lt.mpr lower)⟩
      · split at found
        · -- The numbers of the root are those that were met, and the one of the new name.
          rename_i same
          obtain rfl := same
          obtain rfl := Option.some.inj found
          refine ⟨Nat.succ_pos n, fun i lower upper => isTaken_take.mpr ?_⟩
          rcases Nat.eq_or_lt_of_le (Nat.le_of_lt_succ upper) with rfl | below
          · exact Or.inl rfl
          · exact Or.inr (isTaken_take.mpr (Or.inr (tried i lower below)))
        · obtain ⟨positive, tried⟩ := h other number found
          exact ⟨positive, fun i lower upper =>
            isTaken_take.mpr (Or.inr (isTaken_take.mpr (Or.inr (tried i lower upper))))⟩

theorem Counted.serve (h : s.Counted) (requests : List Request) : (s.serve requests).2.Counted := by
  induction requests generalizing s with
  | nil => exact h
  | cons request requests ih =>
      cases request with
      | reserve names => exact ih (h.reserveAll names)
      | name root => exact ih (h.fresh root)

/-- A number is at most the number of taken names if all positive ones below it make taken names
behind a taken root: these are different names, and the root is none of them. -/
theorem le_length_of_tried {names : List String} {n : Nat} (known : root ∈ names)
    (tried : ∀ i, 0 < i → i < n → numbered root i ∈ names) : n ≤ names.length := by
  cases n with
  | zero => exact Nat.zero_le _
  | succ n =>
      have distinct : (root :: (List.range n).map fun i => numbered root (1 + i)).Nodup := by
        refine List.nodup_cons.mpr ⟨fun member => ?_, nodup_numbered root 1 n⟩
        obtain ⟨i, -, same⟩ := List.mem_map.mp member
        exact numbered_ne_root same
      have subset : root :: (List.range n).map (fun i => numbered root (1 + i)) ⊆ names := by
        refine List.cons_subset.mpr ⟨known, fun name member => ?_⟩
        obtain ⟨i, below, rfl⟩ := List.mem_map.mp member
        have small := List.mem_range.mp below
        exact tried (1 + i) (by omega) (by omega)
      have fits := (List.subperm_of_subset distinct subset).length_le
      simpa using fits

/-- Whatever names were reserved and handed out before, the search for a number behind a taken root
ends, and the new name is an identifier and no reserved word, was neither handed out nor reserved,
and is the identifier of its root if that is new. Otherwise it is that with the least positive
number that makes a new name, which is at most the number of names before. An identifier stands for
itself, and what stands for a text is an identifier and no reserved word. -/
theorem names_never_repeat (earlier : List Request) (root text : String) :
    let handedOut := (empty.serve earlier).1
    let supply := (empty.serve earlier).2
    let name := (supply.fresh root).1
    (∀ next, supply.next? (identifier root) = some next →
        ∃ n, SearchEnds supply (identifier root) next n ∧ name = numbered (identifier root) n) ∧
      isIdentifier name = true ∧ name ∉ handedOut ∧ name ∉ reserved earlier ∧ handedOut.Nodup ∧
      (identifier root ∉ handedOut ++ reserved earlier → name = identifier root) ∧
      (identifier root ∈ handedOut ++ reserved earlier →
        ∃ n, 0 < n ∧ n ≤ (handedOut ++ reserved earlier).length ∧
          name = numbered (identifier root) n ∧
          ∀ i, 0 < i → i < n → numbered (identifier root) i ∈ handedOut ++ reserved earlier) ∧
      isIdentifier (identifier text) = true ∧ identifier (identifier text) = identifier text := by
  intro handedOut supply name
  have taken : ∀ other, supply.isTaken other = true ↔ other ∈ handedOut ++ reserved earlier :=
    fun other => isTaken_serve_empty
  have new : name ∉ handedOut ++ reserved earlier := fun member =>
    Bool.eq_false_iff.mp (fresh_adds supply root).free ((taken name).mpr member)
  rw [List.mem_append, not_or] at new
  refine ⟨?_, isIdentifier_fresh supply root, new.1, new.2, (serve_nodup empty earlier).1, ?_, ?_,
    isIdentifier_identifier text, identifier_eq_self_iff.mpr (isIdentifier_identifier text)⟩
  · intro next found
    obtain ⟨n, search, fresh⟩ := fresh_of_taken found
    exact ⟨n, search, congrArg Prod.fst fresh⟩
  · intro free
    have untaken : supply.next? (identifier root) = none :=
      Option.not_isSome_iff_eq_none.mp fun known => free ((taken _).mp known)
    exact congrArg Prod.fst (fresh_of_free untaken)
  · intro known
    obtain ⟨next, found⟩ := Option.isSome_iff_exists.mp ((taken _).mpr known)
    obtain ⟨n, search, fresh⟩ := fresh_of_taken found
    obtain ⟨positive, -, tried⟩ := (counted_empty.serve earlier).least found search
    have used := fun i lower upper => (taken _).mp (tried i lower upper)
    exact ⟨n, positive, le_length_of_tried known used, congrArg Prod.fst fresh, used⟩

/-- A number is passed over if its name is reserved, and a numbered name is a root of its own. -/
example : (empty.serve [.reserve ["a1"], .name "a", .name "a", .name "a2", .name "a1"]).1 =
    ["a", "a2", "a21", "a11"] := by
  decide +kernel

end TensorCompiler.NameSupply
