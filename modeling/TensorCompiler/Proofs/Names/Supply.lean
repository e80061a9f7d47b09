import Mathlib.Data.List.Perm.Subperm
import TensorCompiler.Names.Supply
import TensorCompiler.Proofs.Text.Delimited

/-!
# New names

A name that a supply hands out is an identifier of the emitted language and no reserved word, it was
free, it is taken from then on, and no name becomes free again. The search for a number behind a
taken root ends: of more candidates than there are taken names one is free.
-/

namespace TensorCompiler

/-! ### Sorted names -/

/-- The order in which names are sorted. -/
theorem not_decide_lt_iff (a b : String) : (!decide (b < a)) = true ↔ a ≤ b := by
  rw [Bool.not_eq_true', decide_eq_false_iff_not, String.not_lt]

/-- What is sorted by names that are all different is in strictly ascending order. -/
theorem pairwise_mergeSort_names {α : Type} (name : α → String) {xs : List α}
    (once : (xs.map name).Nodup) :
    ((xs.mergeSort fun a b => !decide (name b < name a)).map name).Pairwise (· < ·) := by
  have ascending : (xs.mergeSort fun a b => !decide (name b < name a)).Pairwise fun a b =>
      (!decide (name b < name a)) = true := by
    refine List.pairwise_mergeSort ?_ ?_ _
    · intro a b c ab bc
      rw [not_decide_lt_iff] at ab bc ⊢
      exact String.le_trans ab bc
    · intro a b
      rw [Bool.or_eq_true, not_decide_lt_iff, not_decide_lt_iff]
      exact String.le_total _ _
  have different : ((xs.mergeSort fun a b => !decide (name b < name a)).map name).Nodup :=
    ((List.mergeSort_perm _ _).map name).nodup_iff.mpr once
  rw [List.pairwise_map]
  refine (ascending.and (List.pairwise_map.mp different)).imp ?_
  rintro a b ⟨le, ne⟩
  exact Std.lt_of_le_of_ne ((not_decide_lt_iff _ _).mp le) ne

namespace Names

/-! ### Characters -/

theorem isPart_of_isStart {c : Char} (h : isStart c = true) : isPart c = true := by
  rw [isPart, h, Bool.true_or]

theorem isStart_underscore : isStart '_' = true := by
  simp [isStart]

/-- The digits of numerals are digits of identifiers. -/
theorem isPart_of_isDigit {c : Char} (h : c.isDigit = true) : isPart c = true := by
  have numeral := Char.isDigit_iff_toNat.mp h
  have digit : Text.isDigit c = true := Text.inRanges_iff.mpr ⟨(0x30, 0x39), by decide, numeral⟩
  rw [isPart, digit, Bool.or_true]

theorem isPart_partOf (c : Char) : isPart (partOf c) = true := by
  rw [partOf]
  split
  · assumption
  · exact isPart_of_isStart isStart_underscore

/-! ### Texts -/

/-- A text with the characters of an identifier. -/
structure Shaped (cs : List Char) : Prop where
  head : ∃ c ∈ cs.head?, isStart c = true
  all : ∀ c ∈ cs, isPart c = true

theorem isIdentifier_iff {s : String} :
    isIdentifier s = true ↔ Shaped s.toList ∧ s ∉ keywords := by
  unfold isIdentifier
  cases chars : s.toList with
  | nil =>
      constructor
      · intro h
        cases h
      · rintro ⟨⟨⟨c, member, -⟩, -⟩, -⟩
        cases member
  | cons c cs =>
      simp only [Bool.and_eq_true, List.all_eq_true, Bool.not_eq_true', List.contains_eq_mem,
        decide_eq_false_iff_not]
      constructor
      · rintro ⟨⟨start, parts⟩, free⟩
        exact ⟨⟨⟨c, rfl, start⟩, List.forall_mem_cons.mpr ⟨isPart_of_isStart start, parts⟩⟩, free⟩
      · rintro ⟨⟨⟨d, member, start⟩, parts⟩, free⟩
        obtain rfl := Option.some.inj member
        exact ⟨⟨start, (List.forall_mem_cons.mp parts).2⟩, free⟩

/-- Characters of an identifier behind an identifier. -/
theorem Shaped.append {cs ds : List Char} (h : Shaped cs) (parts : ∀ c ∈ ds, isPart c = true) :
    Shaped (cs ++ ds) := by
  refine ⟨?_, List.forall_mem_append.mpr ⟨h.all, parts⟩⟩
  obtain ⟨c, member, start⟩ := h.head
  refine ⟨c, ?_, start⟩
  rw [List.head?_append, Option.mem_def.mp member]
  rfl

theorem shaped_parts (cs : List Char) : Shaped (parts cs) := by
  cases cs with
  | nil =>
      have letter : isStart 'v' = true := by decide +kernel
      refine ⟨⟨'_', rfl, isStart_underscore⟩, List.forall_mem_cons.mpr ⟨?_, ?_⟩⟩
      · exact isPart_of_isStart isStart_underscore
      · exact List.forall_mem_singleton.mpr (isPart_of_isStart letter)
  | cons c cs =>
      have all : ∀ d ∈ (c :: cs).map partOf, isPart d = true := by
        intro d hd
        obtain ⟨b, -, rfl⟩ := List.mem_map.mp hd
        exact isPart_partOf b
      rw [parts]
      split
      · exact ⟨⟨'_', rfl, isStart_underscore⟩,
          List.forall_mem_cons.mpr ⟨isPart_of_isStart isStart_underscore, all⟩⟩
      · rename_i plain
        refine ⟨⟨partOf c, rfl, ?_⟩, all⟩
        rw [partOf]
        split
        · rename_i part
          rw [isPart, Bool.or_eq_true] at part
          rcases part with start | digit
          · exact start
          · simpa [digit] using plain
        · exact isStart_underscore

/-- No reserved word ends in a digit or an underscore. -/
theorem keyword_end : ∀ k ∈ keywords, ∀ c ∈ k.toList.getLast?, c.isDigit = false ∧ c ≠ '_' := by
  have ends : keywords.all (fun k => k.toList.getLast?.all fun c => !c.isDigit && c != '_') =
      true := by decide
  intro k hk c last
  simpa [Option.mem_def.mp last] using List.all_eq_true.mp ends k hk

theorem isIdentifier_identifier (s : String) : isIdentifier (identifier s) = true := by
  have shaped : Shaped (String.ofList (parts s.toList)).toList := by
    rw [String.toList_ofList]
    exact shaped_parts _
  dsimp only [identifier]
  split
  · refine isIdentifier_iff.mpr ⟨?_, ?_⟩
    · rw [String.toList_append]
      exact shaped.append fun c hc =>
        List.mem_singleton.mp hc ▸ isPart_of_isStart isStart_underscore
    · intro reserved
      exact (keyword_end _ reserved '_' (by simp)).2 rfl
  · rename_i free
    exact isIdentifier_iff.mpr ⟨shaped, fun reserved => free (List.contains_iff_mem.mpr reserved)⟩

theorem parts_of_shaped {cs : List Char} (h : Shaped cs) : parts cs = cs := by
  cases cs with
  | nil =>
      obtain ⟨c, member, -⟩ := h.head
      cases member
  | cons c cs =>
      obtain ⟨d, member, start⟩ := h.head
      obtain rfl := Option.some.inj member
      have same : (c :: cs).map partOf = (c :: cs).map id :=
        List.map_congr_left fun d hd => if_pos (h.all d hd)
      rw [parts, start, same, List.map_id]
      rfl

/-- Exactly the identifiers stand for themselves. -/
theorem identifier_eq_self_iff {s : String} : identifier s = s ↔ isIdentifier s = true := by
  constructor
  · intro same
    exact same ▸ isIdentifier_identifier s
  · intro h
    obtain ⟨shaped, free⟩ := isIdentifier_iff.mp h
    rw [identifier, parts_of_shaped shaped, String.ofList_toList]
    exact if_neg fun reserved => free (List.contains_iff_mem.mp reserved)

end Names

namespace NameSupply

open Names

variable {s s' : NameSupply} {name root other : String}

theorem isTaken_iff : s.isTaken name = true ↔ name ∈ s.taken.map Prod.fst := by
  simp [isTaken, next?]

@[simp]
theorem isTaken_take {next : Nat} :
    (s.take name next).isTaken other = true ↔ other = name ∨ s.isTaken other = true := by
  rw [isTaken_iff, isTaken_iff, take, List.map_cons, List.mem_cons]

theorem isTaken_reserve :
    (s.reserve name).isTaken other = true ↔ other = name ∨ s.isTaken other = true := by
  unfold reserve
  split
  · constructor
    · exact Or.inr
    · rintro (rfl | taken)
      · assumption
      · exact taken
  · exact isTaken_take

/-- Reserved names are taken, and so is what was taken before. -/
theorem isTaken_reserveAll {names : List String} :
    (s.reserveAll names).isTaken other = true ↔ other ∈ names ∨ s.isTaken other = true := by
  induction names generalizing s with
  | nil => simp [reserveAll]
  | cons name names ih =>
      change ((s.reserve name).reserveAll names).isTaken other = true ↔ _
      rw [ih, isTaken_reserve, List.mem_cons]
      constructor
      · rintro (member | rfl | taken)
        · exact Or.inl (Or.inr member)
        · exact Or.inl (Or.inl rfl)
        · exact Or.inr taken
      · rintro ((rfl | member) | taken)
        · exact Or.inr (Or.inl rfl)
        · exact Or.inl member
        · exact Or.inr (Or.inr taken)

/-! ### The search for a number -/

/-- Different numbers behind a root make different names. -/
theorem numbered_inj {m n : Nat} (h : numbered root m = numbered root n) : m = n := by
  refine Text.ofNat_inj ?_
  have lists := congrArg String.toList h
  simpa [numbered] using lists

/-- Consecutive numbers make different names. -/
theorem nodup_numbered (root : String) (n tries : Nat) :
    ((List.range tries).map fun i => numbered root (n + i)).Nodup := by
  refine List.Pairwise.map _ ?_ List.nodup_range
  intro i j different same
  exact different (Nat.add_left_cancel (numbered_inj same))

/-- The search for a number behind a root, without a bound: it goes on from a taken name and ends at
a free one. -/
inductive SearchEnds (s : NameSupply) (root : String) : Nat → Nat → Prop
  | found {n} (free : s.isTaken (numbered root n) = false) : SearchEnds s root n n
  | next {n m} (taken : s.isTaken (numbered root n) = true) (rest : SearchEnds s root (n + 1) m) :
      SearchEnds s root n m

/-- A search ends at the first number whose name is free. -/
theorem SearchEnds.first {n m : Nat} (h : SearchEnds s root n m) :
    s.isTaken (numbered root m) = false ∧
      ∀ i, n ≤ i → i < m → s.isTaken (numbered root i) = true := by
  induction h with
  | found free => exact ⟨free, fun i from_ below => absurd from_ (Nat.not_le.mpr below)⟩
  | next taken rest ih =>
      refine ⟨ih.1, fun i from_ below => ?_⟩
      rcases Nat.eq_or_lt_of_le from_ with rfl | later
      · exact taken
      · exact ih.2 i later below

theorem SearchEnds.le {n m : Nat} (h : SearchEnds s root n m) : n ≤ m := by
  induction h with
  | found => exact Nat.le_refl _
  | next _ _ ih => exact Nat.le_of_succ_le ih

/-- A bounded search that finds a free name ends where the search without a bound does. -/
theorem searchEnds_firstFree {tries n : Nat}
    (free : s.isTaken (numbered root (s.firstFree root tries n)) = false) :
    SearchEnds s root n (s.firstFree root tries n) := by
  induction tries generalizing n with
  | zero => exact .found free
  | succ tries ih =>
      rw [firstFree] at free ⊢
      split at free
      · rename_i taken
        rw [if_pos taken]
        exact .next taken (ih free)
      · rename_i untaken
        rw [if_neg untaken]
        exact .found free

/-- A number makes a root longer. -/
theorem numbered_ne_root {n : Nat} : numbered root n ≠ root := by
  intro same
  have lists := congrArg String.toList same
  simp [numbered, Text.ofNat] at lists

/-- A search that ends at a taken name met taken names only. -/
theorem isTaken_of_firstFree {tries n : Nat}
    (h : s.isTaken (numbered root (s.firstFree root tries n)) = true) :
    ∀ i ≤ tries, s.isTaken (numbered root (n + i)) = true := by
  induction tries generalizing n with
  | zero =>
      intro i hi
      obtain rfl := Nat.le_zero.mp hi
      exact h
  | succ tries ih =>
      rw [firstFree] at h
      split at h
      · intro i hi
        cases i with
        | zero => assumption
        | succ i =>
            have later := ih h i (Nat.le_of_succ_le_succ hi)
            rwa [Nat.add_right_comm] at later
      · contradiction

/-- A search that is long enough ends at a free name. -/
theorem isTaken_firstFree {tries n : Nat} (long : s.taken.length < tries) :
    s.isTaken (numbered root (s.firstFree root tries n)) = false := by
  refine Bool.eq_false_iff.mpr fun h => ?_
  have taken := isTaken_of_firstFree h
  let candidates := (List.range tries).map fun i => numbered root (n + i)
  have distinct : candidates.Nodup := nodup_numbered root n tries
  have subset : candidates ⊆ s.taken.map Prod.fst := by
    intro name member
    obtain ⟨i, hi, rfl⟩ := List.mem_map.mp member
    exact isTaken_iff.mp (taken i (Nat.le_of_lt (List.mem_range.mp hi)))
  have fits := (List.subperm_of_subset distinct subset).length_le
  simp only [candidates, List.length_map, List.length_range] at fits
  omega

/-! ### Handing out a name -/

/-- A step from one supply to another that hands out a name. -/
structure Adds (s : NameSupply) (name : String) (s' : NameSupply) : Prop where
  free : s.isTaken name = false
  taken : s'.isTaken name = true
  keeps : ∀ other, s.isTaken other = true → s'.isTaken other = true

/-- A free root is handed out as it is. -/
theorem fresh_of_free (h : s.next? (Names.identifier root) = none) :
    s.fresh root = (Names.identifier root, s.take (Names.identifier root) 1) := by
  simp only [fresh, h]

/-- A taken root is numbered: the search from its next number on ends. -/
theorem fresh_of_taken {next : Nat} (h : s.next? (Names.identifier root) = some next) :
    ∃ n, SearchEnds s (Names.identifier root) next n ∧
      s.fresh root = (numbered (Names.identifier root) n,
        (s.take (Names.identifier root) (n + 1)).take (numbered (Names.identifier root) n) 1) := by
  refine ⟨s.firstFree (Names.identifier root) (s.taken.length + 1) next,
    searchEnds_firstFree (isTaken_firstFree (Nat.lt_succ_self _)), ?_⟩
  simp only [fresh, h]

/-- A supply hands out free names. -/
theorem fresh_adds (s : NameSupply) (root : String) :
    s.Adds (s.fresh root).1 (s.fresh root).2 := by
  cases next : s.next? (Names.identifier root) with
  | none =>
      rw [fresh_of_free next]
      refine ⟨?_, isTaken_take.mpr (Or.inl rfl), fun _ h => isTaken_take.mpr (Or.inr h)⟩
      rw [isTaken, next]
      rfl
  | some _ =>
      obtain ⟨n, search, fresh⟩ := fresh_of_taken next
      rw [fresh]
      refine ⟨search.first.1, isTaken_take.mpr (Or.inl rfl), ?_⟩
      intro other taken
      exact isTaken_take.mpr (Or.inr (isTaken_take.mpr (Or.inr taken)))

/-- A name is the identifier of its root, or that with a number behind it. -/
theorem fresh_eq (s : NameSupply) (root : String) :
    (s.fresh root).1 = Names.identifier root ∨
      ∃ n, (s.fresh root).1 = numbered (Names.identifier root) n := by
  cases next : s.next? (Names.identifier root) with
  | none => exact Or.inl (by rw [fresh_of_free next])
  | some _ =>
      obtain ⟨n, -, fresh⟩ := fresh_of_taken next
      exact Or.inr ⟨n, by rw [fresh]⟩

/-- A numbered name ends in a digit. -/
theorem getLast?_numbered (root : String) (n : Nat) :
    ∃ c, (numbered root n).toList.getLast? = some c ∧ c.isDigit = true := by
  have digits : (Text.ofNat n).toList ≠ [] := by
    simp [Text.ofNat]
  obtain ⟨c, hc⟩ := List.getLast?_isSome.mpr digits |> Option.isSome_iff_exists.mp
  refine ⟨c, ?_, Text.isDigit_of_mem_ofNat (List.mem_of_getLast? hc)⟩
  simp [numbered, List.getLast?_append, hc]

/-- A name without a digit at its end is only handed out as the identifier of its root. -/
theorem fresh_ne (h : ∀ c, name.toList.getLast? = some c → c.isDigit = false)
    (root_ne : Names.identifier root ≠ name) : (s.fresh root).1 ≠ name := by
  intro same
  rcases fresh_eq s root with plain | ⟨n, numbered⟩
  · exact root_ne (plain.symm.trans same)
  · obtain ⟨c, last, digit⟩ := getLast?_numbered (Names.identifier root) n
    rw [← numbered, same] at last
    rw [h c last] at digit
    cases digit

/-- Handing out a name takes that name and no other. -/
theorem isTaken_fresh :
    (s.fresh root).2.isTaken other = true ↔ other = (s.fresh root).1 ∨ s.isTaken other = true := by
  cases next : s.next? (Names.identifier root) with
  | none =>
      rw [fresh_of_free next]
      exact isTaken_take
  | some _ =>
      have known : s.isTaken (Names.identifier root) = true := by
        rw [isTaken, next]
        rfl
      obtain ⟨n, -, fresh⟩ := fresh_of_taken next
      rw [fresh, isTaken_take, isTaken_take]
      refine or_congr_right (or_iff_right_of_imp ?_)
      rintro rfl
      exact known

/-- An identifier with a number behind it. -/
theorem isIdentifier_numbered (h : isIdentifier root = true) (n : Nat) :
    isIdentifier (numbered root n) = true := by
  refine isIdentifier_iff.mpr ⟨?_, ?_⟩
  · rw [numbered, String.toList_append]
    exact (isIdentifier_iff.mp h).1.append fun c hc =>
      isPart_of_isDigit (Text.isDigit_of_mem_ofNat hc)
  · intro reserved
    obtain ⟨c, last, digit⟩ := getLast?_numbered root n
    rw [(keyword_end _ reserved c last).1] at digit
    cases digit

/-- A name that is handed out is an identifier and no reserved word. -/
theorem isIdentifier_fresh (s : NameSupply) (root : String) :
    isIdentifier (s.fresh root).1 = true := by
  rcases fresh_eq s root with plain | ⟨n, numbered⟩
  · rw [plain]
    exact isIdentifier_identifier root
  · rw [numbered]
    exact isIdentifier_numbered (isIdentifier_identifier root) n

/-! ### Handing out several names -/

/-- What is asked of a supply: to reserve names, or for a name. -/
inductive Request where
  | reserve (names : List String)
  | name (root : String)

/-- The names handed out for several requests, and the supply behind them. -/
def serve (s : NameSupply) : List Request → List String × NameSupply
  | [] => ([], s)
  | .reserve names :: requests => (s.reserveAll names).serve requests
  | .name root :: requests =>
    let (name, s) := s.fresh root
    let (names, s) := s.serve requests
    (name :: names, s)

theorem serve_name (s : NameSupply) (root : String) (requests : List Request) :
    s.serve (.name root :: requests) =
      ((s.fresh root).1 :: ((s.fresh root).2.serve requests).1,
        ((s.fresh root).2.serve requests).2) := rfl

/-- A name that is handed out was free, and is not handed out again. -/
theorem serve_nodup (s : NameSupply) (requests : List Request) :
    (s.serve requests).1.Nodup ∧ ∀ name ∈ (s.serve requests).1, s.isTaken name = false := by
  induction requests generalizing s with
  | nil => exact ⟨List.nodup_nil, fun name member => absurd member List.not_mem_nil⟩
  | cons request requests ih =>
      cases request with
      | reserve names =>
          obtain ⟨once, free⟩ := ih (s.reserveAll names)
          refine ⟨once, fun name member => Bool.eq_false_iff.mpr fun taken => ?_⟩
          exact Bool.eq_false_iff.mp (free name member) (isTaken_reserveAll.mpr (Or.inr taken))
      | name root =>
          obtain ⟨once, free⟩ := ih (s.fresh root).2
          obtain ⟨new, taken, keeps⟩ := fresh_adds s root
          rw [serve_name]
          refine ⟨List.nodup_cons.mpr ⟨fun again => ?_, once⟩, List.forall_mem_cons.mpr ⟨new, ?_⟩⟩
          · exact Bool.eq_false_iff.mp (free _ again) taken
          · intro name member
            exact Bool.eq_false_iff.mpr fun before =>
              Bool.eq_false_iff.mp (free name member) (keeps name before)

/-- Names for several roots, handed out one after the other. -/
def freshAll (s : NameSupply) : List String → List String × NameSupply
  | [] => ([], s)
  | root :: roots =>
    let (name, s) := s.fresh root
    let (names, s) := s.freshAll roots
    (name :: names, s)

theorem freshAll_cons (s : NameSupply) (root : String) (roots : List String) :
    s.freshAll (root :: roots) =
      ((s.fresh root).1 :: ((s.fresh root).2.freshAll roots).1,
        ((s.fresh root).2.freshAll roots).2) := rfl

/-- Names for more roots are handed out behind those for the first ones. -/
theorem freshAll_append (s : NameSupply) (roots roots' : List String) :
    s.freshAll (roots ++ roots') =
      ((s.freshAll roots).1 ++ ((s.freshAll roots).2.freshAll roots').1,
        ((s.freshAll roots).2.freshAll roots').2) := by
  induction roots generalizing s with
  | nil => rfl
  | cons root roots ih => rw [List.cons_append, freshAll_cons, freshAll_cons, ih, List.cons_append]

variable {roots : List String}

/-- Handing out names is serving requests for them. -/
theorem serve_names (s : NameSupply) (roots : List String) :
    s.serve (roots.map .name) = s.freshAll roots := by
  induction roots generalizing s with
  | nil => rfl
  | cons root roots ih => rw [List.map_cons, serve_name, ih, freshAll_cons]

/-- Names that are handed out were free. -/
theorem isTaken_of_mem_freshAll (h : name ∈ (s.freshAll roots).1) : s.isTaken name = false :=
  (serve_nodup s (roots.map .name)).2 name (serve_names s roots ▸ h)

/-- No name is handed out twice. -/
theorem freshAll_nodup (s : NameSupply) (roots : List String) : (s.freshAll roots).1.Nodup :=
  serve_names s roots ▸ (serve_nodup s (roots.map .name)).1

/-- Each name is handed out for one of the roots. -/
theorem exists_of_mem_freshAll (h : name ∈ (s.freshAll roots).1) :
    ∃ root ∈ roots, ∃ s' : NameSupply, name = (s'.fresh root).1 := by
  induction roots generalizing s with
  | nil => cases h
  | cons root roots ih =>
      rw [freshAll_cons] at h
      rcases List.mem_cons.mp h with rfl | later
      · exact ⟨root, List.mem_cons_self, s, rfl⟩
      · obtain ⟨other, member, found⟩ := ih later
        exact ⟨other, List.mem_cons_of_mem _ member, found⟩

/-- A free name without a digit at its end is handed out exactly if it is the identifier of one of
the roots. -/
theorem mem_freshAll_iff (plain : ∀ c, name.toList.getLast? = some c → c.isDigit = false)
    (free : s.isTaken name = false) :
    name ∈ (s.freshAll roots).1 ↔ ∃ root ∈ roots, Names.identifier root = name := by
  induction roots generalizing s with
  | nil => simp [freshAll]
  | cons root roots ih =>
      rw [freshAll_cons, List.mem_cons, List.exists_mem_cons_iff]
      by_cases same : Names.identifier root = name
      · have next : s.next? (Names.identifier root) = none := by
          rw [same]
          exact Option.not_isSome_iff_eq_none.mp (Bool.eq_false_iff.mp free)
        rw [fresh_of_free next]
        exact iff_of_true (Or.inl same.symm) (Or.inl same)
      · have other : (s.fresh root).1 ≠ name := fresh_ne plain same
        have still : (s.fresh root).2.isTaken name = false := by
          refine Bool.eq_false_iff.mpr fun taken => ?_
          rcases isTaken_fresh.mp taken with handed | before
          · exact other handed.symm
          · rw [free] at before
            cases before
        rw [ih still]
        exact or_congr (iff_of_false (Ne.symm other) same) Iff.rfl

end NameSupply
end TensorCompiler
