import Mathlib.Data.List.Nodup
import TensorCompiler.Container.Ordered
import TensorCompiler.Proofs.Container.Slice

/-!
# Ordered maps as lists of pairs

An ordered map is a list of pairs with different keys. Storing replaces the pair of a key in its
place, or adds one at the end; deleting removes it. Several maps live in one memory, in which keys
are added and removed in place, and a call on one of them is seen by no other one.

Main statement: after every sequence of calls, each map gives what its list of pairs gives, and
calls on other maps, its clones among them, leave that as it is.

## Implementation notes

What holds of a map is kept by a call on another one because the two are apart: their slices of keys
do not share a block, and their tables have different places. A call is described once, by the list
of the map that it leads to and by what it leaves of all maps apart from it.
-/

namespace TensorCompiler

/-! ### Lists of pairs -/

namespace PairList

variable {κ ν : Type} [BEq κ]

/-- Puts a value in the place of a key, or a new pair at the end. -/
def store (ps : List (κ × ν)) (k : κ) (v : ν) : List (κ × ν) :=
  if (ps.lookup k).isSome then ps.map fun p => if p.1 == k then (k, v) else p else ps ++ [(k, v)]

/-- Removes the pair of a key. -/
def delete (ps : List (κ × ν)) (k : κ) : List (κ × ν) :=
  ps.filter (·.1 != k)

variable {ps : List (κ × ν)} {k : κ} {v : ν}

theorem store_of_absent (absent : ps.lookup k = none) : store ps k v = ps ++ [(k, v)] := by
  rw [store, absent]
  exact if_neg Bool.false_ne_true

theorem keys_delete : (delete ps k).map Prod.fst = (ps.map Prod.fst).filter (· != k) := by
  rw [delete, List.filter_map]
  rfl

variable [LawfulBEq κ]

theorem mem_keys_iff : k ∈ ps.map Prod.fst ↔ (ps.lookup k).isSome = true := by
  rw [List.lookup_isSome_iff]
  simp only [List.mem_map, beq_iff_eq]
  exact exists_congr fun p => and_congr_right fun _ => eq_comm

theorem delete_of_absent (absent : ps.lookup k = none) : delete ps k = ps := by
  refine List.filter_eq_self.mpr fun p member => bne_iff_ne.mpr ?_
  rintro rfl
  have present := mem_keys_iff.mp (List.mem_map_of_mem member)
  rw [absent] at present
  cases present

/-- A key is not in front of its pair. -/
theorem lookup_front {front rest : List (κ × ν)} {p : κ × ν}
    (once : ((front ++ p :: rest).map Prod.fst).Nodup) : front.lookup p.1 = none := by
  rw [List.map_append, List.map_cons] at once
  refine Option.not_isSome_iff_eq_none.mp fun present => ?_
  have before := mem_keys_iff.mpr present
  exact (List.nodup_append.mp once).2.2 p.1 before p.1 List.mem_cons_self rfl

theorem keys_store :
    (store ps k v).map Prod.fst =
      if (ps.lookup k).isSome then ps.map Prod.fst else ps.map Prod.fst ++ [k] := by
  unfold store
  split
  · rw [List.map_map]
    refine List.map_congr_left fun p _ => ?_
    by_cases same : p.1 = k <;> simp [same]
  · rw [List.map_append]
    rfl

theorem nodup_keys_store (once : (ps.map Prod.fst).Nodup) :
    ((store ps k v).map Prod.fst).Nodup := by
  rw [keys_store]
  split
  · exact once
  · rename_i absent
    rw [← mem_keys_iff] at absent
    refine List.nodup_append.mpr ⟨once, List.nodup_singleton k, fun a old b new => ?_⟩
    rintro rfl
    exact absent (List.mem_singleton.mp new ▸ old)

/-- The value of a key that is looked for in a list with a first pair. -/
theorem lookup_cons_eq (p : κ × ν) (ps : List (κ × ν)) (k : κ) :
    (p :: ps).lookup k = if p.1 == k then some p.2 else ps.lookup k := by
  rw [List.lookup_cons]
  by_cases same : k = p.1
  · simp [same]
  · rw [beq_false_of_ne same, beq_false_of_ne (Ne.symm same)]
    rfl

/-- Replacing the value of a key leaves the values of the others. -/
theorem lookup_replace (other : κ) :
    (ps.map fun p => if p.1 == k then (k, v) else p).lookup other =
      if k == other then (ps.lookup k).map fun _ => v else ps.lookup other := by
  induction ps with
  | nil => simp
  | cons p ps ih =>
      rw [List.map_cons, lookup_cons_eq, lookup_cons_eq, lookup_cons_eq, ih]
      by_cases found : p.1 = k
      · subst found
        by_cases asked : p.1 = other <;> simp [asked]
      · have kept : (if p.1 == k then (k, v) else p) = p := if_neg (by simpa using found)
        rw [kept]
        by_cases asked : k = other
        · subst asked
          simp [found]
        · simp [asked]

theorem lookup_store (other : κ) :
    (store ps k v).lookup other = if k == other then some v else ps.lookup other := by
  unfold store
  split
  · rename_i present
    obtain ⟨old, found⟩ := Option.isSome_iff_exists.mp present
    rw [lookup_replace, found]
    rfl
  · rename_i absent
    rw [Option.not_isSome_iff_eq_none] at absent
    rw [List.lookup_append, lookup_cons_eq]
    by_cases same : k = other
    · subst same
      simp [absent]
    · simp [same]

theorem lookup_delete (other : κ) :
    (delete ps k).lookup other = if k == other then none else ps.lookup other := by
  induction ps with
  | nil => simp [delete]
  | cons p ps ih =>
      rw [delete] at ih ⊢
      by_cases removed : p.1 = k
      · subst removed
        rw [List.filter_cons_of_neg (by simp), ih, lookup_cons_eq]
        by_cases asked : p.1 = other <;> simp [asked]
      · rw [List.filter_cons_of_pos (by simpa using removed), lookup_cons_eq, lookup_cons_eq, ih]
        by_cases asked : k = other
        · subst asked
          simp [removed]
        · simp [asked]

end PairList

/-! ### Maps in a memory -/

/-- Calls on one of two maps are not seen by the other one. -/
structure OrderedMap.Apart (m n : OrderedMap) : Prop where
  keys : m.keys.Apart n.keys
  table : m.table ≠ n.table

theorem OrderedMap.Apart.symm {m n : OrderedMap} (h : m.Apart n) : n.Apart m :=
  ⟨h.keys.symm, h.table.symm⟩

namespace MapMemory

variable {κ ν : Type} [BEq κ] [Hashable κ]
variable {h : MapMemory κ ν} {m n : OrderedMap} {r r' : OrderedMap × MapMemory κ ν}
variable {ps qs : List (κ × ν)} {k : κ} {v : ν}

/-- A map with a list of pairs: its slice shows their keys, which are different, and its table has
their values. -/
structure Holds (h : MapMemory κ ν) (m : OrderedMap) (ps : List (κ × ν)) : Prop where
  fits : h.blocks.Fits m.keys
  known : m.table < h.tables.length
  keys : h.keyList m = ps.map Prod.fst
  once : (ps.map Prod.fst).Nodup
  table : ∀ k, (h.table m)[k]? = ps.lookup k

/-- What a call does: it leads to a map with a list of pairs, and leaves the others what they are.
-/
structure Leads (h : MapMemory κ ν) (others : OrderedMap → Prop)
    (r : OrderedMap × MapMemory κ ν) (ps : List (κ × ν)) : Prop where
  holds : r.2.Holds r.1 ps
  leaves : ∀ n qs, others n → h.Holds n qs → r.2.Holds n qs ∧ r.1.Apart n

theorem Holds.size_eq (held : h.Holds m ps) : m.size = ps.length := by
  rw [OrderedMap.size, ← held.fits.length_read, ← List.length_map Prod.fst, ← held.keys]
  rfl

theorem Leads.trans {others : OrderedMap → Prop} (first : h.Leads others r ps)
    (second : r.2.Leads r.1.Apart r' qs) : h.Leads others r' qs := by
  refine ⟨second.holds, fun n rs other held => ?_⟩
  obtain ⟨still, apart⟩ := first.leaves n rs other held
  exact second.leaves n rs apart still

theorem table_setTable (known : m.table < h.tables.length) (t : Std.HashMap κ ν) :
    (h.setTable m t).table m = t := by
  simp [setTable, table, known]

theorem table_setTable_of_ne (ne : m.table ≠ n.table) (t : Std.HashMap κ ν) :
    (h.setTable m t).table n = h.table n := by
  simp [setTable, table, ne]

theorem create_leads (h : MapMemory κ ν) : h.Leads (fun _ => True) h.create [] := by
  refine ⟨⟨Blocks.fits_empty, ?_, ?_, List.nodup_nil, fun k => ?_⟩, ?_⟩
  · rw [create, List.length_append]
    exact Nat.lt_succ_self _
  · exact Blocks.fits_empty.read_eq_nil rfl
  · simp [create, table]
  · intro n qs _ held
    have known := held.known
    refine ⟨⟨held.fits, ?_, held.keys, held.once, fun k => ?_⟩, ?_⟩
    · rw [create, List.length_append]
      exact Nat.lt_succ_of_lt known
    · rw [← held.table k, create, table, table, List.getD_eq_getElem?_getD,
        List.getElem?_append_left known, ← List.getD_eq_getElem?_getD]
    · exact ⟨fun room => absurd room (Nat.lt_irrefl 0), Nat.ne_of_gt known⟩

/-! ### Changing the keys of a map -/

/-- What a change of keys does: the map has these keys, no table changes, and slices apart from its
old ones show what they showed. -/
structure Rekeys (h : MapMemory κ ν) (m : OrderedMap) (r : OrderedMap × MapMemory κ ν)
    (ks : List κ) : Prop where
  fits : r.2.blocks.Fits r.1.keys
  keys : r.2.keyList r.1 = ks
  place : r.1.table = m.table
  tables : r.2.tables = h.tables
  leaves : ∀ s, h.blocks.Fits s → m.keys.Apart s →
    r.2.blocks.Fits s ∧ r.2.blocks.read s = h.blocks.read s ∧ r.1.keys.Apart s

theorem rekeys_refl (fits : h.blocks.Fits m.keys) : h.Rekeys m (m, h) (h.keyList m) :=
  ⟨fits, rfl, rfl, rfl, fun _ fits apart => ⟨fits, rfl, apart⟩⟩

theorem rekeys_append [Inhabited κ] {s : Slice} (fits : h.blocks.Fits s)
    (shared : ∀ t, m.keys.Apart t → s.Apart t) (ks : List κ) :
    h.Rekeys m (h.appendKeys m s ks) (h.blocks.read s ++ ks) := by
  obtain ⟨fits', shown⟩ := fits.append ks
  exact ⟨fits', shown, rfl, rfl, fun t other apart => other.append_apart (shared t apart) ks⟩

theorem Rekeys.table_eq {ks : List κ} (rekeys : h.Rekeys m r ks) : r.2.table r.1 = h.table m := by
  rw [table, table, rekeys.tables, rekeys.place]

/-- A map with changed keys and a table of their values has the list of both. -/
theorem Rekeys.leads (rekeys : h.Rekeys m r (qs.map Prod.fst)) (held : h.Holds m ps)
    (once : (qs.map Prod.fst).Nodup) {t : Std.HashMap κ ν} (values : ∀ k, t[k]? = qs.lookup k) :
    h.Leads m.Apart (r.1, r.2.setTable r.1 t) qs := by
  have known : r.1.table < r.2.tables.length := by
    rw [rekeys.place, rekeys.tables]
    exact held.known
  refine ⟨⟨rekeys.fits, ?_, rekeys.keys, once, fun k => ?_⟩, fun n rs apart other => ?_⟩
  · rw [setTable, List.length_set]
    exact known
  · rw [table_setTable known]
    exact values k
  · obtain ⟨fits, shown, keys⟩ := rekeys.leaves n.keys other.fits apart.keys
    have ne : r.1.table ≠ n.table := rekeys.place ▸ apart.table
    refine ⟨⟨fits, ?_, shown.trans other.keys, other.once, fun k => ?_⟩, keys, ne⟩
    · rw [setTable, List.length_set, rekeys.tables]
      exact other.known
    · rw [table_setTable_of_ne ne, table, rekeys.tables]
      exact other.table k

/-! ### Storing and deleting -/

theorem store_eq [Inhabited κ] (h : MapMemory κ ν) (m : OrderedMap) (k : κ) (v : ν) :
    h.store m k v =
      let r := if (h.table m).contains k then (m, h) else h.appendKeys m m.keys [k]
      (r.1, r.2.setTable r.1 ((r.2.table r.1).insert k v)) := rfl

variable [LawfulBEq κ]

theorem Holds.contains_iff (held : h.Holds m ps) :
    (h.table m).contains k = (ps.lookup k).isSome := by
  rw [Std.HashMap.contains_eq_isSome_getElem?, held.table]

/-- Storing a value leads to the list in which it is stored. -/
theorem Holds.store [Inhabited κ] (held : h.Holds m ps) (k : κ) (v : ν) :
    h.Leads m.Apart (h.store m k v) (PairList.store ps k v) := by
  have rekeys : h.Rekeys m (if (h.table m).contains k then (m, h) else h.appendKeys m m.keys [k])
      ((PairList.store ps k v).map Prod.fst) := by
    rw [held.contains_iff, PairList.keys_store, ← held.keys]
    split
    · exact rekeys_refl held.fits
    · exact rekeys_append held.fits (fun _ apart => apart) [k]
  rw [store_eq]
  refine rekeys.leads held (PairList.nodup_keys_store held.once) fun other => ?_
  rw [rekeys.table_eq, Std.HashMap.getElem?_insert, held.table, PairList.lookup_store]

/-- The keys behind a place, put behind those in front of it, are all keys but the one at the
place. -/
theorem Holds.rekeys_around [Inhabited κ] (held : h.Holds m ps) {i : Nat}
    (place : (h.keyList m).findIdx? (· == k) = some i) :
    h.Rekeys m (h.appendKeys m (m.keys.take i) (h.blocks.read (m.keys.drop (i + 1))))
      ((PairList.delete ps k).map Prod.fst) := by
  obtain ⟨below, -⟩ := List.findIdx?_eq_some_iff_getElem.mp place
  have le : i ≤ m.keys.length := Nat.le_of_lt (held.fits.length_read ▸ below)
  have keys : h.blocks.read (m.keys.take i) ++ h.blocks.read (m.keys.drop (i + 1)) =
      (PairList.delete ps k).map Prod.fst := by
    calc
      h.blocks.read (m.keys.take i) ++ h.blocks.read (m.keys.drop (i + 1)) =
          (h.keyList m).eraseIdx i := by
        rw [Blocks.read_take _ le, Blocks.read_drop, List.eraseIdx_eq_take_drop_succ]
        rfl
      _ = (h.keyList m).erase k := by
        have searched : (h.keyList m).idxOf? k = some i := place
        rw [List.erase_eq_eraseIdx, searched]
      _ = (h.keyList m).filter (· != k) :=
        List.Nodup.erase_eq_filter (held.keys ▸ held.once) k
      _ = (PairList.delete ps k).map Prod.fst := by
        rw [held.keys, PairList.keys_delete]
  exact keys ▸ rekeys_append (held.fits.take le) (fun _ apart => apart) _

/-- Deleting a key leads to the list without its pair. -/
theorem Holds.delete [Inhabited κ] (held : h.Holds m ps) (k : κ) :
    h.Leads m.Apart (h.delete m k) (PairList.delete ps k) := by
  rw [MapMemory.delete, held.contains_iff]
  cases found : (ps.lookup k).isSome with
  | false =>
      rw [PairList.delete_of_absent (Option.not_isSome_iff_eq_none.mp (Bool.eq_false_iff.mp found))]
      exact ⟨held, fun n qs apart other => ⟨other, apart⟩⟩
  | true =>
      have member : k ∈ h.keyList m := held.keys ▸ PairList.mem_keys_iff.mpr found
      obtain ⟨i, place⟩ : ∃ i, (h.keyList m).findIdx? (· == k) = some i := by
        refine Option.isSome_iff_exists.mp ?_
        rw [List.findIdx?_isSome]
        exact List.any_eq_true.mpr ⟨k, member, beq_self_eq_true k⟩
      have once : ((PairList.delete ps k).map Prod.fst).Nodup := by
        rw [PairList.keys_delete]
        exact held.once.filter _
      have values : ∀ other, ((h.table m).erase k)[other]? = (PairList.delete ps k).lookup other :=
        fun other => by rw [Std.HashMap.getElem?_erase, held.table, PairList.lookup_delete]
      have leads := (held.rekeys_around place).leads held once values
      -- The table is changed before the keys, which do not depend on it.
      rw [if_pos rfl]
      have searched : ((h.setTable m ((h.table m).erase k)).keyList m).findIdx? (· == k) = some i :=
        place
      simp only [searched]
      exact leads

/-- Storing the pairs of a list one by one in a map with those in front of it leads to both. -/
theorem leads_foldl [Inhabited κ] {others : OrderedMap → Prop} {rest front : List (κ × ν)}
    (once : ((front ++ rest).map Prod.fst).Nodup) (leads : h.Leads others r front) :
    h.Leads others (rest.foldl (fun c p => c.2.store c.1 p.1 p.2) r) (front ++ rest) := by
  induction rest generalizing r front with
  | nil =>
      rw [List.append_nil]
      exact leads
  | cons p rest ih =>
      have step := leads.trans (leads.holds.store p.1 p.2)
      rw [PairList.store_of_absent (PairList.lookup_front once)] at step
      have both : front ++ p :: rest = (front ++ [p]) ++ rest := by
        rw [List.append_assoc]
        rfl
      rw [both] at once ⊢
      exact ih once step

/-! ### Going through a map -/

/-- What a consumer makes of items, until it wants no more. -/
def consume {σ α : Type} (yield : σ → α → Bool × σ) : List α → σ → σ
  | [], a => a
  | x :: xs, a =>
    match yield a x with
    | (true, a) => consume yield xs a
    | (false, a) => a

/-- A consumer that wants all items folds them. -/
theorem consume_eq_foldl {σ α : Type} (f : σ → α → σ) (xs : List α) (a : σ) :
    consume (fun a x => (true, f a x)) xs a = xs.foldl f a := by
  induction xs generalizing a with
  | nil => rfl
  | cons x xs ih => exact ih (f a x)

/-- A consumer of parts of items consumes the parts. -/
theorem consume_map {σ α β : Type} (part : α → β) (yield : σ → β → Bool × σ) (xs : List α) (a : σ) :
    consume (fun a x => yield a (part x)) xs a = consume yield (xs.map part) a := by
  induction xs generalizing a with
  | nil => rfl
  | cons x xs ih =>
      simp only [consume, List.map_cons]
      split
      · exact ih _
      · rfl

/-- What is collected are the first items. -/
theorem consume_upTo {α : Type} (n : Nat) (xs front : List α) (few : front.length ≤ n) :
    consume (upTo n) xs front = front ++ xs.take (n - front.length) := by
  induction xs generalizing front with
  | nil => simp [consume]
  | cons x xs ih =>
      rw [consume, upTo]
      by_cases more : front.length < n
      · rw [if_pos more]
        have left : n - front.length = n - (front.length + 1) + 1 := by omega
        have few' : (front ++ [x]).length ≤ n := by simpa using Nat.succ_le_of_lt more
        simp only [ih _ few', left, List.take_succ_cons, List.length_append, List.length_singleton,
          List.append_assoc, List.singleton_append]
      · rw [if_neg more]
        have none : n - front.length = 0 := by omega
        simp [none]

variable [Inhabited κ] [Inhabited ν]

/-- The pair at a place of a map is that of its list. -/
theorem Holds.pairAt_eq {front rest : List (κ × ν)} {p : κ × ν}
    (held : h.Holds m (front ++ p :: rest)) : h.pairAt m front.length = p := by
  have key : (h.keyList m).getD front.length default = p.1 := by
    rw [held.keys]
    simp
  have value : (front ++ p :: rest).lookup p.1 = some p.2 := by
    rw [List.lookup_append, PairList.lookup_front held.once, List.lookup_cons_self]
    rfl
  rw [pairAt, key, Std.HashMap.getD_eq_getD_getElem?, held.table, value]
  rfl

/-- Going through the places of a map hands its pairs on, if what the consumer does with the memory
leaves the map what it is. -/
theorem visit_eq {σ : Type} (memory : σ → MapMemory κ ν) (yield : σ → κ × ν → Bool × σ)
    (good : σ → Prop) (keeps : ∀ a p, good a → good (yield a p).2)
    (holds : ∀ a, good a → (memory a).Holds m ps) {front rest : List (κ × ν)}
    (split : ps = front ++ rest) {a : σ} (start : good a) :
    visit m memory yield front.length rest.length a = consume yield rest a := by
  induction rest generalizing front a with
  | nil => rfl
  | cons p rest ih =>
      have pair := (split ▸ holds a start).pairAt_eq
      have next : ps = (front ++ [p]) ++ rest := by rw [split, List.append_assoc]; rfl
      have kept := keeps a p start
      have length : (front ++ [p]).length = front.length + 1 := by simp
      rw [List.length_cons, visit, consume, pair, ← length]
      generalize yield a p = answer at kept ⊢
      obtain ⟨_ | _, a'⟩ := answer
      · rfl
      · exact ih next kept

/-- The iterator of a map hands the pairs of its list on. -/
theorem Holds.iter_eq {σ : Type} (held : h.Holds m ps) (yield : σ → κ × ν → Bool × σ) (a : σ) :
    h.iter m yield a = consume yield ps a := by
  have length : m.keys.length = ps.length := held.size_eq
  rw [iter, length]
  exact visit_eq (fun _ => h) yield (fun _ => True) (fun _ _ _ => trivial) (fun _ _ => held)
    (List.nil_append ps).symm trivial

/-- A clone has the pairs of its map, and no map of before is touched. The places of the map are
read while the clone grows. -/
theorem Holds.clone (held : h.Holds m ps) : h.Leads (fun _ => True) (h.clone m) ps := by
  have length : m.keys.length = ps.length := held.size_eq
  have visited := visit_eq Prod.snd (fun c p => (true, c.2.store c.1 p.1 p.2))
    (fun c => ∃ qs, h.Leads (fun _ => True) c qs)
    (fun c p ⟨qs, leads⟩ => ⟨_, leads.trans (leads.holds.store p.1 p.2)⟩)
    (fun c ⟨qs, leads⟩ => (leads.leaves m ps trivial held).1)
    (List.nil_append ps).symm ⟨[], create_leads h⟩
  rw [MapMemory.clone, length]
  refine visited ▸ ?_
  rw [consume_eq_foldl]
  exact leads_foldl held.once (create_leads h)

/-! ### What a map gives -/

/-- A map gives what a list of pairs gives: its keys are those of the list, all different, and those
of its table, and its size, its values and its iterators are those of the list. -/
structure Gives (h : MapMemory κ ν) (m : OrderedMap) (ps : List (κ × ν)) : Prop where
  keyList : h.keyList m = ps.map Prod.fst
  once : (h.keyList m).Nodup
  mem_keys : ∀ k, k ∈ h.keyList m ↔ k ∈ h.table m
  size : m.size = ps.length
  load : ∀ k, h.load m k = ps.lookup k
  first : ∀ n, h.iter m (upTo n) [] = ps.take n
  iter : ∀ {σ : Type} (yield : σ → κ × ν → Bool × σ) a, h.iter m yield a = consume yield ps a
  keys : ∀ {σ : Type} (yield : σ → κ → Bool × σ) a,
    h.keys m yield a = consume yield (ps.map Prod.fst) a
  values : ∀ {σ : Type} (yield : σ → ν → Bool × σ) a,
    h.values m yield a = consume yield (ps.map Prod.snd) a

theorem Holds.gives (held : h.Holds m ps) : h.Gives m ps where
  keyList := held.keys
  once := held.keys ▸ held.once
  mem_keys k := by
    rw [held.keys, PairList.mem_keys_iff, Std.HashMap.mem_iff_isSome_getElem?, held.table]
  size := held.size_eq
  load := held.table
  first n := (held.iter_eq _ []).trans (consume_upTo n ps [] (Nat.zero_le n))
  iter := held.iter_eq
  keys yield a := (held.iter_eq _ a).trans (consume_map Prod.fst yield ps a)
  values yield a := (held.iter_eq _ a).trans (consume_map Prod.snd yield ps a)

end MapMemory

/-! ### Calls on several maps -/

/-- A call on the maps of a memory, which are numbered in the order of their creation. -/
inductive MapCall (κ ν : Type) where
  | create
  | store (i : Nat) (k : κ) (v : ν)
  | delete (i : Nat) (k : κ)
  | load (i : Nat) (k : κ)
  | clone (i : Nat)

/-- The map that a call changes. -/
def MapCall.changed? {κ ν : Type} : MapCall κ ν → Option Nat
  | .store i _ _ => some i
  | .delete i _ => some i
  | _ => none

/-- Several maps in one memory. -/
structure MapWorld (κ ν : Type) [BEq κ] [Hashable κ] where
  memory : MapMemory κ ν
  maps : List OrderedMap

namespace MapWorld

variable {κ ν : Type} [BEq κ] [Hashable κ]

/-- No maps. -/
def new (spare : Nat → Nat → Nat) : MapWorld κ ν := ⟨.empty spare, []⟩

/-- Puts what a function makes of a map and the memory in their place. -/
def change (w : MapWorld κ ν) (i : Nat)
    (f : MapMemory κ ν → OrderedMap → OrderedMap × MapMemory κ ν) : MapWorld κ ν :=
  match w.maps[i]? with
  | some m => let (m, h) := f w.memory m; ⟨h, w.maps.set i m⟩
  | none => w

/-- Adds a map, with the memory that it lives in. -/
def add (w : MapWorld κ ν) (r : OrderedMap × MapMemory κ ν) : MapWorld κ ν :=
  ⟨r.2, w.maps ++ [r.1]⟩

variable [Inhabited κ] [Inhabited ν]

/-- A call. Loading changes nothing, and a call on no map does nothing. -/
def call (w : MapWorld κ ν) : MapCall κ ν → MapWorld κ ν
  | .create => w.add w.memory.create
  | .store i k v => w.change i fun h m => h.store m k v
  | .delete i k => w.change i fun h m => h.delete m k
  | .load _ _ => w
  | .clone i =>
    match w.maps[i]? with
    | some m => w.add (w.memory.clone m)
    | none => w

/-- Several calls, one after the other. -/
def after (w : MapWorld κ ν) (calls : List (MapCall κ ν)) : MapWorld κ ν :=
  calls.foldl call w

end MapWorld

namespace PairList

variable {κ ν : Type} [BEq κ]

/-- A call on several lists of pairs. -/
def call (lists : List (List (κ × ν))) : MapCall κ ν → List (List (κ × ν))
  | .create => lists ++ [[]]
  | .store i k v => lists.modify i (store · k v)
  | .delete i k => lists.modify i (delete · k)
  | .load _ _ => lists
  | .clone i => lists ++ lists[i]?.toList

/-- Several calls, one after the other. -/
def after (lists : List (List (κ × ν))) (calls : List (MapCall κ ν)) : List (List (κ × ν)) :=
  calls.foldl call lists

variable {lists : List (List (κ × ν))} {i : Nat} {ps : List (κ × ν)}

/-- A call leaves the lists that it does not change. -/
theorem call_unchanged (found : lists[i]? = some ps) {c : MapCall κ ν}
    (other : c.changed? ≠ some i) : (call lists c)[i]? = some ps := by
  have known : i < lists.length := (List.getElem?_eq_some_iff.mp found).1
  cases c with
  | create => exact (List.getElem?_append_left known).trans found
  | store j k v =>
      have ne : j ≠ i := fun same => other (congrArg some same)
      simp [call, ne, found]
  | delete j k =>
      have ne : j ≠ i := fun same => other (congrArg some same)
      simp [call, ne, found]
  | load j k => exact found
  | clone j => exact (List.getElem?_append_left known).trans found

theorem after_unchanged (found : lists[i]? = some ps) {calls : List (MapCall κ ν)}
    (others : ∀ c ∈ calls, c.changed? ≠ some i) : (after lists calls)[i]? = some ps := by
  induction calls generalizing lists with
  | nil => exact found
  | cons c calls ih =>
      obtain ⟨first, later⟩ := List.forall_mem_cons.mp others
      exact ih (call_unchanged found first) later

end PairList

namespace MapWorld

variable {κ ν : Type} [BEq κ] [Hashable κ]
variable {w : MapWorld κ ν} {lists : List (List (κ × ν))} {r : OrderedMap × MapMemory κ ν}
variable {i : Nat} {m : OrderedMap} {ps qs : List (κ × ν)}

/-- The maps have these lists of pairs, and any two of them are apart. -/
structure Holds (w : MapWorld κ ν) (lists : List (List (κ × ν))) : Prop where
  length : w.maps.length = lists.length
  each : ∀ (i : Nat) m ps, w.maps[i]? = some m → lists[i]? = some ps → w.memory.Holds m ps
  apart : ∀ (i j : Nat) m n, i ≠ j → w.maps[i]? = some m → w.maps[j]? = some n → m.Apart n

theorem holds_new (spare : Nat → Nat → Nat) : (new spare : MapWorld κ ν).Holds [] :=
  ⟨rfl, fun _ _ _ found => absurd found (by simp [new]),
    fun _ _ _ _ _ found => absurd found (by simp [new])⟩

/-- The map of a list. -/
theorem Holds.map (held : w.Holds lists) (list : lists[i]? = some ps) :
    ∃ m, w.maps[i]? = some m ∧ w.memory.Holds m ps := by
  have known : i < w.maps.length := held.length ▸ (List.getElem?_eq_some_iff.mp list).1
  have found := List.getElem?_eq_getElem known
  exact ⟨_, found, held.each i _ ps found list⟩

/-- The list of a map. -/
theorem Holds.list (held : w.Holds lists) (found : w.maps[i]? = some m) :
    ∃ ps, lists[i]? = some ps ∧ w.memory.Holds m ps := by
  have known : i < lists.length := held.length ▸ (List.getElem?_eq_some_iff.mp found).1
  have list := List.getElem?_eq_getElem known
  exact ⟨_, list, held.each i m _ found list⟩

/-- A call that changes one map, where its number is that of a map. -/
theorem Holds.change (held : w.Holds lists)
    {f : MapMemory κ ν → OrderedMap → OrderedMap × MapMemory κ ν} {g : List (κ × ν) → List (κ × ν)}
    (leads : ∀ {m ps}, w.memory.Holds m ps → w.memory.Leads m.Apart (f w.memory m) (g ps))
    (i : Nat) : (w.change i f).Holds (lists.modify i g) := by
  unfold MapWorld.change
  cases found : w.maps[i]? with
  | none =>
      rw [List.modify_eq_self (held.length ▸ List.getElem?_eq_none_iff.mp found)]
      exact held
  | some m =>
      obtain ⟨ps, list, holds⟩ := held.list found
      have known : i < w.maps.length := (List.getElem?_eq_some_iff.mp found).1
      obtain ⟨new, leaves⟩ := leads holds
      have others : ∀ {j n}, i ≠ j → w.maps[j]? = some n → (f w.memory m).1.Apart n :=
        fun ne map => by
          obtain ⟨qs, _, other⟩ := held.list map
          exact (leaves _ qs (held.apart _ _ _ _ ne found map) other).2
      refine ⟨by simp [held.length], fun j n qs map list' => ?_, fun j k n n' ne map map' => ?_⟩
      · by_cases same : i = j
        · subst same
          rw [List.getElem?_set_self known] at map
          rw [List.getElem?_modify_eq, list] at list'
          cases map
          cases list'
          exact new
        · rw [List.getElem?_set_ne same] at map
          rw [List.getElem?_modify_ne _ _ same] at list'
          exact (leaves n qs (held.apart i j m n same found map) (held.each j n qs map list')).1
      · by_cases first : i = j
        · subst first
          rw [List.getElem?_set_self known] at map
          rw [List.getElem?_set_ne ne] at map'
          cases map
          exact others ne map'
        · rw [List.getElem?_set_ne first] at map
          by_cases second : i = k
          · subst second
            rw [List.getElem?_set_self known] at map'
            cases map'
            exact (others first map).symm
          · rw [List.getElem?_set_ne second] at map'
            exact held.apart j k n n' ne map map'

/-- An entry of a list with one more is an old one or the last. -/
theorem found_of_snoc {α : Type} {xs : List α} {x y : α} (found : (xs ++ [x])[i]? = some y) :
    xs[i]? = some y ∨ i = xs.length ∧ y = x := by
  rcases Nat.lt_trichotomy i xs.length with before | rfl | behind
  · rw [List.getElem?_append_left before] at found
    exact Or.inl found
  · rw [List.getElem?_concat_length] at found
    exact Or.inr ⟨rfl, (Option.some.inj found).symm⟩
  · rw [List.getElem?_eq_none (by simpa using Nat.succ_le_of_lt behind)] at found
    cases found

/-- A call that adds a map. -/
theorem Holds.add (held : w.Holds lists) (leads : w.memory.Leads (fun _ => True) r ps) :
    (w.add r).Holds (lists ++ [ps]) := by
  obtain ⟨new, leaves⟩ := leads
  have others : ∀ {j n}, w.maps[j]? = some n → r.1.Apart n := fun map => by
    obtain ⟨qs, _, other⟩ := held.list map
    exact (leaves _ qs trivial other).2
  refine ⟨by simp [MapWorld.add, held.length], fun j n qs map list => ?_,
    fun j k n n' ne map map' => ?_⟩
  · rcases found_of_snoc map with old | ⟨rfl, rfl⟩
    · have known : j < lists.length := held.length ▸ (List.getElem?_eq_some_iff.mp old).1
      rw [List.getElem?_append_left known] at list
      exact (leaves n qs trivial (held.each j n qs old list)).1
    · rw [held.length, List.getElem?_concat_length] at list
      cases list
      exact new
  · rcases found_of_snoc map with old | ⟨rfl, rfl⟩ <;>
      rcases found_of_snoc map' with old' | ⟨rfl, rfl⟩
    · exact held.apart j k n n' ne old old'
    · exact (others old).symm
    · exact others old'
    · exact absurd rfl ne

variable [LawfulBEq κ] [Inhabited κ] [Inhabited ν]

/-- A call on maps and on their lists. -/
theorem Holds.call (held : w.Holds lists) (c : MapCall κ ν) :
    (w.call c).Holds (PairList.call lists c) := by
  cases c with
  | create => exact held.add (MapMemory.create_leads w.memory)
  | store i k v =>
      exact held.change (f := fun h m => h.store m k v) (g := fun ps => PairList.store ps k v)
        (fun holds => holds.store k v) i
  | delete i k =>
      exact held.change (f := fun h m => h.delete m k) (g := fun ps => PairList.delete ps k)
        (fun holds => holds.delete k) i
  | load i k => exact held
  | clone i =>
      rw [MapWorld.call, PairList.call]
      cases found : w.maps[i]? with
      | none =>
          rw [List.getElem?_eq_none (held.length ▸ List.getElem?_eq_none_iff.mp found)]
          rw [Option.toList_none, List.append_nil]
          exact held
      | some m =>
          obtain ⟨ps, list, holds⟩ := held.list found
          rw [list]
          exact held.add holds.clone

theorem Holds.after (held : w.Holds lists) (calls : List (MapCall κ ν)) :
    (w.after calls).Holds (PairList.after lists calls) := by
  induction calls generalizing w lists with
  | nil => exact held
  | cons c calls ih => exact ih (held.call c)

/-- There is a map of this number that gives what a list gives. -/
def Shows (w : MapWorld κ ν) (i : Nat) (ps : List (κ × ν)) : Prop :=
  ∃ m, w.maps[i]? = some m ∧ w.memory.Gives m ps

theorem Holds.shows (held : w.Holds lists) (list : lists[i]? = some ps) : w.Shows i ps := by
  obtain ⟨m, found, holds⟩ := held.map list
  exact ⟨m, found, holds.gives⟩

/-- A map still gives what its list gives after calls that do not change it. -/
theorem Holds.shows_after (held : w.Holds lists) (list : lists[i]? = some ps)
    {calls : List (MapCall κ ν)} (others : ∀ c ∈ calls, c.changed? ≠ some i) :
    (w.after calls).Shows i ps :=
  (held.after calls).shows (PairList.after_unchanged list others)

end MapWorld

/-- After any calls on maps with text keys, whatever the memory gives to slices that move, there are
as many maps as lists of pairs, and each map gives what its list gives, in which a value was stored
in the place of its key or at the end and a deleted pair is missing. Each map still gives that after
further calls which do not change it; in particular, a clone gives what its map gave, and further
calls that change one of the two leave what the other one gives. -/
theorem ordered_maps_refine_lists {ν : Type} [Inhabited ν] (spare : Nat → Nat → Nat)
    (calls later : List (MapCall String ν)) :
    let world := (MapWorld.new spare).after calls
    let lists := PairList.after [] calls
    world.maps.length = lists.length ∧
      (∀ i ps, lists[i]? = some ps → world.Shows i ps ∧
        ((∀ c ∈ later, c.changed? ≠ some i) → (world.after later).Shows i ps)) ∧
      ∀ i ps, lists[i]? = some ps →
        ((∀ c ∈ later, c.changed? ≠ some i) →
          ((world.call (.clone i)).after later).Shows i ps) ∧
        ((∀ c ∈ later, c.changed? ≠ some lists.length) →
          ((world.call (.clone i)).after later).Shows lists.length ps) := by
  intro world lists
  have held : world.Holds lists := (MapWorld.holds_new spare).after calls
  refine ⟨held.length, fun i ps list => ⟨held.shows list, held.shows_after list⟩,
    fun i ps list => ?_⟩
  have cloned := held.call (.clone i)
  have both : PairList.call lists (.clone i) = lists ++ [ps] := by
    rw [PairList.call, list]
    rfl
  rw [both] at cloned
  constructor
  · refine cloned.shows_after ?_
    rw [List.getElem?_append_left (List.getElem?_eq_some_iff.mp list).1]
    exact list
  · exact cloned.shows_after List.getElem?_concat_length

end TensorCompiler
