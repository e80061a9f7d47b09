import Std.Data.HashMap
import TensorCompiler.Container.Slice

/-!
# Ordered maps

A map that remembers the order in which its keys were first stored. A key keeps its place while it
is in the map; a key that was deleted comes back at the end. Maps live in a memory: each has a slice
of keys, which changes in place where it can, and a table of values.
-/

namespace TensorCompiler

/-!
## Sorted tables

A table with text keys that lists its pairs in the order of the keys.
-/

/-- Pairs in ascending order of their keys. -/
structure SortedTable (ν : Type) where
  pairs : List (String × ν)

namespace SortedTable

variable {ν : Type}

/-- No keys. -/
def empty : SortedTable ν := ⟨[]⟩

/-- The value of a key. -/
def load (t : SortedTable ν) (k : String) : Option ν :=
  (t.pairs.find? (·.1 == k)).map Prod.snd

/-- Puts a pair in its place. -/
def place (k : String) (v : ν) : List (String × ν) → List (String × ν)
  | [] => [(k, v)]
  | p :: ps =>
    if p.1 < k then p :: place k v ps else if p.1 = k then (k, v) :: ps else (k, v) :: p :: ps

/-- Stores a value. -/
def store (t : SortedTable ν) (k : String) (v : ν) : SortedTable ν :=
  ⟨place k v t.pairs⟩

/-- The value of a key, stored first if there is none. -/
def loadOrStore (t : SortedTable ν) (k : String) (v : ν) : ν × SortedTable ν :=
  match t.load k with
  | some old => (old, t)
  | none => (v, t.store k v)

/-- Removes a key. -/
def delete (t : SortedTable ν) (k : String) : SortedTable ν :=
  ⟨t.pairs.filter (·.1 != k)⟩

/-- The number of keys. -/
def size (t : SortedTable ν) : Nat :=
  t.pairs.length

end SortedTable

/-! ## Ordered maps -/

/-- A map: the slice of its keys in order, and the place of its table. -/
structure OrderedMap where
  keys : Slice
  table : Nat

/-- The number of keys. -/
def OrderedMap.size (m : OrderedMap) : Nat := m.keys.length

/-- The memory of maps from `κ` to `ν`. -/
structure MapMemory (κ ν : Type) [BEq κ] [Hashable κ] where
  blocks : Blocks κ
  tables : List (Std.HashMap κ ν)

namespace MapMemory

variable {κ ν σ : Type} [BEq κ] [Hashable κ]

/-- A memory without maps. -/
def empty (spare : Nat → Nat → Nat) : MapMemory κ ν := ⟨⟨[], spare⟩, []⟩

/-- The table of a map. -/
def table (h : MapMemory κ ν) (m : OrderedMap) : Std.HashMap κ ν := h.tables.getD m.table ∅

/-- Changes the table of a map. -/
def setTable (h : MapMemory κ ν) (m : OrderedMap) (t : Std.HashMap κ ν) : MapMemory κ ν :=
  { h with tables := h.tables.set m.table t }

/-- The keys of a map in order. -/
def keyList (h : MapMemory κ ν) (m : OrderedMap) : List κ := h.blocks.read m.keys

/-- A new map. -/
def create (h : MapMemory κ ν) : OrderedMap × MapMemory κ ν :=
  (⟨.empty, h.tables.length⟩, { h with tables := h.tables ++ [∅] })

/-- The value of a key. -/
def load (h : MapMemory κ ν) (m : OrderedMap) (k : κ) : Option ν :=
  (h.table m)[k]?

variable [Inhabited κ]

/-- Puts keys behind a slice of keys of a map, which becomes the slice of all its keys. -/
def appendKeys (h : MapMemory κ ν) (m : OrderedMap) (s : Slice) (ks : List κ) :
    OrderedMap × MapMemory κ ν :=
  let (keys, blocks) := h.blocks.append s ks
  ({ m with keys := keys }, { h with blocks := blocks })

/-- Stores a value: in the place of the key, or at the end. -/
def store (h : MapMemory κ ν) (m : OrderedMap) (k : κ) (v : ν) : OrderedMap × MapMemory κ ν :=
  let (m, h) := if (h.table m).contains k then (m, h) else h.appendKeys m m.keys [k]
  (m, h.setTable m ((h.table m).insert k v))

/-- Removes a key: those behind it move up by one place. -/
def delete (h : MapMemory κ ν) (m : OrderedMap) (k : κ) : OrderedMap × MapMemory κ ν :=
  if (h.table m).contains k then
    let h := h.setTable m ((h.table m).erase k)
    match (h.keyList m).findIdx? (· == k) with
    | some i => h.appendKeys m (m.keys.take i) (h.blocks.read (m.keys.drop (i + 1)))
    | none => (m, h)
  else (m, h)

/-! ### Iterators

An iterator hands its items one by one to a consumer, until the consumer wants no more. -/

variable [Inhabited ν]

/-- The key at a place of a map, with its value. -/
def pairAt (h : MapMemory κ ν) (m : OrderedMap) (i : Nat) : κ × ν :=
  let k := (h.keyList m).getD i default
  (k, (h.table m).getD k default)

/-- Hands the pairs at the next places from `i` on to a consumer. Each of them is read when its turn
comes, from the memory as the consumer has left it. -/
def visit (m : OrderedMap) (memory : σ → MapMemory κ ν) (yield : σ → κ × ν → Bool × σ) :
    Nat → Nat → σ → σ
  | _, 0, a => a
  | i, places + 1, a =>
    match yield a ((memory a).pairAt m i) with
    | (true, a) => visit m memory yield (i + 1) places a
    | (false, a) => a

/-- Goes through the pairs of a map in order. -/
def iter (h : MapMemory κ ν) (m : OrderedMap) (yield : σ → κ × ν → Bool × σ) (a : σ) : σ :=
  visit m (fun _ => h) yield 0 m.keys.length a

/-- Goes through the keys. -/
def keys (h : MapMemory κ ν) (m : OrderedMap) (yield : σ → κ → Bool × σ) (a : σ) : σ :=
  h.iter m (fun a p => yield a p.1) a

/-- Goes through the values. -/
def values (h : MapMemory κ ν) (m : OrderedMap) (yield : σ → ν → Bool × σ) (a : σ) : σ :=
  h.iter m (fun a p => yield a p.2) a

/-- The consumer that collects at most `n` items. -/
def upTo {α : Type} (n : Nat) (items : List α) (item : α) : Bool × List α :=
  if items.length < n then (true, items ++ [item]) else (false, items)

/-- A new map with the same pairs, stored one by one. -/
def clone (h : MapMemory κ ν) (m : OrderedMap) : OrderedMap × MapMemory κ ν :=
  visit m Prod.snd (fun (c, h) p => (true, h.store c p.1 p.2)) 0 m.keys.length h.create

end MapMemory
end TensorCompiler
