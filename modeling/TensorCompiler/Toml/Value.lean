/-!
# Configuration documents

The values of a configuration file. Decimal numbers and moments are kept as kinds only: no setting
is read from one. A table written between braces is closed; other tables may be extended later in
the file.
-/

namespace TensorCompiler.Toml

mutual

/-- A value of a document. -/
inductive Value where
  | text (s : String)
  | bool (b : Bool)
  | integer (n : Int)
  | decimal
  | moment
  | array (items : List Value)
  | table (t : Table)
  | tables (items : List Table)

/-- The entries of a table, and whether it is closed. -/
inductive Table where
  | mk (closed : Bool) (entries : List (String × Value))

end

namespace Table

/-- A table without entries. -/
def empty (closed : Bool) : Table := ⟨closed, []⟩

/-- Whether a table may not be extended. -/
def closed : Table → Bool
  | ⟨c, _⟩ => c

/-- The entries of a table. -/
def entries : Table → List (String × Value)
  | ⟨_, es⟩ => es

/-- The table closed. -/
def close (t : Table) : Table := ⟨true, t.entries⟩

/-- The value of a key. -/
def get? (t : Table) (key : String) : Option Value :=
  (t.entries.find? (·.1 == key)).map Prod.snd

/-- Replaces the value of a key, or adds it. -/
def put (t : Table) (key : String) (v : Value) : Table :=
  ⟨t.closed, (key, v) :: t.entries.filter (·.1 != key)⟩

@[simp]
theorem closed_put (t : Table) (key : String) (v : Value) : (t.put key v).closed = t.closed := rfl

@[simp]
theorem get?_put_self (t : Table) (key : String) (v : Value) :
    (t.put key v).get? key = some v := by
  simp [get?, put, entries]

theorem get?_put_of_ne (t : Table) {key other : String} (v : Value) (h : other ≠ key) :
    (t.put key v).get? other = t.get? other := by
  have apart : (fun e : String × Value => decide ((e.1 != key) = true ∧ (e.1 == other) = true)) =
      fun e => e.1 == other := by
    funext e
    by_cases same : e.1 = other
    · simp [same, h]
    · simp [same]
  simp only [get?, put, entries]
  rw [List.find?_cons_of_neg (by simpa using Ne.symm h), List.find?_filter, apart]

@[simp]
theorem put_put (t : Table) (key : String) (v w : Value) :
    (t.put key v).put key w = t.put key w := by
  simp [put, entries, closed]

/-- Adds an entry to an open table unless its key is taken. -/
def add? (key : String) (v : Value) (t : Table) : Option Table :=
  if t.closed || (t.get? key).isSome then none else some (t.put key v)

/-- The value at the end of a path. Of a list of tables the last one is entered. -/
def find? : Table → List String → Option Value
  | t, [] => some (.table t)
  | t, [key] => t.get? key
  | t, key :: path =>
    match t.get? key with
    | some (.table s) => s.find? path
    | some (.tables items) => items.getLast?.bind (·.find? path)
    | _ => none

/-- Applies `f` to the table a path leads to, making the tables that are missing: below a closed
table they are closed. A path through any other value leads nowhere. -/
def update? (f : Table → Option Table) : List String → Table → Option Table
  | [], t => f t
  | key :: path, t =>
    match t.get? key with
    | none => (update? f path (empty t.closed)).map fun s => t.put key (.table s)
    | some (.table s) => (update? f path s).map fun s => t.put key (.table s)
    | some (.tables items) =>
      match items.getLast? with
      | none => none
      | some s => (update? f path s).map fun s => t.put key (.tables (items.dropLast ++ [s]))
    | some _ => none

/-- Sets the value at the end of a path, closed tables included. A step through a value that is no
table is left out. -/
def set (v : Value) : List String → Table → Table
  | [], t => t
  | [key], t => t.put key v
  | key :: path, t =>
    match t.get? key with
    | none => t.put key (.table ((empty false).set v path))
    | some (.table s) => t.put key (.table (s.set v path))
    | some (.tables items) =>
      match items.getLast? with
      | none => t.put key (.tables [(empty false).set v path])
      | some s => t.put key (.tables (items.dropLast ++ [s.set v path]))
    | some _ => t.set v path

end Table
end TensorCompiler.Toml
