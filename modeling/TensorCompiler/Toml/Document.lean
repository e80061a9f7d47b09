import TensorCompiler.Text.Basic
import TensorCompiler.Toml.Scan
import TensorCompiler.Toml.Token

/-!
# Documents

A document is a sequence of assignments and headers. A header names the table that the assignments
behind it belong to; the same header may not be written twice, nor may a key.
-/

namespace TensorCompiler.Toml

/-- The table among the items of an array. -/
def Value.table? : Value → Option Table
  | .table t => some t
  | _ => none

/-- An array of tables only is a list of tables. -/
def Value.ofItems (items : List Value) : Value :=
  match items, items.mapM Value.table? with
  | _ :: _, some ts => .tables ts
  | _, _ => .array items

/-- What stood before an entry of a table between braces. -/
inductive Before where
  | nothing
  | entry
  | comma
deriving DecidableEq, Repr

mutual

/-- Reads a value. -/
def readValue : Nat → List Token → Option (Value × List Token)
  | 0, _ => none
  | fuel + 1, ts =>
    match ts with
    | .text s :: rest => some (.text s, rest)
    | .bool b :: rest => some (.bool b, rest)
    | .special :: rest => some (.decimal, rest)
    | .integer source :: rest => (integer? source).map fun n => (.integer n, rest)
    | .decimal source :: rest => if isDecimal source then some (.decimal, rest) else none
    | .time t :: rest => if isTime t then some (.moment, rest) else none
    | .date d :: .time t :: .offset o :: rest =>
      if isDate d && isTime t && isOffset o then some (.moment, rest) else none
    | .date d :: .time t :: rest => if isDate d && isTime t then some (.moment, rest) else none
    | .date d :: rest => if isDate d then some (.moment, rest) else none
    | .openBracket :: rest => (readItems fuel rest).map fun p => (Value.ofItems p.1, p.2)
    | .openTable :: rest =>
      (readEntries fuel .nothing (Table.empty false) rest).map fun p => (.table p.1, p.2)
    | _ => none

/-- Reads the items of an array up to its bracket. A comma may follow the last one. -/
def readItems : Nat → List Token → Option (List Value × List Token)
  | 0, _ => none
  | fuel + 1, ts =>
    match ts with
    | .closeBracket :: rest => some ([], rest)
    | ts => do
      let (v, rest) ← readValue fuel ts
      match rest with
      | .comma :: rest =>
        let (items, rest) ← readItems fuel rest
        return (v :: items, rest)
      | .closeBracket :: rest => return ([v], rest)
      | _ => none

/-- Reads the entries of a table between braces. A comma stands between two entries and not behind
the last one; of two entries with one key the later one counts. -/
def readEntries : Nat → Before → Table → List Token → Option (Table × List Token)
  | 0, _, _, _ => none
  | fuel + 1, before, t, ts =>
    match ts with
    | .closeTable :: rest => if before = .comma then none else some (t.close, rest)
    | .comma :: rest => if before = .comma then none else readEntries fuel .comma t rest
    | .key key :: .equals :: rest =>
      if before = .entry then none
      else do
        let path ← path? key
        let (v, rest) ← readValue fuel rest
        readEntries fuel .entry (t.set v path) rest
    | _ => none

end

/-- What was read of a document: its root, the path of the table that assignments go to, and the
headers as they were written. -/
structure Progress where
  root : Table
  current : List String
  headers : List (List Char)

/-- Assigns a value to a key of the current table. -/
def Progress.assign (p : Progress) (path : List String) (v : Value) : Option Progress := do
  let key ← path.getLast?
  let root ← p.root.update? (Table.add? key v) (p.current ++ path.dropLast)
  return { p with root := root }

/-- Goes to the table of a header. A closed table may not be reopened. -/
def Progress.enter (p : Progress) (header : List Char) : Option Progress := do
  if p.headers.contains header then none
  let path ← path? header
  let root ← p.root.update? some path
  match root.find? path with
  | some (.table t) => if t.closed then none else return ⟨root, path, header :: p.headers⟩
  | _ => return ⟨root, path, header :: p.headers⟩

/-- Adds a table to the list of tables of a header. The headers below it may be written again. -/
def Progress.append (p : Progress) (header : List Char) : Option Progress := do
  let path ← path? header
  let before := (p.root.update? some path.dropLast).getD p.root
  let items ← match before.find? path with
    | none => some []
    | some (.tables items) => some items
    | some _ => none
  let root := before.set (.tables (items ++ [Table.empty false])) path
  let headers := p.headers.filter fun h => !(header ++ ['.']).isPrefixOf h
  return ⟨root, path, header :: headers⟩

/-- Reads one header or assignment. -/
def Progress.readItem? (p : Progress) (ts : List Token) : Option (Progress × List Token) :=
  match ts with
  | .openBracket :: .header h :: .closeBracket :: rest => (p.enter h).map (·, rest)
  | .listHeader h :: rest => if h.isEmpty then none else (p.append h).map (·, rest)
  | .key key :: .equals :: rest => do
    let path ← path? key
    let (v, rest) ← readValue (rest.length + 1) rest
    let p ← p.assign path v
    return (p, rest)
  | _ => none

/-- Reads the rest of a document. -/
def Progress.readAll? : Nat → Progress → List Token → Option Table
  | _, p, [] => some p.root
  | 0, _, _ => none
  | fuel + 1, p, ts => do
    let (p, rest) ← p.readItem? ts
    Progress.readAll? fuel p rest

/-- The characters without a byte order mark in front. -/
def dropMark : List Char → List Char
  | '\ufeff' :: cs => cs
  | cs => cs

/-- Reads a document. -/
def read? (text : String) : Option Table := do
  let ts ← tokens? (dropMark text.toList)
  Progress.readAll? ts.length ⟨Table.empty false, [], []⟩ ts

end TensorCompiler.Toml

/-!
## Writing documents

Texts between quotes, lists on one line, and tables of assignments indented under their header.
-/

namespace TensorCompiler.Toml

/-- Whether a character is written as a number: one whose code ends in sixteen bits below 31. -/
def isCoded (c : Char) : Bool :=
  c.toNat % 65536 < 31

/-- A character inside quotes. -/
def escaped (c : Char) : List Char :=
  if c == Char.ofNat 8 then ['\\', 'b']
  else if c == '\t' then ['\\', 't']
  else if c == '\n' then ['\\', 'n']
  else if c == Char.ofNat 12 then ['\\', 'f']
  else if c == '\r' then ['\\', 'r']
  else if c == '"' then ['\\', '"']
  else if c == '\\' then ['\\', '\\']
  else if isCoded c then
    '\\' :: 'u' :: (Text.hexDigits 4 (c.toNat % 65536)).map Char.toUpper
  else [c]

/-- A text between quotes. -/
def quoted (s : String) : String :=
  "\"" ++ String.ofList (s.toList.flatMap escaped) ++ "\""

/-- A boolean. -/
def boolText (b : Bool) : String :=
  if b then "true" else "false"

/-- A list of texts. -/
def listText (items : List String) : String :=
  "[" ++ Text.commaList (items.map quoted) ++ "]"

/-- An assignment. -/
def assignment (key value : String) : String :=
  "  " ++ key ++ " = " ++ value ++ "\n"

/-- A table with its header. -/
def tableText (name : String) (assignments : List (String × String)) : String :=
  "\n[" ++ name ++ "]\n" ++ String.join (assignments.map fun p => assignment p.1 p.2)

end TensorCompiler.Toml
