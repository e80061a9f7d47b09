import TensorCompiler.Build.Shell.Expand

/-!
# Declarations of the larger shell

Commands that give variables their properties, with values or without, show them as commands that
would declare them again, and take them away.
-/

namespace TensorCompiler.Shell

open Script

/-- Complains in the name of a command, which fails with a status. -/
def fault (s : Shell) (command text : String) (status : Nat) : Shell :=
  let context := s.context
  { { s with context := command }.complain text with context := context }.finish status

/-- Says how a command is used. -/
def usage (s : Shell) (command text : String) : Shell :=
  (s.emit 2 (command ++ ": usage: " ++ command ++ text ++ "\n")).finish 2

/-- Complains about an option that a command does not know, and says how it is used. -/
def wrongOption (s : Shell) (command option text : String) : Shell :=
  (s.fault command (option ++ ": invalid option") 2).usage command text

/-- Complains about a word that is no name. -/
def wrongName (s : Shell) (command word : String) : Shell :=
  s.fault command (cited word ++ ": not a valid identifier") 1

/-- An argument of a declaration: a word, or an assignment that is filled in. -/
abbrev Declared := String ⊕ Given

/-- The name and the assignment that a word is. -/
def Given.ofWord (w : String) : String × Option Given :=
  let cs := w.toList
  let name := cs.takeWhile fun c => c != '=' && c != '[' && c != '+'
  let text := String.ofList name
  let value (index : Option String) (append : Bool) (cs : List Char) : String × Option Given :=
    (text, some ⟨text, index, append, .inl (String.ofList cs)⟩)
  match cs.drop name.length with
  | [] => (w, none)
  | '=' :: cs => value none false cs
  | '+' :: '=' :: cs => value none true cs
  | '[' :: inside =>
    let key := inside.takeWhile (· != ']')
    match inside.drop key.length with
    | ']' :: '=' :: cs => value (some (String.ofList key)) false cs
    | ']' :: '+' :: '=' :: cs => value (some (String.ofList key)) true cs
    | _ => (w, none)
  | _ => (w, none)

/-- The letters that a declaration sets and takes back. -/
structure Letters where
  on : List Char
  off : List Char

/-- Reads the options of a declaration; an option that is not known is the fault. -/
def Letters.read (known : List Char) :
    Letters → List Declared → Except String (Letters × List Declared)
  | l, .inl w :: rest =>
    let wrong (cs : List Char) (sign : Char) : Option String :=
      (cs.find? (!known.contains ·)).map fun c => String.ofList [sign, c]
    match w.toList with
    | ['-', '-'] => .ok (l, rest)
    | '-' :: c :: cs =>
      match wrong (c :: cs) '-' with
      | some w => .error w
      | none => Letters.read known { l with on := l.on ++ c :: cs } rest
    | '+' :: c :: cs =>
      match wrong (c :: cs) '+' with
      | some w => .error w
      | none => Letters.read known { l with off := l.off ++ c :: cs } rest
    | _ => .ok (l, .inl w :: rest)
  | l, items => .ok (l, items)

/-- The properties of a variable that letters change, before a value is assigned. -/
def Letters.apply (l : Letters) (v : Variable) : Variable :=
  let marks := (v.marks.filter fun c => !l.off.contains c) ++
    (l.on.filter fun c => "ilun".toList.contains c && !v.marks.contains c)
  let marks := if l.on.contains 'l' then marks.filter (· != 'u') else marks
  let marks := if l.on.contains 'u' then marks.filter (· != 'l') else marks
  let v := { v with
    marks := marks
    exported := (v.exported || l.on.contains 'x') && !l.off.contains 'x' }
  if v.isList then v
  else match v.content with
    | .unset =>
      if l.on.contains 'A' then { v with marks := 'A' :: v.marks }
      else if l.on.contains 'a' then { v with marks := 'a' :: v.marks }
      else v
    | .text text =>
      if l.on.contains 'A' then { v with content := .keyed [("0", text)] }
      else if l.on.contains 'a' then { v with content := .indexed [(0, text)] }
      else v
    | _ => v

/-- Makes a variable belong to the function that runs, without a value. -/
def localize (s : Shell) (name : String) : Shell :=
  match s.locals with
  | [] => s
  | frame :: outer =>
    if frame.any (·.1 == name) then s
    else { s with locals := ((name, s.ownEntry? name) :: frame) :: outer }.putVariable name
      (some .bare)

/-- What a declaration is about. -/
structure Declaring where
  command : String
  letters : Letters
  /-- Whether variables belong to the function that runs. -/
  isLocal : Bool

/-- Declares one variable. -/
def Declaring.one (d : Declaring) (s : Shell) (item : Declared) : Shell :=
  let (name, given) := match item with
    | .inl w => Given.ofWord w
    | .inr g => (g.name, some g)
  let shown := match item with
    | .inl w => w
    | .inr g => g.name
  let names := d.command == "declare" || d.command == "typeset" || d.command == "local"
  let readOnly (s : Shell) : Shell :=
    if names then s.fault d.command (name ++ ": readonly variable") 1
    else (s.complain (name ++ ": readonly variable")).finish 1
  if !isName name then s.wrongName d.command shown
  else if (s.ownEntry? name).any (·.readOnly) && (given.isSome || d.isLocal) then readOnly s
  else
    let s := if d.isLocal then s.localize name else s
    let target := if d.letters.on.contains 'n' then name else s.meant name
    let v := d.letters.apply ((s.ownEntry? target).getD .bare)
    let given := given.map fun g => { g with name := target }
    let s := s.putVariable target (some v)
    let s := match given with
      | some g => s.store g
      | none => s
    if s.flow != .going then s
    else match s.ownEntry? target with
      | some v =>
        s.putVariable target (some { v with readOnly := v.readOnly || d.letters.on.contains 'r' })
      | none => s

/-- Shows variables as the commands that declare them. -/
def showVariables (s : Shell) (command : String) (items : List Declared) : Shell :=
  items.foldl (fun s item =>
    let name := match item with
      | .inl w => w
      | .inr g => g.name
    match s.ownEntry? name with
    | some v => s.emit 1 (declaration name v ++ "\n")
    | none => s.fault command (name ++ ": not found") 1) (s.finish 0)

/-- Shows the variables that are chosen as the commands that declare them. -/
def showChosen (s : Shell) (chosen : Variable → Bool) : Shell :=
  let found := (s.bindings.filter fun b => chosen b.2).mergeSort fun a b => decide (a.1 ≤ b.1)
  (s.emit 1 (String.join (found.map fun (name, v) => declaration name v ++ "\n"))).finish 0

/-- Shows the names of functions. -/
def showFunctions (s : Shell) (items : List Declared) : Shell :=
  let names := (s.functions.map Prod.fst).mergeSort fun a b => decide (a ≤ b)
  if items.isEmpty then
    (s.emit 1 (String.join (names.map fun n => "declare -f " ++ n ++ "\n"))).finish 0
  else items.foldl (fun s item =>
    match item with
    | .inl w => if names.contains w then s.emit 1 (w ++ "\n") else s.finish 1
    | .inr _ => s.finish 1) (s.finish 0)

/-- Lets shells that are started have functions, or not any more. -/
def exportFunctions (s : Shell) (exported : Bool) (items : List Declared) : Shell :=
  items.foldl (fun s item =>
    let name := match item with
      | .inl w => w
      | .inr g => g.name
    if s.functions.any (·.1 == name) then
      { s with functions := s.functions.map fun (n, f) =>
        (n, if n == name then { f with exported := exported } else f) }
    else s.fault "export" (name ++ ": not a function") 1) (s.finish 0)

/-- How declarations are used. -/
def declareUsage (command : String) : String :=
  match command with
  | "export" => " [-fn] [name[=value] ...] or export -p"
  | "readonly" => " [-aAf] [name[=value] ...] or readonly -p"
  | "local" => " [option] name[=value] ..."
  | _ =>
    " [-aAfFgiIlnrtux] [name[=value] ...] or " ++ command ++ " -p [-aAfFilnrtux] [name ...]"

/-- Declares variables. -/
def declareAll (s : Shell) (command : String) (items : List Declared) : Shell :=
  let known := match command with
    | "export" => "fnp"
    | "readonly" => "aAfp"
    | _ => "aAfFgiIlnprtux"
  match Letters.read known.toList ⟨[], []⟩ items with
  | .error option => s.wrongOption command option (declareUsage command)
  | .ok (l, items) =>
    let has (c : Char) : Bool := l.on.contains c
    let letters : Letters := match command with
      | "export" => if has 'n' then ⟨[], ['x']⟩ else ⟨['x'], []⟩
      | "readonly" => { l with on := 'r' :: l.on }
      | _ => l
    let inFunction := !s.locals.isEmpty
    let declares := command == "declare" || command == "typeset"
    if command == "export" && has 'f' then s.exportFunctions (!has 'n') items
    else if command == "local" && !inFunction then
      s.fault command "can only be used in a function" 1
    else if declares && (has 'F' || has 'f') then
      if has 'F' then s.showFunctions items
      else s.finish (if items.all fun i => match i with
        | .inl w => s.functions.any (·.1 == w)
        | .inr _ => false then 0 else 1)
    else if items.isEmpty then
      match command with
      | "export" => s.showChosen (·.exported)
      | "readonly" => s.showChosen (·.readOnly)
      | _ =>
        if has 'p' then
          s.showChosen fun v => l.on.all fun c => c == 'p' || (properties v).contains c
        else s.finish 0
    else if has 'p' && declares then s.showVariables command items
    else
      let isLocal := inFunction && (declares || command == "local") && !has 'g'
      items.foldl (fun s item =>
        if s.flow != .going then s
        else
          let before := s.status
          let s := Declaring.one ⟨command, letters, isLocal⟩ (s.finish 0) item
          s.finish (max before s.status)) (s.finish 0)

/-- Takes variables, elements or functions away. -/
def unsetAll (s : Shell) (args : List String) : Shell :=
  let flags := args.takeWhile fun a => a.startsWith "-" && a.length > 1
  let letters := flags.flatMap fun a => a.toList.drop 1
  let dropFunction (s : Shell) (name : String) : Shell :=
    { s with functions := s.functions.filter (·.1 != name) }
  match letters.find? fun c => !"fvn-".toList.contains c with
  | some c => s.wrongOption "unset" (String.ofList ['-', c]) " [-f] [-v] [-n] [name ...]"
  | none => (args.drop flags.length).foldl (fun s word =>
    let (name, index) := namedBy word
    let target := if letters.contains 'n' then name else s.meant name
    if letters.contains 'f' then dropFunction s word
    else if !isName name then
      if letters.contains 'v' then s.wrongName "unset" word else dropFunction s word
    else match s.ownEntry? target with
      | none => if letters.contains 'v' then s else dropFunction s word
      | some v =>
        if v.readOnly then s.fault "unset" (name ++ ": cannot unset: readonly variable") 1
        else match index with
          | .none => s.putVariable target none
          | .all _ => s.putVariable target none
          | .at key =>
            let text := match key with
              | [.text t _] => t
              | _ => ""
            match s.elementKey target text with
            | (s, some key) => s.putVariable target (some (v.drop key))
            | (s, none) => s.fault "unset" ("[" ++ text ++ "]: bad array subscript") 1) (s.finish 0)

end TensorCompiler.Shell
