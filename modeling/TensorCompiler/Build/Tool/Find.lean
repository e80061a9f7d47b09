import TensorCompiler.Build.Regex
import TensorCompiler.Build.Tool.Files

/-!
# Searching directories

An expression of tests and actions is tried on every file below some paths. What the actions do is
left to a host: it prints, removes and runs other programs.
-/

namespace TensorCompiler.Tool.Find

/-- A number to compare with: the same, more, or fewer. -/
structure Bound where
  order : Ordering
  value : Nat

/-- Whether a number is as it should be. -/
def Bound.holds (b : Bound) (n : Nat) : Bool := compare n b.value == b.order

/-- How the bits of a mode are compared. -/
inductive ModeTest where
  | same
  | all
  | any

/-- A test of what is known of a file. -/
inductive Test where
  | isEmpty
  | kind (letters : List Char)
  | size (unit : Nat) (bound : Bound)
  | mode (how : ModeTest) (bits : Nat)
  | newer (p : Place)
  | same (p : Place)
  /-- The age in units of so many seconds. -/
  | age (unit : Nat) (bound : Bound)
  | links (bound : Bound)
  | runs

/-- An expression of a search. -/
inductive Expr where
  | name (pattern : List Glob) (ignoreCase whole : Bool)
  | shape (r : Regex) (ignoreCase : Bool)
  | test (t : Test)
  | print (ending : Char)
  | format (form : List Char)
  | delete
  | prune
  | quit
  /-- Runs a command for each file, or at the end for all of them. -/
  | run (command : List String) (together : Bool)
  | always (holds : Bool)
  | negation (e : Expr)
  | both (a b : Expr)
  | either (a b : Expr)

/-- Whether an expression does something by itself. -/
def Expr.acts : Expr → Bool
  | print _ | format _ | delete | run _ _ | quit => true
  | negation e => e.acts
  | both a b | either a b => a.acts || b.acts
  | _ => false

/-- Whether an expression removes files. -/
def Expr.deletes : Expr → Bool
  | delete => true
  | negation e => e.deletes
  | both a b | either a b => a.deletes || b.deletes
  | _ => false

/-- A search: how deep it goes, whether directories come after what they hold, and its expression.
-/
structure Plan where
  least : Nat
  most : Nat
  inner : Bool
  expr : Expr

/-! ## Reading -/

/-- Words that are being read, and the plan so far. -/
structure Reader where
  rest : List String
  least : Nat
  most : Nat
  inner : Bool
  /-- The place of a path. -/
  look : String → Except FileFault Place

/-- A step that reads words. -/
abbrev Read := StateT Reader (Except String)

/-- A word between the marks of a complaint. -/
def marked (w : String) : String := String.singleton (Char.ofNat 96) ++ w ++ mark

/-- The next word. -/
def peek? : Read (Option String) := return (← get).rest.head?

/-- Passes over a word. -/
def skip : Read Unit := modify fun r => { r with rest := r.rest.tail }

/-- The argument of a test. -/
def argument (test : String) : Read String := do
  match ← peek? with
  | some a =>
    skip
    return a
  | none => throw ("missing argument to " ++ marked test)

/-- The depth that an option gives. -/
def depth (option : String) : Read Nat := do
  let a ← argument option
  match Text.readNat? a.toList with
  | some n => return n
  | none =>
    throw ("Expected a positive decimal integer argument to " ++ option ++ ", but got " ++ quote a)

/-- The command up to its end mark. -/
def command (test : String) : Read Expr := do
  let rest := (← get).rest
  let words := rest.takeWhile (· != ";")
  let joint := rest.takeWhile (· != "+")
  let isJoint := joint.length < words.length && joint.getLast? == some "\x7b\x7d"
  let taken := if isJoint then joint else words
  if taken.length == rest.length || taken.isEmpty then throw ("missing argument to " ++ marked test)
  modify fun r => { r with rest := rest.drop (taken.length + 1) }
  if isJoint && (taken.filter (· == "\x7b\x7d")).length > 1 then
    throw ("Only one instance of \x7b\x7d is supported with " ++ test ++ " ... +")
  return .run taken isJoint

/-- The bound that an argument is. -/
def bound (test : String) (digits : List Char) (whole : String) : Read Bound := do
  let (order, digits) := match digits with
    | '+' :: ds => (Ordering.gt, ds)
    | '-' :: ds => (.lt, ds)
    | ds => (.eq, ds)
  match Text.readNat? digits with
  | some n => return ⟨order, n⟩
  | none => throw ("invalid argument " ++ marked whole ++ " to " ++ marked test)

/-- The bound on a size, with a letter for its unit. -/
def sizeTest (test : String) : Read Test := do
  let a ← argument test
  let unit? : Option Nat := match a.toList.getLast? with
    | some 'c' => some 1
    | some 'w' => some 2
    | some 'b' => some 512
    | some 'k' => some 1024
    | some 'M' => some 1048576
    | some 'G' => some 1073741824
    | some c => if c.isDigit then some 512 else none
    | none => none
  match unit? with
  | none =>
    throw ("invalid -size type " ++ marked (String.singleton (a.toList.getLast?.getD ' ')))
  | some unit =>
    let digits := if a.toList.getLast?.any Char.isDigit then a.toList else a.toList.dropLast
    return .size unit (← bound test digits a)

/-- The test of a mode. -/
def modeTest (test : String) : Read Test := do
  let a ← argument test
  let (how, text) := match a.toList with
    | '-' :: cs => (ModeTest.all, String.ofList cs)
    | '/' :: cs => (.any, String.ofList cs)
    | _ => (.same, a)
  match ModeChange.read? text with
  | some c => return .mode how (c.apply 0 false 0)
  | none => throw ("invalid mode " ++ quote a)

/-- The place that an argument leads to. -/
def reference (test : String) : Read Place := do
  let a ← argument test
  match (← get).look a with
  | .ok p => return p
  | .error fault => throw (shellQuote a ++ ": " ++ fault.sentence)

/-- The letters of the kinds of files. -/
def kindLetters : List Char := "bcdpfls".toList

/-- A test or an action. -/
def primary (w : String) : Read Expr := do
  let pattern (s : String) : List Glob := Glob.read false (s.toList.map fun c => ⟨c, false⟩)
  match w with
  | "-print" => return .print '\n'
  | "-print0" => return .print (Char.ofNat 0)
  | "-delete" =>
    modify fun r => { r with inner := true }
    return .delete
  | "-prune" => return .prune
  | "-quit" => return .quit
  | "-empty" => return .test .isEmpty
  | "-size" => return .test (← sizeTest w)
  | "-perm" => return .test (← modeTest w)
  | "-newer" => return .test (.newer (← reference w))
  | "-samefile" => return .test (.same (← reference w))
  | "-mtime" | "-atime" | "-ctime" =>
    let a ← argument w
    return .test (.age 86400 (← bound w a.toList a))
  | "-mmin" | "-amin" | "-cmin" =>
    let a ← argument w
    return .test (.age 60 (← bound w a.toList a))
  | "-links" =>
    let a ← argument w
    return .test (.links (← bound w a.toList a))
  | "-executable" => return .test .runs
  | "-readable" | "-writable" => return .always true
  | "-user" | "-group" =>
    let a ← argument w
    if a == "root" || a == "0" then return .always true
    else if (Text.readNat? a.toList).isSome then return .always false
    else throw (marked a ++ " is not the name of a known " ++
      (if w == "-user" then "user" else "group"))
  | "-regex" | "-iregex" =>
    let a ← argument w
    match Regex.read ⟨false, false, false⟩ a.toList with
    | .ok r => return .shape r (w == "-iregex")
    | .error _ => throw ("invalid regular expression " ++ quote a)
  | "-printf" => return .format (← argument w).toList
  | "-true" => return .always true
  | "-false" => return .always false
  | "-depth" | "-d" =>
    modify fun r => { r with inner := true }
    return .always true
  | "-name" => return .name (pattern (← argument w)) false false
  | "-iname" => return .name (pattern (← argument w).toLower) true false
  | "-path" | "-wholename" => return .name (pattern (← argument w)) false true
  | "-ipath" => return .name (pattern (← argument w).toLower) true true
  | "-type" =>
    let letters := (← argument w).toList.filter (· != ',')
    match letters.find? (!kindLetters.contains ·) with
    | some c => throw ("Unknown argument to -type: " ++ String.singleton c)
    | none => return .test (.kind letters)
  | "-maxdepth" =>
    let n ← depth w
    modify fun r => { r with most := n }
    return .always true
  | "-mindepth" =>
    let n ← depth w
    modify fun r => { r with least := n }
    return .always true
  | "-exec" => command w
  | _ => throw ("unknown predicate " ++ marked w)

/-- The levels of an expression, the weakest first. -/
inductive Level where
  | choice
  | row
  | single

/-- Reads an expression of a level. -/
def expression : Nat → Level → Read Expr
  | 0, _ => throw "invalid expression"
  | fuel + 1, .choice => do
    let a ← expression fuel .row
    match ← peek? with
    | some "-o" | some "-or" =>
      skip
      if (← peek?).isNone then throw ("expected an expression after " ++ quote "-o")
      return .either a (← expression fuel .choice)
    | _ => return a
  | fuel + 1, .row => do
    let a ← expression fuel .single
    match ← peek? with
    | none => return a
    | some w =>
      if w == "-o" || w == "-or" || w == ")" then return a
      if w == "-a" || w == "-and" then skip
      return .both a (← expression fuel .row)
  | fuel + 1, .single => do
    match ← peek? with
    | none => throw "invalid expression"
    | some w =>
      skip
      match w with
      | "!" | "-not" => return .negation (← expression fuel .single)
      | "(" =>
        let e ← expression fuel .choice
        if (← peek?) != some ")" then
          throw ("invalid expression; I was expecting to find a " ++ quote ")" ++
            " somewhere but did not see one.")
        skip
        return e
      | ")" => throw ("you have too many " ++ quote ")")
      | "-a" | "-o" | "-and" | "-or" =>
        throw ("invalid expression; you have used a binary operator " ++ quote w ++
          " with nothing before it.")
      | w => primary w

/-- Reads the words behind the paths of a search. -/
def Plan.read (look : String → Except FileFault Place) (words : List String) :
    Except String Plan := do
  let start : Reader := ⟨words, 0, 1000, false, look⟩
  let (e, r) ← if words.isEmpty then .ok (Expr.always true, start)
    else (expression (4 * words.length + 4) .choice) start
  if !r.rest.isEmpty then throw ("you have too many " ++ quote ")")
  return ⟨r.least, r.most, r.inner, if e.acts then e else .both e (.print '\n')⟩

/-! ## Searching -/

/-- What a search works on. -/
structure Host (σ : Type) where
  disk : σ → Disk
  print : String → σ → σ
  delete : Place → σ → σ
  /-- Runs a command, and says whether it went well. -/
  run : List String → σ → Bool × σ
  /-- Keeps a path for a command that is run at the end. -/
  keep : List String → String → σ → σ

/-- What a search has come to: what it works on, whether it is over, and whether what is below the
last file is left out. -/
structure Progress (σ : Type) where
  state : σ
  ended : Bool
  pruned : Bool

/-- The letter of the kind of a file. -/
def letterOf : Option Entry → Char
  | some .directory => 'd'
  | some (.link _) => 'l'
  | some (.device _) => 'c'
  | _ => 'f'

/-- Whether a file holds nothing. -/
def holdsNothing (d : Disk) (p : Place) : Bool :=
  match d.get? p with
  | some (.file text) => text.isEmpty
  | some .directory => (d.names p).isEmpty
  | _ => false

/-- Whether a test holds for a place. -/
def Test.holds (d : Disk) (p : Place) : Test → Bool
  | isEmpty => holdsNothing d p
  | kind letters => letters.contains (letterOf (d.get? p))
  | size unit bound =>
    let n := ((d.get? p).map Entry.size).getD 0
    bound.holds ((n + unit - 1) / unit)
  | mode how bits =>
    let own := d.mode p
    match how with
    | .same => own == bits
    | .all => own &&& bits == bits
    | .any => bits == 0 || own &&& bits != 0
  | newer q => decide ((d.factsOf q).changed < (d.factsOf p).changed)
  | same q => p == q || (d.twinsOf p).contains q
  | age unit bound =>
    let seconds := ((d.now - (d.factsOf p).changed).fdiv 1000000000).toNat
    bound.holds (seconds / unit)
  | links bound => bound.holds ((d.twinsOf p).length + (if d.isDirectory p then
      2 + ((d.names p).filter fun n => d.isDirectory (p ++ [n])).length else 1))
  | runs => d.isDirectory p || d.runs p

/-- A file that is visited: the path it is found by, its place, the path where the search started,
and how deep it lies below that. -/
structure Visited where
  path : String
  place : Place
  start : String
  depth : Nat

/-- What stands for a letter in a format. -/
def Visited.fact (v : Visited) (d : Disk) (c : Char) : String :=
  let entry := (d.get? v.place).getD .directory
  match c with
  | 'p' => v.path
  | 'f' => baseName v.path
  | 'h' =>
    let parts := Text.split '/' v.path
    if parts.length == 1 then "." else Text.joinWith "/" parts.dropLast
  | 'P' =>
    let slash := if v.path.length > v.start.length then 1 else 0
    (v.path.drop (v.start.length + slash)).toString
  | 'H' => v.start
  | 's' => Text.ofNat entry.size
  | 'y' => String.singleton (letterOf (some entry))
  | 'd' => Text.ofNat v.depth
  | 'm' => modeDigits 1 (d.mode v.place)
  | 'M' => String.singleton entry.letter ++ Mode.text (d.mode v.place)
  | 'l' => match entry with
    | .link target => target
    | _ => ""
  | 'u' | 'g' => "root"
  | 'U' | 'G' => "0"
  | 'n' => Text.ofNat ((d.twinsOf v.place).length + 1)
  | '%' => "%"
  | c => String.ofList ['%', c]

/-- Fills a format. -/
def Visited.fill (v : Visited) (d : Disk) (form : List Char) : String :=
  String.ofList (fileFacts (v.fact d) true form)

/-- Tries an expression on a file. -/
def Expr.eval {σ : Type} (h : Host σ) (v : Visited) : Expr → Progress σ → Bool × Progress σ
  | name pattern ignoreCase whole, s =>
    let text := if whole then v.path else baseName v.path
    (Glob.accepts pattern (if ignoreCase then text.toLower else text).toList, s)
  | shape r ignoreCase, s =>
    let cs := v.path.toList
    let whole := (Regex.matchAt? ⟨ignoreCase, false, false⟩ r cs ⟨0, none, cs, []⟩).any fun m =>
      m.stop.position == cs.length
    (whole, s)
  | test t, s => (t.holds (h.disk s.state) v.place, s)
  | format form, s =>
    (true, { s with state := h.print (v.fill (h.disk s.state) form) s.state })
  | print ending, s =>
    (true, { s with state := h.print (v.path ++ String.singleton ending) s.state })
  | delete, s => (true, { s with state := h.delete v.place s.state })
  | prune, s => (true, { s with pruned := true })
  | quit, s => (true, { s with ended := true })
  | run words true, s => (true, { s with state := h.keep words v.path s.state })
  | run words false, s =>
    let (good, state) :=
      h.run (words.map fun w => Text.joinWith v.path (w.splitOn "\x7b\x7d")) s.state
    (good, { s with state := state })
  | always holds, s => (holds, s)
  | negation e, s =>
    let (holds, s) := e.eval h v s
    (!holds, s)
  | both a b, s =>
    match a.eval h v s with
    | (true, s) => if s.ended then (true, s) else b.eval h v s
    | (false, s) => (false, s)
  | either a b, s =>
    match a.eval h v s with
    | (true, s) => (true, s)
    | (false, s) => b.eval h v s

/-- Visits a file and all below it. -/
def visit {σ : Type} (h : Host σ) (plan : Plan) (start : String) :
    Nat → Nat → String → Place → Progress σ → Progress σ
  | 0, _, _, _, s => s
  | fuel + 1, depth, path, p, s =>
    let own (s : Progress σ) : Progress σ :=
      if s.ended || depth < plan.least then s else (plan.expr.eval h ⟨path, p, start, depth⟩ s).2
    let below (s : Progress σ) : Progress σ :=
      if s.ended || s.pruned || depth ≥ plan.most || !(h.disk s.state).isDirectory p then s
      else ((h.disk s.state).names p).foldl (fun s name =>
        visit h plan start fuel (depth + 1) (joinPath path name) (p ++ [name])
          { s with pruned := false }) s
    { (if plan.inner then own (below s) else below (own s)) with pruned := false }

/-- Whether an argument starts the expression. -/
def startsExpr (a : String) : Bool := a.startsWith "-" || a == "!" || a == "(" || a == ")"

end TensorCompiler.Tool.Find
