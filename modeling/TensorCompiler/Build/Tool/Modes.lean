import TensorCompiler.Build.Tool.Basic

/-!
# Modes

What says who may do what with a file: as a number of octal digits, or as clauses that change a
mode.
-/

namespace TensorCompiler.Tool

/-- One step of a clause: how the bits of some classes change. -/
structure ModeStep where
  sign : Char
  letters : List Char

/-- A clause: the classes it is for, or none if nothing is said, and its steps. -/
structure ModeClause where
  classes : List Char
  steps : List ModeStep

/-- A change of modes. -/
inductive ModeChange where
  | number (n : Nat)
  | clauses (found : List ModeClause)

namespace ModeChange

/-- The steps of a clause. -/
def steps? : Nat → List Char → Option (List ModeStep)
  | 0, _ => none
  | _, [] => some []
  | fuel + 1, sign :: cs =>
    if !"+-=".toList.contains sign then none
    else
      let letters := cs.takeWhile fun c => "rwxXstugo".toList.contains c
      (steps? fuel (cs.drop letters.length)).map fun rest => ⟨sign, letters⟩ :: rest

/-- Reads a change. -/
def read? (text : String) : Option ModeChange :=
  let cs := text.toList
  if cs.isEmpty then none
  else if cs.all fun c => '0' ≤ c && c ≤ '7' then
    let n := cs.foldl (fun n c => 8 * n + (c.toNat - 48)) 0
    if n < 4096 then some (.number n) else none
  else
    let clause? (t : String) : Option ModeClause :=
      let classes := t.toList.takeWhile fun c => "ugoa".toList.contains c
      match steps? (t.length + 1) (t.toList.drop classes.length) with
      | some (s :: rest) => some ⟨classes, s :: rest⟩
      | _ => none
    ((Text.split ',' text).mapM clause?).map .clauses

/-- How far the bits of a class are from the lowest ones. -/
def shift : Char → Nat
  | 'u' => 64
  | 'g' => 8
  | _ => 1

/-- The mode that a step leaves. Where no class is named, the bits of the mask stay as they are. -/
def ModeStep.apply (mask : Nat) (isDirectory : Bool) (classes : List Char) (mode : Nat)
    (s : ModeStep) : Nat :=
  let named := !classes.isEmpty
  let chosen := if !named || classes.contains 'a' then ['u', 'g', 'o'] else classes
  let bits := s.letters.foldl (fun n c => n ||| (match c with
    | 'r' => 4
    | 'w' => 2
    | 'x' => 1
    | 'X' => if isDirectory || Mode.runs mode then 1 else 0
    | 'u' | 'g' | 'o' => mode / shift c % 8
    | _ => 0)) 0
  let plain := chosen.foldl (fun n c => n ||| bits * shift c) 0
  let special := (if s.letters.contains 's' then
      (if chosen.contains 'u' then 2048 else 0) + (if chosen.contains 'g' then 1024 else 0)
    else 0) + (if s.letters.contains 't' then 512 else 0)
  let value := (if named then plain else Mode.without plain mask) + special
  match s.sign with
  | '+' => mode ||| value
  | '-' => Mode.without mode value
  | _ =>
    let own (c : Char) : Nat := match c with
      | 'u' => 2048
      | 'g' => 1024
      | _ => 512
    let cleared := chosen.foldl (fun n c => n ||| (7 * shift c + own c)) 0
    (Mode.without mode cleared) ||| value

/-- The mode that a change leaves. -/
def apply (change : ModeChange) (mask : Nat) (isDirectory : Bool) (mode : Nat) : Nat :=
  match change with
  | .number n => n
  | .clauses found => found.foldl (fun mode c =>
      c.steps.foldl (ModeStep.apply mask isDirectory c.classes) mode) mode

end ModeChange

/-- The octal digits of a mode, four of them or as many as it has. -/
def modeDigits (width mode : Nat) : String :=
  let ds := Nat.toDigits 8 mode
  String.ofList (List.replicate (width - ds.length) '0' ++ ds)

/-- Changes the mode of a place, and says so if it is told to. -/
def changeMode (g : Given) (change : Nat → Bool → Nat → Nat) (path : String) (p : Place) :
    Work Unit := do
  let t ← get
  let old := t.disk.mode p
  let new := change t.disk.mask (t.disk.isDirectory p) old
  Tool.change (·.setMode p new)
  let shown (mode : Nat) : String := modeDigits 4 mode ++ " (" ++ Mode.text mode ++ ")"
  if old != new && (g.has 'v' || g.has 'c') then
    say ("mode of " ++ shellQuote path ++ " changed from " ++ shown old ++ " to " ++ shown new ++
      "\n")
  else if g.has 'v' then
    say ("mode of " ++ shellQuote path ++ " retained as " ++ shown old ++ "\n")

/-- Whether an argument is a change of modes that starts with a dash. -/
def isModeArgument (a : String) : Bool :=
  match a.toList with
  | '-' :: c :: cs => c != '-' && (c :: cs).all fun c => "rwxXstugo,+-=".toList.contains c
  | _ => false

/-- Changes who may do what with files. -/
def chmod : Tool := fun name args =>
  let dashed := args.find? isModeArgument
  let others := match dashed with
    | some a => args.erase a
    | none => args
  match Options.read ⟨"Rvfc", "r", [("recursive", 'R'), ("verbose", 'v'), ("changes", 'c'),
    ("silent", 'f'), ("quiet", 'f'), ("reference", 'r')]⟩ (others.length + 1) others with
  | .error e => misuse 1 name e
  | .ok g => do
    let t ← get
    let (mode, paths) := match g.value? 'r', dashed with
      | some path, _ =>
        (((t.disk.find t.here path).toOption.map fun p => modeDigits 4 (t.disk.mode p)).getD "0",
          g.operands)
      | none, some a => (a, g.operands)
      | none, none => (g.operands.headD "", g.operands.tail)
    if mode.isEmpty && paths.isEmpty then misuse 1 name "missing operand"
    else match ModeChange.read? mode with
      | none => misuse 1 name ("invalid mode: " ++ quote mode)
      | some c =>
        if paths.isEmpty then misuse 1 name ("missing operand after " ++ quote mode)
        else forAll paths fun path => do
          let t ← get
          match t.disk.find t.here path with
          | .error fault =>
            if g.has 'f' then return 1
            fail 1 (name ++ ": cannot access " ++ shellQuote path ++ ": " ++ fault.sentence)
          | .ok p =>
            changeMode g c.apply path p
            if g.has 'R' then
              let below := (t.disk.entries.map Prod.fst).filter fun q =>
                p.isPrefixOf q && q.length > p.length
              let sorted := below.mergeSort fun a b => decide (Place.text a ≤ Place.text b)
              sorted.forM fun q => changeMode g c.apply
                (path ++ "/" ++ Text.joinWith "/" (q.drop p.length)) q
            return 0

end TensorCompiler.Tool
