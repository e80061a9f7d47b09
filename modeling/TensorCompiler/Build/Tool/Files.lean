import TensorCompiler.Build.Pattern
import TensorCompiler.Build.Tool.Calendar
import TensorCompiler.Build.Tool.Modes

/-!
# Tools on files

The tools that list, make, copy, move, link and remove what is on a disk.
-/

namespace TensorCompiler.Tool

/-- The last part of a path. -/
def baseName (path : String) : String :=
  match (Disk.trimmedParts path).getLast? with
  | some part => part
  | none => if path.isEmpty then "" else "/"

/-- A path below another. -/
def joinPath (dir name : String) : String :=
  if dir.endsWith "/" then dir ++ name else dir ++ "/" ++ name

/-- What stands at the last part of a path, a link itself included. -/
def ownEntry? (t : Task) (path : String) : Except FileFault (Place × Entry) :=
  if path.endsWith "/" then
    match t.disk.find t.here path with
    | .error fault => .error fault
    | .ok p => match t.disk.get? p with
      | some e => .ok (p, e)
      | none => .error .missing
  else
    match t.disk.spot t.here path with
    | .error fault => .error fault
    | .ok p =>
      match t.disk.get? p with
      | some e => .ok (p, e)
      | none => .error .missing

/-! ## Making and removing -/

/-- The moment of a text of digits: a year of two or four digits or none, a month, a day, an hour, a
minute, and perhaps a point and seconds. -/
def stampMoment? (now : Calendar.Moment) (text : String) : Option Calendar.Moment :=
  let (body, seconds) := match Text.split '.' text with
    | [a, b] => (a, Text.readNat? b.toList)
    | _ => (text, some 0)
  let cs := body.toList
  let year : Option Int := match cs.length with
    | 8 => some now.year
    | 10 => (Text.readNat? (cs.take 2)).map fun y => if y < 69 then 2000 + (y : Int) else 1900 + y
    | 12 => (Text.readNat? (cs.take 4)).map fun y => (y : Int)
    | _ => none
  let parts := (groupsOfTwo (cs.drop (cs.length - 8))).map Text.readNat?
  match year, parts, seconds with
  | some y, [some month, some day, some h, some m], some s =>
    if Calendar.isDay y month day && h < 24 && m < 60 && s < 61 then
      some ⟨(Calendar.Moment.ofDate y month day).seconds + (h * 3600 + m * 60 + s : Nat), 0⟩
    else none
  | _, _, _ => none
where
  /-- Pairs of characters. -/
  groupsOfTwo : List Char → List (List Char)
    | a :: b :: rest => [a, b] :: groupsOfTwo rest
    | _ => []

/-- Makes empty files where there are none, and changes the times of others. -/
def touch : Tool := withOptions ⟨"acmfh", "drt", [("no-create", 'c'), ("date", 'd'),
    ("reference", 'r')]⟩ 1 fun name g => do
  let t ← get
  let now := Calendar.Moment.after t.disk.now
  let moment : Except String Calendar.Moment := match g.value? 'd', g.value? 't', g.value? 'r' with
    | some text, _, _ =>
      (Calendar.read? now text).elim
        (.error ("invalid date format " ++ quote text)) .ok
    | none, some text, _ =>
      (stampMoment? now text).elim (.error ("invalid date format " ++ quote text)) .ok
    | none, none, some path =>
      match t.disk.find t.here path with
      | .ok p => .ok (Calendar.changedAt t.disk p)
      | .error fault =>
        .error ("failed to get attributes of " ++ shellQuote path ++ ": " ++ fault.sentence)
    | none, none, none => .ok now
  match moment with
  | .error e => fail 1 (name ++ ": " ++ e)
  | .ok moment =>
    if g.operands.isEmpty then misuse 1 name "missing file operand"
    else forAll g.operands fun path => do
      let t ← get
      match t.disk.target 40 t.here path with
      | .error fault =>
        if g.has 'c' && fault == .missing then return 0
        else
          let fault := if fault == .isDirectory then .missing else fault
          fail 1 (name ++ ": cannot touch " ++ shellQuote path ++ ": " ++ fault.sentence)
      | .ok p =>
        if (t.disk.get? p).isNone then
          if g.has 'c' then return 0
          change (·.write p "")
        change fun d => d.setFacts p { d.factsOf p with changed := moment.sinceStart }
        return 0

/-- What is said about the removal of a place with all below it, the inner places first. -/
def removals (d : Disk) : Nat → String → Place → List String
  | 0, _, _ => []
  | fuel + 1, path, p =>
    if d.isDirectory p then
      (d.names p).flatMap (fun name => removals d fuel (joinPath path name) (p ++ [name])) ++
        ["removed directory " ++ shellQuote path ++ "\n"]
    else ["removed " ++ shellQuote path ++ "\n"]

/-- Asks a question, and takes the answer from the input. -/
def agrees (question : String) : Work Bool := do
  modify fun t => { t with writes := (true, question) :: t.writes }
  let t ← get
  let line := (brokenLines t.input).headD ""
  set { t with input := (t.input.drop line.length).toString }
  return line.startsWith "y" || line.startsWith "Y"

/-- Removes files and directories. -/
def rm : Tool := withOptions ⟨"frRvid", "", [("force", 'f'), ("recursive", 'r'), ("verbose", 'v'),
    ("dir", 'd')]⟩ 1 fun name g =>
  if g.operands.isEmpty then if g.has 'f' then return 0 else misuse 1 name "missing operand"
  else forAll g.operands fun path => do
    let t ← get
    let deep := g.has 'r' || g.has 'R'
    let failed (fault : FileFault) : Work Nat :=
      fail 1 (name ++ ": cannot remove " ++ shellQuote path ++ ": " ++ fault.sentence)
    let remove (p : Place) (e : Entry) : Work Nat := do
      if g.has 'i' then
        if !(← agrees (name ++ ": remove " ++ e.kind ++ " " ++ shellQuote path ++ "? ")) then
          return 0
      change (·.remove p)
      if g.has 'v' then say (String.join (removals t.disk 64 path p))
      return 0
    match ownEntry? t path with
    | .error fault =>
      if g.has 'f' && (fault == .missing || fault == .notDirectory) then return 0 else failed fault
    | .ok (p, .directory) =>
      if !deep && !g.has 'd' then failed .isDirectory
      else if ["", ".", ".."].contains (baseName path) then
        fail 1 (name ++ ": refusing to remove " ++ quote "." ++ " or " ++ quote ".." ++
          " directory: skipping " ++ shellQuote path)
      else if !deep && !(t.disk.names p).isEmpty then failed .notEmpty
      else remove p .directory
    | .ok (p, e) => remove p e

/-- The paths on the way to a path, the shortest first. -/
def pathsTo (path : String) : List String :=
  let parts := Disk.trimmedParts path
  ((List.range parts.length).map fun n =>
    Text.joinWith "/" (parts.take (n + 1))).filter (!·.isEmpty)

/-- Makes directories. -/
def mkdir : Tool :=
  withOptions ⟨"pv", "m", [("parents", 'p'), ("mode", 'm'), ("verbose", 'v')]⟩ 1 fun name g =>
  if g.operands.isEmpty then misuse 1 name "missing operand"
  else if (g.value? 'm').any fun m => (ModeChange.read? m).isNone then
    fail 1 (name ++ ": invalid mode " ++ quote ((g.value? 'm').getD ""))
  else forAll g.operands fun path => do
    let t ← get
    let failed (path : String) (fault : FileFault) : Work Nat :=
      fail 1 (name ++ ": cannot create directory " ++ shellQuote path ++ ": " ++ fault.sentence)
    let setNewMode (p : Place) : Work Unit :=
      match (g.value? 'm').bind ModeChange.read? with
      | some c => change fun d => d.setMode p (c.apply d.mask true 511)
      | none => return
    if g.has 'p' then
      match t.disk.makePath (t.here.start path) (Disk.trimmedParts path).reverse with
      | (none, d) =>
        change fun _ => d
        match t.disk.find t.here path, d.find t.here path with
        | .error _, .ok p => setNewMode p
        | _, _ => pure ()
        if g.has 'v' then
          for made in (pathsTo path).filter fun q => (t.disk.find t.here q).toOption.isNone do
            say (name ++ ": created directory " ++ shellQuote made ++ "\n")
        return 0
      | (some (at_, fault), d) =>
        change fun _ => d
        failed at_ (if fault == .notDirectory && at_ == path then .taken else fault)
    else
      match t.disk.spot t.here path with
      | .error fault => failed path fault
      | .ok p =>
        if (t.disk.get? p).isSome then failed path .taken
        else
          change (·.put p .directory)
          setNewMode p
          if g.has 'v' then say (name ++ ": created directory " ++ shellQuote path ++ "\n")
          return 0

/-- Removes an empty directory. -/
def removeEmpty (name : String) (g : Given) (path : String) : Work Nat := do
  let t ← get
  if g.has 'v' then say (name ++ ": removing directory, " ++ shellQuote path ++ "\n")
  let failed (fault : FileFault) : Work Nat :=
    fail 1 (name ++ ": failed to remove " ++ shellQuote path ++ ": " ++ fault.sentence)
  match ownEntry? t path with
  | .error fault => failed fault
  | .ok (p, .directory) =>
    if baseName path == "." then failed .invalid
    else if (t.disk.names p).isEmpty then
      change (·.remove p)
      return 0
    else failed .notEmpty
  | .ok _ => failed .notDirectory

/-- Removes empty directories. -/
def rmdir : Tool := withOptions ⟨"pv", "", [("parents", 'p'), ("verbose", 'v')]⟩ 1 fun name g =>
  if g.operands.isEmpty then misuse 1 name "missing operand"
  else forAll g.operands fun path =>
    if g.has 'p' then
      (pathsTo path).reverse.foldlM (fun status q => do
        if status > 0 then return status else removeEmpty name g q) 0
    else removeEmpty name g path

/-! ## Copying and moving -/

/-- Where a file goes: the path that is written and its place. It goes into a directory unless
`whole` says that the target itself is meant. -/
def goal (t : Task) (whole : Bool) (source target : String) : Except FileFault (String × Place) :=
  match t.disk.find t.here target with
  | .ok p =>
    if t.disk.isDirectory p && !whole then
      .ok (joinPath target (baseName source), p ++ [baseName source])
    else .ok (target, p)
  | .error _ => (t.disk.target 40 t.here target).map (target, ·)

/-- The sources and the target of a tool that sends files somewhere; a complaint if they do not fit.
-/
def sendTo (name : String) (g : Given) : Work (Except Nat (List String × String)) := do
  let misused (text : String) : Work (Except Nat (List String × String)) := do
    return .error (← misuse 1 name text)
  match g.value? 't', g.operands.reverse with
  | some dir, _ =>
    if g.operands.isEmpty then misused "missing file operand" else return .ok (g.operands, dir)
  | none, [] => misused "missing file operand"
  | none, [a] => misused ("missing destination file operand after " ++ shellQuote a)
  | none, [b, a] => return .ok ([a], b)
  | none, target :: sources =>
    let t ← get
    match t.disk.find t.here target with
    | .ok p =>
      if t.disk.isDirectory p then return .ok (sources.reverse, target)
      else return .error (← fail 1 (name ++ ": target " ++ shellQuote target ++
        ": Not a directory"))
    | .error fault =>
      return .error (← fail 1 (name ++ ": target " ++ shellQuote target ++ ": " ++ fault.sentence))

/-- Copies files, and directories if it is told to. -/
def cp : Tool :=
  withOptions ⟨"rRafpvnudLPTs", "t", [("recursive", 'r'), ("archive", 'a'), ("force", 'f'),
    ("verbose", 'v'), ("no-clobber", 'n'), ("target-directory", 't')]⟩ 1 fun name g => do
  match ← sendTo name g with
  | .error status => return status
  | .ok (sources, target) => forAll sources fun source => do
    let t ← get
    let deep := g.has 'r' || g.has 'R' || g.has 'a'
    match t.disk.find t.here source with
    | .error fault =>
      fail 1 (name ++ ": cannot stat " ++ shellQuote source ++ ": " ++ fault.sentence)
    | .ok p =>
      if t.disk.isDirectory p && !deep then
        fail 1 (name ++ ": -r not specified; omitting directory " ++ shellQuote source)
      else
        match goal t (g.has 'T') source target with
        | .error fault =>
          let fault := if fault == .isDirectory then .notDirectory else fault
          fail 1 (name ++ ": cannot create " ++
            (if t.disk.isDirectory p then "directory " else "regular file ") ++
            shellQuote target ++ ": " ++ fault.sentence)
        | .ok (path, q) =>
          let announce : Work Unit := if g.has 'v' then
              say (shellQuote source ++ " -> " ++ shellQuote path ++ "\n") else pure ()
          if p == q then
            fail 1 (name ++ ": " ++ shellQuote source ++ " and " ++ shellQuote path ++
              " are the same file")
          else if t.disk.isDirectory p then
            if p.isPrefixOf q then
              change (·.copy p q)
              fail 1 (name ++ ": cannot copy a directory, " ++ shellQuote source ++
                ", into itself, " ++ shellQuote path)
            else if (t.disk.get? q).any (· != .directory) then
              fail 1 (name ++ ": cannot overwrite non-directory " ++ shellQuote path ++
                " with directory " ++ shellQuote source)
            else
              change (·.copy p q)
              announce
              return 0
          else if t.disk.isDirectory q then
            fail 1 (name ++ ": cannot overwrite directory " ++ shellQuote path ++
              " with non-directory")
          else if g.has 'n' && (t.disk.get? q).isSome then return 0
          else
            let keeps := g.has 'p' || g.has 'a'
            let isNew := (t.disk.get? q).isNone
            change fun d =>
              let d := d.write q ((t.disk.file? p).getD "")
              if keeps then d.setFacts q (d.factsOf p)
              else if isNew then d.setMode q (Mode.without (d.mode p) d.mask) else d
            announce
            return 0

/-- Moves files and directories. -/
def mv : Tool := withOptions ⟨"fvniuT", "t", [("force", 'f'), ("verbose", 'v'), ("no-clobber", 'n'),
    ("target-directory", 't')]⟩ 1 fun name g => do
  match ← sendTo name g with
  | .error status => return status
  | .ok (sources, target) => forAll sources fun source => do
    let t ← get
    match ownEntry? t source with
    | .error fault =>
      fail 1 (name ++ ": cannot stat " ++ shellQuote source ++ ": " ++ fault.sentence)
    | .ok (p, entry) =>
      let failed (path : String) (fault : FileFault) : Work Nat :=
        fail 1 (name ++ ": cannot move " ++ shellQuote source ++ " to " ++ shellQuote path ++
          ": " ++ fault.sentence)
      match goal t (g.has 'T') source target with
      | .error fault => failed target (if fault == .isDirectory then
          (if entry == .directory then .missing else .notDirectory) else fault)
      | .ok (path, q) =>
        if p == q then
          fail 1 (name ++ ": " ++ shellQuote source ++ " and " ++ shellQuote path ++
            " are the same file")
        else if entry == .directory && p.isPrefixOf q then
          fail 1 (name ++ ": cannot move " ++ shellQuote source ++
            " to a subdirectory of itself, " ++ shellQuote path)
        else if entry == .directory && (t.disk.get? q).any (· != .directory) then
          fail 1 (name ++ ": cannot overwrite non-directory " ++ shellQuote path ++
            " with directory " ++ shellQuote source)
        else if entry == .directory && !(t.disk.names q).isEmpty then failed path .notEmpty
        else if entry != .directory && t.disk.isDirectory q then
          fail 1 (name ++ ": cannot overwrite directory " ++ shellQuote path ++
            " with non-directory")
        else if g.has 'n' && (t.disk.get? q).isSome then return 0
        else
          change (·.rename p q)
          if g.has 'v' then
            say ("renamed " ++ shellQuote source ++ " -> " ++ shellQuote path ++ "\n")
          return 0

/-- Makes one link. A link that is not symbolic is a twin. -/
def makeLink (name : String) (g : Given) (source target : String) : Work Nat := do
  let t ← get
  let symbolic := g.has 's'
  let entry := if symbolic then some (.link source) else t.disk.entryAt? t.here source
  match entry, t.disk.find t.here source with
  | none, .error fault =>
    fail 1 (name ++ ": failed to access " ++ shellQuote source ++ ": " ++ fault.sentence)
  | none, .ok _ => return 1
  | some .directory, _ => fail 1 (name ++ ": " ++ source ++ ": hard link not allowed for directory")
  | some entry, _ =>
    let isInside := !g.has 'T' && (t.disk.find t.here target).toOption.any t.disk.isDirectory
    let path := if isInside then joinPath target (baseName source) else target
    let failed (fault : FileFault) : Work Nat :=
      fail 1 (name ++ ": failed to create " ++ (if symbolic then "symbolic" else "hard") ++
        " link " ++ shellQuote path ++ ": " ++ fault.sentence)
    match t.disk.spot t.here path with
    | .error fault => failed fault
    | .ok q =>
      if (t.disk.get? q).isSome && !g.has 'f' then failed .taken
      else
        let linked := t.disk.find t.here source
        change fun d =>
          let d := if (d.get? q).isSome then d.remove q else d
          match symbolic, linked with
          | false, .ok p => d.makeTwin p q
          | _, _ => d.put q entry
        if g.has 'v' then
          say (shellQuote path ++ (if symbolic then " -> " else " => ") ++ shellQuote source ++
            "\n")
        return 0

/-- Links files. -/
def ln : Tool := withOptions ⟨"sfnvrTL", "t", [("symbolic", 's'), ("force", 'f'), ("verbose", 'v'),
    ("target-directory", 't')]⟩ 1 fun name g => do
  match g.value? 't', g.operands.reverse with
  | _, [] => misuse 1 name "missing file operand"
  | some dir, _ => forAll g.operands (makeLink name g · dir)
  | none, [source] => makeLink name g source "."
  | none, [target, source] => makeLink name g source target
  | none, target :: sources =>
    let t ← get
    match t.disk.find t.here target with
    | .ok p =>
      if t.disk.isDirectory p then forAll sources.reverse (makeLink name g · target)
      else fail 1 (name ++ ": target " ++ shellQuote target ++ ": Not a directory")
    | .error fault => fail 1 (name ++ ": target " ++ shellQuote target ++ ": " ++ fault.sentence)

/-! ## Listing -/

/-- What is listed: a name, what it stands for, what is known of that, and the number of its twins.
-/
structure Listed where
  name : String
  entry : Entry
  facts : Facts
  twins : Nat

/-- What is listed for a place by a name. -/
def Listed.at (d : Disk) (name : String) (p : Place) : Listed :=
  ⟨name, (d.get? p).getD .directory, d.factsOf p, (d.twinsOf p).length⟩

/-- The mark behind a name in a list. -/
def classMark (g : Given) (l : Listed) : String :=
  match l.entry with
  | .directory => if g.has 'F' || g.has 'p' then "/" else ""
  | .link _ => if g.has 'F' then "@" else ""
  | .file _ => if g.has 'F' && Mode.runs l.facts.mode then "*" else ""
  | .device _ => ""

/-- Items in a row, with commas between them and no row longer than eighty. -/
def commaRows : String → List String → String
  | row, [] => if row.isEmpty then "" else row ++ "\n"
  | row, item :: items =>
    let mark := if items.isEmpty then "" else ","
    if row.isEmpty then commaRows (item ++ mark) items
    else if row.length + 1 + (item ++ mark).length ≥ 80 then
      row ++ "\n" ++ commaRows (item ++ mark) items
    else commaRows (row ++ " " ++ item ++ mark) items

/-- The time of a change in a list. One that is long past is shown without its hour. -/
def listedTime (g : Given) (d : Disk) (changed : Int) : String :=
  let m := Calendar.Moment.after changed
  match ((g.value? 'Y').getD "").toList with
  | '+' :: form => m.text (String.ofList form)
  | _ =>
    let recent := changed ≤ d.now && d.now - changed < 15778476000000000
    m.text (if recent then "%b %e %H:%M" else "%b %e  %Y")

/-- Writes a list of what is found. -/
def writeNames (g : Given) (d : Disk) (total : Bool) (found : List Listed) : String :=
  let order := if g.has 'S' then
      found.mergeSort fun a b => decide (b.entry.size ≤ a.entry.size)
    else if g.has 't' then
      found.mergeSort fun a b => decide (b.facts.changed ≤ a.facts.changed)
    else found
  let order := if g.has 'r' then order.reverse else order
  let shown (l : Listed) := (if g.has 'Q' then "\"" ++ l.name ++ "\"" else l.name) ++ classMark g l
  if g.has 'l' then
    let width := order.foldl (fun n l => max n (Text.ofNat l.entry.size).length) 0
    let blocks := order.foldl (fun n l => n + (l.entry.size + 4095) / 4096 * 4) 0
    (if total then "total " ++ Text.ofNat blocks ++ "\n" else "") ++
      unlines (order.map fun l =>
        String.singleton l.entry.letter ++ Mode.text l.facts.mode ++ " " ++
          Text.ofNat (l.twins + 1) ++ " root root " ++ padLeft width (Text.ofNat l.entry.size) ++
          " " ++ listedTime g d l.facts.changed ++ " " ++ shown l ++ (match l.entry with
            | .link target => " -> " ++ target
            | _ => ""))
  else if g.has 'm' then commaRows "" (order.map shown)
  else unlines (order.map shown)

/-- The list of a directory. -/
def listDirectory (g : Given) (d : Disk) (p : Place) : String :=
  let names := (d.names p).filter fun name => g.has 'a' || g.has 'A' || !name.startsWith "."
  let all := (if g.has 'a' then [".", ".."] else []) ++ names
  writeNames g d true (all.map fun name => Listed.at d name (p.follow name))

/-- Lists directories with all those below them, each under its path. -/
def listBelow (g : Given) (d : Disk) : Nat → String → Place → List String
  | 0, _, _ => []
  | fuel + 1, path, p =>
    let inner := (d.names p).filter fun name =>
      d.isDirectory (p ++ [name]) && (g.has 'a' || g.has 'A' || !name.startsWith ".")
    (path ++ ":\n" ++ listDirectory g d p) ::
      inner.flatMap fun name => listBelow g d fuel (joinPath path name) (p ++ [name])

/-- Lists files and directories. Complaints come before the lists. -/
def ls : Tool := withOptions ⟨"1aAdFprRlhtSCmnoGgksicuUvxXqQNbBfLH", "IwTY",
    [("time-style", 'Y'), ("all", 'a'), ("almost-all", 'A'), ("directory", 'd'), ("reverse", 'r'),
      ("recursive", 'R'), ("classify", 'F')]⟩ 2
  fun name g => do
  let t ← get
  let paths := if g.operands.isEmpty then ["."] else g.operands
  let look (path : String) : Except FileFault (Place × Entry) :=
    if g.has 'd' then ownEntry? t path
    else match t.disk.find t.here path with
      | .ok p => (t.disk.get? p).elim (.error .missing) fun e => .ok (p, e)
      | .error fault => match ownEntry? t path with
        | .ok found => .ok found
        | .error _ => .error fault
  let status ← forAll paths fun path => do
    match look path with
    | .error fault =>
      fail 2 (name ++ ": cannot access " ++ shellQuote path ++ ": " ++ fault.sentence)
    | .ok _ => return 0
  let sorted := paths.mergeSort fun a b => decide (a ≤ b)
  let files := sorted.filter fun path => match look path with
    | .ok (_, .directory) => g.has 'd'
    | .ok _ => true
    | .error _ => false
  let directories := (if g.has 'r' then sorted.reverse else sorted).filterMap fun path =>
    match look path with
    | .ok (p, .directory) => if g.has 'd' then none else some (path, p)
    | _ => none
  let fileBlock := if files.isEmpty then []
    else [writeNames g t.disk false (files.filterMap fun path =>
      (look path).toOption.map fun found => Listed.at t.disk path found.1)]
  let blocks := if g.has 'R' then directories.flatMap fun (path, p) => listBelow g t.disk 64 path p
    else if paths.length > 1 then
      directories.map fun (path, p) => path ++ ":\n" ++ listDirectory g t.disk p
    else directories.map fun (_, p) => listDirectory g t.disk p
  say (Text.joinWith "\n" (fileBlock ++ blocks))
  return status

/-! ## Facts -/

/-- A fact about a place that a letter names. -/
def fileFact (d : Disk) (path : String) (p : Place) (e : Entry) (c : Char) : String :=
  let f := d.factsOf p
  match c with
  | 'n' => path
  | 'N' => shellQuote path ++ (match e with
    | .link target => " -> " ++ shellQuote target
    | _ => "")
  | 's' => Text.ofNat e.size
  | 'F' => e.kind
  | 'a' => modeDigits 1 f.mode
  | 'A' => String.singleton e.letter ++ Mode.text f.mode
  | 'b' => Text.ofNat ((e.size + 4095) / 4096 * 8)
  | 'B' => "512"
  | 'o' => "4096"
  | 'f' => String.ofList (Nat.toDigits 16 ((match e with
    | .file _ => 32768
    | .directory => 16384
    | .link _ => 40960
    | .device _ => 8192) + f.mode))
  | 'h' => Text.ofNat ((d.twinsOf p).length + (if e == .directory then
      2 + ((d.names p).filter fun n => d.isDirectory (p ++ [n])).length else 1))
  | 'U' | 'G' => "root"
  | 'u' | 'g' => "0"
  | 'X' | 'Y' | 'Z' => (Calendar.changedAt d p).text "%s"
  | 'x' | 'y' | 'z' => (Calendar.changedAt d p).text "%Y-%m-%d %H:%M:%S.%N %z"
  | '%' => "%"
  | _ => "?"

/-- Fills the format of facts about a file. -/
def fileFacts (fact : Char → String) (escapes : Bool) : List Char → List Char
  | '%' :: c :: rest => (fact c).toList ++ fileFacts fact escapes rest
  | '\\' :: c :: rest =>
    if !escapes then '\\' :: fileFacts fact escapes (c :: rest)
    else (match c with
      | 'n' => ['\n']
      | 't' => ['\t']
      | '\\' => ['\\']
      | c => ['\\', c]) ++ fileFacts fact escapes rest
  | c :: rest => c :: fileFacts fact escapes rest
  | [] => []

/-- Prints facts about files. -/
def stat : Tool :=
  withOptions ⟨"Ltf", "cF", [("format", 'c'), ("printf", 'F'), ("dereference", 'L'),
    ("file-system", 'f')]⟩ 1 fun name g =>
  if g.operands.isEmpty then misuse 1 name "missing operand"
  else forAll g.operands fun path => do
    let t ← get
    let found := if g.has 'L' then (t.disk.find t.here path).bind fun p =>
        (t.disk.get? p).elim (.error .missing) fun e => .ok (p, e)
      else ownEntry? t path
    match found with
    | .error fault =>
      fail 1 (name ++ ": cannot statx " ++ shellQuote path ++ ": " ++ fault.sentence)
    | .ok (p, e) =>
      let fact := fileFact t.disk path p e
      match g.value? 'F' with
      | some form => say (String.ofList (fileFacts fact true form.toList))
      | none =>
        say (String.ofList (fileFacts fact false ((g.value? 'c').getD "%n").toList) ++ "\n")
      return 0

/-- The path that a link holds, or the place of a path without links. -/
def readlink : Tool := withOptions ⟨"fnemqsv", "", [("canonicalize", 'f')]⟩ 1 fun _ g =>
  forAll g.operands fun path => do
    let t ← get
    if g.has 'f' then
      match t.disk.target 40 t.here path with
      | .error _ => return 1
      | .ok p =>
        say (p.text ++ "\n")
        return 0
    else
      match ownEntry? t path with
      | .ok (_, .link target) =>
        say (target ++ "\n")
        return 0
      | _ => return 1

/-- The place of a path without links. -/
def realpath : Tool := withOptions ⟨"emqsLP", "", []⟩ 1 fun name g =>
  if g.operands.isEmpty then misuse 1 name "missing operand"
  else forAll g.operands fun path => do
    let t ← get
    match t.disk.target 40 t.here path with
    | .error fault => fail 1 (about name path fault)
    | .ok p =>
      say (p.text ++ "\n")
      return 0

end TensorCompiler.Tool
