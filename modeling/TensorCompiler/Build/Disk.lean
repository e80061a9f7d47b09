import TensorCompiler.Text.Basic

/-!
# Disks

Files and directories by their places. A place holds nothing, a text, a directory, a link to another
path, or a device, which takes every text and keeps none. A written path is walked one part after
the other, and what it walks through has to be a directory. Names, texts and paths are byte texts.

Places that hold something have a mode, which says who may do what with them, and a time of their
last change. Files may be twins: what is written to one of them is written to all.
-/

namespace TensorCompiler

/-- A place on a disk: the names from the top down. -/
abbrev Place := List String

namespace Place

/-- Follows one part of a written path. -/
def follow (p : Place) (part : String) : Place :=
  if part = "" ∨ part = "." then p else if part = ".." then p.dropLast else p ++ [part]

/-- Where a written path starts. -/
def start (here : Place) (path : String) : Place :=
  if path.startsWith "/" then [] else here

/-- The place a written path leads to from `here` if there are no links. -/
def resolve (here : Place) (path : String) : Place :=
  (Text.split '/' path).foldl follow (here.start path)

/-- The written form of a place. -/
def text (p : Place) : String :=
  "/" ++ Text.joinWith "/" p

end Place

/-- What a place may hold. A device gives no text, or zeros without an end. -/
inductive Entry where
  | file (text : String)
  | directory
  | link (target : String)
  | device (zeros : Bool)
deriving DecidableEq, Repr

namespace Entry

/-- What kind of thing a place holds. -/
def kind : Entry → String
  | .file text => if text.isEmpty then "regular empty file" else "regular file"
  | .link _ => "symbolic link"
  | .directory => "directory"
  | .device _ => "character special file"

/-- The size of what a place holds. -/
def size : Entry → Nat
  | .file text => text.length
  | .link target => target.length
  | .directory => 4096
  | .device _ => 0

/-- The mode of what is made without any restriction: three digits of three bits each. -/
def fullMode : Entry → Nat
  | .file _ => 438
  | .link _ => 511
  | .directory => 511
  | .device _ => 438

/-- The letter of a kind in lists. -/
def letter : Entry → Char
  | .file _ => '-'
  | .link _ => 'l'
  | .directory => 'd'
  | .device _ => 'c'

end Entry

namespace Mode

/-- The usual restriction of new modes: only the owner may write. -/
def usualMask : Nat := 18

/-- A mode without the bits of a mask. -/
def without (mode mask : Nat) : Nat := mode ^^^ (mode &&& mask)

/-- The letters of a mode, three for each of owner, group and others. -/
def text (mode : Nat) : String :=
  let three (bits : Nat) (special : Bool) (mark : Char) : List Char :=
    let runs := bits % 2 == 1
    [if bits / 4 % 2 == 1 then 'r' else '-', if bits / 2 % 2 == 1 then 'w' else '-',
      if special then (if runs then mark else mark.toUpper) else if runs then 'x' else '-']
  let bit (n : Nat) : Bool := mode / n % 2 == 1
  String.ofList (three (mode / 64 % 8) (bit 2048) 's' ++ three (mode / 8 % 8) (bit 1024) 's' ++
    three (mode % 8) (bit 512) 't')

/-- Whether somebody may run a file. -/
def runs (mode : Nat) : Bool := mode &&& 73 != 0

end Mode

/-- What is known of a place beside what it holds. -/
structure Facts where
  mode : Nat
  /-- The time of the last change, in nanoseconds since everything started. -/
  changed : Int
deriving DecidableEq, Repr

/-- What stands in the way of a path. -/
inductive FileFault where
  | missing
  | notDirectory
  | isDirectory
  | taken
  | notEmpty
  | denied
  | invalid
  | tooLong
  | loop
  | format
deriving DecidableEq, Repr

/-- The wording of a fault. -/
def FileFault.text : FileFault → String
  | .missing => "no such file or directory"
  | .notDirectory => "not a directory"
  | .isDirectory => "is a directory"
  | .taken => "file exists"
  | .notEmpty => "directory not empty"
  | .denied => "permission denied"
  | .invalid => "invalid argument"
  | .tooLong => "file name too long"
  | .loop => "too many levels of symbolic links"
  | .format => "exec format error"

/-- The wording of a fault with a capital letter. -/
def FileFault.sentence (f : FileFault) : String :=
  f.text.capitalize

/-- The fault of a name that no file can have. -/
def FileFault.ofName? (name : String) : Option FileFault :=
  if name.contains (Char.ofNat 0) then some .invalid
  else if name.length > 255 then some .tooLong
  else none

/-- The places that hold something. -/
structure Disk where
  entries : List (Place × Entry)
  /-- What is known of places; of others it is the usual. -/
  facts : List (Place × Facts)
  /-- Groups of places that are one file. -/
  twins : List (List Place)
  /-- The bits that new modes do not have. -/
  mask : Nat
  /-- The present time, in nanoseconds since everything started. -/
  now : Int

namespace Disk

/-- What a place holds. -/
def get? (d : Disk) (p : Place) : Option Entry :=
  (d.entries.find? (·.1 == p)).map Prod.snd

/-- Whether a place is a directory. -/
def isDirectory (d : Disk) (p : Place) : Bool :=
  d.get? p == some .directory

/-- Whether a place is a device. -/
def isDevice (d : Disk) (p : Place) : Bool :=
  match d.get? p with
  | some (.device _) => true
  | _ => false

/-- As many zeros as are taken from a device. -/
def zeros : String := String.ofList (List.replicate 1048576 (Char.ofNat 0))

/-- The text of a file. -/
def file? (d : Disk) (p : Place) : Option String :=
  match d.get? p with
  | some (.file text) => some text
  | some (.device true) => some zeros
  | some (.device false) => some ""
  | _ => none

/-- What is known of a place. -/
def factsOf (d : Disk) (p : Place) : Facts :=
  match d.facts.find? (·.1 == p), d.get? p with
  | some (_, f), _ => f
  | none, some e =>
    ⟨match e with
      | .link _ | .device _ => e.fullMode
      | e => Mode.without e.fullMode Mode.usualMask, 0⟩
  | none, none => ⟨0, 0⟩

/-- Who may do what with a place. -/
def mode (d : Disk) (p : Place) : Nat := (d.factsOf p).mode

/-- Whether a place holds a file that may be run. -/
def runs (d : Disk) (p : Place) : Bool :=
  match d.get? p with
  | some (.file _) => Mode.runs (d.mode p)
  | _ => false

/-- Changes what is known of a place. -/
def setFacts (d : Disk) (p : Place) (f : Facts) : Disk :=
  { d with facts := (p, f) :: d.facts.filter (·.1 != p) }

/-- The places that are one file with a place, which is not among them. -/
def twinsOf (d : Disk) (p : Place) : List Place :=
  ((d.twins.find? (·.contains p)).getD []).filter (· != p)

/-- Changes who may do what with a place. -/
def setMode (d : Disk) (p : Place) (mode : Nat) : Disk :=
  (p :: d.twinsOf p).foldl (fun d q => d.setFacts q { d.factsOf q with mode := mode }) d

/-- Puts an entry at a place, over what was there. Its mode stays; a new one is restricted. -/
def put (d : Disk) (p : Place) (e : Entry) : Disk :=
  let mode := if (d.get? p).isSome then d.mode p
    else match e with
      | .link _ => e.fullMode
      | e => Mode.without e.fullMode d.mask
  { d.setFacts p ⟨mode, d.now⟩ with entries := (p, e) :: d.entries.filter (·.1 != p) }

/-- Writes a file with its twins. -/
def write (d : Disk) (p : Place) (text : String) : Disk :=
  match d.get? p with
  | some (.device _) => d
  | _ => ((d.twinsOf p).foldl (fun d q => d.put q (.file text)) d).put p (.file text)

/-- Walks parts of a path from a place to one that holds something. The first number bounds the
steps, links included. -/
def walk (d : Disk) : Nat → Place → List String → Except FileFault Place
  | _, p, [] => .ok p
  | 0, _, _ => .error .loop
  | steps + 1, p, part :: rest =>
    if !d.isDirectory p then .error .notDirectory
    else
      let q := p.follow part
      match FileFault.ofName? part, d.get? q with
      | some fault, _ => .error fault
      | none, none => .error .missing
      | none, some (.link target) =>
        d.walk steps (p.start target) (Text.split '/' target ++ rest)
      | none, some _ => d.walk steps q rest

/-- The bound on the steps of a path. -/
def maxSteps : Nat := 2000

/-- The place of what a written path leads to. -/
def find (d : Disk) (here : Place) (path : String) : Except FileFault Place :=
  if path.isEmpty then .error .missing
  else if path.length ≥ 4096 then .error .tooLong
  else d.walk maxSteps (here.start path) (Text.split '/' path)

/-- What a written path leads to. -/
def entryAt? (d : Disk) (here : Place) (path : String) : Option Entry :=
  (d.find here path).toOption.bind d.get?

/-- The parts of a path without slashes at its end. -/
def trimmedParts (path : String) : List String :=
  ((Text.split '/' path).reverse.dropWhile (·.isEmpty)).reverse

/-- The place that the last part of a written path names, which may hold nothing or a link. -/
def spot (d : Disk) (here : Place) (path : String) : Except FileFault Place :=
  if path.isEmpty then .error .missing
  else
    match (trimmedParts path).getLast? with
    | none => d.find here path
    | some last =>
      if last = "." ∨ last = ".." then d.find here path
      else
        match d.walk maxSteps (here.start path) (trimmedParts path).dropLast,
          FileFault.ofName? last with
        | .error fault, _ => .error fault
        | .ok _, some fault => .error fault
        | .ok p, none => if d.isDirectory p then .ok (p.follow last) else .error .notDirectory

/-- The place a file is written to by a written path: behind the last link. -/
def target (d : Disk) : Nat → Place → String → Except FileFault Place
  | 0, _, _ => .error .loop
  | links + 1, here, path =>
    match d.spot here path with
    | .error fault => .error fault
    | .ok p =>
      match d.get? p with
      | some (.link other) => d.target links p.dropLast other
      | _ => if path.endsWith "/" && !d.isDirectory p then .error .isDirectory else .ok p

/-- The place a file is written to by a written path, which must not be a directory. -/
def writable (d : Disk) (here : Place) (path : String) : Except FileFault Place :=
  match d.target 40 here path with
  | .error fault => .error fault
  | .ok p => if d.isDirectory p then .error .isDirectory else .ok p

/-- The text of the file that a written path leads to. -/
def read (d : Disk) (here : Place) (path : String) : Except FileFault String :=
  match d.find here path with
  | .error fault => .error fault
  | .ok p =>
    match d.file? p with
    | some text => .ok text
    | none => .error .isDirectory

/-- Makes a directory at the end of a path and every directory on the way to it that is missing. The
parts of the path come last one first. A fault comes with the path it was met at, and leaves the
directories that were made before. -/
def makePath (d : Disk) (start : Place) (parts : List String) :
    Option (String × FileFault) × Disk :=
  let path := Text.joinWith "/" parts.reverse
  match d.walk maxSteps start parts.reverse with
  | .ok p => (if d.isDirectory p then none else some (path, .notDirectory), d)
  | .error _ =>
    match _h : parts.dropWhile (·.isEmpty) with
    | [] => (none, d)
    | name :: above =>
      match if above.all (·.isEmpty) then (none, d) else d.makePath start above with
      | (some fault, d) => (some fault, d)
      | (none, d) =>
        match d.walk maxSteps start above.reverse, FileFault.ofName? name with
        | .error fault, _ => (some (path, fault), d)
        | .ok _, some fault => (some (path, fault), d)
        | .ok p, none =>
          let q := p.follow name
          if name = "." ∨ name = ".." then (none, d)
          else if (d.get? q).isSome then (some (path, .taken), d)
          else (none, d.put q .directory)
termination_by parts.length
decreasing_by
  have kept := (List.dropWhile_suffix (l := parts) (·.isEmpty)).length_le
  rw [_h, List.length_cons] at kept
  exact kept

/-- Makes a directory of every place on the way to `p` that holds nothing, and of `p`. -/
def makeDirectory (d : Disk) (p : Place) : Disk :=
  (List.range p.length).foldl (fun d n =>
    let q := p.take (n + 1)
    if (d.get? q).isNone then d.put q .directory else d) d

/-- Removes a place with all that is below it. -/
def remove (d : Disk) (p : Place) : Disk :=
  let stays (q : Place) : Bool := !p.isPrefixOf q
  { d with
    entries := d.entries.filter fun e => stays e.1
    facts := d.facts.filter fun e => stays e.1
    twins := d.twins.map fun group => group.filter stays }

/-- Moves a place with all that is below it, over what was at its new place. -/
def rename (d : Disk) (p q : Place) : Disk :=
  let move (r : Place) : Place := q ++ r.drop p.length
  let isBelow (r : Place) : Bool := p.isPrefixOf r
  let rest := (d.remove p).remove q
  { rest with
    entries := (d.entries.filter (isBelow ·.1)).map (fun e => (move e.1, e.2)) ++ rest.entries
    facts := (d.facts.filter (isBelow ·.1)).map (fun e => (move e.1, e.2)) ++ rest.facts
    twins := d.twins.map fun group =>
      (group.filter fun r => isBelow r || !q.isPrefixOf r).map fun r =>
        if isBelow r then move r else r }

/-- Makes a place a twin of another. -/
def makeTwin (d : Disk) (p q : Place) : Disk :=
  match d.get? p with
  | some e =>
    let group := q :: p :: d.twinsOf p
    { (d.put q e).setFacts q (d.factsOf p) with
      twins := group :: d.twins.filter fun g => !g.contains p && !g.contains q }
  | none => d

/-- Copies a place with all that is below it. New places have the modes of the old ones, as far as
they are not restricted. -/
def copy (d : Disk) (p q : Place) : Disk :=
  (d.entries.filter fun e => p.isPrefixOf e.1).foldr (fun e d =>
    let target := q ++ e.1.drop p.length
    let isNew := (d.get? target).isNone
    let d := d.put target e.2
    if isNew then d.setMode target (Mode.without (d.mode e.1) d.mask) else d) d

/-- The names in a directory, sorted. -/
def names (d : Disk) (p : Place) : List String :=
  let below := d.entries.filterMap fun e =>
    if p.isPrefixOf e.1 && e.1.length == p.length + 1 then e.1.getLast? else none
  below.mergeSort fun a b => decide (a ≤ b)

/-- The directories every disk has. -/
def commonDirectories : List Place :=
  [[], ["boot"], ["dev"], ["etc"], ["home"], ["media"], ["mnt"], ["opt"], ["proc"], ["root"],
    ["run"], ["srv"], ["sys"], ["tmp"], ["usr"], ["usr", "bin"], ["usr", "lib"], ["usr", "local"],
    ["usr", "local", "bin"], ["usr", "local", "sbin"], ["usr", "sbin"], ["usr", "share"], ["var"],
    ["var", "tmp"]]

/-- Where the programs of the system are. -/
def programs : Place := ["usr", "bin"]

/-- A disk with programs and no files. -/
def ofPrograms (names : List String) : Disk where
  entries := commonDirectories.map (fun p => (p, Entry.directory)) ++
    [(["dev", "null"], .device false), (["dev", "zero"], .device true),
      (["bin"], .link "usr/bin"), (["sbin"], .link "usr/sbin"), (["lib"], .link "usr/lib"),
      (["etc", "passwd"], .file "")] ++
    names.map fun name => (programs ++ [name], Entry.file "")
  facts := names.map fun name => (programs ++ [name], ⟨493, 0⟩)
  twins := []
  mask := Mode.usualMask
  now := 0

end Disk
end TensorCompiler
