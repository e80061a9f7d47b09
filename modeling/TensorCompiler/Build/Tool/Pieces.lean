import TensorCompiler.Build.Tool.Lines

/-!
# Pieces of files

The tools that cut files into pieces, copy parts of them, and change their sizes.
-/

namespace TensorCompiler.Tool

/-! ## Splitting -/

/-- The suffix with a number, in so many letters or digits; nothing if there are not enough. -/
def suffix? (numeric : Bool) (width n : Nat) : Option String :=
  let base := if numeric then 10 else 26
  let start := if numeric then 48 else 97
  if n ≥ Nat.pow base width then none
  else some (String.ofList ((List.range width).map fun i =>
    Char.ofNat (start + n / Nat.pow base (width - 1 - i) % base)))

/-- The suffix with a number of its own width. Without a fixed width the suffixes grow longer before
those of a width are used up. -/
def growingSuffix (numeric : Bool) : Nat → Nat → Nat → String
  | 0, _, _ => ""
  | fuel + 1, width, n =>
    let base := if numeric then 10 else 26
    let last := if numeric then '9' else 'z'
    let room := Nat.pow base width - Nat.pow base (width - 1)
    if n < room then (suffix? numeric width n).getD ""
    else String.singleton last ++ growingSuffix numeric fuel width (n - room)

/-- Groups of so many elements. -/
def groupsOf {α : Type} (size : Nat) : Nat → List α → List (List α)
  | 0, _ => []
  | _, [] => []
  | fuel + 1, l => l.take size :: groupsOf size fuel (l.drop size)

/-- The parts of a text in so many files of about the same size. -/
def equalParts (count : Nat) (cs : List Char) : List (List Char) :=
  let size := cs.length / count
  (List.range count).map fun i =>
    if i + 1 == count then cs.drop (i * size) else (cs.drop (i * size)).take size

/-- The parts of a text that options ask for. -/
def splitParts (g : Given) (text : String) : Except String (List String) :=
  let cs := text.toList
  let counted (c : Char) (what : String) (use : Nat → List String) : Except String (List String) :=
    let value := (g.value? c).getD ""
    match readCount? value with
    | some (n + 1) => .ok (use (n + 1))
    | _ => .error ("invalid number of " ++ what ++ ": " ++ quote value)
  if g.has 'b' then
    counted 'b' "bytes" fun n => (groupsOf n (cs.length + 1) cs).map String.ofList
  else if g.has 'n' then
    counted 'n' "chunks" fun n => (equalParts n cs).map String.ofList
  else
    let g := if g.has 'l' then g else { g with options := [('l', "1000")] }
    let value := (g.value? 'l').getD ""
    match readCount? value with
    | some (n + 1) =>
      let found := brokenLines text
      .ok ((groupsOf (n + 1) (found.length + 1) found).map String.join)
    | _ => .error ("invalid number of lines: " ++ quote value)

/-- Writes the pieces of a file to files. -/
def split : Tool := withOptions ⟨"dxeuv", "albnS", [("numeric-suffixes", 'd'), ("lines", 'l'),
    ("bytes", 'b'), ("number", 'n'), ("suffix-length", 'a'), ("additional-suffix", 'S'),
    ("verbose", 'v'), ("elide-empty-files", 'e')]⟩ 1 fun name g => do
  let ways := ['l', 'b', 'n'].filter g.has
  match g.operands with
  | _ :: _ :: c :: _ => misuse 1 name ("extra operand " ++ quote c)
  | operands =>
    if ways.length > 1 then misuse 1 name "cannot split in more than one way"
    else
      let path := operands.headD "-"
      let start := operands.getD 1 "x"
      match splitParts g "" with
      | .error e => fail 1 (name ++ ": " ++ e)
      | .ok _ =>
        match ← textOf path with
        | .error fault =>
          fail 1 (name ++ ": cannot open " ++ shellQuote path ++ " for reading: " ++ fault.sentence)
        | .ok text =>
          let parts := (splitParts g text).toOption.getD []
          let parts := if g.has 'e' then parts.filter (!·.isEmpty) else parts
          let width := (g.value? 'a').bind fun v => Text.readNat? v.toList
          let suffix (i : Nat) : Option String := match width with
            | some w => suffix? (g.has 'd') w i
            | none => some (growingSuffix (g.has 'd') 8 2 i)
          parts.zipIdx.foldlM (fun status (part, i) => do
            if status != 0 then return status
            match suffix i with
            | none => fail 1 (name ++ ": output file suffixes exhausted")
            | some suffix =>
              let target := start ++ suffix ++ (g.value? 'S').getD ""
              let t ← get
              match t.disk.writable t.here target with
              | .error fault => fail 1 (about name target fault)
              | .ok p =>
                if g.has 'v' then say ("creating file " ++ shellQuote target ++ "\n")
                change (·.write p part)
                return 0) 0

/-! ## Sizes -/

/-- Changes the sizes of files. -/
def truncate : Tool := withOptions ⟨"co", "sr", [("size", 's'), ("reference", 'r'),
    ("no-create", 'c')]⟩ 1 fun name g => do
  let t ← get
  let reference := (g.value? 'r').bind fun path => (t.disk.read t.here path).toOption
  let (sign, digits) := match ((g.value? 's').getD "").toList with
    | c :: cs => if "+-<>/%".toList.contains c then (some c, cs) else (none, c :: cs)
    | [] => (none, [])
  if !g.has 's' && !g.has 'r' then
    misuse 1 name ("you must specify either " ++ quote "--size" ++ " or " ++ quote "--reference")
  else if g.operands.isEmpty then misuse 1 name "missing file operand"
  else match readCount? (String.ofList digits), reference with
    | none, none =>
      if g.has 's' then fail 1 (name ++ ": Invalid number: " ++ quote ((g.value? 's').getD ""))
      else fail 1 (name ++ ": cannot stat " ++ shellQuote ((g.value? 'r').getD "") ++
        ": No such file or directory")
    | given, reference => forAll g.operands fun path => do
      let t ← get
      match t.disk.writable t.here path with
      | .error fault =>
        fail 1 (name ++ ": cannot open " ++ shellQuote path ++ " for writing: " ++ fault.sentence)
      | .ok p =>
        if (t.disk.get? p).isNone && g.has 'c' then return 0
        let old := ((t.disk.file? p).getD "").toList
        let n := given.getD ((reference.map String.length).getD 0)
        let size := match sign with
          | some '+' => old.length + n
          | some '-' => old.length - n
          | some '<' => min old.length n
          | some '>' => max old.length n
          | some '/' => if n == 0 then old.length else old.length / n * n
          | some '%' => if n == 0 then old.length else (old.length + n - 1) / n * n
          | _ => n
        let text := old.take size ++ List.replicate (size - old.length) (Char.ofNat 0)
        change (·.write p (String.ofList text))
        return 0

/-! ## Copying parts -/

/-- What a copy of blocks is told, word by word. -/
def copyOperands (args : List String) : Except String (List (String × String)) :=
  args.mapM fun a =>
    let key := String.ofList (a.toList.takeWhile (· != '='))
    let known := ["if", "of", "bs", "ibs", "obs", "cbs", "count", "skip", "seek", "conv", "status",
      "iflag", "oflag"]
    if key.length < a.length && known.contains key then
      .ok (key, (a.drop (key.length + 1)).toString)
    else .error ("unrecognized operand " ++ quote a)

/-- The line about blocks that are read or written. -/
def recordLine (bytes size : Nat) (what : String) : String :=
  Text.ofNat (bytes / size) ++ "+" ++ (if bytes % size == 0 then "0" else "1") ++ " records " ++
    what ++ "\n"

/-- Copies blocks of a file to another. -/
def dd : Tool := fun name args => do
  match copyOperands args with
  | .error e => misuse 1 name e
  | .ok given =>
    let value? (key : String) : Option String :=
      (given.reverse.find? (·.1 == key)).map Prod.snd
    let numeric := ["bs", "ibs", "obs", "count", "skip", "seek"]
    let wrongNumber := given.find? fun (k, v) => numeric.contains k && (readCount? v).isNone
    let number (key : String) (n : Nat) : Nat := ((value? key).bind readCount?).getD n
    let conversions := (Text.split ',' ((value? "conv").getD "")).filter (!·.isEmpty)
    let known := ["notrunc", "ucase", "lcase", "sync", "noerror", "fsync", "fdatasync", "nocreat",
      "excl", "swab", "sparse"]
    match wrongNumber, conversions.find? (!known.contains ·) with
    | some (_, v), _ => fail 1 (name ++ ": invalid number: " ++ quote v)
    | none, some c => misuse 1 name ("invalid conversion: " ++ quote c)
    | none, none =>
      let size := number "bs" (number "ibs" 512)
      if size == 0 then return ← fail 1 (name ++ ": invalid number: " ++ quote "0")
      match ← textOf ((value? "if").getD "-") with
      | .error fault =>
        fail 1 (name ++ ": failed to open " ++ shellQuote ((value? "if").getD "") ++ ": " ++
          fault.sentence)
      | .ok text =>
        let cs := text.toList.drop (size * number "skip" 0)
        let cs := match (value? "count").bind readCount? with
          | some n => cs.take (size * n)
          | none => cs
        let out := if conversions.contains "ucase" then cs.map Char.toUpper
          else if conversions.contains "lcase" then cs.map Char.toLower else cs
        let status := (value? "status").getD ""
        let report : Work Unit := do
          if status == "none" then return
          let rate := if status == "noxfer" then "" else
            Text.ofNat out.length ++ (if out.length == 1 then " byte" else " bytes") ++
              " copied, 0 s, Infinity B/s\n"
          modify fun t => { t with writes := (true, recordLine out.length size "in" ++
            recordLine out.length (number "bs" (number "obs" 512)) "out" ++ rate) :: t.writes }
        match value? "of" with
        | none =>
          say (String.ofList out)
          report
          return 0
        | some path =>
          let t ← get
          match t.disk.writable t.here path with
          | .error fault =>
            fail 1 (name ++ ": failed to open " ++ shellQuote path ++ ": " ++ fault.sentence)
          | .ok p =>
            let old := ((t.disk.file? p).getD "").toList
            let start := number "bs" (number "obs" 512) * number "seek" 0
            let before := old.take start ++ List.replicate (start - old.length) (Char.ofNat 0)
            let behind := if conversions.contains "notrunc" then old.drop (start + out.length)
              else []
            change (·.write p (String.ofList (before ++ out ++ behind)))
            report
            return 0

end TensorCompiler.Tool
