import TensorCompiler.Build.Tool.Basic
import TensorCompiler.Build.Tool.Files

/-!
# Putting files in place

The tools that install files, give them owners, link and unlink single paths, and make files with
names that nobody else uses.
-/

/-!
## Handing words to commands

Cuts a text into words and builds command lines of them: all words at the end of one command, some
at a time, or each line in place of a mark.
-/

namespace TensorCompiler.Tool

/-- How words are handed to a command. -/
structure Handing where
  /-- The most words of a call. -/
  most : Option Nat
  /-- The most lines of a call. -/
  lines : Option Nat
  /-- What a line is put in place of. -/
  mark : Option String
  /-- What ends a word, if words are not cut at blanks. -/
  delimiter : Option Char
  skipEmpty : Bool
  /-- Whether every call is announced. -/
  announced : Bool
  command : List String

namespace Handing

/-- The options of a tool that hands words to commands. -/
def options : Options :=
  ⟨"0rtxpio", "nILdPsaE", [("null", '0'), ("no-run-if-empty", 'r'), ("verbose", 't'), ("exit", 'x'),
    ("max-args", 'n'), ("max-lines", 'L'), ("replace", 'I'), ("delimiter", 'd'),
    ("max-procs", 'P')]⟩

/-- The character that a delimiter is written as. -/
def delimiterOf (s : String) : Char :=
  match s.toList with
  | ['\\', 'n'] => '\n'
  | ['\\', 't'] => '\t'
  | ['\\', '0'] => Char.ofNat 0
  | c :: _ => c
  | [] => Char.ofNat 0

/-- Reads how words are handed to a command. -/
def read (args : List String) : Except String Handing := do
  let g ← options.readLeading (args.length + 1) args
  let number (c : Char) : Except String (Option Nat) :=
    match g.value? c with
    | none => .ok none
    | some v =>
      let letter := " for -" ++ String.singleton c ++ " option"
      match Text.readNat? v.toList with
      | none => .error ("invalid number \"" ++ v ++ "\"" ++ letter)
      | some 0 => .error ("value 0" ++ letter ++ " should be >= 1")
      | some n => .ok (some n)
  let most ← number 'n'
  let lines ← number 'L'
  return {
    most := most
    lines := lines
    mark := if g.has 'i' then some "\x7b\x7d" else g.value? 'I'
    delimiter := if g.has '0' then some (Char.ofNat 0) else (g.value? 'd').map delimiterOf
    skipEmpty := g.has 'r'
    announced := g.has 't'
    command := if g.operands.isEmpty then ["echo"] else g.operands }

/-- The words of a text between blanks, with quotations and backslashes; the line breaks that stand
between them are given as `none`. A quotation that does not end in its line is given back as the
mark it starts with. -/
def scan (blanks : Bool) : Nat → Option (List Char) → List Char → List (Option String) × Option Char
  | 0, _, _ => ([], none)
  | _, word, [] => ((word.map fun cs => some (String.ofList cs.reverse)).toList, none)
  | fuel + 1, word, c :: cs =>
    let grow (d : Char) := some (d :: word.getD [])
    let ended := (word.map fun cs => some (String.ofList cs.reverse)).toList
    let after (found : List (Option String)) (rest : List (Option String) × Option Char) :=
      (found ++ rest.1, rest.2)
    if c == '\n' then after (ended ++ [none]) (scan blanks fuel none cs)
    else if c == ' ' || c == '\t' then
      if blanks || word.isNone then after ended (scan blanks fuel none cs)
      else scan blanks fuel (grow c) cs
    else if c == '\\' then
      match cs with
      | [] => scan blanks fuel (grow c) []
      | d :: ds => scan blanks fuel (grow d) ds
    else if c == '"' || c == Char.ofNat 39 then
      let inside := cs.takeWhile fun d => d != c && d != '\n'
      if (cs.drop inside.length).head? == some c then
        scan blanks fuel (some (inside.reverse ++ word.getD [])) (cs.drop (inside.length + 1))
      else ([], some c)
    else scan blanks fuel (grow c) cs

/-- Cuts a list into pieces of a length. -/
def pieces {α : Type} (n : Nat) : Nat → List α → List (List α)
  | 0, _ => []
  | _, [] => []
  | fuel + 1, l => l.take n :: pieces n fuel (l.drop n)

/-- The words of each line that has some. -/
def byLine : List String → List (Option String) → List (List String)
  | line, [] => if line.isEmpty then [] else [line]
  | line, some w :: rest => byLine (line ++ [w]) rest
  | line, none :: rest => if line.isEmpty then byLine [] rest else line :: byLine [] rest

/-- A text with another in place of each occurrence of a third. -/
def substitute (mark word : List Char) : Nat → List Char → List Char
  | 0, cs => cs
  | _, [] => []
  | fuel + 1, c :: cs =>
    if !mark.isEmpty && mark.isPrefixOf (c :: cs) then
      word ++ substitute mark word fuel ((c :: cs).drop mark.length)
    else c :: substitute mark word fuel cs

/-- The words of a text that are cut at a character. -/
def cutAt (c : Char) (text : List Char) : List String :=
  let parts := Text.splitChars c text
  ((if parts.getLast? == some [] then parts.dropLast else parts)).map String.ofList

/-- The calls that a text leads to, and the mark of a quotation that does not end. -/
def calls (h : Handing) (text : List Char) : List (List String) × Option Char :=
  let (items, fault) := match h.delimiter with
    | some c => ((cutAt c text).map some, none)
    | none => scan h.mark.isNone (text.length + 1) none text
  let words := items.filterMap (·)
  let whole : List (List String) := match h.mark, h.lines, h.most with
    | some mark, _, _ => words.map fun w => h.command.map fun a =>
        String.ofList (substitute mark.toList w.toList (a.length + 1) a.toList)
    | none, some n, _ =>
      (pieces n items.length (byLine [] items)).map fun ls => h.command ++ ls.flatten
    | none, none, some n => (pieces n words.length words).map (h.command ++ ·)
    | none, none, none => if words.isEmpty then [] else [h.command ++ words]
  match fault with
  | some c => (if h.most.isSome then whole.dropLast else [], some c)
  | none => (if whole.isEmpty && h.mark.isNone && !h.skipEmpty then [h.command] else whole, none)

/-- The complaint about a quotation that does not end. -/
def unmatched (c : Char) : String :=
  "unmatched " ++ (if c == '"' then "double" else "single") ++
    " quote; by default quotes are special to xargs unless you use the -0 option"

end Handing

/-! ## Placing files -/

/-- Makes the directories of a path. -/
def makeParents (path : String) : Work Unit := do
  let t ← get
  match t.disk.makePath (t.here.start path) (Disk.trimmedParts path).reverse with
  | (_, d) => change fun _ => d

/-- Copies files and says who may use them, or makes directories. -/
def install : Tool := withOptions ⟨"cdDpsvT", "mogtS", [("directory", 'd'), ("mode", 'm'),
    ("owner", 'o'), ("group", 'g'), ("target-directory", 't'), ("verbose", 'v')]⟩ 1 fun name g => do
  let mode := (g.value? 'm').getD "755"
  match ModeChange.read? mode with
  | none => fail 1 (name ++ ": invalid mode " ++ quote mode)
  | some c =>
    if g.has 'd' then
      if g.operands.isEmpty then misuse 1 name "missing file operand"
      else forAll g.operands fun path => do
        let t ← get
        makeParents path
        change fun d => match d.find t.here path with
          | .ok p => d.setMode p (c.apply 0 true 0)
          | .error _ => d
        return 0
    else match ← sendTo name g with
      | .error status => return status
      | .ok (sources, target) => forAll sources fun source => do
        if g.has 'D' then
          let parts := Disk.trimmedParts target
          if parts.length > 1 then makeParents (Text.joinWith "/" parts.dropLast)
        let t ← get
        match t.disk.find t.here source with
        | .error fault =>
          fail 1 (name ++ ": cannot stat " ++ shellQuote source ++ ": " ++ fault.sentence)
        | .ok p =>
          if t.disk.isDirectory p then
            fail 1 (name ++ ": omitting directory " ++ shellQuote source)
          else match goal t (g.has 'T') source target with
            | .error fault =>
              fail 1 (name ++ ": cannot create regular file " ++ shellQuote target ++ ": " ++
                fault.sentence)
            | .ok (path, q) =>
              if p == q then
                fail 1 (name ++ ": " ++ shellQuote source ++ " and " ++ shellQuote path ++
                  " are the same file")
              else
                change fun d =>
                  ((d.remove q).write q ((t.disk.file? p).getD "")).setMode q (c.apply 0 false 0)
                if g.has 'v' then say (shellQuote source ++ " -> " ++ shellQuote path ++ "\n")
                return 0

/-- Makes a second path of a file. -/
def link : Tool := withOptions ⟨"", "", []⟩ 1 fun name g => do
  match g.operands with
  | [] => misuse 1 name "missing operand"
  | [a] => misuse 1 name ("missing operand after " ++ quote a)
  | _ :: _ :: c :: _ => misuse 1 name ("extra operand " ++ quote c)
  | [a, b] =>
    let t ← get
    let failed (fault : FileFault) : Work Nat :=
      fail 1 (name ++ ": cannot create link " ++ shellQuote b ++ " to " ++ shellQuote a ++ ": " ++
        fault.sentence)
    match ownEntry? t a, t.disk.spot t.here b with
    | .error fault, _ => failed fault
    | _, .error fault => failed fault
    | .ok (p, _), .ok q =>
      if (t.disk.get? q).isSome then failed .taken
      else
        change (·.makeTwin p q)
        return 0

/-- Removes one path of a file. -/
def unlink : Tool := withOptions ⟨"", "", []⟩ 1 fun name g => do
  match g.operands with
  | [] => misuse 1 name "missing operand"
  | _ :: b :: _ => misuse 1 name ("extra operand " ++ quote b)
  | [a] =>
    let t ← get
    let failed (fault : FileFault) : Work Nat :=
      fail 1 (name ++ ": cannot unlink " ++ shellQuote a ++ ": " ++ fault.sentence)
    match ownEntry? t a with
    | .error fault => failed fault
    | .ok (_, .directory) => failed .isDirectory
    | .ok (p, _) =>
      change (·.remove p)
      return 0

/-- Gives files to somebody; there is only one user, who has them already. -/
def own (what : String) : Tool := withOptions ⟨"Rfvch", "", [("recursive", 'R')]⟩ 1 fun name g => do
  let known := ["root", "0", "root:root", "0:0", "root:", ":root", ":0", ":"]
  match g.operands with
  | [] => misuse 1 name "missing operand"
  | [a] => misuse 1 name ("missing operand after " ++ quote a)
  | who :: paths =>
    if !known.contains who && (Text.readNat? (who.toList.filter (· != ':'))).isNone then
      fail 1 (name ++ ": invalid " ++ what ++ ": " ++ quote who)
    else forAll paths fun path => do
      let t ← get
      match t.disk.find t.here path with
      | .error fault =>
        fail 1 (name ++ ": cannot access " ++ shellQuote path ++ ": " ++ fault.sentence)
      | .ok _ => return 0

/-- Makes a file or a directory with a name that nobody else uses. -/
def mktemp : Tool := withOptions ⟨"duqt", "pS", [("directory", 'd'), ("dry-run", 'u'),
    ("quiet", 'q'), ("tmpdir", 'p'), ("suffix", 'S')]⟩ 1 fun name g => do
  let t ← get
  let home := ((g.value? 'p').filter (!·.isEmpty)).getD
    (((t.environment.find? (·.1 == "TMPDIR")).map Prod.snd).getD "/tmp")
  let given := g.operands.head?
  let pattern := given.getD "tmp.XXXXXXXXXX"
  match g.operands with
  | _ :: _ :: _ => misuse 1 name "too many templates"
  | _ =>
    let start := pattern.toList.reverse.dropWhile (· != 'X')
    let marks := start.takeWhile (· == 'X')
    if marks.length < 3 then
      fail 1 (name ++ ": too few X's in template " ++ quote pattern)
    else
      let behind := pattern.toList.drop start.length
      let before := (start.drop marks.length).reverse
      let inHome := given.isNone || g.has 't' || g.has 'p'
      let path (i : Nat) : String :=
        let digits := (Text.ofNat i).toList
        let filled := List.replicate (marks.length - digits.length) 'a' ++ digits
        let base := String.ofList (before ++ filled ++ behind) ++ (g.value? 'S').getD ""
        if inHome then joinPath home base else base
      let free := (List.range 100).find? fun i => (t.disk.entryAt? t.here (path i)).isNone
      let path := path (free.getD 0)
      match t.disk.target 40 t.here path with
      | .error fault =>
        fail 1 (name ++ ": failed to create " ++ (if g.has 'd' then "directory" else "file") ++
          " via template " ++ quote (if inHome then joinPath home pattern else pattern) ++ ": " ++
          fault.sentence)
      | .ok p =>
        if !g.has 'u' then
          change fun d => if g.has 'd' then (d.makeDirectory p).setMode p 448
            else (d.write p "").setMode p 384
        say (path ++ "\n")
        return 0

end TensorCompiler.Tool
