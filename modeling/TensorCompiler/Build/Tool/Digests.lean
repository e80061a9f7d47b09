import TensorCompiler.Build.Tool.Basic
import TensorCompiler.Digest.Checksum
import TensorCompiler.Digest.Sha2

/-!
# Digests of files

The tools that print digests and check numbers of files, and that compare files with the digests of
a list.
-/

namespace TensorCompiler.Tool

/-- The bytes of a byte text. -/
def octets (text : String) : List UInt8 := text.toList.map fun c => UInt8.ofNat c.toNat

/-- A kind of digest: its title in lists, the number of its hexadecimal digits, and its function. -/
structure DigestKind where
  title : String
  digits : Nat
  digest : List UInt8 → List UInt8

namespace DigestKind

/-- The kinds of digests by the names of algorithms. -/
def table : List (String × DigestKind) :=
  [("md5", ⟨"MD5", 32, Digest.md5⟩), ("sha1", ⟨"SHA1", 40, Digest.sha1⟩),
    ("sha224", ⟨"SHA224", 56, Digest.sha224⟩), ("sha256", ⟨"SHA256", 64, Digest.sha256⟩),
    ("sha384", ⟨"SHA384", 96, Digest.sha384⟩), ("sha512", ⟨"SHA512", 128, Digest.sha512⟩)]

/-- The digest of a text in hexadecimal digits. -/
def text (k : DigestKind) (s : String) : String := Digest.hex (k.digest (octets s))

/-- A name in a list of digests, and whether it had to be changed to stand on one line. -/
def listedName (path : String) : String × Bool :=
  let escaped := path.toList.flatMap fun
    | '\\' => ['\\', '\\']
    | '\n' => ['\\', 'n']
    | '\r' => ['\\', 'r']
    | c => [c]
  (String.ofList escaped, escaped.length != path.length)

/-- A name as it was before it was put in a list. -/
def unlistedName : List Char → List Char
  | '\\' :: 'n' :: cs => '\n' :: unlistedName cs
  | '\\' :: 'r' :: cs => '\r' :: unlistedName cs
  | '\\' :: '\\' :: cs => '\\' :: unlistedName cs
  | c :: cs => c :: unlistedName cs
  | [] => []

/-- A line of a list of digests. -/
def line (k : DigestKind) (g : Given) (path text : String) : String :=
  let (name, changed) := if g.has 'z' then (path, false) else listedName path
  let body := if g.has 'T' then k.title ++ " (" ++ name ++ ") = " ++ k.text text
    else k.text text ++ " " ++ (if g.has 'b' then "*" else " ") ++ name
  (if changed then "\\" else "") ++ body ++ (if g.has 'z' then String.singleton (Char.ofNat 0)
    else "\n")

/-- The name and the digest that a line of a list holds. -/
def entry? (k : DigestKind) (line : String) : Option (String × String) :=
  let (changed, cs) := match line.toList with
    | '\\' :: cs => (true, cs)
    | cs => (false, cs)
  let name (cs : List Char) : String := String.ofList (if changed then unlistedName cs else cs)
  let isDigest (cs : List Char) : Bool :=
    cs.length == k.digits && cs.all fun c => c.isDigit || "abcdefABCDEF".toList.contains c
  let start := (k.title ++ " (").toList
  if start.isPrefixOf cs then
    let rest := cs.drop start.length
    let digest := rest.drop (rest.length - k.digits)
    let before := rest.take (rest.length - k.digits)
    let closing := ") = ".toList
    if isDigest digest && closing.isSuffixOf before then
      some (name (before.take (before.length - closing.length)), (String.ofList digest).toLower)
    else none
  else
    let digest := cs.take k.digits
    match cs.drop k.digits with
    | ' ' :: mark :: path =>
      if isDigest digest && (mark == ' ' || mark == '*') && !path.isEmpty then
        some (name path, (String.ofList digest).toLower)
      else none
    | _ => none

/-- What comes of comparing files with a list. -/
structure Tally where
  good : Nat
  wrong : Nat
  unread : Nat
  malformed : Nat

/-- Compares the file of one line with its digest. -/
def compareOne (k : DigestKind) (name : String) (g : Given) (tally : Tally) (line : String) :
    Work Tally := do
  let quiet := g.has 'Q' || g.has 'S'
  match k.entry? line with
  | none =>
    if line.startsWith "#" then return tally
    return { tally with malformed := tally.malformed + 1 }
  | some (path, digest) =>
    let shown := (listedName path).1
    match ← textOf path with
    | .error fault =>
      if g.has 'I' && fault == .missing then return tally
      warn (about name path fault)
      if !g.has 'S' then say (shown ++ ": FAILED open or read\n")
      return { tally with unread := tally.unread + 1 }
    | .ok text =>
      if k.text text == digest then
        if !quiet then say (shown ++ ": OK\n")
        return { tally with good := tally.good + 1 }
      if !g.has 'S' then say (shown ++ ": FAILED\n")
      return { tally with wrong := tally.wrong + 1 }

/-- Says how often something went wrong. -/
def warnCount (name : String) (n : Nat) (one many : String) : Work Unit :=
  if n == 0 then return
  else warn (name ++ ": WARNING: " ++ Text.ofNat n ++ " " ++ (if n == 1 then one else many))

/-- Compares files with the digests of a list. -/
def compareList (k : DigestKind) (name : String) (g : Given) (path : String) : Work Nat := do
  let source := if path == "-" then quote "standard input" else shellWord path
  match ← textOf path with
  | .error fault => fail 1 (about name path fault)
  | .ok text =>
    let tally ← (lines text).foldlM (k.compareOne name g) ⟨0, 0, 0, 0⟩
    if tally.good + tally.wrong + tally.unread == 0 && !(g.has 'I' && tally.malformed == 0) then
      fail 1 (name ++ ": " ++ source ++ ": no properly formatted checksum lines found")
    else
      if !g.has 'S' then
        warnCount name tally.malformed "line is improperly formatted"
          "lines are improperly formatted"
        warnCount name tally.unread "listed file could not be read"
          "listed files could not be read"
        warnCount name tally.wrong "computed checksum did NOT match"
          "computed checksums did NOT match"
      if g.has 'I' && tally.good + tally.wrong == 0 then
        fail 1 (name ++ ": " ++ source ++ ": no file was verified")
      else return if tally.wrong == 0 && tally.unread == 0 &&
        !(g.has 'X' && tally.malformed > 0) then 0 else 1

/-- The options of the tools for digests. -/
def options : Options :=
  ⟨"btczwTQSIX", "", [("binary", 'b'), ("text", 't'), ("check", 'c'), ("zero", 'z'), ("warn", 'w'),
    ("tag", 'T'), ("quiet", 'Q'), ("status", 'S'), ("ignore-missing", 'I'), ("strict", 'X')]⟩

/-- Prints the digests of files, or compares files with lists. -/
def act (k : DigestKind) (name : String) (g : Given) : Work Nat :=
  if g.has 'c' then
    forAll (if g.operands.isEmpty then ["-"] else g.operands) (k.compareList name g)
  else forTexts g.operands (about name) (fun path text => say (k.line g path text)) 1

/-- The tool for a kind of digest. -/
def tool (k : DigestKind) : Tool := withOptions options 1 k.act

end DigestKind

/-- Prints the check numbers and the sizes of files, or digests of another kind. -/
def cksum : Tool := withOptions ⟨"czwTQSIXU", "a",
    ("algorithm", 'a') :: ("untagged", 'U') :: DigestKind.options.long⟩ 1 fun name g =>
  match g.value? 'a' with
  | some algorithm =>
    match DigestKind.table.find? (·.1 == algorithm) with
    | some (_, k) =>
      k.act name (if g.has 'U' then g else { g with options := ('T', "") :: g.options })
    | none => misuse 1 name ("invalid argument " ++ quote algorithm ++ " for " ++
        quote "--algorithm")
  | none => forTexts g.operands (about name) (fun path text =>
      say (Text.ofNat (Digest.cyclicCheck (octets text)) ++ " " ++ Text.ofNat text.length ++
        (if g.operands.isEmpty then "" else " " ++ path) ++ "\n")) 1

/-- Prints sums of the bytes of files, and their sizes in blocks. -/
def sum : Tool := withOptions ⟨"rs", "", [("sysv", 's')]⟩ 1 fun name g =>
  let zeros (n : Nat) : String :=
    let t := Text.ofNat n
    String.ofList (List.replicate (5 - t.length) '0') ++ t
  forTexts g.operands (about name) (fun path text => do
    let label := if g.operands.isEmpty then "" else " " ++ path
    let blocks (size : Nat) : Nat := (text.length + size - 1) / size
    if g.has 's' then
      let n := text.toList.foldl (fun n c => n + c.toNat) 0
      let n := n % 65536 + n / 65536 % 65536
      let n := n % 65536 + n / 65536
      say (Text.ofNat n ++ " " ++ Text.ofNat (blocks 512) ++ label ++ "\n")
    else
      say (zeros (Digest.rotatingSum (octets text)) ++ " " ++
        padLeft 5 (Text.ofNat (blocks 1024)) ++ label ++ "\n")) 1

end TensorCompiler.Tool
