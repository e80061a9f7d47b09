import TensorCompiler.Build.Shell.Builtin
import TensorCompiler.Build.Shell.Declare
import TensorCompiler.Build.Tool.Basic

/-!
# Reading input in the larger shell

Commands that read a line, or a number of characters, into variables or the elements of one, and
whole texts line by line.
-/

/-!
## Menus

The texts that a reader chooses among, each with its number, in columns as wide as the longest one
needs.
-/

namespace TensorCompiler.Shell

namespace Menu

/-- The number of characters in a line. -/
def width : Nat := 80

/-- Tabs and blanks from one column to another. -/
def indent : Nat → Nat → Nat → String
  | 0, _, _ => ""
  | fuel + 1, start, stop =>
    if stop ≤ start then ""
    else if start / 8 < stop / 8 then "\t" ++ indent fuel (start + (8 - start % 8)) stop
    else " " ++ indent fuel (start + 1) stop

/-- The numbers of columns and rows for a number of texts, where each takes so many characters. What
fits in one row stands in one column. -/
def shape (count size : Nat) : Nat × Nat :=
  let up (a b : Nat) : Nat := a / b + (if a % b == 0 then 0 else 1)
  let columns := max 1 (width / size)
  let rows := up count columns
  let columns := up count rows
  if rows == 1 then (1, columns) else (columns, rows)

/-- The texts with their numbers. -/
def text (values : List String) : String :=
  let count := values.length
  let digits := (Text.ofNat count).length
  let size := values.foldl (fun n v => max n v.length) 0 + digits + 4
  let (columns, rows) := shape count size
  let row (i : Nat) : String := String.join ((List.range columns).filterMap fun j =>
    let k := i + j * rows
    values[k]?.map fun v =>
      let digits := if j == 0 then (Text.ofNat rows).length else digits
      let shown := Tool.padLeft digits (Text.ofNat (k + 1)) ++ ") " ++ v
      let start := j * size
      shown ++ (if k + rows < count then indent size (start + shown.length) (start + size) else ""))
  String.join ((List.range rows).map fun i => row i ++ "\n")

end Menu

/-- The text that tells how long a command took, in the short form or in the usual one. None of it
is counted as work of the processor. -/
def timeText (short : Bool) (nanoseconds : Nat) : String :=
  let places (n digits : Nat) : String :=
    let t := Text.ofNat n
    String.ofList (List.replicate (digits - t.length) '0') ++ t
  let line (name : String) (n : Nat) : String :=
    if short then
      name ++ " " ++ Text.ofNat (n / 1000000000) ++ "." ++ places (n / 10000000 % 100) 2 ++ "\n"
    else
      name ++ "\t" ++ Text.ofNat (n / 60000000000) ++ "m" ++
        Text.ofNat (n / 1000000000 % 60) ++ "." ++ places (n / 1000000 % 1000) 3 ++ "s\n"
  (if short then "" else "\n") ++ line "real" nanoseconds ++ line "user" 0 ++ line "sys" 0


/-! ## Reading -/

/-- The value of an option and what follows it: the rest of its word or the next argument. -/
def optionValue (cs : List Char) (rest : List String) : Option (String × List String) :=
  match cs, rest with
  | [], [] => none
  | [], v :: rest => some (v, rest)
  | cs, rest => some (String.ofList cs, rest)

/-- Reads options that come before other arguments: letters alone, and letters with values. The
fault is the option that is not known, or one whose value is missing. -/
def readOptions (alone valued : List Char) :
    Nat → List (Char × String) → List String →
      Except (Char × Bool) (List (Char × String) × List String)
  | 0, found, args => .ok (found, args)
  | _, found, [] => .ok (found, [])
  | fuel + 1, found, arg :: rest =>
    match arg.toList with
    | ['-', '-'] => .ok (found, rest)
    | '-' :: c :: cs =>
      if alone.contains c then
        let rest := if cs.isEmpty then rest else String.ofList ('-' :: cs) :: rest
        readOptions alone valued fuel (found ++ [(c, "")]) rest
      else if valued.contains c then
        match optionValue cs rest with
        | some (v, rest) => readOptions alone valued fuel (found ++ [(c, v)]) rest
        | none => .error (c, true)
      else .error (c, false)
    | _ => .ok (found, arg :: rest)

/-- The characters up to a stop, at most a number of them, those behind a backslash marked; what
follows them; and whether the stop was found or the number reached. -/
def takeUntil (raw : Bool) (stop : Option Char) :
    Nat → List Char → List (Char × Bool) × List Char × Bool
  | 0, cs => ([], cs, true)
  | _, [] => ([], [], false)
  | n + 1, c :: cs =>
    if some c == stop then ([], cs, true)
    else if c == '\\' && !raw then
      match cs with
      | [] => ([], [], false)
      | d :: cs =>
        let (found, rest, ended) := takeUntil raw stop n cs
        (if d == '\n' then found else (d, true) :: found, rest, ended)
    else
      let (found, rest, ended) := takeUntil raw stop n cs
      ((c, false) :: found, rest, ended)

/-- How `read` is used. -/
def readUsage : String :=
  " [-ers] [-a array] [-d delim] [-i text] [-n nchars] [-N nchars] [-p prompt] [-t timeout] " ++
    "[-u fd] [name ...]"

/-- The stream of a descriptor and what is left to be read of it. -/
def inputOf (s : Shell) (fd : Nat) : Option Nat × List Char :=
  let stream := (s.descriptors.find? (·.1 == fd)).map Prod.snd
  (stream, ((stream.map s.world.unread).getD "").toList)

/-- Leaves less to be read of a stream. -/
def leaveUnread (s : Shell) (stream : Option Nat) (rest : List Char) : Shell :=
  match stream with
  | some n => { s with world := s.world.consume n (String.ofList rest) }
  | none => s

/-- Assigns elements to a variable, beginning with a number. -/
def assignList (s : Shell) (name : String) (first : Nat) (texts : List String) : Shell :=
  let old := (s.entry? name).getD .bare
  if old.readOnly then s.keepReadOnly name
  else
    let kept := if first == 0 then [] else old.numbered.filter (·.1 < first)
    let items := texts.zipIdx.map fun (t, i) => (first + i, t)
    s.putVariable (s.meant name) (some { old with content := .indexed (kept ++ items) })

/-- Assigns to variables one after the other. One that is read only fails the command. -/
def assignEach (s : Shell) (pairs : List (String × String)) : Shell × Bool :=
  pairs.foldl (fun (s, good) (name, value) =>
    if !good then (s, good)
    else if (s.entry? name).any (·.readOnly) then
      (s.complain (name ++ ": readonly variable"), false)
    else (s.store ⟨name, none, false, .inl value⟩, true)) (s, true)

/-- Reads a line into variables. -/
def readInput (s : Shell) (args : List String) : Shell :=
  match readOptions "res".toList "adinNptu".toList (2 * args.length + 20) [] args with
  | .error (c, true) =>
    (s.fault "read" (String.ofList ['-', c] ++ ": option requires an argument") 2).usage "read"
      readUsage
  | .error (c, false) => s.wrongOption "read" (String.ofList ['-', c]) readUsage
  | .ok (options, names) =>
    let value? (c : Char) : Option String := ((options.filter (·.1 == c)).getLast?).map Prod.snd
    let has (c : Char) : Bool := options.any (·.1 == c)
    match names.find? (!Script.isName ·) with
    | some name => s.wrongName "read" name
    | none =>
      let number (c : Char) : Option Nat := (value? c).bind fun v => Text.readNat? v.toList
      let (stream, text) := s.inputOf ((number 'u').getD 0)
      let limit := ((number 'N').orElse fun _ => number 'n').getD (text.length + 1)
      let stop : Option Char := if has 'N' then none
        else match value? 'd' with
          | some d => some (d.toList.headD (Char.ofNat 0))
          | none => some '\n'
      let (line, rest, ended) := takeUntil (has 'r') stop limit text
      let s := s.leaveUnread stream rest
      let whole := String.ofList (line.map Prod.fst)
      let done (result : Shell × Bool) : Shell :=
        if result.2 then result.1.finish (if ended then 0 else 1) else result.1.finish 1
      match value? 'a' with
      | some array =>
        let words := readFields s.separators (line.length + 1) line
        let words := words.take (words.length - (words.reverse.takeWhile (·.isEmpty)).length)
        done (s.assignList array 0 words, true)
      | none =>
        if has 'N' then
          done (s.assignEach ((names.zipIdx).map fun (n, i) => (n, if i == 0 then whole else "")))
        else if names.isEmpty then done (s.assignEach [("REPLY", whole)])
        else
          let values := readFields s.separators names.length line
          done (s.assignEach ((names.zipIdx).map fun (n, i) => (n, values.getD i "")))

/-- The lines of a text, each with the character that ends it. -/
def pieces (stop : Char) : Nat → List Char → List (List Char)
  | 0, _ => []
  | _, [] => []
  | fuel + 1, cs =>
    let line := cs.takeWhile (· != stop)
    match cs.drop line.length with
    | [] => [line]
    | c :: rest => (line ++ [c]) :: pieces stop fuel rest

/-- Reads all lines into the elements of a variable. -/
def readLines (s : Shell) (command : String) (args : List String) : Shell :=
  let help := " [-d delim] [-n count] [-O origin] [-s count] [-t] [-u fd] [-C callback] " ++
    "[-c quantum] [array]"
  match readOptions ['t'] "dnOsuCc".toList (2 * args.length + 20) [] args with
  | .error (c, _) => s.wrongOption command (String.ofList ['-', c]) help
  | .ok (options, names) =>
    let value? (c : Char) : Option String := ((options.filter (·.1 == c)).getLast?).map Prod.snd
    let number (c : Char) : Option Nat := (value? c).bind fun v => Text.readNat? v.toList
    let name := names.headD "MAPFILE"
    if !Script.isName name then s.wrongName command name
    else
      let stop := ((value? 'd').map fun d => d.toList.headD (Char.ofNat 0)).getD '\n'
      let (stream, text) := s.inputOf ((number 'u').getD 0)
      let lines := (pieces stop (text.length + 1) text).drop ((number 's').getD 0)
      let lines := match number 'n' with
        | some 0 | none => lines
        | some n => lines.take n
      let lines := lines.map fun cs =>
        if options.any (·.1 == 't') && cs.getLast? == some stop then cs.dropLast else cs
      let s := s.leaveUnread stream []
      let s := s.assignList name ((number 'O').getD 0) (lines.map String.ofList)
      if s.flow == .going then s.finish 0 else s

end TensorCompiler.Shell
