import TensorCompiler.Build.Script.Quote
import TensorCompiler.Build.Script.Read
import TensorCompiler.Build.Shell.Parameter

/-!
# Filling in words

The parts of a word are filled in, what comes out is split into fields, and fields that are patterns
give way to the paths they stand for. How a command's output is taken is passed along.
-/

namespace TensorCompiler.Shell

open Script

/-- Runs a command for its output. -/
abbrev Taker := Shell → Command → Shell × String

/-- A piece of a word that is filled in. -/
inductive Piece where
  /-- A character, and whether it may separate fields. -/
  | char (c : PatternChar) (splits : Bool)
  /-- What keeps a field that is empty. -/
  | nothing
  /-- The end of a field. -/
  | boundary

/-- The pieces of a text. -/
def piecesOf (quoted splits : Bool) (text : String) : List Piece :=
  if text.isEmpty then if quoted then [.nothing] else []
  else text.toList.map fun c => .char ⟨c, quoted⟩ (splits && !quoted)

/-- The characters of pieces. -/
def charsOf (ps : List Piece) : List PatternChar :=
  ps.filterMap fun
    | .char c _ => some c
    | .nothing => none
    | .boundary => some ⟨' ', true⟩

/-- The text of pieces. -/
def textOf (ps : List Piece) : String := Glob.text (charsOf ps)

/-- The pieces of a list of arguments, each a field of its own. -/
def listPieces (quoted : Bool) : List String → List Piece
  | [] => []
  | [a] => piecesOf quoted true a
  | a :: rest => piecesOf quoted true a ++ .boundary :: listPieces quoted rest

/-- The pieces of the values of a parameter. -/
def Values.pieces (s : Shell) (quoted : Bool) : Values → List Piece
  | .one value => piecesOf quoted true (value.getD "")
  | .many items false => listPieces quoted items
  | .many items true =>
    if quoted then
      let joint := match s.separators with
        | [] => ""
        | c :: _ => String.singleton c
      piecesOf true false (Text.joinWith joint items)
    else listPieces false items

/-- Fills in a word. Inside the argument of a parameter plain texts may separate fields. -/
abbrev Filler := Bool → Shell → Word → Shell × List Piece

/-- Whether a parameter may be unset without complaint. -/
def isList (name : String) : Bool := name == "@" || name == "*"

/-- What a parameter holds, and what it is called in complaints. -/
def valuesOf (fill : Filler) (s : Shell) (name : String) : Index → Shell × Values × String
  | .none =>
    (s, match name with
      | "@" => .many s.arguments false
      | "*" => .many s.arguments true
      | name => .one (s.param? name), name)
  | .all joined => (s, .many ((s.listOf name).map Prod.snd) joined, name)
  | .at key =>
    let (s, ps) := fill false s key
    if s.flow != .going then (s, .one none, name)
    else
      let (s, value) := s.element? name (textOf ps)
      (s, .one value, name ++ "[" ++ textOf ps ++ "]")

/-- The part of the values that two expressions name. -/
def slicePieces (fill : Filler) (s : Shell) (name : String) (values : Values) (args : List Word)
    (quoted : Bool) : Shell × List Piece :=
  let number (s : Shell) (w : Word) : Shell × Int :=
    let (s, ps) := fill false s w
    if s.flow == .going then s.computeHere (textOf ps) else (s, 0)
  let (s, start) := number s (args.headD [])
  let (s, length) := match args.tail with
    | [] => (s, none)
    | w :: _ =>
      let (s, n) := number s w
      (s, some n)
  let isNegative := length.any (· < 0)
  let part : Option Values := match values with
    | .one value =>
      (slice start length (value.getD "").toList).map fun cs => .one (some (String.ofList cs))
    | .many items joined =>
      if name == "@" || name == "*" then
        if isNegative then none
        else
          let all := if start == 0 then s.name :: items else items
          let start := if start > 0 then start - 1 else start
          (slice start length all).map fun found => .many found joined
      else
        (sliceItems start length ((s.entry? name).getD .bare)).map fun found => .many found joined
  if s.flow != .going then (s, [])
  else
    match part with
    | some values => (s, values.pieces s quoted)
    | none => (s.give (Text.ofInt (length.getD 0) ++ ": substring expression < 0"), [])

/-- What is made of a parameter. -/
def usePieces (fill : Filler) (s : Shell) (name : String) (index : Index) (use : ParamUse)
    (args : List Word) (quoted : Bool) : Shell × List Piece :=
  let (s, values, called) := valuesOf fill s name index
  let v := (s.entry? name).getD .bare
  let arg := args.headD []
  let counts := values.counts
  let filled (s : Shell) : Shell × List Piece :=
    let (s, ps) := fill (!quoted) s arg
    (s, if quoted && ps.isEmpty then [.nothing] else ps)
  let missing : Bool := s.has 'u' && match values with
    | .one none => true
    | _ => false
  let refuse (s : Shell) : Shell :=
    if s.isBash then
      let sign := if called == "!" || called.toList.all Char.isDigit then "$" else ""
      s.abort (sign ++ called ++ ": unbound variable")
    else s.abort (called ++ ": parameter not set")
  let own (s : Shell) : Shell × List Piece :=
    if missing then (refuse s, []) else (s, values.pieces s quoted)
  let cut (f : List Glob → List Char → List Char) : Shell × List Piece :=
    if missing then own s
    else
      let (s, ps) := fill (!quoted) s arg
      let pattern := s.readPattern (charsOf ps)
      let values := if s.isBash then values else .one values.text?
      (s, (values.map fun t => String.ofList (f pattern t.toList)).pieces s quoted)
  if s.flow != .going then (s, [])
  else
    match use with
    | .value => own s
    | .through _ => own s
    | .malformed =>
      match s.isBash, arg with
      | true, [.text raw _] => (s.give (raw ++ ": bad substitution"), [])
      | _, _ => (s.abort "Bad substitution", [])
    | .length =>
      if missing then own s
      else
        let n := match values with
          | .one value => (value.getD "").length
          | .many items _ => items.length
        (s, piecesOf quoted true (Text.ofNat n))
    | .orElse colon => if counts colon then (s, values.pieces s quoted) else filled s
    | .ifSet colon => if counts colon then filled s else (s, if quoted then [.nothing] else [])
    | .orAssign colon =>
      if counts colon then (s, values.pieces s quoted)
      else if !isName name then
        (if s.isBash then s.give ("$" ++ name ++ ": cannot assign in this way")
          else s.abort (name ++ ": bad variable name"), [])
      else
        let (s, ps) := fill (!quoted) s arg
        let s := match index with
          | .at key =>
            let (s, ks) := fill false s key
            s.store ⟨name, some (textOf ks), false, .inl (textOf ps)⟩
          | _ => s.store ⟨name, none, false, .inl (textOf ps)⟩
        (s, piecesOf quoted true (textOf ps))
    | .orFail colon =>
      if counts colon then (s, values.pieces s quoted)
      else
        let (s, ps) := fill (!quoted) s arg
        let text :=
          if !(charsOf ps).isEmpty then textOf ps
          else if s.isBash then "parameter " ++ (if colon then "null or " else "") ++ "not set"
          else "parameter not set" ++ (if colon then " or null" else "")
        (s.abort (called ++ ": " ++ text), [])
    | .cutFront longest => cut (cutFront · longest)
    | .cutBack longest => cut (cutBack · longest)
    | .recase casing all => cut (recase casing all)
    | .slice => if missing then own s else slicePieces fill s name values args quoted
    | .replace scope =>
      let (_, ps) := fill false s (args.getD 1 [])
      cut fun pattern t => replace scope pattern (replacement (charsOf ps)) t
    | .transform letter =>
      let result : Values := match values with
        | .one none => .one none
        | .one (some t) => .one (some (transformed name v letter t))
        | .many items joined =>
          if isList name then .many (items.map (transformed name v letter)) joined
          else .many (transformedItems name v letter) joined
      (s, result.pieces s quoted)
    | .keys =>
      let joined := match index with
        | .all joined => joined
        | _ => false
      (s, (Values.many ((s.listOf name).map Prod.fst) joined).pieces s quoted)
    | .names =>
      let joined := match index with
        | .all joined => joined
        | _ => false
      let found := (s.bindings.map Prod.fst).filter (·.startsWith name)
      (s, (Values.many (found.mergeSort fun a b => decide (a ≤ b)) joined).pieces s quoted)

/-- The name and the index that a text is for a parameter. -/
def namedBy (text : String) : String × Index :=
  let cs := text.toList
  let name := cs.takeWhile (· != '[')
  match cs.drop name.length with
  | '[' :: inside =>
    let key := inside.takeWhile (· != ']')
    (String.ofList name, match String.ofList key with
      | "@" => .all false
      | "*" => .all true
      | key => .at [.text key true])
  | _ => (text, .none)

/-- The pieces of a parameter. The value of one may be the name of another. -/
def paramPieces (fill : Filler) (s : Shell) (name : String) (index : Index) (use : ParamUse)
    (args : List Word) (quoted : Bool) : Shell × List Piece :=
  match use with
  | .through use =>
    let reference := (s.ownEntry? name).any fun v => v.marks.contains 'n'
    if reference then (s, piecesOf quoted true (((s.ownEntry? name).bind (·.value)).getD ""))
    else
      let (s, values, _) := valuesOf fill s name index
      match values.text? with
      | some target =>
        let (name, index) := namedBy target
        usePieces fill s name index use args quoted
      | none =>
        if s.flow == .going then (s.give (name ++ ": invalid indirect expansion"), []) else (s, [])
  | use => usePieces fill s name index use args quoted

/-- A text without the line breaks at its end, and without null bytes. -/
def trimOutput (text : String) : String :=
  String.ofList (Text.dropTrailingBreaks (text.toList.filter (· != Char.ofNat 0)))

/-- The pieces of a number. -/
def numberPieces (s : Shell) (quoted : Bool) (expr : String) : Shell × List Piece :=
  if s.isBash then
    let (s, n) := s.computeHere expr
    (s, piecesOf quoted true (Text.ofInt n))
  else match Number.eval (fun name => (s.value? name).getD "") expr with
  | .error (.expression fault) =>
    (s.abort ("arithmetic expression: " ++ fault ++ ": \"" ++ expr ++ "\""), [])
  | .error (.notNumber value) => (s.abort ("Illegal number: " ++ value), [])
  | .ok (n, assigned) =>
    (assigned.foldl (fun s (name, value) => s.assign name value) s,
      piecesOf quoted true (Text.ofInt n))

/-- Puts a file in place that holds what a command writes, or one that a command reads later. -/
def openPipe (take : Taker) (s : Shell) (body : Command) (reads : Bool) : Shell × String :=
  let place : Place := ["dev", "fd", Text.ofNat (63 - s.extras.pipes.length)]
  let taken := s.taken
  let (s, text) := if reads then (s, "") else take s body
  let disk := (s.world.disk.put ["dev", "fd"] .directory).write place text
  let pipes := (place, if reads then some body else none) :: s.extras.pipes
  ({ s with
    world := { s.world with disk := disk }
    extras := { s.extras with pipes := pipes }
    taken := taken }, place.text)

/-- Fills in the parts of a word. Inside the argument of a parameter that is not quoted, plain texts
may separate fields too. -/
def fillIn (take : Taker) : Nat → Bool → Shell → Word → Shell × List Piece
  | 0, _, s, _ => (s, [])
  | _, _, s, [] => (s, [])
  | fuel + 1, inside, s, p :: rest =>
    if s.flow != .going then (s, [])
    else
      let (s, found) := match p with
        | .text t quoted => (s, piecesOf quoted inside t)
        | .param name index use args quoted =>
          paramPieces (fun inside s w => fillIn take fuel inside s w) s name index use args quoted
        | .output body quoted =>
          let (s, text) := take s body
          (s, piecesOf quoted true (trimOutput text))
        | .number expr quoted =>
          let (s, ps) := fillIn take fuel false s expr
          if s.flow != .going then (s, []) else numberPieces s quoted (textOf ps)
        | .piped body reads =>
          let (s, path) := openPipe take s body reads
          (s, piecesOf true false path)
        | .assigned (.text name _ append value) =>
          let (s, ps) := fillIn take fuel false s value
          (s, piecesOf true false (name ++ (if append then "+=" else "=") ++ textOf ps))
        | .assigned (.list name _ _) => (s, piecesOf true false name)
      let (s, others) := fillIn take fuel inside s rest
      (s, found ++ others)

/-- More steps than the filling in of a word takes. -/
def fillBound : Nat := 1000

/-- Puts the home directory in the place of a tilde at the start of a word. -/
def untilde (s : Shell) : Word → Word
  | .text t false :: rest =>
    match t.toList with
    | '~' :: cs =>
      let user := cs.takeWhile (· != '/')
      let behind := cs.drop user.length
      if behind.isEmpty && !rest.isEmpty then .text t false :: rest
      else
        let home := if user.isEmpty then s.value? "HOME"
          else if s.isBash && user == ['+'] then some s.here.text
          else if s.isBash && user == ['-'] then s.value? "OLDPWD"
          else if user == "root".toList then some "/root" else none
        match home with
        | some home => .text home true :: .text (String.ofList behind) false :: rest
        | none => .text t false :: rest
    | _ => .text t false :: rest
  | w => w

/-- How pieces are split into fields. -/
structure Splitter where
  fields : List (List PatternChar)
  current : Option (List PatternChar)
  /-- Whether a blank ended the last field and no other separator came since. -/
  blank : Bool

/-- Ends the field that is being read. -/
def Splitter.close (sp : Splitter) : Splitter :=
  match sp.current with
  | some cs => { sp with fields := sp.fields ++ [cs], current := none }
  | none => sp

/-- Takes one piece. -/
def Splitter.step (separators : List Char) (sp : Splitter) : Piece → Splitter
  | .nothing => { sp with current := some (sp.current.getD []), blank := false }
  | .boundary => { sp.close with blank := false }
  | .char c splits =>
    if splits && separators.contains c.char then
      if c.char == ' ' || c.char == '\t' || c.char == '\n' then
        if sp.current.isSome then { sp.close with blank := true } else sp
      else if sp.current.isSome then { sp.close with blank := false }
      else if sp.blank then { sp with blank := false }
      else { sp with fields := sp.fields ++ [[]] }
    else { sp with current := some (sp.current.getD [] ++ [c]), blank := false }

/-- The fields of pieces. -/
def split (separators : List Char) (ps : List Piece) : List (List PatternChar) :=
  (ps.foldl (Splitter.step separators) ⟨[], none, false⟩).close.fields

/-- The texts that a field stands for. -/
def expandField (s : Shell) (cs : List PatternChar) : List String :=
  if s.has 'f' then [Glob.text cs]
  else
    let pattern := if s.isBash then caretSets cs else cs
    match Glob.expand s.manner s.world.disk s.here pattern with
    | [] =>
      if s.hasLong "nullglob" && Glob.isProper (s.readPattern cs) then [] else [Glob.text cs]
    | found => found

/-- Whether a field is a pattern that stands for no path, where that is a fault. -/
def isFruitless (s : Shell) (cs : List PatternChar) : Bool :=
  s.hasLong "failglob" && !s.has 'f' && Glob.isProper (s.readPattern cs) &&
    (Glob.expand s.manner s.world.disk s.here (caretSets cs)).isEmpty

/-- The texts that a word without braces stands for. -/
def fields (take : Taker) (s : Shell) (w : Word) : Shell × List String :=
  let (s, ps) := fillIn take fillBound false s (untilde s w)
  if s.flow != .going then (s, [])
  else
    let found := split s.separators ps
    match found.find? (isFruitless s) with
    | some cs => (s.give ("no match: " ++ Glob.text cs), [])
    | none => (s, found.flatMap (expandField s))

/-- The texts that words without braces stand for. -/
def plainFields (take : Taker) (s : Shell) : List Word → Shell × List String
  | [] => (s, [])
  | w :: rest =>
    let (s, found) := fields take s w
    if s.flow != .going then (s, [])
    else
      let (s, others) := plainFields take s rest
      (s, found ++ others)

/-- The texts that words stand for. -/
def allFields (take : Taker) (s : Shell) (ws : List Word) : Shell × List String :=
  plainFields take s (if s.has 'B' then ws.flatMap Braces.words else ws)

/-- The one text that a word stands for. -/
def single (take : Taker) (s : Shell) (w : Word) : Shell × String :=
  let (s, ps) := fillIn take fillBound false s (untilde s w)
  (s, textOf ps)

/-- The characters of the pattern that a word stands for. -/
def patternOf (take : Taker) (s : Shell) (w : Word) : Shell × List PatternChar :=
  let (s, ps) := fillIn take fillBound false s (untilde s w)
  (s, charsOf ps)

/-- Fills in an assignment. -/
def given (take : Taker) (s : Shell) : Assign → Shell × Given
  | .text name index append value =>
    let (s, index) := match index with
      | some w =>
        let (s, key) := single take s w
        (s, some key)
      | none => (s, none)
    let (s, value) := single take s value
    (s, ⟨name, index, append, .inl value⟩)
  | .list name append items =>
    let (s, found) := items.foldl (fun (s, found) (key, value) =>
      match key with
      | some key =>
        let (s, key) := single take s key
        let (s, text) := single take s value
        (s, found ++ [(some key, text)])
      | none =>
        let (s, texts) := allFields take s [value]
        (s, found ++ texts.map fun t => (none, t))) (s, [])
    (s, ⟨name, none, append, .inr found⟩)

/-- Opens a file for output and complaints. -/
def openBoth (s : Shell) (mode : OpenMode) (path : String) : Except String Shell :=
  (s.openFile 1 mode path).bind fun s => s.copyDescriptor 2 "1"

/-- The first descriptor from ten on that is not in use. -/
def freeDescriptor (s : Shell) : Nat :=
  ((List.range 100).map (· + 10)).find? (fun fd => !s.descriptors.any (·.1 == fd)) |>.getD 10

/-- Applies a redirection of a descriptor with a number. -/
def redirectNumber (take : Taker) (s : Shell) : Redirect → Shell × Except String Shell
  | .file fd mode path =>
    let (s, path) := single take s path
    (s, s.openFile fd mode path)
  | .copy fd source =>
    let (s, source) := single take s source
    let isFile := s.isBash && fd == 1 && (Text.readNat? (source.toList.filter (· != '-'))).isNone &&
      source != "-"
    if isFile then (s, openBoth s .write source) else (s, s.copyDescriptor fd source)
  | .line fd text =>
    let (s, text) := single take s text
    (s, .ok (s.connectTo fd (.text (text ++ "\n"))))
  | .both append path =>
    let (s, path) := single take s path
    (s, openBoth s (if append then .append else .write) path)
  | .here fd document =>
    let w := ((s.documents.find? (·.1 == document)).map Prod.snd).getD []
    let (s, ps) := fillIn take fillBound false s w
    (s, .ok (s.connectTo fd (.text (textOf ps))))
  | .fresh _ _ => (s, .ok s)

/-- Applies one redirection. A fault is complained about by the caller. -/
def redirect (take : Taker) (s : Shell) : Redirect → Shell × Except String Shell
  | .fresh name (.copy _ [.text "-" false]) =>
    let fd := (s.value? name).bind fun v => Text.readNat? v.toList
    (s, .ok ((fd.map fun fd => s.connect fd none).getD s))
  | .fresh name r =>
    let fd := freeDescriptor s
    redirectNumber take (s.assign name (Text.ofNat fd)) (r.on fd)
  | r => redirectNumber take s r

/-- Applies redirections in order, and says whether that went well. -/
def redirectAll (take : Taker) (s : Shell) : List Redirect → Shell × Bool
  | [] => (s, true)
  | r :: rest =>
    match redirect take s r with
    | (s, result) =>
      if s.flow != .going then (s, false)
      else
        match result with
        | .ok s => redirectAll take s rest
        | .error fault => ((s.complain fault).finish (if s.isBash then 1 else 2), false)

end TensorCompiler.Shell
