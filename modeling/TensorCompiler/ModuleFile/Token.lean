import TensorCompiler.Text.Basic
import TensorCompiler.Text.Character
import TensorCompiler.Text.Printable

/-!
# Tokens of module files

Lines of words, marks and quoted texts. A comment runs to the end of its line.
-/

/-!
## Versions

Semantic versions as module files write them, language versions, and the major version that the end
of a module path names.
-/

namespace TensorCompiler.ModuleFile

/-- A decimal digit. -/
def isDigit (c : Char) : Bool :=
  '0' ≤ c && c ≤ '9'

/-- A numeral without a superfluous zero in front. -/
def isNumeral (cs : List Char) : Bool :=
  !cs.isEmpty && cs.all isDigit && (cs.length == 1 || cs.head? != some '0')

/-- A character of a label. -/
def isLabelChar (c : Char) : Bool :=
  isDigit c || ('a' ≤ c && c ≤ 'z') || ('A' ≤ c && c ≤ 'Z') || c == '-'

/-- Whether the parts of a label are well formed; a part of digits only may be held to the form of a
numeral. -/
def isLabel (numerals : Bool) (cs : List Char) : Bool :=
  (Text.splitChars '.' cs).all fun part =>
    !part.isEmpty && part.all isLabelChar &&
      (!numerals || !part.all isDigit || isNumeral part)

/-- A semantic version. -/
structure Version where
  numbers : List (List Char)
  label : List Char
  build : List Char
deriving DecidableEq, Repr

namespace Version

/-- Reads a version of one to three numbers. Only three may have a label or a build behind them. -/
def read? (s : String) : Option Version :=
  match s.toList with
  | 'v' :: cs =>
    let core := cs.takeWhile fun c => c != '-' && c != '+'
    let rest := cs.drop core.length
    let label := match rest with
      | '-' :: ds => ds.takeWhile (· != '+')
      | _ => []
    let behind := rest.dropWhile (· != '+')
    let numbers := Text.splitChars '.' core
    let labelOk := match rest with
      | '-' :: _ => isLabel true label
      | _ => true
    let buildOk := match behind with
      | [] => true
      | _ :: b => isLabel false b
    if numbers.all isNumeral && numbers.length ≤ 3 && (numbers.length == 3 || rest.isEmpty) &&
        labelOk && buildOk then
      some ⟨numbers, label, behind.drop 1⟩
    else none
  | _ => none

/-- Whether the version stands outside the rule of major versions. -/
def isIncompatible (v : Version) : Bool :=
  v.build == "incompatible".toList

/-- The version written in full. Only one kind of build is kept. -/
def canonical (v : Version) : String :=
  let numbers := v.numbers ++ List.replicate (3 - v.numbers.length) ['0']
  "v" ++ Text.joinWith "." (numbers.map String.ofList) ++
    (if v.label.isEmpty then "" else "-" ++ String.ofList v.label) ++
    (if v.isIncompatible then "+incompatible" else "")

/-- The major version. -/
def major (v : Version) : List Char :=
  'v' :: (v.numbers.headD [])

end Version

/-- Letters, then digits. -/
def isRelease (cs : List Char) : Bool :=
  let letters := cs.takeWhile fun c => 'a' ≤ c && c ≤ 'z'
  let digits := cs.drop letters.length
  !letters.isEmpty && !digits.isEmpty && digits.all isDigit

/-- Whether a text is a language version: two or three numbers and perhaps a release. -/
def isLanguageVersion (s : String) : Bool :=
  let cs := s.toList
  let core := cs.takeWhile fun c => isDigit c || c == '.'
  let release := cs.drop core.length
  match Text.splitChars '.' core with
  | [a, b] => isNumeral a && a != ['0'] && isNumeral b && (release.isEmpty || isRelease release)
  | [a, b, c] =>
    isNumeral a && a != ['0'] && isNumeral b && isNumeral c &&
      (release.isEmpty || isRelease release)
  | _ => false

/-- What the end of a module path says about its major version. -/
inductive PathMajor where
  | none
  | slash (version : List Char)
  | dot (version : List Char)
  | malformed
deriving DecidableEq, Repr

/-- The major version in a path of the host that writes it behind a dot. A path that is marked as
unstable may leave out its number, but the number is not zero. -/
def dottedMajor (cs : List Char) : PathMajor :=
  let mark := "-unstable".toList
  let unstable := mark.isSuffixOf cs
  let r := if unstable then (cs.take (cs.length - mark.length)).reverse else cs.reverse
  let digits := (r.takeWhile isDigit).reverse
  match r.dropWhile isDigit with
  | 'v' :: '.' :: _ =>
    if digits.head? == some '0' && (unstable || digits.length > 1) then .malformed
    else if digits.isEmpty && !unstable then .malformed
    else .dot ('v' :: digits)
  | _ => .malformed

/-- The major version a path names. -/
def pathMajor (path : String) : PathMajor :=
  let cs := path.toList
  if "gopkg.in/".toList.isPrefixOf cs then dottedMajor cs
  else
    let behind := (cs.reverse.takeWhile fun c => isDigit c || c == '.').reverse
    match cs.reverse.drop behind.length with
    | 'v' :: '/' :: _ =>
      if behind.isEmpty then .none
      else if behind.contains '.' || behind.head? == some '0' || behind == ['1'] then .malformed
      else .slash ('v' :: behind)
    | _ => .none

/-- Whether a version fits the major version that a path names. -/
def fitsPath (v : Version) (m : PathMajor) : Bool :=
  match m with
  | .malformed => false
  | .none => v.major == ['v', '0'] || v.major == ['v', '1'] || v.isIncompatible
  | .slash version => v.major == version
  | .dot version =>
    v.major == version ||
      (version == ['v', '1'] && "v0.0.0-".toList.isPrefixOf v.canonical.toList)


/-! ## Tokens -/

/-- A token. A quoted text keeps its marks. -/
inductive Token where
  | word (s : String)
  | mark (c : Char)
  | newline
deriving DecidableEq, Repr

/-- The text of a token. -/
def Token.text : Token → String
  | .word s => s
  | .mark c => String.singleton c
  | .newline => "\n"

/-- A character that stands for itself. -/
def isMark (c : Char) : Bool :=
  ['(', ')', '[', ']', '\x7b', '\x7d', ','].contains c

/-- A character of a word. -/
def isWordChar (c : Char) : Bool :=
  !isMark c && c != ' ' && Text.isPrintable c

/-- The characters behind a comment. -/
def skipComment : List Char → List Char
  | [] => []
  | '\n' :: cs => '\n' :: cs
  | _ :: cs => skipComment cs

/-- The inside of a quoted text with its closing mark, and the rest. -/
def scanQuoted (close : Char) (read : List Char) : List Char → Option (List Char × List Char)
  | [] => none
  | c :: cs =>
    if c == '\n' then none
    else if c == close then some ((c :: read).reverse, cs)
    else if c == '\\' && close == '"' then
      match cs with
      | [] => none
      | d :: ds => scanQuoted close (d :: c :: read) ds
    else scanQuoted close (c :: read) cs

/-- The characters of a word, up to a comment, and the rest. A block comment is not allowed. -/
def scanWord (read : List Char) : List Char → Option (List Char × List Char)
  | [] => some (read.reverse, [])
  | '/' :: '/' :: cs => some (read.reverse, '/' :: '/' :: cs)
  | '/' :: '*' :: _ => none
  | c :: cs => if isWordChar c then scanWord (c :: read) cs else some (read.reverse, c :: cs)

/-- The first token and the rest; `none` inside for the end of the file. -/
def scanToken? (cs : List Char) : Option (Option Token × List Char) :=
  match cs.dropWhile fun c => c == ' ' || c == '\t' || c == '\r' with
  | [] => some (none, [])
  | '/' :: '/' :: rest => some (some .newline, (skipComment rest).drop 1)
  | '/' :: '*' :: _ => none
  | '\n' :: rest => some (some .newline, rest)
  | c :: rest =>
    if isMark c then some (some (.mark c), rest)
    else if c == '"' || c == Char.ofNat 96 then
      match scanQuoted c [c] rest with
      | some (q, rest) => some (some (.word (String.ofList q)), rest)
      | none => none
    else
      match scanWord [] (c :: rest) with
      | some ([], _) => none
      | some (w, rest) => some (some (.word (String.ofList w)), rest)
      | none => none

/-- All tokens of a file. -/
def tokens? : Nat → List Char → Option (List Token)
  | 0, _ => none
  | fuel + 1, cs =>
    match scanToken? cs with
    | none => none
    | some (none, _) => some []
    | some (some t, rest) => (tokens? fuel rest).map (t :: ·)

end TensorCompiler.ModuleFile
