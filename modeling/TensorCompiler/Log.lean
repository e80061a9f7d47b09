import TensorCompiler.Log.Markup
import TensorCompiler.Text.Character
import TensorCompiler.Text.Quoted

/-!
# Leveled logs

A message is written if its level is not silent and not above the level of the log. Later lines of
a message are aligned with its first one, behind the label of its level. The markup of a message is
left out.
-/

namespace TensorCompiler

/-- A log level. The named ones are 0 to 4. -/
structure Level where
  rank : Int
deriving DecidableEq, Repr

namespace Level

/-- No output. -/
def silent : Level := ⟨0⟩

/-- Only errors. -/
def error : Level := ⟨1⟩

/-- Errors and warnings. -/
def warning : Level := ⟨2⟩

/-- Errors, warnings and progress. -/
def info : Level := ⟨3⟩

/-- Everything. -/
def debug : Level := ⟨4⟩

/-- The named levels. -/
def named : List (String × Level) :=
  [("silent", silent), ("error", error), ("warning", warning), ("info", info), ("debug", debug)]

/-- The name of a level. -/
def name (l : Level) : String :=
  match named.find? (·.2 == l) with
  | some p => p.1
  | none => "Level(" ++ Text.ofInt l.rank ++ ")"

/-- The lower-case form of a character where that is an ASCII letter. Besides the capitals these
are the dotted capital I and the Kelvin sign. -/
def lower (c : Char) : Char :=
  if c = 'İ' then 'i' else if c = 'K' then 'k' else c.toLower

/-- The level with a name, in any case and between any blanks. -/
def parse? (s : String) : Option Level :=
  let name := String.ofList ((Text.trimChars s.toList).map lower)
  (named.find? (·.1 == name)).map Prod.snd

/-- The wording of a refused name. -/
def unknownMessage (s : String) : String :=
  "unknown log level " ++ Text.quoted s

/-- Whether a log of level `l` writes messages of level `m`. -/
def enables (l m : Level) : Bool :=
  m != silent && decide (m.rank ≤ l.rank)

end Level

/-- The levels messages are written at. -/
inductive Severity where
  | debug
  | info
  | warning
  | error
deriving DecidableEq, Repr

namespace Severity

/-- The level of a message. -/
def level : Severity → Level
  | .debug => .debug
  | .info => .info
  | .warning => .warning
  | .error => .error

/-- The label in front of a message. -/
def label : Severity → String
  | .debug => "  DEBUG  "
  | .info => " INFO "
  | .warning => " WARNING "
  | .error => "  ERROR  "

end Severity

namespace Log

/-- Later lines of a message, each behind the same margin. -/
def alignedLines (margin : List Char) : List (List Char) → List Char
  | [] => []
  | l :: ls => '\n' :: margin ++ l ++ alignedLines margin ls

/-- Renders two levels of tags. -/
def renderTwice (cs : List Char) : List Char :=
  Markup.render (Markup.render cs)

/-- A message as it is written. Tags inside one another are rendered from the outside in: two levels
in the message, one in each of its lines and two in the lines together. -/
def entry (s : Severity) (message : String) : String :=
  let lead := s.label.toList ++ [' ']
  let margin := List.replicate lead.length ' '
  let lines := Text.splitChars '\n' (Text.dropTrailingBreaks (renderTwice message.toList))
  let text := match lines.map Markup.render with
    | [] => lead
    | l :: ls => lead ++ l ++ alignedLines margin ls
  String.ofList (Markup.dropCodes 0 (renderTwice text) ++ ['\n'])

/-- What a log of the given level writes for a message. -/
def write (level : Level) (s : Severity) (message : String) : String :=
  if level.enables s.level then entry s message else ""

end Log
end TensorCompiler
