import TensorCompiler.Duration.Basic
import TensorCompiler.Log
import TensorCompiler.Toml.Document

/-!
# Configurations

How the compiler logs and how emitted programs are built. A configuration is read from a document
with two tables, and what the document leaves out keeps its default.
-/

namespace TensorCompiler

/-- How emitted programs are built. -/
structure BuildConfig where
  command : List String
  timeout : Duration
  workDir : String
  keepSource : Bool
deriving DecidableEq, Repr

/-- A configuration. -/
structure Config where
  logLevel : Level
  shareRegistry : Bool
  build : BuildConfig
deriving DecidableEq, Repr

/-- Why a document is no configuration. -/
inductive ConfigError where
  | document
  | logLevel (name : String)
  | timeout (e : Duration.ReadError)
  | notPositive (source : String)
deriving DecidableEq, Repr

/-- The wording of a refusal. -/
def ConfigError.message : ConfigError → String
  | .document => "cannot parse configuration"
  | .logLevel name => "compiler.log_level: " ++ Level.unknownMessage name
  | .timeout e => "build.timeout: " ++ e.message
  | .notPositive source => "build.timeout: " ++ source ++ " is not a positive duration"

instance : ToString ConfigError := ⟨ConfigError.message⟩

namespace Config

/-- Two minutes. -/
def defaultTimeout : Duration := ⟨120000000000⟩

/-- The configuration without a document. -/
def default : Config :=
  ⟨.warning, false, ⟨[], defaultTimeout, "", false⟩⟩

/-- What a document says. -/
structure Document where
  logLevel : String
  shareRegistry : Bool
  command : List String
  timeout : String
  workDir : String
  keepSource : Bool

/-- The value of a key, written in small or in capital letters. -/
def lookup (t : Toml.Table) (key : String) : Option Toml.Value :=
  match t.get? key with
  | some v => some v
  | none => t.get? (String.ofList (key.toList.map Char.toUpper))

/-- A table under a key, empty if there is none. -/
def tableOf (t : Toml.Table) (key : String) : Except ConfigError Toml.Table :=
  match lookup t key with
  | none => .ok (Toml.Table.empty false)
  | some (.table t) => .ok t
  | some _ => .error .document

/-- The text that a value stands for. An integer beyond the signed words is taken for the code of a
character; no character has such a code, so it gives the replacement character. -/
def text? : Toml.Value → Option String
  | .text s => some s
  | .integer n => if n < Toml.signedLimit then none else some "\ufffd"
  | _ => none

/-- A text under a key, empty if there is none. -/
def textOf (t : Toml.Table) (key : String) : Except ConfigError String :=
  match (lookup t key).map text? with
  | none => .ok ""
  | some (some s) => .ok s
  | some none => .error .document

/-- A boolean under a key, false if there is none. -/
def boolOf (t : Toml.Table) (key : String) : Except ConfigError Bool :=
  match lookup t key with
  | none => .ok false
  | some (.bool b) => .ok b
  | some _ => .error .document

/-- A list of texts under a key, empty if there is none. -/
def textsOf (t : Toml.Table) (key : String) : Except ConfigError (List String) :=
  match lookup t key with
  | none => .ok []
  | some (.array items) =>
    match items.mapM text? with
    | some texts => .ok texts
    | none => .error .document
  | some _ => .error .document

/-- What a document says, if all its values have the right types. -/
def document (root : Toml.Table) : Except ConfigError Document := do
  let compiler ← tableOf root "compiler"
  let build ← tableOf root "build"
  return {
    logLevel := ← textOf compiler "log_level"
    shareRegistry := ← boolOf compiler "share_registry"
    command := ← textsOf build "command"
    timeout := ← textOf build "timeout"
    workDir := ← textOf build "work_dir"
    keepSource := ← boolOf build "keep_source" }

/-- The log level a document names. -/
def readLevel (name : String) : Except ConfigError Level :=
  if name.isEmpty then .ok default.logLevel
  else
    match Level.parse? name with
    | some level => .ok level
    | none => .error (.logLevel name)

/-- The timeout a document names. -/
def readTimeout (text : String) : Except ConfigError Duration :=
  if text.isEmpty then .ok defaultTimeout
  else
    match Duration.read text with
    | .error e => .error (.timeout e)
    | .ok d => if d.nanoseconds ≤ 0 then .error (.notPositive text) else .ok d

/-- Reads a configuration. -/
def read (text : String) : Except ConfigError Config :=
  match Toml.read? text with
  | none => .error .document
  | some root => do
    let doc ← document root
    let level ← readLevel doc.logLevel
    let timeout ← readTimeout doc.timeout
    return ⟨level, doc.shareRegistry, ⟨doc.command, timeout, doc.workDir, doc.keepSource⟩⟩

/-- Why a file is no configuration. -/
inductive LoadError where
  | missing (path : String)
  | content (path : String) (e : ConfigError)

/-- The wording of a refusal. -/
def LoadError.message : LoadError → String
  | .missing path => "open " ++ path ++ ": no such file or directory"
  | .content path e => path ++ ": " ++ e.message

instance : ToString LoadError := ⟨LoadError.message⟩

/-- Reads a configuration from the content of a file, if there is one. -/
def load (path : String) (content : Option String) : Except LoadError Config :=
  match content with
  | none => .error (.missing path)
  | some text =>
    match read text with
    | .ok c => .ok c
    | .error e => .error (.content path e)

/-- Writes a configuration. Empty lists and texts are left out. -/
def write (c : Config) : String :=
  let unlessEmpty (empty : Bool) (key value : String) := if empty then [] else [(key, value)]
  Toml.tableText "build"
    (unlessEmpty c.build.command.isEmpty "command" (Toml.listText c.build.command) ++
      [("keep_source", Toml.boolText c.build.keepSource),
        ("timeout", Toml.quoted c.build.timeout.text)] ++
      unlessEmpty c.build.workDir.isEmpty "work_dir" (Toml.quoted c.build.workDir)) ++
  Toml.tableText "compiler"
    [("log_level", Toml.quoted c.logLevel.name),
      ("share_registry", Toml.boolText c.shareRegistry)]

/-- Whether emitted programs are written to a directory and built there. -/
def usesToolchain (c : Config) : Bool :=
  !c.build.command.isEmpty || !c.build.workDir.isEmpty

end Config
end TensorCompiler
