import TensorCompiler.Emit.Statement
import TensorCompiler.Emit.Writer
import TensorCompiler.ModuleFile.Basic
import TensorCompiler.Program.Inventory
import TensorCompiler.Text.Basic

/-!
# Emitted sources

The source text, the native declarations and the module file of a program, with the inventory that
a linker needs.
-/

namespace TensorCompiler.Emit

/-!
## Native declarations

The symbols of a program as declarations of an assembly language: every kernel takes one opaque
pointer a parameter, the entry point takes the captured parameters and its inputs and returns one.
-/

/-- A byte that stands for itself in a symbol without quotes. -/
def isSymbolByte (b : UInt8) : Bool :=
  let c := Char.ofNat b.toNat
  ('a' ≤ c && c ≤ 'z') || ('A' ≤ c && c ≤ 'Z') || ('0' ≤ c && c ≤ '9') ||
    ['$', '-', '.', '_'].contains c

/-- A byte inside quotes: itself if it is printable, else its two hexadecimal digits. -/
def escapedByte (b : UInt8) : List Char :=
  let c := Char.ofNat b.toNat
  if 32 ≤ b.toNat && b.toNat < 127 && c != '"' && c != '\\' then [c]
  else '\\' :: (Text.hexDigits 2 b.toNat).map Char.toUpper

/-- A text between quotes. -/
def quotedBytes (s : String) : String :=
  "\"" ++ String.ofList (s.toUTF8.toList.flatMap escapedByte) ++ "\""

/-- Whether a name is a numeral that fits a machine word. -/
def isNumber (name : String) : Bool :=
  match Text.readNat? name.toList with
  | some n => decide (n < 18446744073709551616)
  | none => false

/-- A symbol with a name. Quotes surround a name that is a number and a name with unusual bytes. -/
def symbol (name : String) : String :=
  if name.toUTF8.toList.all isSymbolByte && !isNumber name then "@" ++ name
  else "@" ++ quotedBytes name

/-- A declaration of a function of opaque pointers. -/
def declaration (result symbol : String) (arity : Nat) : String :=
  let params := (List.range arity).map fun i => "i8* %" ++ Text.ofNat i
  "declare " ++ result ++ " " ++ symbol ++ "(" ++ Text.commaList params ++ ")"

/-- The symbols of names in order. Those without a name are numbered from `next` on. -/
def symbols (next : Nat) : List String → List String
  | [] => []
  | name :: names =>
    if name.isEmpty then ("@" ++ Text.ofNat next) :: symbols (next + 1) names
    else symbol name :: symbols next names

/-- The declarations of a program. -/
def declarations (entry : String) (arity : Nat) (kernels : List (String × Int)) : String :=
  let functions := kernels.map (fun k => (k.1, "void", k.2.toNat)) ++ [(entry, "i8*", arity)]
  let lines := List.zipWith (fun s f => declaration f.2.1 s f.2.2)
    (symbols 0 (functions.map Prod.fst)) functions
  "source_filename = " ++ quotedBytes entry ++ "\n" ++
    String.join (lines.map fun l => "\n" ++ l ++ "\n")

end TensorCompiler.Emit

namespace TensorCompiler

open Emit

/-- An emitted program. -/
structure Source where
  package : String
  text : String
  declarations : String
  moduleFile : String
  params : List Constant
  kernels : List String
  dataTypes : List DataRef
  inputs : Nat

/-- Why a program is not emitted. -/
inductive EmitError where
  | inventory (e : InventoryError)
  | package (name : String)
  | function (name : String) (e : WriteError)
  | unnamed
  | kernelArity (kernel : String) (arity : Int)
  | modulePath (path : String) (fault : PathFault)

/-- The wording of a refusal. -/
def EmitError.message : EmitError → String
  | .inventory e => e.message
  | .package name => "invalid package name " ++ Text.quoted name
  | .function name e => "cannot emit " ++ name ++ ": " ++ e.message
  | .unnamed => "entry point without a name"
  | .kernelArity _ _ => "runtime error: makeslice: len out of range"
  | .modulePath path fault =>
    "invalid module path " ++ Text.quoted path ++ ": malformed import path " ++ Text.quoted path ++
      ": " ++ fault.message

instance : ToString EmitError := ⟨EmitError.message⟩

namespace Emit

/-- A function under the name it is registered with. -/
structure Definition where
  name : String
  symbol : String
  arity : Nat
  routine : Lowered.Routine

/-- The names of the emitted package itself. -/
def reservedSymbols : List String :=
  ["Register", "Entry", "NumParams", "Kernels"]

/-- Names the functions of a program in order, the entry point last. -/
def nameDefinitions (names : NameSupply) :
    List (String × String × Lowered.Routine) → List Definition
  | [] => []
  | (stem, name, r) :: rest =>
    let (symbol, names) := names.fresh (stem ++ name)
    ⟨name, symbol, r.params.length, r⟩ :: nameDefinitions names rest

/-- The functions of a program in order, the entry point last. -/
def definitions (p : Program) (entry : Lowered.Routine) : List Definition :=
  nameDefinitions (NameSupply.empty.reserveAll reservedSymbols)
    ((p.globals.map fun g => ("global_", g.name, g.routine)) ++ [("entry_", p.name, entry)])

/-- The bodies of functions, each with its symbol. -/
def writeDefinitions (captured : List Constant) : List Definition → Except EmitError (List Routine)
  | [] => .ok []
  | d :: ds =>
    match writeRoutine captured d.routine with
    | .error e => .error (.function d.name e)
    | .ok body => do
      let rest ← writeDefinitions captured ds
      return ⟨d.symbol, body⟩ :: rest

/-- The lines that register a function. -/
def registerLines (d : Definition) : List String :=
  [line 1 ("if err := r.Define(" ++ Text.quoted d.name ++ ", " ++ Text.ofNat d.arity ++ ", " ++
    d.symbol ++ "); err != nil \x7b"), line 2 "return err", line 1 "\x7d"]

/-- The lines of the list of kernels. -/
def kernelLines (kernels : List String) : List String :=
  if kernels.isEmpty then ["var Kernels = []string\x7b\x7d"]
  else ["var Kernels = []string\x7b"] ++ (kernels.map fun k => line 1 (Text.quoted k ++ ",")) ++
    ["\x7d"]

/-- The lines of the imports. Only a program that calls kernels names calling conventions. -/
def importLines (usesKernels : Bool) : List String :=
  ["import (", line 1 "\"github.com/gx-org/aot/api/values\""] ++
    (if usesKernels then [line 1 "\"github.com/gx-org/aot/build/lowered\""] else []) ++
    [line 1 "\"github.com/gx-org/aot/golang/aotrt\"", ")"]

/-- The lines of the source text. -/
def sourceLines (package entry : String) (params : Nat) (kernels : List String)
    (defs : List Definition) (routines : List Routine) : List String :=
  ["// Code generated by aotc. DO NOT EDIT.", "", "package " ++ package, ""] ++
    importLines (!kernels.isEmpty) ++
    ["", "// Entry is the name of the entry point.", "const Entry = " ++ Text.quoted entry, "",
      "// NumParams is the number of parameters captured by the program.",
      "const NumParams = " ++ Text.ofNat params, "", "// Kernels called by the program."] ++
    kernelLines kernels ++ [""] ++
    (routines.flatMap fun r => r.lines ++ [""]) ++
    ["// Register defines the functions of the program in a runtime.",
      "func Register(r *aotrt.Runtime) error \x7b"] ++
    defs.flatMap registerLines ++ [line 1 "return nil", "\x7d", ""]

/-- The package of a program. -/
def packageName (p : Program) : String :=
  if p.package.isEmpty then Names.identifier p.name else p.package

/-- The path of the emitted module. -/
def modulePath (p : Program) : String :=
  if p.modulePath.isEmpty then "aot.local/" ++ p.name else p.modulePath

end Emit

/-- Emits a program. -/
def Program.emit (p : Program) : Except EmitError Source :=
  match p.inventory with
  | .error e => .error (.inventory e)
  | .ok (entry, inv) => do
    let package := packageName p
    if !Names.isIdentifier package || package == "_" then throw (.package package)
    let defs := Emit.definitions p entry
    let routines ← writeDefinitions inv.params defs
    if p.name.isEmpty then throw .unnamed
    let kernels := inv.kernels.mergeSort fun a b => !decide (b.1 < a.1)
    if let some (kernel, arity) := kernels.find? (·.2 < 0) then throw (.kernelArity kernel arity)
    let path := Emit.modulePath p
    if let some fault := ImportPath.fault path then throw (.modulePath path fault)
    return {
      package := package
      text := Text.joinWith "\n"
        (sourceLines package p.name inv.params.length inv.kernelNames defs routines)
      declarations := Emit.declarations p.name (inv.params.length + entry.params.length) kernels
      moduleFile := ModuleFile.text path p.support
      params := inv.params
      kernels := inv.kernelNames
      dataTypes := inv.dataTypes
      inputs := entry.params.length }

end TensorCompiler
