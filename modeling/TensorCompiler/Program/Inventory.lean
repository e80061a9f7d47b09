import TensorCompiler.Lowered.Node
import TensorCompiler.ModuleFile.Basic

/-!
# Programs

A lowered entry function with the globals it reaches, and the names under which it is written.
-/

namespace TensorCompiler

/-- A lowered program. An empty package name or module path is derived from the name of the entry
point; `support` is the local module that runs emitted programs. -/
structure Program where
  name : String
  entry : Option Lowered.Routine
  globals : List Lowered.ResolvedGlobal
  package : String
  modulePath : String
  support : Option LocalModule

/-!
## Inventories

What a program needs from outside: the constants it captures and the data types it uses, in the
order in which a walk from the entry function first meets them, and its kernels with their arities.
Every kernel has one arity in the whole program.
-/

open Lowered

/-- What a program captures and calls. -/
structure Inventory where
  params : List Constant
  kernels : List (String × Int)
  dataTypes : List DataRef

/-- Why a program has no inventory. -/
inductive InventoryError where
  | missingNode
  | kernelArity (kernel : String) (known met : Int)
  | inGlobal (name : String) (cause : InventoryError)
  | noEntry (program : String)
  | entryName (program : String)

/-- The wording of a refusal. -/
def InventoryError.message : InventoryError → String
  | .missingNode => "cannot emit node <nil>"
  | .kernelArity kernel known met =>
    "kernel " ++ kernel ++ " called with arity " ++ Text.ofInt known ++ " and " ++ Text.ofInt met
  | .inGlobal name cause => "global " ++ name ++ ": " ++ cause.message
  | .noEntry program => "program " ++ program ++ " has no entry function"
  | .entryName program => "entry " ++ program ++ " has the same name as a global"

namespace Inventory

/-- Nothing met yet. -/
def empty : Inventory := ⟨[], [], []⟩

/-- Adds a constant unless it was met. -/
def addParam (inv : Inventory) (c : Constant) : Inventory :=
  if inv.params.contains c then inv else { inv with params := inv.params ++ [c] }

/-- Adds a data type unless it was met. -/
def addData (inv : Inventory) (d : DataRef) : Inventory :=
  if inv.dataTypes.contains d then inv else { inv with dataTypes := inv.dataTypes ++ [d] }

/-- The arity of a kernel that was met. -/
def arity? (inv : Inventory) (kernel : String) : Option Int :=
  (inv.kernels.find? (·.1 == kernel)).map Prod.snd

/-- Adds a call of a kernel. -/
def addKernel (inv : Inventory) (kernel : String) (arity : Int) :
    Except InventoryError Inventory :=
  match inv.arity? kernel with
  | some known => if known = arity then .ok inv else .error (.kernelArity kernel known arity)
  | none => .ok { inv with kernels := inv.kernels ++ [(kernel, arity)] }

mutual

/-- Adds the data types of a pattern. -/
def addPattern (inv : Inventory) : Pattern → Inventory
  | .ctor c fields => addPatterns (inv.addData c.data) fields
  | .tuple fields => addPatterns inv fields
  | _ => inv

/-- Adds the data types of several patterns. -/
def addPatterns (inv : Inventory) : List Pattern → Inventory
  | [] => inv
  | p :: ps => addPatterns (addPattern inv p) ps

end

mutual

/-- Adds what a node needs. -/
def addNode (inv : Inventory) : Node → Except InventoryError Inventory
  | .hole => .error .missingNode
  | .var _ => .ok inv
  | .const c => .ok (inv.addParam c)
  | .global _ => .ok inv
  | .packed kernel arity _ args _ => do
    let inv ← inv.addKernel kernel arity
    addNodes inv args
  | .invoke callee args _ => do
    let inv ← addNode inv callee
    addNodes inv args
  | .decl bindings body => do
    let inv ← addBindings inv bindings
    addNode inv body
  | .cond test yes no _ => do
    let inv ← addNode inv test
    let inv ← addNode inv yes
    addNode inv no
  | .tuple fields _ => addNodes inv fields
  | .proj n _ _ => addNode inv n
  | .cases data clauses _ => do
    let inv ← addNode inv data
    addClauses inv clauses
  | .fn _ body _ => addNode inv body
  | .construct c _ args => addNodes (inv.addData c.data) args

/-- Adds what several nodes need. -/
def addNodes (inv : Inventory) : List Node → Except InventoryError Inventory
  | [] => .ok inv
  | n :: ns => do
    let inv ← addNode inv n
    addNodes inv ns

/-- Adds what the values of bindings need. -/
def addBindings (inv : Inventory) : List (Var × Node) → Except InventoryError Inventory
  | [] => .ok inv
  | (_, n) :: rest => do
    let inv ← addNode inv n
    addBindings inv rest

/-- Adds what clauses need, the pattern of each before its body. -/
def addClauses (inv : Inventory) : List (Pattern × Node) → Except InventoryError Inventory
  | [] => .ok inv
  | (p, n) :: rest => do
    let inv ← addNode (addPattern inv p) n
    addClauses inv rest

end

/-- Adds what globals need. None of them may have the name of the entry point. -/
def addGlobals (entry : String) (inv : Inventory) :
    List ResolvedGlobal → Except InventoryError Inventory
  | [] => .ok inv
  | g :: gs =>
    if g.name = entry then .error (.entryName entry)
    else
      match addNode inv g.routine.body with
      | .ok inv => addGlobals entry inv gs
      | .error e => .error (.inGlobal g.name e)

/-- The names of the kernels, sorted. -/
def kernelNames (inv : Inventory) : List String :=
  (inv.kernels.map Prod.fst).mergeSort fun a b => !decide (b < a)

end Inventory

/-- The inventory of a program with its entry function. -/
def Program.inventory (p : Program) : Except InventoryError (Routine × Inventory) :=
  match p.entry with
  | none => .error (.noEntry p.name)
  | some entry => do
    let inv ← Inventory.empty.addNode entry.body
    let inv ← Inventory.addGlobals p.name inv p.globals
    return (entry, inv)

end TensorCompiler
