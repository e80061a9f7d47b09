import TensorCompiler.Lowering.Session

/-!
# The table of globals

A session keeps a slot for each handle of its module, and the handles of the globals resolved so far
in the order in which they were completed. The table grows when a global is begun that was declared
after the session was opened. If the lowering of a global fails, the slots of everything completed
since it was begun are cleared, and so is its own.
-/

namespace TensorCompiler

open Lowered

/-- What has become of a global. -/
inductive GlobalSlot where
  | unvisited
  | resolving
  | resolved (routine : Routine)

namespace GlobalSlot

/-- A slot of a global under way. -/
def isResolving : GlobalSlot → Bool
  | .resolving => true
  | _ => false

/-- The lowered function in a slot. -/
def routine? : GlobalSlot → Option Routine
  | .resolved r => some r
  | _ => none

end GlobalSlot

/-- A global as it is listed, with the function in its slot. -/
structure ListedGlobal where
  id : Nat
  name : String
  routine : Option Routine

/-- A session with its table: the slots by handle, the handles completed, the builders of kernels,
and what was reported. -/
structure SlotSession (κ : Type) where
  slots : List GlobalSlot
  order : List Nat
  kernels : BuilderTable κ
  log : List LowerEvent

namespace SlotSession

variable {κ : Type}

/-- A session for a module with a number of definitions. -/
def start (definitions : Nat) (kernels : BuilderTable κ) : SlotSession κ :=
  ⟨List.replicate definitions .unvisited, [], kernels, []⟩

/-- The slot of a handle; handles count from one. A slot beyond the table is unvisited. -/
def slot (s : SlotSession κ) (id : Nat) : GlobalSlot :=
  s.slots[id - 1]?.getD .unvisited

/-- Changes the slot of a handle in a table that is long enough, or made so. -/
def put (s : SlotSession κ) (id : Nat) (slot : GlobalSlot) : SlotSession κ :=
  { s with
    slots :=
      (s.slots ++ List.replicate (id - s.slots.length) GlobalSlot.unvisited).set (id - 1) slot }

/-- Forgets the globals completed since there were `start` of them. -/
def rollback (s : SlotSession κ) (start : Nat) : SlotSession κ :=
  { s with
    slots := (s.order.drop start).foldl
      (fun (slots : List GlobalSlot) id => slots.set (id - 1) .unvisited) s.slots
    order := s.order.take start }

/-- The resolved globals in the order in which their resolution completed. -/
def globals (s : SlotSession κ) (m : Module) : List ListedGlobal :=
  s.order.map fun id =>
    ⟨id, ((m.definition id).map Definition.name).getD "", (s.slot id).routine?⟩

instance : SessionState (SlotSession κ) κ (BuilderTable κ) where
  report e s := { s with log := s.log ++ [e] }
  share kernels s := { s with kernels := kernels }
  compiles s f := (s.kernels.lookup f.kernelName).isNone
  load s f compile :=
    let (r, kernels) := s.kernels.load f compile
    (r, { s with kernels := kernels })
  Resolving s id := (s.slot id).isResolving = true
  routine? s id := (s.slot id).routine?
  begin id s := s.put id .resolving
  finish _ id r s := { s.put id (.resolved r) with order := s.order ++ [id] }
  abandon before id s := (s.rollback before.order.length).put id .unvisited

end SlotSession
end TensorCompiler
