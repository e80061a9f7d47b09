import TensorCompiler.Tensor.Basic

/-!
# Handles

A device keeps tensors in cells. A cell is written at most once: a fresh output cell is empty and
refuses a second tensor.
-/

namespace TensorCompiler

/-- A device. -/
abbrev DeviceId := Nat

/-- The name of the platform every device belongs to. -/
def platformName : String := "gonative"

/-- A cell on a device. -/
structure Cell where
  device : DeviceId
  content : Option Tensor
deriving DecidableEq

/-- Why an operation on cells is refused. -/
inductive CellError where
  | unset
  | transferUnset
  | alreadySet (t : Tensor)
  | tensor (e : TensorError)

/-- The wording of a refusal. -/
def CellError.message : CellError → String
  | .unset => "handle not set"
  | .transferUnset => "cannot transfer a handle not set"
  | .alreadySet t => "output handle already set to " ++ t.text
  | .tensor e => e.message

instance : ToString CellError := ⟨CellError.message⟩

namespace Cell

/-- The printed form of a cell. -/
def text (c : Cell) : String :=
  match c.content with
  | some t => t.text
  | none => "<unset>"

/-- Writes an empty cell. -/
def set (c : Cell) (content : Option Tensor) : Except CellError Cell :=
  match c.content with
  | some t => .error (.alreadySet t)
  | none => .ok { c with content := content }

end Cell

/-- The cells of all devices. A handle is the position of a cell. -/
structure Memory where
  cells : List Cell

namespace Memory

/-- No cells. -/
def empty : Memory := ⟨[]⟩

/-- A new cell and its handle. -/
def alloc (m : Memory) (c : Cell) : Nat × Memory :=
  (m.cells.length, ⟨m.cells ++ [c]⟩)

/-- The cell of a handle. -/
def cell? (m : Memory) (h : Nat) : Option Cell :=
  m.cells[h]?

/-- Sends host values to a device. -/
def send (m : Memory) (device : DeviceId) (values : HostSlice) (dims : List Int) :
    Except CellError (Nat × Memory) :=
  match Tensor.ofSlice values dims with
  | .ok t => .ok (m.alloc ⟨device, some t⟩)
  | .error e => .error (.tensor e)

/-- A cell of zeros. -/
def zero (m : Memory) (device : DeviceId) (s : Shape) : Except CellError (Nat × Memory) :=
  match Tensor.zero s with
  | .ok t => .ok (m.alloc ⟨device, some t⟩)
  | .error e => .error (.tensor e)

/-- An empty cell, the destination of a kernel. -/
def output (m : Memory) (device : DeviceId) : Nat × Memory :=
  m.alloc ⟨device, none⟩

/-- Replaces the cell of a handle. -/
def put (m : Memory) (h : Nat) (c : Cell) : Memory :=
  ⟨m.cells.set h c⟩

/-- Writes the empty cell of a handle. -/
def set (m : Memory) (h : Nat) (content : Option Tensor) : Except CellError Memory :=
  match m.cell? h with
  | some c => (c.set content).map (m.put h)
  | none => .error .unset

/-- A handle with the same tensor on a device: the handle itself if it is there already. -/
def toDevice (m : Memory) (h : Nat) (device : DeviceId) : Except CellError (Nat × Memory) :=
  match m.cell? h with
  | some ⟨d, some t⟩ => .ok (if d = device then (h, m) else m.alloc ⟨device, some t⟩)
  | _ => .error .transferUnset

/-- The tensor of a handle. -/
def tensor (m : Memory) (h : Nat) : Except CellError Tensor :=
  match m.cell? h with
  | some ⟨_, some t⟩ => .ok t
  | _ => .error .unset

end Memory
end TensorCompiler
