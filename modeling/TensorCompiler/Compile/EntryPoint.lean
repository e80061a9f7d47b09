import TensorCompiler.Duration.Basic
import TensorCompiler.Linked.Library
import TensorCompiler.Log

/-!
# Entry points

The entry symbol of a library as a function of the host. The captured parameters are sent to the
device once, into the front of a buffer; every call writes its inputs behind them. An observer sees
each call that returned and may refuse its result.
-/

namespace TensorCompiler

open Linked

/-- A call that returned. -/
structure CallReport where
  name : String
  args : List HostMade
  out : Value Code

/-- What a host does with the reports of calls: nothing, or a refusal in words. -/
abbrev Observer := CallReport → Option String

/-- The entry point of a library. -/
structure EntryPoint where
  library : Library
  name : String
  params : Nat
  inputs : Nat
  observer : Observer
  buffer : List HostMade

/-- Why an entry point is not made. -/
structure ParamError where
  index : Nat
  name : String
  cause : TensorError

/-- The wording of a refusal. -/
def ParamError.message (e : ParamError) : String :=
  "cannot send parameter " ++ Text.ofNat e.index ++ " of " ++ e.name ++ ": " ++ e.cause.message

instance : ToString ParamError := ⟨ParamError.message⟩

/-- Why a call of an entry point fails. -/
inductive EntryError where
  | argCount (name : String) (got want : Nat)
  | arg (e : ArgError)
  | run (name : String) (e : SymbolError)
  | observer (message : String)

/-- The wording of a failure. -/
def EntryError.message : EntryError → String
  | .argCount name got want =>
    name ++ ": got " ++ Text.ofNat got ++ " argument(s) but want " ++ Text.ofNat want
  | .arg e => e.message
  | .run name e => name ++ ": " ++ e.message
  | .observer message => message

instance : ToString EntryError := ⟨EntryError.message⟩

namespace EntryPoint

/-- Sends constants to a device, counted from `index`. -/
def sendParams (name : String) (device : DeviceId) (index : Nat) :
    List Constant → Except ParamError (List HostMade)
  | [] => .ok []
  | c :: cs =>
    match Tensor.ofSlice c.values c.shape.dims with
    | .error e => .error ⟨index, name, e⟩
    | .ok t => do
      let rest ← sendParams name device (index + 1) cs
      return .tensor ⟨device, some t⟩ :: rest

/-- The entry point of a library under the name of its entry symbol. -/
def make (lib : Library) (name : String) (observer : Observer) : Except ParamError EntryPoint := do
  let params ← sendParams name lib.image.device 0 lib.source.params
  return {
    library := lib
    name := name
    params := lib.source.params.length
    inputs := lib.source.inputs
    observer := observer
    buffer := params ++ List.replicate lib.source.inputs .absent }

/-- Writes inputs into a buffer from a position on, each as soon as it is converted. -/
def writeInputs {φ : Type} (device : DeviceId) (base index : Nat) (buffer : List (Value φ)) :
    List (HostArg φ) → Except ArgError Unit × List (Value φ)
  | [] => (.ok (), buffer)
  | a :: as =>
    match a.toValue device index with
    | .error e => (.error e, buffer)
    | .ok v => writeInputs device base (index + 1) (buffer.set (base + index) v) as

/-- Runs the entry symbol on the buffer and shows the observer what it returned. -/
def runBuffer (e : EntryPoint) (fuel : Nat) (buffer : List HostMade) :
    Except EntryError CallReport :=
  match e.library.call fuel e.name buffer with
  | .error err => .error (.run e.name err)
  | .ok r =>
    let report : CallReport := ⟨e.name, buffer.drop e.params, r.value⟩
    match e.observer report with
    | some message => .error (.observer message)
    | none => .ok report

/-- Calls the entry point. -/
def call (e : EntryPoint) (fuel : Nat) (args : List (HostArg HostFunction)) :
    Except EntryError CallReport × EntryPoint :=
  if args.length ≠ e.inputs then (.error (.argCount e.name args.length e.inputs), e)
  else
    match writeInputs e.library.image.device e.params 0 e.buffer args with
    | (.error err, buffer) => (.error (.arg err), { e with buffer := buffer })
    | (.ok (), buffer) => (e.runBuffer fuel buffer, { e with buffer := buffer })

end EntryPoint

/-! ### Traces

A call of an entry point as a log shows it: its name, its arguments, its result and its duration. -/

namespace Trace

variable {φ ψ : Type}

/-- The line of a call. -/
def line (name : String) (args : List (Value φ)) (out : Value ψ) (elapsed : Duration) : String :=
  name ++ "(" ++ Text.commaList (args.map Value.text) ++ ") = " ++ out.text ++
    " [" ++ elapsed.text ++ "]"

/-- What a log of the given level writes for a call. -/
def write (level : Level) (name : String) (args : List (Value φ)) (out : Value ψ)
    (elapsed : Duration) : String :=
  Log.write level .info (line name args out elapsed)

end Trace
end TensorCompiler
