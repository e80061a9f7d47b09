import TensorCompiler.Kernel.Basic

/-!
# Values

What a program computes with. The code of a function value is left open: a host, the linked
program and a reader of the source give functions different code and share everything else.
-/

namespace TensorCompiler

/-- A value. `absent` stands where a host passes nothing. A function of negative arity takes any
number of arguments. -/
inductive Value (φ : Type) where
  | absent
  | tensor (cell : Cell)
  | tuple (fields : List (Value φ))
  | data (ctor : Ctor) (fields : List (Value φ))
  | func (name : String) (arity : Int) (code : φ)

/-- Why a run stops. Values that a report shows are kept as they are printed. -/
inductive RunError where
  | undefinedVariable (name : String)
  | undefinedGlobal (name : String)
  | paramRange (index : Int) (count : Nat)
  | valueRange (index count : Nat)
  | kernelUnknown (kernel : String)
  | spreadCount (kernel : String) (count : Nat)
  | spreadValue (kernel shown : String)
  | inputCount (kernel : String) (count : Nat) (arity : Int)
  | inputValue (kernel : String) (index : Nat) (shown : String)
  | kernelCall (e : CallError)
  | notFunction (shown : String)
  | argCount (name : String) (got : Nat) (want : Int)
  | conditionForm (shown : String)
  | conditionKind (shown : String)
  | unset
  | atom (e : TensorError)
  | notTuple (index : Int) (shown : String)
  | fieldRange (index : Int) (shown : String)
  | unknownCtor (name : String)
  | ctorTag (name : String) (declared want : Int)
  | ctorArgs (name : String) (got want : Nat)
  | noClause (shown : String)
  | host (message : String)
  | exhausted

/-- The wording of a report. -/
def RunError.message : RunError → String
  | .undefinedVariable name => "undefined variable " ++ name
  | .undefinedGlobal name => "undefined global " ++ name
  | .paramRange index count =>
    "parameter " ++ Text.ofInt index ++ " out of range: " ++ Text.ofNat count ++
      " parameter(s) bound"
  | .valueRange index count =>
    "runtime error: index out of range [" ++ Text.ofNat index ++ "] with length " ++
      Text.ofNat count
  | .kernelUnknown kernel => "kernel " ++ kernel ++ " not found"
  | .spreadCount kernel count =>
    "kernel " ++ kernel ++ ": spread call with " ++ Text.ofNat count ++ " argument(s)"
  | .spreadValue kernel shown => "kernel " ++ kernel ++ ": cannot spread " ++ shown
  | .inputCount kernel count arity =>
    "kernel " ++ kernel ++ ": " ++ Text.ofNat count ++ " input(s) for arity " ++ Text.ofInt arity
  | .inputValue kernel index shown =>
    "kernel " ++ kernel ++ ": argument " ++ Text.ofNat index ++ ": " ++ shown ++ " is not a tensor"
  | .kernelCall e => e.message
  | .notFunction shown => "cannot call " ++ shown
  | .argCount name got want =>
    name ++ ": got " ++ Text.ofNat got ++ " argument(s) but want " ++ Text.ofInt want
  | .conditionForm shown => "condition " ++ shown ++ " is not a tensor"
  | .conditionKind shown => "condition " ++ shown ++ " is not a boolean"
  | .unset => CellError.unset.message
  | .atom e => e.message
  | .notTuple index shown => "cannot project field " ++ Text.ofInt index ++ " of " ++ shown
  | .fieldRange index shown => "field " ++ Text.ofInt index ++ " out of range for " ++ shown
  | .unknownCtor name => "unknown constructor " ++ name
  | .ctorTag name declared want =>
    "constructor " ++ name ++ " has tag " ++ Text.ofInt declared ++ " but the program expects " ++
      Text.ofInt want
  | .ctorArgs name got want =>
    "constructor " ++ name ++ ": got " ++ Text.ofNat got ++ " argument(s) but want " ++
      Text.ofNat want
  | .noClause shown => "no clause matching " ++ shown
  | .host message => message
  | .exhausted => "evaluation depth exhausted"

instance : ToString RunError := ⟨RunError.message⟩

namespace Value

variable {φ : Type}

mutual

/-- The printed form of a value. -/
def text : Value φ → String
  | .absent => "<nil>"
  | .tensor cell => cell.text
  | .tuple fields => "(" ++ Text.commaList (texts fields) ++ ")"
  | .data ctor [] => ctor.name
  | .data ctor (f :: fs) =>
    ctor.name ++ "(" ++ Text.commaList (text f :: texts fs) ++ ")"
  | .func name arity _ => "func " ++ name ++ "/" ++ Text.ofInt arity

/-- The printed forms of several values. -/
def texts : List (Value φ) → List String
  | [] => []
  | v :: vs => text v :: texts vs

end

/-- The printed name of the form of a value. -/
def formName : Value φ → String
  | .absent => "<nil>"
  | .tensor _ => "*values.Tensor"
  | .tuple _ => "*values.Tuple"
  | .data _ _ => "*values.Data"
  | .func _ _ _ => "*values.Closure"

/-- A value with the name of its form, as reports show it. -/
def shown : Value φ → String
  | .absent => "<nil>"
  | v => v.formName ++ " " ++ v.text

/-- The boolean a condition holds. -/
def truth : Value φ → Except RunError Bool
  | .tensor cell =>
    match cell.content with
    | none => .error .unset
    | some t =>
      match t.atom with
      | .error e => .error (.atom e)
      | .ok _ =>
        match t.elements with
        | ⟨.bool, [b]⟩ => .ok b
        | _ => .error (.conditionKind cell.text)
  | .absent => .error (.conditionForm "%!s(<nil>)")
  | v => .error (.conditionForm v.text)

/-- A field of a tuple. -/
def field (v : Value φ) (index : Int) : Except RunError (Value φ) :=
  match v with
  | .tuple fields =>
    match (if index < 0 then none else fields[index.toNat]?) with
    | some f => .ok f
    | none => .error (.fieldRange index v.text)
  | _ => .error (.notTuple index v.shown)

/-- The value a constructor builds. The program's idea of its tag and of its number of fields must
be that of its declaration. -/
def construct (ctors : List Ctor) (name : String) (tag : Int) (fields : List (Value φ)) :
    Except RunError (Value φ) :=
  match ctors.find? (·.name == name) with
  | none => .error (.unknownCtor name)
  | some c =>
    if (c.tag : Int) ≠ tag then .error (.ctorTag name c.tag tag)
    else if fields.length ≠ c.inputs.length then
      .error (.ctorArgs name fields.length c.inputs.length)
    else .ok (.data c fields)

/-- The slots of kernel inputs, counted from `index`. -/
def slots (kernel : String) (index : Nat) : List (Value φ) → Except RunError (List Slot)
  | [] => .ok []
  | .tensor cell :: vs =>
    let s := match cell.content with
      | some t => Slot.holds t
      | none => Slot.empty
    (slots kernel (index + 1) vs).map (s :: ·)
  | v :: _ => .error (.inputValue kernel index v.shown)

end Value
end TensorCompiler
