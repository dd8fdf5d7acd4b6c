import PrecompileBridge.Bridge

/-!
Scripts: executors and built-ins given as data. A script writes into a buffer, reads and changes the
machine and makes calls; the buffer is its output. The stage is the host's own state, on which
scripts leave notes.
-/
namespace PrecompileBridge.Scenario

inductive Note
  | invoked (invocation : Invocation) (readOnly : Bool) (depth : UInt64)
      (shared : Option (String × Nat))
  | addresses (addresses : List Address)
  | nested (outcome : Outcome (Option CallResult))

structure Stage where
  calls : Nat
  notes : List Note
  shared : List (String × Nat)
  handles : List (String × ContractId)
  kept : List (String × Precompile)

namespace Stage

def empty : Stage := ⟨0, [], [], [], []⟩

def note (stage : Stage) (note : Note) : Stage := { stage with notes := stage.notes ++ [note] }

def sharedCount (stage : Stage) (name : String) : Nat := (stage.shared.lookup name).getD 0

def count (stage : Stage) (shared : Option String) : Stage :=
  let counted := { stage with calls := stage.calls + 1 }
  match shared with
  | none => counted
  | some name =>
    { counted with
      shared := (name, stage.sharedCount name + 1) :: stage.shared.filter (·.1 != name) }

def hold (stage : Stage) (handle : String) (id : ContractId) : Stage :=
  { stage with handles := (handle, id) :: stage.handles.filter (·.1 != handle) }

def held? (stage : Stage) (handle : String) : Option ContractId := stage.handles.lookup handle

def keep (stage : Stage) (name : String) (precompile : Precompile) : Stage :=
  { stage with kept := (name, precompile) :: stage.kept.filter (·.1 != name) }

end Stage

inductive Input
  | given (bytes : Bytes)
  | rest

structure NestedCall where
  address : Address
  input : Input
  gas : UInt64
  readOnly : Bool
  caller : Option Address
  catches : Bool
  propagates : Bool

inductive Action
  | emit (bytes : Bytes)
  | emitInput (start : Nat)
  | emitCaller
  | emitContract
  | emitState
  | emitCalls
  | fail (error : CallFailure)
  | panic (message : String)
  | writeReadOnly (readOnly : Bool)
  | writeDepth (depth : UInt64)
  | addDepth (amount : UInt64)
  | disable (handle : String) (disabled : Bool)
  | install (handles : List String)
  | noteAddresses
  | call (nested : NestedCall)

inductive Script
  | stop
  | step (action : Action) (rest : Script)
  | ifReadOnly (yes no rest : Script)
  deriving Inhabited

structure Routine where
  script : Script
  shared : Option String

/-- What a script does to the machine, and what it returns. -/
abbrev Play (α : Type) := Procedure Routine Stage α

namespace Play

def view {α : Type} (f : Machine Routine Stage → α) : Play α := Procedure.read f

def note (note : Note) : Play Unit := Procedure.modifyHost (·.note note)

def holding (handle : String) : Play (Option ContractId) := view (·.host.held? handle)

def disable (handle : String) (disabled : Bool) : Play Unit := do
  match ← holding handle with
  | none => return ()
  | some id => Procedure.perform (.writeFlag id disabled)

def install (handles : List String) : Play Unit := do
  let ids ← view fun machine => handles.filterMap machine.host.held?
  Procedure.perform (.install ids)

end Play

open Play

namespace NestedCall

def request (nested : NestedCall) (invocation : Invocation) : Request where
  caller := nested.caller.getD invocation.contract
  input :=
    match nested.input with
    | .given bytes => bytes
    | .rest => invocation.input.drop Selector.size
  gas := nested.gas
  readOnly := nested.readOnly

/-- Appends what the callee returned. A panic that is not caught passes through without a note. -/
def resume (nested : NestedCall) (buffer : Bytes) :
    Outcome (Option CallResult) → Play (Except CallFailure Bytes)
  | .panicked message =>
    if nested.catches then do
      note (.nested (.panicked message))
      return .ok buffer
    else .panic message
  | .returned result => do
    note (.nested (.returned result))
    match result with
    | none => return .ok buffer
    | some answer =>
      match answer.toExcept with
      | .ok output => return .ok (buffer ++ output)
      | .error error => return if nested.propagates then .error error else .ok buffer

end NestedCall

def wordBytes (word : UInt64) : Bytes := Bytes.bigEndian 8 word.toNat

namespace Action

/-- The buffer after the action, or the error that ends the script. -/
def play (invocation : Invocation) (buffer : Bytes) : Action → Play (Except CallFailure Bytes)
  | emit bytes => return .ok (buffer ++ bytes)
  | emitInput start => return .ok (buffer ++ invocation.input.drop start)
  | emitCaller => return .ok (buffer ++ invocation.caller.toBytes)
  | emitContract => return .ok (buffer ++ invocation.contract.toBytes)
  | emitState => view fun machine =>
    .ok (buffer ++ [if machine.readOnly then 1 else 0] ++ wordBytes machine.depth)
  | emitCalls => view fun machine => .ok (buffer ++ Bytes.bigEndian 8 machine.host.calls)
  | fail error => return .error error
  | panic message => .panic message
  | writeReadOnly readOnly => do
    Procedure.perform (.writeReadOnly readOnly)
    return .ok buffer
  | writeDepth depth => do
    Procedure.perform (.writeDepth depth)
    return .ok buffer
  | addDepth amount => do
    let depth ← view (·.depth)
    Procedure.perform (.writeDepth (depth + amount))
    return .ok buffer
  | disable handle disabled => do
    Play.disable handle disabled
    return .ok buffer
  | install handles => do
    Play.install handles
    return .ok buffer
  | noteAddresses => do
    let addresses ← view (·.registry.contractAddresses)
    note (.addresses addresses)
    return .ok buffer
  | call nested =>
    .call (.address nested.address) (nested.request invocation) (nested.resume buffer)

end Action

namespace Script

def play (invocation : Invocation) : Script → Bytes → Play (Except CallFailure Bytes)
  | stop, buffer => return .ok buffer
  | step action rest, buffer => do
    match ← action.play invocation buffer with
    | .error error => return .error error
    | .ok buffer => rest.play invocation buffer
  | ifReadOnly yes no rest, buffer => do
    let readOnly ← view (·.readOnly)
    match ← (if readOnly then yes.play invocation buffer else no.play invocation buffer) with
    | .error error => return .error error
    | .ok buffer => rest.play invocation buffer

end Script

namespace Routine

def behaviour : Behaviour Routine Stage := fun routine invocation => do
  Procedure.modifyHost (·.count routine.shared)
  let opening ← view fun machine => Note.invoked invocation machine.readOnly machine.depth
    (routine.shared.map fun name => (name, machine.host.sharedCount name))
  note opening
  routine.script.play invocation []

end Routine

structure BuiltinScript where
  minGas : UInt64
  error : Option BuiltinFailure
  gasUsed : UInt64
  output : Option Bytes
  reverted : Bool
  refund : Int64

/-- The gas is checked first; then the error counts, if there is one. -/
def BuiltinScript.builtin (script : BuiltinScript) : Builtin := fun input supplied =>
  if supplied < script.minGas then .error .outOfGas
  else
    match script.error with
    | some error => .error error
    | none => .ok ⟨script.gasUsed, script.refund, script.reverted, script.output.getD input⟩

end PrecompileBridge.Scenario
