import PrecompileBridge.Procedure

/-!
The bridge answers calls. A call to a contract is refused, or it is paid for in advance and its
method runs on the machine, read-only if the caller asked for that. A built-in runs apart from the
machine.
-/
namespace PrecompileBridge

abbrev Executor (Label Host : Type) :=
  Label → Invocation → Machine Label Host → Option (Run Label Host (Except CallFailure Bytes))

namespace Bridge

variable {Label Host α : Type}

/-- Makes the machine read-only while the body runs. Only a guard that set the flag clears it, and
it does so whether the body returns or panics. -/
def guarded (requested : Bool) (body : Machine Label Host → Option (Run Label Host α))
    (machine : Machine Label Host) : Option (Run Label Host α) :=
  if requested && !machine.readOnly then
    (body { machine with readOnly := true }).map fun run =>
      ⟨run.outcome, { run.machine with readOnly := false },
        .noted .enteredReadOnly :: run.events ++ [.noted .leftReadOnly]⟩
  else body machine

def refuse (value : α) (notices : List Notice) (machine : Machine Label Host) :
    Option (Run Label Host α) :=
  some ⟨.returned value, machine, notices.map .noted⟩

/-- Runs the method that the input selects, given whether writes are forbidden. -/
def invoke (execute : Executor Label Host) (frame : Frame Label Host) (readOnly : Bool)
    (machine : Machine Label Host) : Option (Run Label Host (Except CallFailure Bytes)) :=
  let name := frame.contract.name
  let caller := frame.request.caller
  match frame.contract.select frame.request.input readOnly with
  | .headless => refuse (.error .reverted) [] machine
  | .unknown selector =>
    refuse (.error .reverted) [.unknownSelector name frame.contract.address selector] machine
  | .forbidden selector =>
    refuse (.error .writeProtection) [.forbiddenWrite name caller selector] machine
  | .chosen method =>
    (execute method.executor frame.invocation machine).map
      (·.after [.noted (.invoking name caller method.selector readOnly
        frame.request.input.length), .entered ⟨frame, method, machine⟩])

def answer (execute : Executor Label Host) (frame : Frame Label Host) :
    Option (Run Label Host CallResult) :=
  let address := frame.contract.address
  let name := frame.contract.name
  let request := frame.request
  match frame.contract.admission request.input request.gas with
  | .disabled =>
    refuse (.failure .disabled request.gas) [.disabledCall address name request.caller]
      frame.before
  | .headless => refuse (.failure .reverted 0) [] frame.before
  | .shortOfGas cost =>
    refuse (.failure .outOfGas 0) [.shortOfGas address cost request.gas] frame.before
  | .admitted cost remaining =>
    (guarded request.readOnly (fun machine => invoke execute frame machine.readOnly machine)
      frame.before).map fun run =>
        (run.map (.settle remaining)).after
          [.noted (.running address name request.caller cost remaining request.readOnly
            frame.before.depth)]

/-- A call to a contract, from its entry to its answer. -/
def callContract (execute : Executor Label Host) (frame : Frame Label Host) :
    Option (Run Label Host CallResult) :=
  (answer execute frame).map fun run =>
    ⟨run.outcome, run.machine,
      .called frame :: run.events ++ [.answered frame run.outcome run.machine]⟩

def builtinNotices : Except BuiltinFailure BuiltinOutput → List Notice
  | .error (.fatal message) => [.fatalBuiltin message]
  | _ => []

def callBuiltin (builtin : Builtin) (request : Request) (machine : Machine Label Host) :
    Option (Run Label Host CallResult) :=
  let result := builtin request.input request.gas
  refuse (.ofBuiltin request.gas result) (builtinNotices result) machine

def locate (machine : Machine Label Host) : Target → Option Precompile
  | .address address => machine.resolve address
  | .resolved precompile => some precompile

/-- Answers a call; where there is no precompile there is no result. -/
def call (execute : Executor Label Host) : Callee Label Host := fun target request machine =>
  match locate machine target with
  | none => some (.pure none machine)
  | some (.builtin builtin) => (callBuiltin builtin request machine).map (Run.map some)
  | some (.custom id) =>
    match machine.catalog.get? id with
    | none => some (.pure none machine)
    | some contract => (callContract execute ⟨id, contract, request, machine⟩).map (Run.map some)

end Bridge

namespace Behaviour

variable {Label Host : Type}

/-- Runs labels by their behaviour, following calls to the given nesting and no further. -/
def execute (behaviour : Behaviour Label Host) : Nat → Executor Label Host
  | 0 => fun _ _ _ => none
  | nesting + 1 => fun label invocation machine =>
    (behaviour label invocation).run (Bridge.call (behaviour.execute nesting)) machine

def call (behaviour : Behaviour Label Host) (nesting : Nat) : Callee Label Host :=
  Bridge.call (behaviour.execute nesting)

end Behaviour

end PrecompileBridge
