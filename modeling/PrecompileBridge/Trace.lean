import PrecompileBridge.Call
import PrecompileBridge.Effect

/-!
Traces: what happened in a run, in order, beside its outcome and the machine that it leaves. A
procedure cannot read its trace.
-/
namespace PrecompileBridge

/-- A call to a contract as it was found at entry. -/
structure Frame (Label Host : Type) where
  id : ContractId
  contract : Contract Label
  request : Request
  before : Machine Label Host

namespace Frame

variable {Label Host : Type}

def invocation (frame : Frame Label Host) : Invocation :=
  ⟨frame.request.caller, frame.contract.address, frame.request.input⟩

end Frame

structure Entry (Label Host : Type) where
  frame : Frame Label Host
  method : Method Label
  start : Machine Label Host

/-- What happened, in order. Calls to contracts stand between `called` and `answered`. -/
inductive Event (Label Host : Type)
  | noted (notice : Notice)
  | performed (effect : Effect Label Host)
  | called (frame : Frame Label Host)
  | entered (entry : Entry Label Host)
  | answered (frame : Frame Label Host) (outcome : Outcome CallResult) (after : Machine Label Host)
  | resumed (machine : Machine Label Host)

namespace Event

variable {Label Host : Type}

def notice? : Event Label Host → Option Notice
  | noted notice => some notice
  | _ => none

def entered? : Event Label Host → Option (Entry Label Host)
  | entered entry => some entry
  | _ => none

end Event

/-- What an effect leaves in the trace: itself and what it reports. -/
def Effect.events {Label Host : Type} (effect : Effect Label Host)
    (machine : Machine Label Host) : List (Event Label Host) :=
  .performed effect :: (effect.notices machine).map .noted

structure Run (Label Host α : Type) where
  outcome : Outcome α
  machine : Machine Label Host
  events : List (Event Label Host)

namespace Run

variable {Label Host α β : Type}

def pure (value : α) (machine : Machine Label Host) : Run Label Host α :=
  ⟨.returned value, machine, []⟩

def map (f : α → β) (run : Run Label Host α) : Run Label Host β :=
  ⟨run.outcome.map f, run.machine, run.events⟩

def after (run : Run Label Host α) (earlier : List (Event Label Host)) : Run Label Host α :=
  ⟨run.outcome, run.machine, earlier ++ run.events⟩

def notices (run : Run Label Host α) : List Notice := run.events.filterMap Event.notice?

end Run

end PrecompileBridge
