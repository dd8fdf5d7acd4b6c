import PrecompileBridge.Trace

/-!
Procedures: what an executor does, as a tree of steps. A procedure reads the machine, changes it by
effects and calls precompiles; the outcome of a call, a panic included, comes back to it.
-/
namespace PrecompileBridge

inductive Procedure (Label Host α : Type)
  | done (value : α)
  | panic (message : String)
  | observe (next : Machine Label Host → Procedure Label Host α)
  | act (effect : Effect Label Host) (next : Procedure Label Host α)
  | call (target : Target) (request : Request)
      (next : Outcome (Option CallResult) → Procedure Label Host α)

/-- How calls are answered. Nothing is answered when calls nest too deep to be followed. -/
abbrev Callee (Label Host : Type) :=
  Target → Request → Machine Label Host → Option (Run Label Host (Option CallResult))

namespace Procedure

variable {Label Host α β : Type}

def bind : Procedure Label Host α → (α → Procedure Label Host β) → Procedure Label Host β
  | done value, next => next value
  | panic message, _ => panic message
  | observe rest, next => observe (fun machine => (rest machine).bind next)
  | act effect rest, next => act effect (rest.bind next)
  | call target request rest, next =>
    call target request (fun outcome => (rest outcome).bind next)

instance : Monad (Procedure Label Host) where
  pure := done
  bind := bind

def read (view : Machine Label Host → α) : Procedure Label Host α :=
  observe (fun machine => done (view machine))

def perform (effect : Effect Label Host) : Procedure Label Host Unit := act effect (done ())

def modifyHost (change : Host → Host) : Procedure Label Host Unit :=
  observe (fun machine => perform (.writeHost (change machine.host)))

def run (callee : Callee Label Host) :
    Procedure Label Host α → Machine Label Host → Option (Run Label Host α)
  | done value, machine => some (.pure value machine)
  | panic message, machine => some ⟨.panicked message, machine, []⟩
  | observe next, machine => (next machine).run callee machine
  | act effect next, machine =>
    (next.run callee (effect.apply machine)).map (·.after (effect.events machine))
  | call target request next, machine =>
    (callee target request machine).bind fun answer =>
      ((next answer.outcome).run callee answer.machine).map
        (·.after (answer.events ++ [.resumed answer.machine]))

end Procedure

/-- What each label stands for. -/
abbrev Behaviour (Label Host : Type) :=
  Label → Invocation → Procedure Label Host (Except CallFailure Bytes)

end PrecompileBridge
