import PrecompileBridge.Address.Checksum
import PrecompileBridge.Description
import PrecompileBridge.Scenario.Script

/-!
Sessions: a host that works on one machine step by step. It builds and holds contracts, installs
them, makes calls and inspects what it has; a panic ends only the step in which it happens.
-/
namespace PrecompileBridge.Scenario

open Text

inductive Callable
  | address (address : Address)
  | kept (name : String)
  | held (handle : String)
  | builtin (builtin : Builtin)

inductive Exhibit
  | contract (handle : String)
  | offer (handle : String)
  | machine
  | interpreter
  | registry
  | resolved (address : Address)

inductive Step
  | build (handle : String) (address : Address) (name : String)
      (descriptors : List (Descriptor Routine)) (must : Bool) (disabled : Option Bool)
  | describe (handle : String)
  | price (handle : String) (input : Bytes)
  | writeFlag (handle : String) (disabled : Bool)
  /-- Runs a method of a held contract without the bridge. -/
  | invoke (handle : String) (caller : Address) (input : Bytes) (readOnly : Bool)
  | runBare (handle : String)
  | inspect (exhibit : Exhibit) (blockwise : Bool)
  | install (handles : List String)
  | listing
  | installBuiltin (address : Address) (builtin : Builtin)
  | resolve (address : Address) (keep : Option String)
  | call (callable : Callable) (request : Request)
  | writeReadOnly (readOnly : Bool)
  | writeDepth (depth : UInt64)
  | deny (list : String)

inductive Resolved
  | nothing
  | builtin
  | custom (name : String) (disabled : Bool)

inductive Reply
  | nothing
  | contract (contract : Contract Routine)
  | refused (error : ContractFlaw)
  | text (text : String)
  | flag (value : Bool)
  | produced (result : Except CallFailure Bytes)
  | addresses (addresses : List Address)
  | listing (addresses : List Address) (contracts : List (Contract Routine))
  | resolved (resolved : Resolved) (contains : Bool) (custom : Option String)
  | called (result : Option CallResult)
  | denied (result : Except DenylistError (List Address))

namespace Resolved

def of (machine : Machine Routine Stage) : Option Precompile → Resolved
  | none => nothing
  | some (.builtin _) => builtin
  | some (.custom id) =>
    match machine.catalog.get? id with
    | none => nothing
    | some contract => custom contract.name contract.disabled

end Resolved

def bareRunMessage (contract : Contract Routine) : String :=
  "custom precompile " ++ contract.name ++ " at " ++ contract.address.checksummed ++
    " must be invoked through run_custom"

namespace Exhibit

def outline (machine : Machine Routine Stage) : Exhibit → Outline
  | .contract handle =>
    match (machine.host.held? handle).bind machine.catalog.get? with
    | none => .option none
    | some held => held.outline
  | .offer handle =>
    match (machine.host.held? handle).bind machine.catalog.get? with
    | none => .option none
    | some held => held.offerOutline
  | .machine => machine.outline (fun _ => .atom "Host")
  | .interpreter => machine.interpreterOutline (fun _ => .atom "Host")
  | .registry => machine.registry.outline machine.catalog
  | .resolved address => machine.resolvedOutline address

end Exhibit

namespace Callable

def target? (machine : Machine Routine Stage) : Callable → Option Target
  | .address place => some (.address place)
  | .kept name => (machine.host.kept.lookup name).map .resolved
  | .held handle => (machine.host.held? handle).map fun id => .resolved (.custom id)
  | .builtin run => some (.resolved (.builtin run))

end Callable

namespace Step

open Play

def buildAndHold (handle : String) (address : Address) (name : String)
    (descriptors : List (Descriptor Routine)) (must : Bool) (disabled : Option Bool) :
    Play Reply :=
  match Contract.construct address descriptors name with
  | .error error => if must then .panic error.message else return .refused error
  | .ok contract => do
    let id ← view (·.catalog.next)
    Procedure.perform (.build address descriptors name)
    Procedure.modifyHost (·.hold handle id)
    match disabled with
    | none => return .contract contract
    | some disabled =>
      Procedure.perform (.writeFlag id disabled)
      return .contract { contract with disabled }

def ofHeld (handle : String) (reply : Contract Routine → Reply) : Play Reply :=
  view fun machine =>
    match (machine.host.held? handle).bind machine.catalog.get? with
    | none => .nothing
    | some contract => reply contract

/-- What a step does. Running a method without the bridge is left to `Session.step`. -/
def play : Step → Play Reply
  | build handle address name descriptors must disabled =>
    buildAndHold handle address name descriptors must disabled
  | describe handle => ofHeld handle .contract
  | price handle input =>
    ofHeld handle fun contract => .text (toString (contract.price input))
  | writeFlag handle disabled => do
    Play.disable handle disabled
    ofHeld handle fun contract => .flag contract.disabled
  | invoke _ _ _ _ => return .nothing
  | runBare handle => do
    match ← view fun machine => (machine.host.held? handle).bind machine.catalog.get? with
    | none => return .nothing
    | some contract => .panic (bareRunMessage contract)
  | inspect exhibit blockwise =>
    view fun machine => .text ((exhibit.outline machine).render blockwise)
  | install handles => do
    Play.install handles
    view fun machine => .addresses machine.registry.contractAddresses
  | listing =>
    view fun machine => .listing machine.registry.contractAddresses machine.registered
  | installBuiltin address builtin => do
    Procedure.perform (.installBuiltin address builtin)
    return .nothing
  | resolve address keep => do
    let found ← view (·.resolve address)
    match keep, found with
    | some name, some precompile => Procedure.modifyHost (·.keep name precompile)
    | _, _ => pure ()
    view fun machine =>
      .resolved (.of machine found) (machine.registry.contains address)
        ((machine.registry.custom? address).map machine.catalog.nameOf)
  | call callable request => do
    match ← view callable.target? with
    | none => return .nothing
    | some target => .call target request fun
      | .returned result => return .called result
      | .panicked message => .panic message
  | writeReadOnly readOnly => do
    Procedure.perform (.writeReadOnly readOnly)
    view (.flag ·.readOnly)
  | writeDepth depth => do
    Procedure.perform (.writeDepth depth)
    return .nothing
  | deny list =>
    match Denylist.parse list with
    | .error error => return .denied (.error error)
    | .ok denylist => do
      let unknown ← view fun machine => (denylist.apply machine.registry machine.catalog).unknown
      Procedure.perform (.deny denylist)
      return .denied (.ok unknown)

end Step

structure Session where
  machine : Machine Routine Stage
  nesting : Nat

namespace Session

def start (fork : Fork) (depth : UInt64) (nesting : Nat) : Session :=
  ⟨.ofFork .empty fork depth, nesting⟩

def invokeHeld (session : Session) (handle : String) (caller : Address) (input : Bytes)
    (readOnly : Bool) : Option (Run Routine Stage Reply) := do
  let machine := session.machine
  match (machine.host.held? handle) with
  | none => return .pure .nothing machine
  | some id =>
    match machine.catalog.get? id with
    | none => return .pure .nothing machine
    | some contract =>
      let run ← Bridge.invoke (Routine.behaviour.execute session.nesting)
        ⟨id, contract, ⟨caller, input, 0, readOnly⟩, machine⟩ readOnly machine
      return run.map .produced

def step (session : Session) : Step → Option (Run Routine Stage Reply)
  | .invoke handle caller input readOnly => session.invokeHeld handle caller input readOnly
  | step => step.play.run (Routine.behaviour.call session.nesting) session.machine

def advance (session : Session) (run : Run Routine Stage Reply) : Session :=
  { session with machine := run.machine }

end Session

end PrecompileBridge.Scenario
