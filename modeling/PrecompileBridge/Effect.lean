import PrecompileBridge.Denylist
import PrecompileBridge.Machine

/-!
Effects: the single changes that a host or an executor can make to a machine.
-/
namespace PrecompileBridge

inductive Effect (Label Host : Type)
  | writeHost (host : Host)
  | writeDepth (depth : UInt64)
  | writeReadOnly (readOnly : Bool)
  | writeFlag (id : ContractId) (disabled : Bool)
  | install (ids : List ContractId)
  | installBuiltin (address : Address) (builtin : Builtin)
  /-- Adds a contract to the catalog, if one can be built. -/
  | build (address : Address) (descriptors : List (Descriptor Label)) (name : String)
  | deny (denylist : Denylist)

namespace Effect

variable {Label Host : Type}

def apply (machine : Machine Label Host) : Effect Label Host → Machine Label Host
  | writeHost host => { machine with host }
  | writeDepth depth => { machine with depth }
  | writeReadOnly readOnly => { machine with readOnly }
  | writeFlag id disabled => { machine with catalog := machine.catalog.writeFlag id disabled }
  | install ids => { machine with registry := (machine.registry.replaceCustom machine.catalog ids).1 }
  | installBuiltin address builtin =>
    { machine with registry := machine.registry.installBuiltin address builtin }
  | build address descriptors name =>
    match Contract.construct address descriptors name with
    | .error _ => machine
    | .ok contract => { machine with catalog := machine.catalog.add contract }
  | deny denylist =>
    { machine with catalog := (denylist.apply machine.registry machine.catalog).catalog }

def notices (machine : Machine Label Host) : Effect Label Host → List Notice
  | install ids => (machine.registry.replaceCustom machine.catalog ids).2
  | deny denylist => (denylist.apply machine.registry machine.catalog).notices
  | _ => []

end Effect

end PrecompileBridge
