import PrecompileBridge.Catalog
import PrecompileBridge.Fork
import PrecompileBridge.Notice

/-!
The registry says which precompile lives at an address. Three layers are asked in turn: the custom
contracts, the built-ins that the host installed, the built-ins of the fork.
-/
namespace PrecompileBridge

inductive Precompile
  | builtin (run : Builtin)
  | custom (id : ContractId)

structure Registry where
  standard : AddressMap Builtin
  installed : AddressMap Builtin
  custom : AddressMap ContractId

namespace Registry

def ofFork (fork : Fork) : Registry := ⟨fork.builtins, .empty, .empty⟩

def installBuiltin (registry : Registry) (address : Address) (builtin : Builtin) : Registry :=
  { registry with installed := registry.installed.insert address builtin }

def builtin? (registry : Registry) (address : Address) : Option Builtin :=
  match registry.installed.get? address with
  | some builtin => some builtin
  | none => registry.standard.get? address

def custom? (registry : Registry) (address : Address) : Option ContractId :=
  registry.custom.get? address

/-- A custom contract hides the built-in at its address. -/
def resolve (registry : Registry) (address : Address) : Option Precompile :=
  match registry.custom? address with
  | some id => some (.custom id)
  | none => (registry.builtin? address).map .builtin

def contains (registry : Registry) (address : Address) : Bool :=
  registry.custom.contains address || (registry.builtin? address).isSome

def contractAddresses (registry : Registry) : List Address := registry.custom.keys

theorem contains_eq_isSome_resolve (registry : Registry) (address : Address) :
    registry.contains address = (registry.resolve address).isSome := by
  unfold contains resolve custom? AddressMap.contains
  cases registry.custom.get? address <;> simp

variable {Label : Type}

/-- Conflicts met when a contract takes its place in a set under construction: a built-in that it
hides, and an earlier contract of the set that it replaces. -/
def conflicts (registry : Registry) (catalog : Catalog Label) (custom : AddressMap ContractId)
    (contract : Contract Label) : List Notice :=
  (if (registry.builtin? contract.address).isSome then
      [.shadowsBuiltin contract.address contract.name] else []) ++
    match custom.get? contract.address with
    | none => []
    | some earlier => [.duplicateAddress contract.address (catalog.nameOf earlier)]

def collect (registry : Registry) (catalog : Catalog Label) :
    AddressMap ContractId → List ContractId → AddressMap ContractId × List Notice
  | custom, [] => (custom, [])
  | custom, id :: rest =>
    match catalog.get? id with
    | none => collect registry catalog custom rest
    | some contract =>
      let later := collect registry catalog (custom.insert contract.address id) rest
      (later.1, registry.conflicts catalog custom contract ++ later.2)

/-- Replaces every custom contract by the listed ones; the last of several at one address stays. -/
def replaceCustom (registry : Registry) (catalog : Catalog Label) (ids : List ContractId) :
    Registry × List Notice :=
  let collected := registry.collect catalog .empty ids
  ({ registry with custom := collected.1 },
    collected.2 ++ [.installed collected.1.size registry.custom.size])

end Registry

end PrecompileBridge
