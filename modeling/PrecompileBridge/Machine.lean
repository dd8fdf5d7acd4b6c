import PrecompileBridge.Registry

/-!
The machine that precompile calls run on: the host's own state, the registry, the call depth, the
read-only flag and the catalog of contracts.
-/
namespace PrecompileBridge

structure Machine (Label Host : Type) where
  host : Host
  registry : Registry
  depth : UInt64
  /-- While set, state must not be written. -/
  readOnly : Bool
  catalog : Catalog Label

namespace Machine

variable {Label Host : Type}

def ofFork (host : Host) (fork : Fork) (depth : UInt64) : Machine Label Host :=
  ⟨host, .ofFork fork, depth, false, .empty⟩

def resolve (machine : Machine Label Host) (address : Address) : Option Precompile :=
  machine.registry.resolve address

def registered (machine : Machine Label Host) : List (Contract Label) :=
  machine.registry.custom.values.filterMap machine.catalog.get?

end Machine

end PrecompileBridge
