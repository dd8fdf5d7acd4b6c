import PrecompileBridge.Address
import PrecompileBridge.Selector

/-!
Notices: what the bridge, the registry and the denylist report while they work. A notice is
data; its line is the level, target, message and fields under which it is logged.
-/
namespace PrecompileBridge

inductive Level
  | trace
  | debug
  | info
  | warn
  | error
  deriving DecidableEq

def Level.name : Level → String
  | .trace => "TRACE"
  | .debug => "DEBUG"
  | .info => "INFO"
  | .warn => "WARN"
  | .error => "ERROR"

inductive Notice
  | disabledCall (address : Address) (name : String) (caller : Address)
  | shortOfGas (address : Address) (cost supplied : UInt64)
  /-- A call was admitted and paid for; `readOnly` is what the caller asked for. -/
  | running (address : Address) (name : String) (caller : Address) (cost remaining : UInt64)
      (readOnly : Bool) (depth : UInt64)
  | enteredReadOnly
  | leftReadOnly
  | unknownSelector (name : String) (address : Address) (selector : Selector)
  | forbiddenWrite (name : String) (caller : Address) (selector : Selector)
  /-- An executor is about to start; `readOnly` is whether writes are forbidden to it. -/
  | invoking (name : String) (caller : Address) (selector : Selector) (readOnly : Bool)
      (length : Nat)
  | fatalBuiltin (message : String)
  | shadowsBuiltin (address : Address) (name : String)
  | duplicateAddress (address : Address) (replaced : String)
  | installed (count previous : Nat)
  | denied (address : Address) (name : String)
  | unregistered (address : Address)
  deriving DecidableEq

namespace Notice

structure Line where
  level : Level
  target : String
  message : String
  fields : List (String × String)

private def bridgeTarget : String := "ev_revm::interpreter"

private def methodTarget : String := "ev_precompiles::dispatch"

private def registryTarget : String := "ev_revm::precompiles"

private def denylistTarget : String := "ev_revm::config"

def line : Notice → Line
  | disabledCall address name caller =>
    ⟨.warn, bridgeTarget, "call to disabled precompile",
      [("address", address.hex), ("name", name), ("caller", caller.hex)]⟩
  | shortOfGas address cost supplied =>
    ⟨.debug, bridgeTarget, "precompile call out of gas",
      [("address", address.hex), ("gas_cost", toString cost), ("supplied_gas", toString supplied)]⟩
  | running address name caller cost remaining readOnly depth =>
    ⟨.debug, bridgeTarget, "running custom precompile",
      [("address", address.hex), ("name", name), ("caller", caller.hex),
        ("gas_cost", toString cost), ("remaining_gas", toString remaining),
        ("read_only", toString readOnly), ("depth", toString depth)]⟩
  | enteredReadOnly => ⟨.trace, bridgeTarget, "entering read-only mode", []⟩
  | leftReadOnly => ⟨.trace, bridgeTarget, "leaving read-only mode", []⟩
  | unknownSelector name address selector =>
    ⟨.warn, methodTarget, "unknown selector",
      [("precompile", name), ("address", address.hex), ("selector", selector.hex)]⟩
  | forbiddenWrite name caller selector =>
    ⟨.warn, methodTarget, "write attempted in read-only context",
      [("precompile", name), ("caller", caller.hex), ("selector", selector.hex)]⟩
  | invoking name caller selector readOnly length =>
    ⟨.debug, methodTarget, "dispatching precompile method",
      [("precompile", name), ("caller", caller.hex), ("selector", selector.hex),
        ("read_only", toString readOnly), ("calldata_len", toString length)]⟩
  | fatalBuiltin message =>
    ⟨.error, bridgeTarget, "fatal built-in precompile error", [("msg", message)]⟩
  | shadowsBuiltin address name =>
    ⟨.warn, registryTarget, "custom precompile shadows a built-in precompile",
      [("address", address.hex), ("name", name)]⟩
  | duplicateAddress address replaced =>
    ⟨.warn, registryTarget, "duplicate custom precompile address",
      [("address", address.hex), ("replaced", replaced)]⟩
  | installed count previous =>
    ⟨.info, registryTarget, "installed custom precompiles",
      [("count", toString count), ("previous", toString previous)]⟩
  | denied address name =>
    ⟨.info, denylistTarget, "custom precompile disabled by configuration",
      [("address", address.hex), ("name", name)]⟩
  | unregistered address =>
    ⟨.warn, denylistTarget, "configured precompile address is not registered",
      [("address", address.hex)]⟩

end Notice

end PrecompileBridge
