import PrecompileBridge.Bridge
import PrecompileBridge.Text.Outline

/-!
Outlines of the library's values, as they are shown to whoever inspects a machine, a contract, a
call or an error.
-/
namespace PrecompileBridge

open Text

def Bytes.outline (bytes : Bytes) : Outline := .atom bytes.hex

def Address.outline (address : Address) : Outline := .atom address.hex

def Selector.outline (selector : Selector) : Outline := .atom selector.hex

def BuiltinFailure.outline : BuiltinFailure → Outline
  | outOfGas => .atom "OutOfGas"
  | fatal message => .tuple "Fatal" [.text message]
  | fault kind => .atom kind.name
  | other message => .tuple "Other" [.text message]

def CallFailure.outline : CallFailure → Outline
  | builtin error => .tuple "Precompile" [error.outline]
  | fatal message => .tuple "Fatal" [.text message]
  | custom message => .tuple "Custom" [.text message]
  | error => .atom error.name

def DescriptorFlaw.outline : DescriptorFlaw → Outline
  | signatureLength length => .record "InvalidSignature" [("len", .nat length)]
  | error => .atom error.name

def ContractFlaw.outline : ContractFlaw → Outline
  | invalidMethod signature cause =>
    .record "InvalidMethod"
      [("signature", .list (signature.map fun byte => .nat byte.toNat)), ("error", cause.outline)]
  | duplicateMethod selector => .record "DuplicateMethod" [("selector", selector.outline)]
  | error => .atom error.name

def DenylistError.outline : DenylistError → Outline
  | missingVariable key => .record "MissingEnv" [("var", .text key)]
  | blankVariable key => .record "EmptyEnv" [("var", .text key)]
  | invalidAddress entry reason =>
    .tuple "InvalidAddress" [.tuple "AddressParseDisplay" [.text (detail entry reason)]]

def Denylist.outline (denylist : Denylist) : Outline :=
  .record "CustomPrecompilesConfig" [("disabled", .set (denylist.disabled.keys.map Address.outline))]

def CallResult.outline (result : CallResult) : Outline :=
  .record "PrecompileCall"
    [("output", result.output.outline), ("remaining_gas", .nat result.remaining.toNat),
      ("gas_refunded", .int result.refund.toInt),
      ("error", .option (result.error.map CallFailure.outline))]

section

variable {Label Host : Type}

/-- Of an executor only its presence is shown. -/
def Descriptor.outline (descriptor : Descriptor Label) : Outline :=
  .record "PrecompileMethod"
    [("signature", descriptor.signature.outline), ("required_gas", .nat descriptor.gas.toNat),
      ("read_only", .bool descriptor.readOnly), ("has_executor", .bool descriptor.executor.isSome)]

def Method.terms (method : Method Label) : List (String × Outline) :=
  [("selector", method.selector.outline), ("required_gas", .nat method.gas.toNat),
    ("read_only", .bool method.readOnly)]

def Method.outline (method : Method Label) : Outline :=
  .openRecord "RegisteredMethod" method.terms

def Contract.offerOutline (contract : Contract Label) : Outline :=
  .list (contract.methods.map fun method => .record "MethodInfo" method.terms)

def Contract.outline (contract : Contract Label) : Outline :=
  .record "CustomPrecompile"
    [("name", .text contract.name), ("address", contract.address.outline),
      ("methods", .list (contract.methods.map Method.outline)),
      ("disabled", .bool contract.disabled)]

def Catalog.outline? (catalog : Catalog Label) (id : ContractId) : Option Outline :=
  (catalog.get? id).map Contract.outline

/-- Host-installed built-ins by address, and the custom contracts; the fork's own are left out. -/
def Registry.outline (registry : Registry) (catalog : Catalog Label) : Outline :=
  .openRecord "EvPrecompiles"
    [("extra_builtins", .list (registry.installed.keys.map Address.outline)),
      ("custom", .mapping (registry.custom.entries.filterMap fun entry =>
        (catalog.outline? entry.2).map fun outline => (entry.1.hex, outline)))]

def Precompile.outline? (catalog : Catalog Label) : Precompile → Option Outline
  | builtin _ => some (.atom "BuiltIn")
  | custom id => (catalog.outline? id).map fun outline => .tuple "Custom" [outline]

def Machine.resolvedOutline (machine : Machine Label Host) (address : Address) : Outline :=
  .option ((machine.resolve address).bind (Precompile.outline? machine.catalog))

def Machine.outline (host : Host → Outline) (machine : Machine Label Host) : Outline :=
  .record "EvEvm"
    [("host", host machine.host), ("precompiles", machine.registry.outline machine.catalog),
      ("depth", .nat machine.depth.toNat), ("read_only", .bool machine.readOnly)]

def Machine.interpreterOutline (host : Host → Outline) (machine : Machine Label Host) : Outline :=
  .record "EvInterpreter" [("evm", machine.outline host)]

end

end PrecompileBridge
