import PrecompileBridge.Failure

/-!
Built-in precompiles: pure functions of calldata and supplied gas.
-/
namespace PrecompileBridge

structure BuiltinOutput where
  gasUsed : UInt64
  refund : Int64
  reverted : Bool
  bytes : Bytes

/-- A built-in precompile sees nothing but its input and the gas it may use. -/
abbrev Builtin := Bytes → UInt64 → Except BuiltinFailure BuiltinOutput

namespace BuiltinOutput

def success (gasUsed : UInt64) (bytes : Bytes) : BuiltinOutput := ⟨gasUsed, 0, false, bytes⟩

end BuiltinOutput

end PrecompileBridge
