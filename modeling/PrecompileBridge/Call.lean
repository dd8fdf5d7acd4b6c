import PrecompileBridge.Registry

/-!
Calls: what is asked of a precompile, and what comes back.
-/
namespace PrecompileBridge

structure Request where
  caller : Address
  input : Bytes
  gas : UInt64
  readOnly : Bool

inductive Target
  | address (address : Address)
  | resolved (precompile : Precompile)

/-- What an executor is told. The supplied gas is not part of it. -/
structure Invocation where
  caller : Address
  contract : Address
  input : Bytes
  deriving DecidableEq

/-- Code either returns or panics; a panic unwinds to whoever catches it. -/
inductive Outcome (α : Type)
  | returned (value : α)
  | panicked (message : String)

namespace Outcome

variable {α β : Type}

def map (f : α → β) : Outcome α → Outcome β
  | returned value => returned (f value)
  | panicked message => panicked message

end Outcome

/-- The result of a call as the calling frame sees it. -/
structure CallResult where
  output : Bytes
  remaining : UInt64
  refund : Int64
  error : Option CallFailure
  deriving DecidableEq

namespace CallResult

def success (output : Bytes) (remaining : UInt64) : CallResult := ⟨output, remaining, 0, none⟩

def failure (error : CallFailure) (remaining : UInt64) : CallResult := ⟨[], remaining, 0, some error⟩

def succeeded (result : CallResult) : Bool := result.error.isNone

def mustAbort (result : CallResult) : Bool := result.error.any CallFailure.mustAbort

def toExcept (result : CallResult) : Except CallFailure Bytes :=
  match result.error with
  | none => .ok result.output
  | some error => .error error

def settle (remaining : UInt64) : Except CallFailure Bytes → CallResult
  | .ok output => success output remaining
  | .error error => failure error remaining

def leftover (supplied used : UInt64) : UInt64 := if used ≤ supplied then supplied - used else 0

/-- A reverted built-in keeps its bytes and the unused gas; a failed one keeps nothing. Fatal failures
are taken first and apart from the others. -/
def ofBuiltin (supplied : UInt64) : Except BuiltinFailure BuiltinOutput → CallResult
  | .ok output =>
    if output.reverted then
      ⟨output.bytes, leftover supplied output.gasUsed, 0, some .reverted⟩
    else ⟨output.bytes, leftover supplied output.gasUsed, output.refund, none⟩
  | .error (.fatal message) => failure (.fatal message) 0
  | .error error => failure (.ofBuiltin error) 0

theorem ofBuiltin_error (supplied : UInt64) (error : BuiltinFailure) :
    ofBuiltin supplied (.error error) = failure (.ofBuiltin error) 0 := by
  cases error <;> rfl

end CallResult

end PrecompileBridge
