import PrecompileBridge.Bytes

/-!
Method selectors: the four bytes at the head of calldata that name the method to run.
-/
namespace PrecompileBridge

structure Selector where
  first : UInt8
  second : UInt8
  third : UInt8
  fourth : UInt8
  deriving DecidableEq, Inhabited

namespace Selector

def size : Nat := 4

/-- The selector at the head of calldata; shorter calldata has none. -/
def ofHead? : Bytes → Option Selector
  | first :: second :: third :: fourth :: _ => some ⟨first, second, third, fourth⟩
  | _ => none

def ofBytes? : Bytes → Option Selector
  | [first, second, third, fourth] => some ⟨first, second, third, fourth⟩
  | _ => none

def toBytes (selector : Selector) : Bytes :=
  [selector.first, selector.second, selector.third, selector.fourth]

def hex (selector : Selector) : String := selector.toBytes.hex

theorem ofBytes?_eq_some_iff {bytes : Bytes} {selector : Selector} :
    ofBytes? bytes = some selector ↔ bytes = selector.toBytes := by
  constructor
  · intro found
    unfold ofBytes? at found
    split at found
    · cases found
      rfl
    · contradiction
  · rintro rfl
    rfl

theorem ofBytes?_eq_none_iff {bytes : Bytes} : ofBytes? bytes = none ↔ bytes.length ≠ size := by
  match bytes with
  | [] | [_] | [_, _] | [_, _, _] => simp [ofBytes?, size]
  | [_, _, _, _] => simp [ofBytes?, size]
  | _ :: _ :: _ :: _ :: _ :: rest => simp [ofBytes?, size]

theorem ofHead?_isSome_iff {input : Bytes} : (ofHead? input).isSome ↔ size ≤ input.length := by
  match input with
  | [] | [_] | [_, _] | [_, _, _] => simp [ofHead?, size]
  | _ :: _ :: _ :: _ :: rest => simp [ofHead?, size]

theorem ofHead?_eq_none_iff {input : Bytes} : ofHead? input = none ↔ input.length < size := by
  rw [← Nat.not_le, ← ofHead?_isSome_iff, Option.not_isSome_iff_eq_none]

theorem ofHead?_eq_some_iff {input : Bytes} {selector : Selector} :
    ofHead? input = some selector ↔ selector.toBytes = input.take size := by
  match input with
  | [] | [_] | [_, _] | [_, _, _] => simp [ofHead?, toBytes, size]
  | first :: second :: third :: fourth :: rest =>
    obtain ⟨_, _, _, _⟩ := selector
    simp [ofHead?, toBytes, size, eq_comm]

end Selector

end PrecompileBridge
