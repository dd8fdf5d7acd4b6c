import PrecompileBridge.Bytes

/-!
Account addresses: words of 160 bits, written as forty hexadecimal digits and ordered as numbers,
which is also the order of their bytes.
-/
namespace PrecompileBridge

/-- An account address is a word of 160 bits. -/
structure Address where
  word : BitVec 160
  deriving DecidableEq, Inhabited

namespace Address

def zero : Address := ⟨0⟩

def ofNat (value : Nat) : Address := ⟨BitVec.ofNat 160 value⟩

def toNat (address : Address) : Nat := address.word.toNat

def ofBytes? (bytes : Bytes) : Option Address :=
  if bytes.length = 20 then some (ofNat bytes.toNumber) else none

def toBytes (address : Address) : Bytes := Bytes.bigEndian 20 address.toNat

def hex (address : Address) : String := address.toBytes.hex

def ofHex? (text : String) : Option Address := do
  let bytes ← Bytes.ofHex? text
  ofBytes? bytes

instance : LT Address := ⟨fun lower upper => lower.toNat < upper.toNat⟩

instance (lower upper : Address) : Decidable (lower < upper) :=
  inferInstanceAs (Decidable (lower.toNat < upper.toNat))

theorem lt_def {lower upper : Address} : lower < upper ↔ lower.toNat < upper.toNat := Iff.rfl

theorem ne_of_lt {lower upper : Address} (below : lower < upper) : lower ≠ upper := by
  intro same
  subst same
  exact Nat.lt_irrefl _ (lt_def.mp below)

theorem toNat_injective {first second : Address} (same : first.toNat = second.toNat) :
    first = second := by
  cases first
  cases second
  exact congrArg Address.mk (BitVec.eq_of_toNat_eq same)

theorem lt_of_not_lt_of_ne {first second : Address} (above : ¬ first < second)
    (distinct : first ≠ second) : second < first := by
  have differ : first.toNat ≠ second.toNat := fun same => distinct (toNat_injective same)
  simp only [lt_def] at above ⊢
  omega

end Address

end PrecompileBridge
