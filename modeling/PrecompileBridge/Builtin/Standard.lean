import PrecompileBridge.Builtin

/-!
Gas and input rules of the protocol's own precompiles. Results that need hashing, curve or pairing
arithmetic are not computed here; such a run fails with a message that names the precompile.
-/
namespace PrecompileBridge.Builtin

/-- The run would need arithmetic that this library does not hold. -/
def uncomputed (name : String) : Except BuiltinFailure BuiltinOutput :=
  .error (.other (name ++ " is not computed"))

def charge (cost : Nat) (supplied : UInt64) (run : Except BuiltinFailure BuiltinOutput) :
    Except BuiltinFailure BuiltinOutput :=
  if supplied.toNat < cost then .error .outOfGas else run

def words (input : Bytes) : Nat := (input.length + 31) / 32

def linearCost (base perWord : Nat) (input : Bytes) : Nat := base + perWord * words input

def identity : Builtin := fun input supplied =>
  let cost := linearCost 15 3 input
  charge cost supplied (.ok (.success (UInt64.ofNat cost) input))

/-- The recovery mark is the second word of the input and must spell 27 or 28; without it nothing
is recovered and the output is empty. -/
def recoveryMarked (input : Bytes) : Bool :=
  let mark := Bytes.toNumber ((input.drop 32).take 32)
  64 ≤ input.length && (mark == 27 || mark == 28)

def recoverSigner : Builtin := fun input supplied =>
  charge 3000 supplied <|
    if recoveryMarked input then uncomputed "ecrecover" else .ok (.success 3000 [])

def hashing (name : String) (base perWord : Nat) : Builtin := fun input supplied =>
  charge (linearCost base perWord input) supplied (uncomputed name)

def priced (name : String) (cost : Nat) : Builtin := fun _ supplied =>
  charge cost supplied (uncomputed name)

def pricedAt (name : String) (cost length : Nat) (wrongLength : Fault) : Builtin :=
  fun input supplied =>
    charge cost supplied <|
      if input.length = length then uncomputed name else .error (.fault wrongLength)

def blockwise (name : String) (block : Nat) (wrongLength : Fault) : Builtin := fun input _ =>
  if input.isEmpty ∨ input.length % block ≠ 0 then .error (.fault wrongLength) else uncomputed name

def modularPower : Builtin := fun _ _ => uncomputed "modexp"

def curvePairing (base perPair : Nat) : Builtin := fun input supplied =>
  charge (base + perPair * (input.length / 192)) supplied <|
    if input.length % 192 = 0 then uncomputed "bn254 pairing" else .error (.fault .bn254PairLength)

/-- The length is checked before any gas, the number of rounds is the price, and the last byte says
whether the block is the final one. -/
def compress : Builtin := fun input supplied =>
  if input.length ≠ 213 then .error (.fault .blake2WrongLength)
  else
    charge (Bytes.toNumber (input.take 4)) supplied <|
      if (input.drop 212).all (fun flag => flag = 0 || flag = 1) then uncomputed "blake2"
      else .error (.fault .blake2WrongFinalIndicatorFlag)

def pointEvaluation : Builtin := pricedAt "point evaluation" 50000 192 .blobInvalidInputLength

end PrecompileBridge.Builtin
