import PrecompileBridge.Selector

/-!
What can go wrong: faults of built-in precompiles, failed calls, methods that fail validation and
contracts that cannot be built. Each cause has a name and one wording.
-/
namespace PrecompileBridge

inductive Fault
  | blake2WrongLength
  | blake2WrongFinalIndicatorFlag
  | modexpExpOverflow
  | modexpBaseOverflow
  | modexpModOverflow
  | modexpEip7823LimitSize
  | bn254FieldPointNotAMember
  | bn254AffineGFailedToCreate
  | bn254PairLength
  | blobInvalidInputLength
  | blobMismatchedVersion
  | blobVerifyKzgProofFailed
  | nonCanonicalFp
  | kzgInvalidInputLength
  | kzgInvalidG1Point
  | kzgG1PointNotOnCurve
  | kzgG1PointNotInSubgroup
  | secp256k1RecoverFailed
  | bls12381G1NotOnCurve
  | bls12381G2NotOnCurve
  | bls12381G1NotInSubgroup
  | bls12381G2NotInSubgroup
  | bls12381ScalarInputLength
  | bls12381G1AddInputLength
  | bls12381G2AddInputLength
  | bls12381G1MsmInputLength
  | bls12381G2MsmInputLength
  | bls12381PairingInputLength
  | bls12381MapFpToG1InputLength
  | bls12381MapFp2ToG2InputLength
  | bls12381FpPaddingInvalid
  | bls12381FpPaddingLength
  | bls12381G1PaddingLength
  | bls12381G2PaddingLength
  deriving DecidableEq

namespace Fault

def describe : Fault → String × String
  | blake2WrongLength => ("Blake2WrongLength", "wrong input length for blake2")
  | blake2WrongFinalIndicatorFlag =>
    ("Blake2WrongFinalIndicatorFlag", "wrong final indicator flag for blake2")
  | modexpExpOverflow => ("ModexpExpOverflow", "modexp exp overflow")
  | modexpBaseOverflow => ("ModexpBaseOverflow", "modexp base overflow")
  | modexpModOverflow => ("ModexpModOverflow", "modexp mod overflow")
  | modexpEip7823LimitSize => ("ModexpEip7823LimitSize", "Modexp limit all input sizes.")
  | bn254FieldPointNotAMember =>
    ("Bn254FieldPointNotAMember", "field point not a member of bn254 curve")
  | bn254AffineGFailedToCreate =>
    ("Bn254AffineGFailedToCreate", "failed to create affine g point for bn254 curve")
  | bn254PairLength => ("Bn254PairLength", "bn254 invalid pair length")
  | blobInvalidInputLength => ("BlobInvalidInputLength", "invalid blob input length")
  | blobMismatchedVersion => ("BlobMismatchedVersion", "mismatched blob version")
  | blobVerifyKzgProofFailed => ("BlobVerifyKzgProofFailed", "verifying blob kzg proof failed")
  | nonCanonicalFp => ("NonCanonicalFp", "non-canonical field element")
  | kzgInvalidInputLength => ("KzgInvalidInputLength", "kzg invalid input length")
  | kzgInvalidG1Point => ("KzgInvalidG1Point", "kzg invalid g1 point")
  | kzgG1PointNotOnCurve => ("KzgG1PointNotOnCurve", "kzg g1 point not on curve")
  | kzgG1PointNotInSubgroup =>
    ("KzgG1PointNotInSubgroup", "kzg g1 point not in correct subgroup")
  | secp256k1RecoverFailed => ("Secp256k1RecoverFailed", "secp256k1 signature recovery failed")
  | bls12381G1NotOnCurve => ("Bls12381G1NotOnCurve", "bls12-381 g1 point not on curve")
  | bls12381G2NotOnCurve => ("Bls12381G2NotOnCurve", "bls12-381 g2 point not on curve")
  | bls12381G1NotInSubgroup =>
    ("Bls12381G1NotInSubgroup", "bls12-381 g1 point not in correct subgroup")
  | bls12381G2NotInSubgroup =>
    ("Bls12381G2NotInSubgroup", "bls12-381 g2 point not in correct subgroup")
  | bls12381ScalarInputLength =>
    ("Bls12381ScalarInputLength", "bls12-381 scalar input length error")
  | bls12381G1AddInputLength => ("Bls12381G1AddInputLength", "bls12-381 g1 add input length error")
  | bls12381G2AddInputLength => ("Bls12381G2AddInputLength", "bls12-381 g2 add input length error")
  | bls12381G1MsmInputLength => ("Bls12381G1MsmInputLength", "bls12-381 g1 msm input length error")
  | bls12381G2MsmInputLength => ("Bls12381G2MsmInputLength", "bls12-381 g2 msm input length error")
  | bls12381PairingInputLength =>
    ("Bls12381PairingInputLength", "bls12-381 pairing input length error")
  | bls12381MapFpToG1InputLength =>
    ("Bls12381MapFpToG1InputLength", "bls12-381 map fp to g1 input length error")
  | bls12381MapFp2ToG2InputLength =>
    ("Bls12381MapFp2ToG2InputLength", "bls12-381 map fp2 to g2 input length error")
  | bls12381FpPaddingInvalid =>
    ("Bls12381FpPaddingInvalid", "bls12-381 fp 64 top bytes of input are not zero")
  | bls12381FpPaddingLength => ("Bls12381FpPaddingLength", "bls12-381 fp padding length error")
  | bls12381G1PaddingLength => ("Bls12381G1PaddingLength", "bls12-381 g1 padding length error")
  | bls12381G2PaddingLength => ("Bls12381G2PaddingLength", "bls12-381 g2 padding length error")

def name (fault : Fault) : String := fault.describe.1

def message (fault : Fault) : String := fault.describe.2

def all : List Fault :=
  [blake2WrongLength, blake2WrongFinalIndicatorFlag, modexpExpOverflow, modexpBaseOverflow,
    modexpModOverflow, modexpEip7823LimitSize, bn254FieldPointNotAMember,
    bn254AffineGFailedToCreate, bn254PairLength, blobInvalidInputLength, blobMismatchedVersion,
    blobVerifyKzgProofFailed, nonCanonicalFp, kzgInvalidInputLength, kzgInvalidG1Point,
    kzgG1PointNotOnCurve, kzgG1PointNotInSubgroup, secp256k1RecoverFailed, bls12381G1NotOnCurve,
    bls12381G2NotOnCurve, bls12381G1NotInSubgroup, bls12381G2NotInSubgroup,
    bls12381ScalarInputLength, bls12381G1AddInputLength, bls12381G2AddInputLength,
    bls12381G1MsmInputLength, bls12381G2MsmInputLength, bls12381PairingInputLength,
    bls12381MapFpToG1InputLength, bls12381MapFp2ToG2InputLength, bls12381FpPaddingInvalid,
    bls12381FpPaddingLength, bls12381G1PaddingLength, bls12381G2PaddingLength]

def ofName? (name : String) : Option Fault := all.find? (fun fault => fault.name == name)

end Fault

inductive BuiltinFailure
  | outOfGas
  | fatal (message : String)
  | fault (kind : Fault)
  | other (message : String)
  deriving DecidableEq

namespace BuiltinFailure

def name : BuiltinFailure → String
  | outOfGas => "OutOfGas"
  | fatal _ => "Fatal"
  | fault kind => kind.name
  | other _ => "Other"

def message : BuiltinFailure → String
  | outOfGas => "out of gas"
  | fatal message => message
  | fault kind => kind.message
  | other message => message

def mustAbort : BuiltinFailure → Bool
  | fatal _ => true
  | _ => false

end BuiltinFailure

/-- Why a precompile call failed, as the calling frame learns it. -/
inductive CallFailure
  | disabled
  | reverted
  | writeProtection
  | outOfGas
  | builtin (error : BuiltinFailure)
  | fatal (message : String)
  | custom (message : String)
  deriving DecidableEq

namespace CallFailure

def name : CallFailure → String
  | disabled => "DisabledPrecompile"
  | reverted => "ExecutionReverted"
  | writeProtection => "WriteProtection"
  | outOfGas => "OutOfGas"
  | builtin _ => "Precompile"
  | fatal _ => "Fatal"
  | custom _ => "Custom"

def message : CallFailure → String
  | disabled => "the precompile contract is disabled"
  | reverted => "execution reverted"
  | writeProtection => "write protection"
  | outOfGas => "out of gas"
  | builtin error => error.message
  | fatal message => "fatal precompile error: " ++ message
  | custom message => message

def mustAbort : CallFailure → Bool
  | fatal _ => true
  | _ => false

/-- Lack of gas and fatal failures have call errors of their own; the rest is passed on whole. -/
def ofBuiltin : BuiltinFailure → CallFailure
  | .outOfGas => outOfGas
  | .fatal message => fatal message
  | .fault kind => builtin (.fault kind)
  | .other message => builtin (.other message)

theorem mustAbort_ofBuiltin (error : BuiltinFailure) :
    (ofBuiltin error).mustAbort = error.mustAbort := by
  cases error <;> rfl

end CallFailure

inductive DescriptorFlaw
  | signatureLength (length : Nat)
  | missingGas
  | missingExecutor
  deriving DecidableEq

namespace DescriptorFlaw

def name : DescriptorFlaw → String
  | signatureLength _ => "InvalidSignature"
  | missingGas => "MissingGasRequirement"
  | missingExecutor => "MissingExecutor"

def message : DescriptorFlaw → String
  | signatureLength length =>
    "invalid method signature, expected 4 bytes, got " ++ toString length
  | missingGas => "invalid gas requirement, expected non-zero value"
  | missingExecutor => "missing executor"

end DescriptorFlaw

inductive ContractFlaw
  | zeroAddress
  | noMethods
  | invalidMethod (signature : Bytes) (cause : DescriptorFlaw)
  | duplicateMethod (selector : Selector)
  deriving DecidableEq

namespace ContractFlaw

def name : ContractFlaw → String
  | zeroAddress => "InvalidAddress"
  | noMethods => "NoMethodsRegistered"
  | invalidMethod _ _ => "InvalidMethod"
  | duplicateMethod _ => "DuplicateMethod"

def message : ContractFlaw → String
  | zeroAddress => "invalid address"
  | noMethods => "no methods registered"
  | invalidMethod signature cause =>
    "invalid method " ++ signature.digits ++ ": " ++ cause.message
  | duplicateMethod selector => "duplicate method " ++ selector.hex

end ContractFlaw

end PrecompileBridge
