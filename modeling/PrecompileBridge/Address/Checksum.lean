import PrecompileBridge.Address
import PrecompileBridge.Keccak

/-!
Checksummed addresses: the case of each letter carries a bit of the digest of the digits.
-/
namespace PrecompileBridge.Address

def halves (bytes : Bytes) : List Nat :=
  bytes.flatMap fun byte => [byte.toNat / 16, byte.toNat % 16]

/-- A letter is upper case where the digest of the lower-case digits has a half of eight or more. -/
def checksummed (address : Address) : String :=
  let digits := address.toBytes.digits
  let marks := halves (Keccak.digest (Bytes.ofText digits))
  "0x" ++ String.ofList (List.zipWith
    (fun digit mark => if 8 ≤ mark then digit.toUpper else digit) digits.toList marks)

end PrecompileBridge.Address
