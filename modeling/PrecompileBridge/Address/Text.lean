import PrecompileBridge.Address
import PrecompileBridge.Text.Quoted

/-!
Addresses written by hand: forty hexadecimal digits of either case, with or without a marker. The
case of the digits carries no checksum here.
-/
namespace PrecompileBridge.Address

inductive TextError
  | oddLength
  | wrongLength
  | invalidDigit (byte : UInt8) (position : Nat)
  deriving DecidableEq

namespace TextError

def message : TextError → String
  | oddLength => "odd number of digits"
  | wrongLength => "invalid string length"
  | invalidDigit byte position =>
    "invalid character " ++ Text.quoteChar (Char.ofNat byte.toNat) ++ " at position " ++
      toString position

end TextError

def invalidDigit? : Nat → Bytes → Option (UInt8 × Nat)
  | _, [] => none
  | position, byte :: rest =>
    match Bytes.hexValue? byte with
    | none => some (byte, position)
    | some _ => invalidDigit? (position + 1) rest

/-- The length is judged twice: as a whole it must be even, behind the marker it must be forty. -/
def ofText (text : String) : Except TextError Address :=
  let bytes := Bytes.ofText text
  let body := Bytes.afterMarker bytes
  if bytes.length % 2 = 1 then .error .oddLength
  else if body.length ≠ 40 then .error .wrongLength
  else
    match invalidDigit? 0 body with
    | some (byte, position) => .error (.invalidDigit byte position)
    | none => .ok (ofNat (body.foldl (fun value byte => 16 * value + (Bytes.hexValue? byte).getD 0) 0))

/-- Reads a text as an address, or says why it is none. -/
abbrev Reader := String → Except String Address

def read : Reader := fun text => (ofText text).mapError TextError.message

end PrecompileBridge.Address
