/-!
Byte strings and their written forms: hexadecimal digits, big-endian words and the bytes of a text.
-/
namespace PrecompileBridge

/-- Calldata, output and encoded words are short, so a byte string is a list. -/
abbrev Bytes := List UInt8

namespace Bytes

def hexDigit (value : Nat) : Char :=
  Char.ofNat (if value < 10 then 48 + value else 87 + value)

def hexValue? (byte : UInt8) : Option Nat :=
  let code := byte.toNat
  if 48 ≤ code ∧ code ≤ 57 then some (code - 48)
  else if 97 ≤ code ∧ code ≤ 102 then some (code - 87)
  else if 65 ≤ code ∧ code ≤ 70 then some (code - 55)
  else none

def hexPair (byte : UInt8) : List Char :=
  [hexDigit (byte.toNat / 16), hexDigit (byte.toNat % 16)]

def digits (bytes : Bytes) : String :=
  String.ofList (bytes.flatMap hexPair)

def hex (bytes : Bytes) : String :=
  "0x" ++ bytes.digits

def ofText (text : String) : Bytes :=
  text.toList.flatMap String.utf8EncodeChar

/-- Digits are read in pairs; a lone digit or a byte that is no digit spoils the whole. -/
def ofDigits? : Bytes → Option Bytes
  | [] => some []
  | [_] => none
  | high :: low :: rest => do
    let upper ← hexValue? high
    let lower ← hexValue? low
    let tail ← ofDigits? rest
    some (UInt8.ofNat (16 * upper + lower) :: tail)

/-- A marker of either case may stand in front of digits and is no part of them. -/
def afterMarker : Bytes → Bytes
  | 48 :: 120 :: rest => rest
  | 48 :: 88 :: rest => rest
  | bytes => bytes

def ofHex? (text : String) : Option Bytes :=
  ofDigits? (afterMarker (ofText text))

def bigEndian : Nat → Nat → Bytes
  | 0, _ => []
  | size + 1, value => bigEndian size (value / 256) ++ [UInt8.ofNat (value % 256)]

def toNumber (bytes : Bytes) : Nat :=
  bytes.foldl (fun value byte => 256 * value + byte.toNat) 0

end Bytes

end PrecompileBridge
