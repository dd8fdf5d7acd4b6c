import PrecompileBridge.Bytes

/-!
The Keccak-256 digest: a state of twenty-five 64-bit lanes absorbs the padded message in blocks of
136 bytes, and the first 32 bytes of the last state are the digest.
-/
namespace PrecompileBridge.Keccak

/-- Lane `x + 5 * y` stands in column `x` of plane `y`. -/
abbrev State := Vector UInt64 25

def lane (state : State) (x y : Nat) : UInt64 :=
  state.get ⟨x % 5 + 5 * (y % 5), by omega⟩

def build (lanes : Nat → Nat → UInt64) : State :=
  Vector.ofFn fun place => lanes (place.val % 5) (place.val / 5)

def rotate (word : UInt64) (amount : Nat) : UInt64 :=
  ⟨word.toBitVec.rotateLeft amount⟩

def offsets : List Nat :=
  [0, 1, 62, 28, 27, 36, 44, 6, 55, 20, 3, 10, 43, 25, 39, 41, 45, 15, 21, 8, 18, 2, 61, 56, 14]

def rounds : List UInt64 :=
  [0x0000000000000001, 0x0000000000008082, 0x800000000000808a, 0x8000000080008000,
    0x000000000000808b, 0x0000000080000001, 0x8000000080008081, 0x8000000000008009,
    0x000000000000008a, 0x0000000000000088, 0x0000000080008009, 0x000000008000000a,
    0x000000008000808b, 0x800000000000008b, 0x8000000000008089, 0x8000000000008003,
    0x8000000000008002, 0x8000000000000080, 0x000000000000800a, 0x800000008000000a,
    0x8000000080008081, 0x8000000000008080, 0x0000000080000001, 0x8000000080008008]

def parity (state : State) (x : Nat) : UInt64 :=
  lane state x 0 ^^^ lane state x 1 ^^^ lane state x 2 ^^^ lane state x 3 ^^^ lane state x 4

def diffuse (state : State) : State :=
  build fun x y => lane state x y ^^^ parity state (x + 4) ^^^ rotate (parity state (x + 1)) 1

def scatter (state : State) : State :=
  build fun x y => rotate (lane state (x + 3 * y) x) (offsets.getD ((x + 3 * y) % 5 + 5 * x) 0)

def mix (state : State) : State :=
  build fun x y => lane state x y ^^^ (~~~lane state (x + 1) y &&& lane state (x + 2) y)

def permute (state : State) : State :=
  rounds.foldl (fun state constant =>
    let mixed := mix (scatter (diffuse state))
    mixed.set 0 (lane mixed 0 0 ^^^ constant)) state

def rate : Nat := 136

/-- A message is filled up to whole blocks: a one at its end and a high bit at the block's end. -/
def pad (message : Bytes) : Bytes :=
  let missing := rate - message.length % rate
  if missing = 1 then message ++ [0x81]
  else message ++ [0x01] ++ List.replicate (missing - 2) 0 ++ [0x80]

def laneOf (bytes : Bytes) : UInt64 := UInt64.ofNat (Bytes.toNumber bytes.reverse)

def absorb (state : State) (block : Bytes) : State :=
  permute (build fun x y =>
    lane state x y ^^^ laneOf ((block.drop (8 * (x + 5 * y))).take 8))

def absorbBlocks : Nat → State → Bytes → State
  | 0, state, _ => state
  | blocks + 1, state, message =>
    absorbBlocks blocks (absorb state (message.take rate)) (message.drop rate)

/-- The 32-byte digest of a message. -/
def digest (message : Bytes) : Bytes :=
  let padded := pad message
  let state := absorbBlocks (padded.length / rate) (Vector.replicate 25 0) padded
  (List.range 4).flatMap fun place => (Bytes.bigEndian 8 (lane state place 0).toNat).reverse

end PrecompileBridge.Keccak
