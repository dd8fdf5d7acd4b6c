import PrecompileBridge.AddressMap
import PrecompileBridge.Builtin.Standard

/-!
Protocol forks and the built-in precompiles that live in each of them. A fork keeps what the forks
before it had; some forks change a price.
-/
namespace PrecompileBridge

/-- Forks in the order in which they took effect. -/
inductive Fork
  | frontier
  | frontierThawing
  | homestead
  | daoFork
  | tangerine
  | spurious
  | byzantium
  | constantinople
  | petersburg
  | istanbul
  | muirGlacier
  | berlin
  | london
  | arrowGlacier
  | grayGlacier
  | merge
  | shanghai
  | cancun
  | prague
  | osaka
  | amsterdam
  deriving DecidableEq, Inhabited

/-- Forks that have the same built-in precompiles belong to one era. -/
inductive Era
  | first
  | byzantium
  | istanbul
  | cancun
  | prague
  | osaka
  deriving DecidableEq

namespace Era

open Builtin

def oldest : List (Nat × Builtin) :=
  [(0x01, recoverSigner), (0x02, hashing "sha256" 60 12), (0x03, hashing "ripemd160" 600 120),
    (0x04, identity)]

def curve (addition multiplication base perPair : Nat) : List (Nat × Builtin) :=
  [(0x05, modularPower), (0x06, priced "bn254 addition" addition),
    (0x07, priced "bn254 multiplication" multiplication), (0x08, curvePairing base perPair)]

def curveGroups : List (Nat × Builtin) :=
  [(0x0b, pricedAt "bls12-381 g1 addition" 375 256 .bls12381G1AddInputLength),
    (0x0c, blockwise "bls12-381 g1 multiplication" 160 .bls12381G1MsmInputLength),
    (0x0d, pricedAt "bls12-381 g2 addition" 600 512 .bls12381G2AddInputLength),
    (0x0e, blockwise "bls12-381 g2 multiplication" 288 .bls12381G2MsmInputLength),
    (0x0f, blockwise "bls12-381 pairing" 384 .bls12381PairingInputLength),
    (0x10, pricedAt "bls12-381 map to g1" 5500 64 .bls12381MapFpToG1InputLength),
    (0x11, pricedAt "bls12-381 map to g2" 23800 128 .bls12381MapFp2ToG2InputLength)]

def repriced : List (Nat × Builtin) :=
  oldest ++ curve 150 6000 45000 34000 ++ [(0x09, compress)]

def withBlobs : List (Nat × Builtin) := repriced ++ [(0x0a, pointEvaluation)]

def builtins : Era → List (Nat × Builtin)
  | first => oldest
  | byzantium => oldest ++ curve 500 40000 100000 80000
  | istanbul => repriced
  | cancun => withBlobs
  | prague => withBlobs ++ curveGroups
  | osaka => withBlobs ++ curveGroups ++ [(0x100, priced "secp256r1 verification" 6900)]

end Era

namespace Fork

def era : Fork → Era
  | frontier | frontierThawing | homestead | daoFork | tangerine | spurious => .first
  | byzantium | constantinople | petersburg => .byzantium
  | istanbul | muirGlacier | berlin | london | arrowGlacier | grayGlacier | merge | shanghai =>
    .istanbul
  | cancun => .cancun
  | prague => .prague
  | osaka | amsterdam => .osaka

def builtins (fork : Fork) : AddressMap Builtin :=
  fork.era.builtins.foldl (fun map entry => map.insert (Address.ofNat entry.1) entry.2) .empty

def name : Fork → String
  | frontier => "Frontier"
  | frontierThawing => "Frontier Thawing"
  | homestead => "Homestead"
  | daoFork => "DAO Fork"
  | tangerine => "Tangerine"
  | spurious => "Spurious"
  | byzantium => "Byzantium"
  | constantinople => "Constantinople"
  | petersburg => "Petersburg"
  | istanbul => "Istanbul"
  | muirGlacier => "MuirGlacier"
  | berlin => "Berlin"
  | london => "London"
  | arrowGlacier => "Arrow Glacier"
  | grayGlacier => "Gray Glacier"
  | merge => "Merge"
  | shanghai => "Shanghai"
  | cancun => "Cancun"
  | prague => "Prague"
  | osaka => "Osaka"
  | amsterdam => "Amsterdam"

def all : List Fork :=
  [frontier, frontierThawing, homestead, daoFork, tangerine, spurious, byzantium, constantinople,
    petersburg, istanbul, muirGlacier, berlin, london, arrowGlacier, grayGlacier, merge, shanghai,
    cancun, prague, osaka, amsterdam]

def ofName? (name : String) : Option Fork := all.find? (fun fork => fork.name == name)

end Fork

end PrecompileBridge
