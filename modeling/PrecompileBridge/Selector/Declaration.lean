import PrecompileBridge.Keccak
import PrecompileBridge.Selector

/-!
Selectors of declared methods.
-/
namespace PrecompileBridge.Selector

/-- A declaration such as `count()` has the first four bytes of its digest as selector. -/
def ofDeclaration? (declaration : String) : Option Selector :=
  ofHead? (Keccak.digest (Bytes.ofText declaration))

end PrecompileBridge.Selector
