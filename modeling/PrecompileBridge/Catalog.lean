import PrecompileBridge.Contract

/-!
The catalog holds every contract ever built, each under a number of its own. Whoever holds the
number shares the contract: a flag set through one holder is seen by all. Nothing is ever removed,
and of a contract only the flag can change.
-/
namespace PrecompileBridge

/-- Numbers are given in order of construction. -/
abbrev ContractId := Nat

structure Catalog (Label : Type) where
  contracts : List (Contract Label)

namespace Catalog

variable {Label : Type}

def empty : Catalog Label := ⟨[]⟩

instance : Inhabited (Catalog Label) := ⟨empty⟩

def get? (catalog : Catalog Label) (id : ContractId) : Option (Contract Label) :=
  catalog.contracts[id]?

def next (catalog : Catalog Label) : ContractId := catalog.contracts.length

def add (catalog : Catalog Label) (contract : Contract Label) : Catalog Label :=
  ⟨catalog.contracts ++ [contract]⟩

def writeFlag (catalog : Catalog Label) (id : ContractId) (disabled : Bool) : Catalog Label :=
  ⟨catalog.contracts.modify id (fun contract => { contract with disabled })⟩

def nameOf (catalog : Catalog Label) (id : ContractId) : String :=
  match catalog.get? id with
  | none => ""
  | some contract => contract.name

theorem get?_add (catalog : Catalog Label) (contract : Contract Label) (id : ContractId) :
    (catalog.add contract).get? id =
      if id = catalog.next then some contract else catalog.get? id := by
  by_cases fresh : id = catalog.next
  · rw [if_pos fresh, fresh]
    simp [get?, add, next]
  · rw [if_neg fresh]
    have apart : id ≠ catalog.contracts.length := fresh
    simp only [get?, add]
    rcases Nat.lt_or_gt_of_ne apart with below | above
    · exact List.getElem?_append_left below
    · rw [List.getElem?_eq_none (by simp; omega), List.getElem?_eq_none (by omega)]

theorem get?_writeFlag (catalog : Catalog Label) (id other : ContractId) (disabled : Bool) :
    (catalog.writeFlag id disabled).get? other =
      if id = other then (catalog.get? other).map (fun contract => { contract with disabled })
      else catalog.get? other := by
  simp only [get?, writeFlag, List.getElem?_modify]
  split <;> simp_all

end Catalog

end PrecompileBridge
