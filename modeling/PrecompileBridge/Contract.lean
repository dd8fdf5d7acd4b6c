import PrecompileBridge.Address
import PrecompileBridge.Failure

/-!
Contracts: named, addressed sets of priced methods. A descriptor says what the host wants of a
method; a contract is built only from descriptors that pass validation and name distinct selectors.
An executor is known here by a label, so a contract is plain data; what a label does is said apart.
-/
namespace PrecompileBridge

structure Descriptor (Label : Type) where
  signature : Bytes
  gas : UInt64
  readOnly : Bool
  executor : Option Label

structure Method (Label : Type) where
  selector : Selector
  gas : UInt64
  readOnly : Bool
  executor : Label

namespace Descriptor

variable {Label : Type}

/-- The signature is checked first, then the price, then the executor. -/
def validate (descriptor : Descriptor Label) : Except DescriptorFlaw (Method Label) :=
  match Selector.ofBytes? descriptor.signature with
  | none => .error (.signatureLength descriptor.signature.length)
  | some selector =>
    if descriptor.readOnly = false ∧ descriptor.gas = 0 then .error .missingGas
    else
      match descriptor.executor with
      | none => .error .missingExecutor
      | some executor => .ok ⟨selector, descriptor.gas, descriptor.readOnly, executor⟩

end Descriptor

/-- A precompiled contract supplied by the host. Only its flag ever changes. -/
structure Contract (Label : Type) where
  name : String
  address : Address
  methods : List (Method Label)
  disabled : Bool

namespace Contract

variable {Label : Type}

/-- Admits descriptors in order. The first that is invalid or repeats an earlier selector is
reported; in one descriptor the first kind wins. -/
def methodsOf (seen : List Selector) :
    List (Descriptor Label) → Except ContractFlaw (List (Method Label))
  | [] => .ok []
  | descriptor :: rest =>
    match descriptor.validate with
    | .error cause => .error (.invalidMethod descriptor.signature cause)
    | .ok method =>
      if method.selector ∈ seen then .error (.duplicateMethod method.selector)
      else
        match methodsOf (method.selector :: seen) rest with
        | .error cause => .error cause
        | .ok methods => .ok (method :: methods)

/-- The zero address is refused before any method is looked at, an empty set after all of them. -/
def construct (address : Address) (descriptors : List (Descriptor Label)) (name : String) :
    Except ContractFlaw (Contract Label) :=
  if address = Address.zero then .error .zeroAddress
  else
    match methodsOf [] descriptors with
    | .error cause => .error cause
    | .ok [] => .error .noMethods
    | .ok methods => .ok ⟨name, address, methods, false⟩

def method? (contract : Contract Label) (selector : Selector) : Option (Method Label) :=
  contract.methods.find? (fun method => method.selector = selector)

def price (contract : Contract Label) (input : Bytes) : UInt64 :=
  match (Selector.ofHead? input).bind contract.method? with
  | none => 0
  | some method => method.gas

inductive Selection (Label : Type)
  | headless
  | unknown (selector : Selector)
  | forbidden (selector : Selector)
  | chosen (method : Method Label)

def select (contract : Contract Label) (input : Bytes) (readOnly : Bool) : Selection Label :=
  match Selector.ofHead? input with
  | none => .headless
  | some selector =>
    match contract.method? selector with
    | none => .unknown selector
    | some method =>
      if readOnly = true ∧ method.readOnly = false then .forbidden selector else .chosen method

inductive Admission
  | disabled
  | headless
  | shortOfGas (cost : UInt64)
  | admitted (cost remaining : UInt64)

/-- The flag is read first and once; then calldata must hold a selector; then the gas must cover
the cost. -/
def admission (contract : Contract Label) (input : Bytes) (supplied : UInt64) : Admission :=
  if contract.disabled then .disabled
  else if input.length < Selector.size then .headless
  else if supplied < contract.price input then .shortOfGas (contract.price input)
  else .admitted (contract.price input) (supplied - contract.price input)

end Contract

end PrecompileBridge
