import Mathlib.Data.List.Nodup
import PrecompileBridge.Contract

/-!
What construction ensures of a contract, and what it accepts. A contract can be built exactly if it
is valid, and then from the descriptors of its own methods. No two methods of it share a selector, so
they can be looked up in any order, and the price of a call is the price of the method that the
calldata names.
-/
namespace PrecompileBridge

variable {Label : Type}

theorem Selector.toBytes_injective : Function.Injective Selector.toBytes := by
  rintro ⟨_, _, _, _⟩ ⟨_, _, _, _⟩ same
  simpa [Selector.toBytes] using same

def Method.descriptor (method : Method Label) : Descriptor Label :=
  ⟨method.selector.toBytes, method.gas, method.readOnly, some method.executor⟩

theorem gas_ne_zero_iff {gas : UInt64} : gas ≠ 0 ↔ 1 ≤ gas := by
  rw [← UInt64.pos_iff_ne_zero, UInt64.lt_iff_toNat_lt, UInt64.le_iff_toNat_le]
  exact Iff.rfl

theorem Descriptor.validate_eq_ok_iff {descriptor : Descriptor Label} {method : Method Label} :
    descriptor.validate = .ok method ↔
      descriptor = method.descriptor ∧ (method.readOnly = false → 1 ≤ method.gas) := by
  obtain ⟨signature, gas, readOnly, executor⟩ := descriptor
  obtain ⟨selector, cost, reads, label⟩ := method
  constructor
  · intro admitted
    unfold validate at admitted
    split at admitted
    · contradiction
    · rename_i found
      split at admitted
      · contradiction
      · rename_i free
        cases executor with
        | none => contradiction
        | some executor =>
          cases admitted
          refine ⟨?_, fun writes => gas_ne_zero_iff.mp fun nothing => free ⟨writes, nothing⟩⟩
          have spelled : signature = selector.toBytes := Selector.ofBytes?_eq_some_iff.mp found
          rw [spelled]
          rfl
  · rintro ⟨same, priced⟩
    cases same
    have spelled : Selector.ofBytes? selector.toBytes = some selector :=
      Selector.ofBytes?_eq_some_iff.mpr rfl
    have charged : ¬ (reads = false ∧ cost = 0) := fun free =>
      gas_ne_zero_iff.mpr (priced free.1) free.2
    simp only [validate, spelled, if_neg charged]

namespace Contract

/-- Apart from its flag the contract is what some construction gave. -/
def Constructed (contract : Contract Label) : Prop :=
  ∃ address descriptors name built, construct address descriptors name = .ok built ∧
    contract = { built with disabled := contract.disabled }

/-- What is checked of a contract before there is one. -/
structure Valid (contract : Contract Label) : Prop where
  address_ne_zero : contract.address ≠ .zero
  methods_ne_nil : contract.methods ≠ []
  distinct : (contract.methods.map Method.selector).Nodup
  priced : ∀ method ∈ contract.methods, method.readOnly = false → 1 ≤ method.gas

theorem Valid.withFlag {contract : Contract Label} (valid : contract.Valid) (disabled : Bool) :
    Valid { contract with disabled } :=
  ⟨valid.address_ne_zero, valid.methods_ne_nil, valid.distinct, valid.priced⟩

theorem methodsOf_cons_eq_ok_iff {seen : List Selector} {descriptor : Descriptor Label}
    {rest : List (Descriptor Label)} {methods : List (Method Label)} :
    methodsOf seen (descriptor :: rest) = .ok methods ↔
      ∃ method others, methods = method :: others ∧ descriptor.validate = .ok method ∧
        method.selector ∉ seen ∧ methodsOf (method.selector :: seen) rest = .ok others := by
  rw [methodsOf]
  cases descriptor.validate with
  | error cause => simp
  | ok method =>
    by_cases repeated : method.selector ∈ seen
    · simp [repeated]
    · cases later : methodsOf (method.selector :: seen) rest with
      | error cause => simp [repeated, later]
      | ok others => simp [repeated, later, eq_comm]

/-- Admission keeps the order of the descriptors and loses nothing of them. -/
theorem methodsOf_eq_ok_iff {seen : List Selector} {descriptors : List (Descriptor Label)}
    {methods : List (Method Label)} :
    methodsOf seen descriptors = .ok methods ↔
      descriptors = methods.map Method.descriptor ∧
        (∀ method ∈ methods, method.readOnly = false → 1 ≤ method.gas) ∧
        (methods.map Method.selector).Nodup ∧ ∀ method ∈ methods, method.selector ∉ seen := by
  induction descriptors generalizing seen methods with
  | nil => cases methods <;> simp [methodsOf]
  | cons descriptor rest ih =>
    -- That later methods avoid the first one is said of `seen` by the code, of the list by `Nodup`.
    have apart (method : Method Label) (others : List (Method Label)) :
        (∀ other ∈ others, other.selector ∉ method.selector :: seen) ↔
          method.selector ∉ others.map Method.selector ∧
            ∀ other ∈ others, other.selector ∉ seen := by
      simp only [List.mem_cons, List.mem_map, not_or, not_exists, not_and, imp_and, forall_and]
    simp only [methodsOf_cons_eq_ok_iff, ih, apart, Descriptor.validate_eq_ok_iff]
    constructor
    · intro admitted
      obtain ⟨method, others, same, ⟨first, charged⟩, new, ordered, priced, distinct, unlike, fresh⟩ :=
        admitted
      subst same
      exact ⟨by rw [first, ordered, List.map_cons], List.forall_mem_cons.mpr ⟨charged, priced⟩,
        List.nodup_cons.mpr ⟨unlike, distinct⟩, List.forall_mem_cons.mpr ⟨new, fresh⟩⟩
    · intro listed
      obtain ⟨ordered, priced, distinct, fresh⟩ := listed
      cases methods with
      | nil => contradiction
      | cons method others =>
        rw [List.map_cons, List.cons.injEq] at ordered
        rw [List.map_cons, List.nodup_cons] at distinct
        obtain ⟨charged, priced⟩ := List.forall_mem_cons.mp priced
        obtain ⟨new, fresh⟩ := List.forall_mem_cons.mp fresh
        exact ⟨method, others, rfl, ⟨ordered.1, charged⟩, new, ordered.2, priced, distinct.2,
          distinct.1, fresh⟩

theorem construct_eq_ok_iff {address : Address} {descriptors : List (Descriptor Label)}
    {name : String} {contract : Contract Label} :
    construct address descriptors name = .ok contract ↔
      contract.Valid ∧ contract = ⟨name, address, contract.methods, false⟩ ∧
        descriptors = contract.methods.map Method.descriptor := by
  constructor
  · intro built
    unfold construct at built
    split at built
    · contradiction
    · rename_i taken
      cases admitted : methodsOf [] descriptors with
      | error cause => simp [admitted] at built
      | ok methods =>
        obtain ⟨ordered, priced, distinct, _⟩ := methodsOf_eq_ok_iff.mp admitted
        cases methods with
        | nil => simp [admitted] at built
        | cons method rest =>
          simp only [admitted, Except.ok.injEq] at built
          subst built
          exact ⟨⟨taken, List.cons_ne_nil method rest, distinct, priced⟩, rfl, ordered⟩
  · rintro ⟨valid, shape, ordered⟩
    have admitted : methodsOf [] descriptors = .ok contract.methods :=
      methodsOf_eq_ok_iff.mpr ⟨ordered, valid.priced, valid.distinct, by simp⟩
    have located : address ≠ .zero := by
      have kept := valid.address_ne_zero
      rwa [shape] at kept
    have nonempty := valid.methods_ne_nil
    rw [shape]
    cases listed : contract.methods with
    | nil => contradiction
    | cons method rest =>
      rw [listed] at admitted
      simp [construct, located, admitted]

theorem constructed_iff_valid {contract : Contract Label} :
    contract.Constructed ↔ contract.Valid := by
  constructor
  · rintro ⟨address, descriptors, name, built, success, same⟩
    rw [same]
    exact (construct_eq_ok_iff.mp success).1.withFlag contract.disabled
  · intro valid
    exact ⟨contract.address, contract.methods.map Method.descriptor, contract.name,
      { contract with disabled := false },
      construct_eq_ok_iff.mpr ⟨valid.withFlag false, rfl, rfl⟩, rfl⟩

theorem Constructed.withFlag {contract : Contract Label} (constructed : contract.Constructed)
    (disabled : Bool) : Constructed { contract with disabled } :=
  constructed_iff_valid.mpr ((constructed_iff_valid.mp constructed).withFlag disabled)

theorem Constructed.distinct {contract : Contract Label} (constructed : contract.Constructed) :
    (contract.methods.map Method.selector).Nodup :=
  (constructed_iff_valid.mp constructed).distinct

theorem mem_of_method? {contract : Contract Label} {selector : Selector} {method : Method Label}
    (found : contract.method? selector = some method) :
    method ∈ contract.methods ∧ method.selector = selector := by
  have hit := List.find?_some found
  exact ⟨List.mem_of_find?_eq_some found, of_decide_eq_true hit⟩

theorem method?_eq_none_iff {contract : Contract Label} {selector : Selector} :
    contract.method? selector = none ↔ ∀ method ∈ contract.methods, method.selector ≠ selector := by
  simp [method?]

theorem Constructed.method?_eq_some_iff {contract : Contract Label}
    (constructed : contract.Constructed) {selector : Selector} {method : Method Label} :
    contract.method? selector = some method ↔
      method ∈ contract.methods ∧ method.selector = selector := by
  refine ⟨mem_of_method?, ?_⟩
  rintro ⟨member, rfl⟩
  cases found : contract.method? method.selector with
  | none => exact absurd rfl (method?_eq_none_iff.mp found method member)
  | some other =>
    obtain ⟨among, same⟩ := mem_of_method? found
    rw [List.inj_on_of_nodup_map constructed.distinct among member same]

theorem price_eq_gas {contract : Contract Label} {input : Bytes} {selector : Selector}
    {method : Method Label} (named : Selector.ofHead? input = some selector)
    (found : contract.method? selector = some method) : contract.price input = method.gas := by
  simp [price, named, found]

theorem price_eq_zero {contract : Contract Label} {input : Bytes} {selector : Selector}
    (named : Selector.ofHead? input = some selector) (absent : contract.method? selector = none) :
    contract.price input = 0 := by
  simp [price, named, absent]

end Contract

end PrecompileBridge
