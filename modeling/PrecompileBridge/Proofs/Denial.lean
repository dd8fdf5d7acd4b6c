import PrecompileBridge.Proofs.Flags

/-!
What a denylist does to a machine. Addresses lead to contracts one to one, so however the addresses of a
list are ordered, exactly the contracts that are registered at them end up disabled, and exactly the
addresses without a contract are handed back. Nothing is ever enabled, so lists can be applied again, in
turn, or as one.
-/
namespace PrecompileBridge

variable {Label Host α : Type}

namespace Catalog

/-- The catalog with some of its contracts disabled. -/
def disable (catalog : Catalog Label) (chosen : ContractId → Bool) : Catalog Label :=
  ⟨catalog.contracts.mapIdx fun id contract =>
    { contract with disabled := contract.disabled || chosen id }⟩

theorem get?_disable (catalog : Catalog Label) (chosen : ContractId → Bool) (id : ContractId) :
    (catalog.disable chosen).get? id =
      (catalog.get? id).map fun contract =>
        { contract with disabled := contract.disabled || chosen id } := by
  rw [get?, disable, List.getElem?_mapIdx, get?]

theorem ext_get? {first second : Catalog Label} (same : ∀ id, first.get? id = second.get? id) :
    first = second := by
  cases first
  cases second
  exact congrArg mk (List.ext_getElem? same)

theorem disable_nothing (catalog : Catalog Label) : catalog.disable (fun _ => false) = catalog := by
  apply ext_get?
  intro id
  simp [get?_disable]

theorem disable_disable (catalog : Catalog Label) (first second : ContractId → Bool) :
    (catalog.disable first).disable second = catalog.disable fun id => first id || second id := by
  apply ext_get?
  intro id
  simp [get?_disable, Function.comp_def, Bool.or_assoc]

theorem writeFlag_true (catalog : Catalog Label) (id : ContractId) :
    catalog.writeFlag id true = catalog.disable fun other => id == other := by
  apply ext_get?
  intro other
  rw [get?_writeFlag, get?_disable]
  by_cases same : id = other
  · simp [same]
  · have apart : (id == other) = false := beq_eq_false_iff_ne.mpr same
    simp [same, apart]

end Catalog

def Registry.reaches (registry : Registry) (addresses : List Address) (id : ContractId) : Bool :=
  addresses.any fun address => registry.custom? address == some id

theorem Registry.reaches_append (registry : Registry) (first second : List Address) :
    registry.reaches (first ++ second) =
      fun id => registry.reaches first id || registry.reaches second id := by
  funext id
  exact List.any_append

theorem Registry.reaches_singleton (registry : Registry) (address : Address) :
    registry.reaches [address] = fun id => registry.custom? address == some id := by
  funext id
  simp [reaches]

theorem Registry.reaches_iff {registry : Registry} {addresses : List Address} {id : ContractId} :
    registry.reaches addresses id = true ↔
      ∃ address ∈ addresses, registry.custom? address = some id := by
  simp [reaches]

theorem Registry.reaches_congr (registry : Registry) {first second : List Address}
    (same : ∀ address, address ∈ first ↔ address ∈ second) :
    registry.reaches first = registry.reaches second := by
  funext id
  rw [Bool.eq_iff_iff, reaches_iff, reaches_iff]
  simp only [same]

namespace Denylist

theorem catalog_applyAll (registry : Registry) (catalog : Catalog Label) (addresses : List Address) :
    (applyAll registry catalog addresses).catalog = catalog.disable (registry.reaches addresses) := by
  induction addresses generalizing catalog with
  | nil => exact catalog.disable_nothing.symm
  | cons address rest ih =>
    rw [← List.singleton_append, registry.reaches_append, ← Catalog.disable_disable,
      registry.reaches_singleton]
    cases found : registry.custom? address with
    | none => simp [applyAll, found, ih, Catalog.disable_nothing]
    | some id => simp [applyAll, found, ih, Catalog.writeFlag_true]

theorem unknown_applyAll (registry : Registry) (catalog : Catalog Label) (addresses : List Address) :
    (applyAll registry catalog addresses).unknown =
      addresses.filter fun address => (registry.custom? address).isNone := by
  induction addresses generalizing catalog with
  | nil => rfl
  | cons address rest ih =>
    cases found : registry.custom? address <;> simp [applyAll, found, ih]

/-- The addresses of a denylist, each once, in some order. -/
structure Enumerates (denylist : Denylist) (order : List Address) : Prop where
  nodup : order.Nodup
  mem_iff : ∀ address, address ∈ order ↔ denylist.lists address = true

theorem enumerates_keys (denylist : Denylist) : denylist.Enumerates denylist.disabled.keys :=
  ⟨denylist.disabled.keys_nodup, fun _ => AddressMap.mem_keys_iff⟩

theorem enumerates_ofList {addresses order : List Address} (nodup : order.Nodup)
    (same : ∀ address, address ∈ order ↔ address ∈ addresses) : (ofList addresses).Enumerates order :=
  ⟨nodup, fun address => (same address).trans lists_ofList.symm⟩

theorem Enumerates.perm {denylist : Denylist} {order again : List Address}
    (enumerates : denylist.Enumerates order) (too : denylist.Enumerates again) : order.Perm again := by
  apply (List.perm_ext_iff_of_nodup enumerates.nodup too.nodup).mpr
  intro address
  rw [enumerates.mem_iff, too.mem_iff]

end Denylist

namespace Machine

def deny (machine : Machine Label Host) (order : List Address) : Machine Label Host :=
  { machine with catalog := (Denylist.applyAll machine.registry machine.catalog order).catalog }

def unknown (machine : Machine Label Host) (order : List Address) : List Address :=
  (Denylist.applyAll machine.registry machine.catalog order).unknown

theorem deny_eq (machine : Machine Label Host) (order : List Address) :
    machine.deny order =
      { machine with catalog := machine.catalog.disable (machine.registry.reaches order) } := by
  rw [deny, Denylist.catalog_applyAll]

/-- Only the set of the addresses counts. -/
theorem deny_congr (machine : Machine Label Host) {first second : List Address}
    (same : ∀ address, address ∈ first ↔ address ∈ second) :
    machine.deny first = machine.deny second := by
  rw [deny_eq, deny_eq, machine.registry.reaches_congr same]

theorem deny_deny (machine : Machine Label Host) (first second : List Address) :
    (machine.deny first).deny second = machine.deny (first ++ second) := by
  simp only [deny_eq, Catalog.disable_disable, Registry.reaches_append]

theorem deny_again (machine : Machine Label Host) {first second : List Address}
    (perm : first.Perm second) : (machine.deny first).deny second = machine.deny first := by
  rw [deny_deny]
  apply deny_congr
  intro address
  rw [List.mem_append, perm.mem_iff, or_self]

theorem deny_comm (machine : Machine Label Host) (first second : List Address) :
    (machine.deny first).deny second = (machine.deny second).deny first := by
  rw [deny_deny, deny_deny]
  exact machine.deny_congr fun _ => List.perm_append_comm.mem_iff

theorem mem_unknown (machine : Machine Label Host) {order : List Address} {address : Address} :
    address ∈ machine.unknown order ↔
      address ∈ order ∧ machine.registry.custom? address = none := by
  rw [unknown, Denylist.unknown_applyAll, List.mem_filter, Option.isNone_iff_eq_none]

theorem unknown_perm (machine : Machine Label Host) {first second : List Address}
    (perm : first.Perm second) : (machine.unknown first).Perm (machine.unknown second) := by
  rw [unknown, unknown, Denylist.unknown_applyAll, Denylist.unknown_applyAll]
  exact perm.filter _

theorem unknown_deny (machine : Machine Label Host) (first second : List Address) :
    (machine.deny first).unknown second = machine.unknown second := by
  simp only [unknown, Denylist.unknown_applyAll, deny]

end Machine

theorem Catalog.Houses.unique {catalog : Catalog Label} {custom : AddressMap ContractId}
    (houses : catalog.Houses custom) {first second : Address} {id : ContractId}
    (one : custom.get? first = some id) (other : custom.get? second = some id) : first = second := by
  obtain ⟨contract, held, lives⟩ := houses first id one
  obtain ⟨same, again, there⟩ := houses second id other
  rw [held, Option.some_inj] at again
  rw [← lives, ← there, again]

/-- What a denylist does: it disables the contracts registered at its addresses, hands back the addresses
without a contract, and leaves everything else as it was. -/
structure Denylist.Denies (denylist : Denylist) (before after : Machine Label Host)
    (unknown : List Address) : Prop where
  rest : after = { before with catalog := after.catalog }
  registered : ∀ address id contract, before.registry.custom? address = some id →
    before.catalog.get? id = some contract →
      after.catalog.get? id =
        some { contract with disabled := contract.disabled || denylist.lists address }
  others : ∀ id, (∀ address, before.registry.custom? address ≠ some id) →
    after.catalog.get? id = before.catalog.get? id
  nodup : unknown.Nodup
  mem_unknown : ∀ address, address ∈ unknown ↔
    denylist.lists address = true ∧ before.registry.custom? address = none
  refuses : ∀ (execute : Executor Label Host) (request : Request) address id,
    denylist.lists address = true → before.registry.custom? address = some id →
      ∃ run, Bridge.call execute (.address address) request after = some run ∧
        run.outcome = .returned (some ⟨[], request.gas, 0, some .disabled⟩) ∧ run.machine = after

namespace Machine

variable {machine : Machine Label Host}

theorem get?_deny_registered (houses : machine.catalog.Houses machine.registry.custom)
    {denylist : Denylist} {order : List Address} (enumerates : denylist.Enumerates order)
    {address : Address} {id : ContractId} {contract : Contract Label}
    (registered : machine.registry.custom? address = some id)
    (held : machine.catalog.get? id = some contract) :
    (machine.deny order).catalog.get? id =
      some { contract with disabled := contract.disabled || denylist.lists address } := by
  have reached : machine.registry.reaches order id = denylist.lists address := by
    rw [Bool.eq_iff_iff, Registry.reaches_iff, ← enumerates.mem_iff]
    refine ⟨?_, fun member => ⟨address, member, registered⟩⟩
    intro ⟨other, member, leads⟩
    exact houses.unique registered leads ▸ member
  rw [deny_eq, Catalog.get?_disable, held, Option.map_some, reached]

theorem get?_deny_other (order : List Address) {id : ContractId}
    (unreached : ∀ address, machine.registry.custom? address ≠ some id) :
    (machine.deny order).catalog.get? id = machine.catalog.get? id := by
  have missed : machine.registry.reaches order id = false := by
    rw [← Bool.not_eq_true, Registry.reaches_iff]
    intro ⟨address, _, leads⟩
    exact unreached address leads
  rw [deny_eq, Catalog.get?_disable, missed]
  simp

theorem call_deny (houses : machine.catalog.Houses machine.registry.custom) {denylist : Denylist}
    {order : List Address} (enumerates : denylist.Enumerates order) (execute : Executor Label Host)
    (request : Request) {address : Address} {id : ContractId}
    (listed : denylist.lists address = true)
    (registered : machine.registry.custom? address = some id) :
    ∃ run, Bridge.call execute (.address address) request (machine.deny order) = some run ∧
      run.outcome = .returned (some ⟨[], request.gas, 0, some .disabled⟩) ∧
        run.machine = machine.deny order := by
  obtain ⟨contract, held, _⟩ := houses address id registered
  have found := get?_deny_registered houses enumerates registered held
  have located : Bridge.locate (machine.deny order) (.address address) = some (.custom id) := by
    simp [Bridge.locate, resolve, Registry.resolve, deny, registered]
  have off : (contract.disabled || denylist.lists address) = true := by rw [listed, Bool.or_true]
  exact ⟨_, (Bridge.call_eq_turnedAway_iff execute located found).mpr off, rfl, rfl⟩

theorem denies (houses : machine.catalog.Houses machine.registry.custom) {denylist : Denylist}
    {order : List Address} (enumerates : denylist.Enumerates order) :
    denylist.Denies machine (machine.deny order) (machine.unknown order) where
  rest := rfl
  registered _ _ _ registered held := get?_deny_registered houses enumerates registered held
  others _ unreached := get?_deny_other order unreached
  nodup := by
    rw [unknown, Denylist.unknown_applyAll]
    exact enumerates.nodup.filter _
  mem_unknown address := by rw [mem_unknown, enumerates.mem_iff]
  refuses execute request _ _ listed registered :=
    call_deny houses enumerates execute request listed registered

end Machine

namespace Behaviour

/-- At every point of a run from a fresh machine, a denylist disables what is registered at its
addresses and hands back the others, in whatever order its addresses are taken, and applying it once
more changes nothing. Two denylists can be applied in either order. Together they do what their union
does, which hands back what either of them hands back. -/
theorem denied_throughout_run {behaviour : Behaviour Label Host} {nesting : Nat}
    {program : Procedure Label Host α} {start : Machine Label Host} {run : Run Label Host α}
    (fresh : start.Fresh) (ran : program.run (behaviour.call nesting) start = some run)
    {early : List (Event Label Host)} (part : early <+: run.events) {machine : Machine Label Host}
    (reached : replay start early = machine) :
    (∀ (denylist : Denylist) order, denylist.Enumerates order →
      denylist.Denies machine (machine.deny order) (machine.unknown order) ∧
      (Effect.deny denylist).apply machine = machine.deny order ∧
      (denylist.apply machine.registry machine.catalog).unknown.Perm (machine.unknown order) ∧
      ∀ again, denylist.Enumerates again →
        (machine.deny order).deny again = machine.deny order ∧
        ((machine.deny order).unknown again).Perm (machine.unknown order)) ∧
    ∀ (first second both : Denylist) firstOrder secondOrder bothOrder,
      first.Enumerates firstOrder → second.Enumerates secondOrder → both.Enumerates bothOrder →
      (∀ address, both.lists address = (first.lists address || second.lists address)) →
        (machine.deny firstOrder).deny secondOrder = (machine.deny secondOrder).deny firstOrder ∧
        (machine.deny secondOrder).unknown firstOrder = machine.unknown firstOrder ∧
        (machine.deny firstOrder).deny secondOrder = machine.deny bothOrder ∧
        ∀ address, address ∈ machine.unknown bothOrder ↔
          address ∈ machine.unknown firstOrder ∨
            address ∈ (machine.deny firstOrder).unknown secondOrder := by
  have coherent : Coherent start early := (run_replays ran).1.of_part part
  have houses : machine.catalog.Houses machine.registry.custom :=
    reached ▸ (coherent.sound fresh.sound).housed
  constructor
  · intro denylist order enumerates
    have keys := denylist.enumerates_keys.perm enumerates
    refine ⟨Machine.denies houses enumerates, machine.deny_congr fun _ => keys.mem_iff,
      machine.unknown_perm keys, ?_⟩
    intro again too
    have perm := enumerates.perm too
    refine ⟨machine.deny_again perm, ?_⟩
    rw [machine.unknown_deny]
    exact machine.unknown_perm perm.symm
  · intro first second both firstOrder secondOrder bothOrder one other joint union
    have members : ∀ address, address ∈ bothOrder ↔ address ∈ firstOrder ∨ address ∈ secondOrder := by
      intro address
      rw [joint.mem_iff, one.mem_iff, other.mem_iff, union, Bool.or_eq_true]
    refine ⟨machine.deny_comm firstOrder secondOrder, machine.unknown_deny secondOrder firstOrder,
      ?_, ?_⟩
    · rw [machine.deny_deny]
      apply machine.deny_congr
      intro address
      rw [members, List.mem_append]
    · intro address
      rw [machine.unknown_deny, machine.mem_unknown, machine.mem_unknown, machine.mem_unknown, members,
        or_and_right]

open Counter in
theorem denied_throughout_run_increment :
    ∃ run, (session (increment 9 false)).run (behaviour.call 2) blank = some run ∧
      run.machine.deny [.ofNat 4, address] = run.machine.deny [address, .ofNat 4] ∧
      (Denylist.ofList [address, .ofNat 4]).Denies run.machine
        (run.machine.deny [.ofNat 4, address]) [.ofNat 4] ∧
      (run.machine.deny [address]).deny [.ofNat 4] = run.machine.deny [address, .ofNat 4] := by
  have ran : (session (increment 9 false)).run (behaviour.call 2) blank = some _ := rfl
  obtain ⟨one, two⟩ := denied_throughout_run (.ofFork 6 .cancun 3) ran (List.prefix_refl _) rfl
  have either : (Denylist.ofList [address, .ofNat 4]).Enumerates [.ofNat 4, address] :=
    Denylist.enumerates_ofList (by decide) (by simp [or_comm])
  have order : (Denylist.ofList [address, .ofNat 4]).Enumerates [address, .ofNat 4] :=
    Denylist.enumerates_ofList (by decide) (by simp)
  have listed : (Denylist.ofList [address]).Enumerates [address] :=
    Denylist.enumerates_ofList (by decide) (by simp)
  have other : (Denylist.ofList [.ofNat 4]).Enumerates [.ofNat 4] :=
    Denylist.enumerates_ofList (by decide) (by simp)
  have union : ∀ place, (Denylist.ofList [address, .ofNat 4]).lists place =
      ((Denylist.ofList [address]).lists place || (Denylist.ofList [.ofNat 4]).lists place) := by
    intro place
    rw [Bool.eq_iff_iff, Bool.or_eq_true]
    simp [Denylist.lists_ofList]
  refine ⟨_, ran, ?_, (one _ _ either).1, (two _ _ _ _ _ _ listed other order union).2.2.1⟩
  exact (one _ _ either).2.1.symm.trans (one _ _ order).2.1

end Behaviour

end PrecompileBridge
