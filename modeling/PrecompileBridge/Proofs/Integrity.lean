import PrecompileBridge.Proofs.ReadOnly
import PrecompileBridge.Proofs.Replay

/-!
The catalog and the registry keep their shape over whole runs. A contract that was built stays in the
catalog as it is, but for its flag, and a registered contract is found at its own address and nowhere
else. Both hold at every point of every run, inside executors and after panics too.
-/
namespace PrecompileBridge

variable {Label Host α : Type}

namespace Catalog

/-- Every contract of the one catalog is in the other, the same but for its flag. -/
def Extends (early late : Catalog Label) : Prop :=
  ∀ id contract, early.get? id = some contract →
    ∃ disabled, late.get? id = some { contract with disabled }

def Built (catalog : Catalog Label) : Prop :=
  ∀ id contract, catalog.get? id = some contract → contract.Constructed

/-- Contracts are found at their own addresses. -/
def Houses (catalog : Catalog Label) (custom : AddressMap ContractId) : Prop :=
  ∀ address id, custom.get? address = some id →
    ∃ contract, catalog.get? id = some contract ∧ contract.address = address

def listed (catalog : Catalog Label) (ids : List ContractId) : List (Address × ContractId) :=
  ids.filterMap fun id => (catalog.get? id).map fun contract => (contract.address, id)

theorem Extends.refl (catalog : Catalog Label) : catalog.Extends catalog :=
  fun _ contract held => ⟨contract.disabled, held⟩

theorem Extends.trans {first middle last : Catalog Label} (early : first.Extends middle)
    (late : middle.Extends last) : first.Extends last := by
  intro id contract held
  obtain ⟨once, kept⟩ := early id contract held
  obtain ⟨again, still⟩ := late id _ kept
  exact ⟨again, still⟩

theorem extends_writeFlag (catalog : Catalog Label) (id : ContractId) (disabled : Bool) :
    catalog.Extends (catalog.writeFlag id disabled) := by
  intro other contract held
  by_cases same : id = other
  · exact ⟨disabled, by rw [get?_writeFlag, if_pos same, held, Option.map_some]⟩
  · exact ⟨contract.disabled, by rw [get?_writeFlag, if_neg same, held]⟩

theorem extends_add (catalog : Catalog Label) (contract : Contract Label) :
    catalog.Extends (catalog.add contract) := by
  intro id other held
  have known : id ≠ catalog.next := by
    have bound : id < catalog.contracts.length := (List.getElem?_eq_some_iff.mp held).1
    exact Nat.ne_of_lt bound
  exact ⟨other.disabled, by rw [get?_add, if_neg known, held]⟩

theorem Built.writeFlag {catalog : Catalog Label} (built : catalog.Built) (id : ContractId)
    (disabled : Bool) : (catalog.writeFlag id disabled).Built := by
  intro other contract held
  rw [get?_writeFlag] at held
  split at held
  · obtain ⟨before, found, same⟩ := Option.map_eq_some_iff.mp held
    exact same ▸ (built other before found).withFlag disabled
  · exact built other contract held

theorem Built.add {catalog : Catalog Label} (built : catalog.Built) {contract : Contract Label}
    (constructed : contract.Constructed) : (catalog.add contract).Built := by
  intro id other held
  rw [get?_add] at held
  split at held
  · exact Option.some.inj held ▸ constructed
  · exact built id other held

theorem Houses.extend {early late : Catalog Label} {custom : AddressMap ContractId}
    (houses : early.Houses custom) (extension : early.Extends late) : late.Houses custom := by
  intro address id registered
  obtain ⟨contract, held, lives⟩ := houses address id registered
  obtain ⟨disabled, still⟩ := extension id contract held
  exact ⟨{ contract with disabled }, still, lives⟩

theorem mem_listed_iff {catalog : Catalog Label} {ids : List ContractId} {address : Address}
    {id : ContractId} :
    (address, id) ∈ catalog.listed ids ↔
      id ∈ ids ∧ ∃ contract, catalog.get? id = some contract ∧ contract.address = address := by
  simp only [listed, List.mem_filterMap, Option.map_eq_some_iff, Prod.mk.injEq]
  constructor
  · intro found
    obtain ⟨other, member, contract, held, lives, same⟩ := found
    exact ⟨same ▸ member, contract, same ▸ held, lives⟩
  · intro found
    obtain ⟨member, contract, held, lives⟩ := found
    exact ⟨id, member, contract, held, lives, rfl⟩

theorem listed_cons_none {catalog : Catalog Label} {id : ContractId} (unknown : catalog.get? id = none)
    (rest : List ContractId) : catalog.listed (id :: rest) = catalog.listed rest := by
  simp [listed, unknown]

theorem listed_cons_some {catalog : Catalog Label} {id : ContractId} {contract : Contract Label}
    (held : catalog.get? id = some contract) (rest : List ContractId) :
    catalog.listed (id :: rest) = (contract.address, id) :: catalog.listed rest := by
  simp [listed, held]

end Catalog

/-- The last of the listed contracts at an address takes it; where none is listed nothing changes. -/
theorem Registry.get?_collect (registry : Registry) (catalog : Catalog Label)
    (custom : AddressMap ContractId) (ids : List ContractId) (address : Address) :
    (registry.collect catalog custom ids).1.get? address =
      ((catalog.listed ids).reverse.lookup address).or (custom.get? address) := by
  induction ids generalizing custom with
  | nil => rfl
  | cons id rest ih =>
    cases held : catalog.get? id with
    | none =>
      rw [collect, held, Catalog.listed_cons_none held]
      exact ih custom
    | some contract =>
      -- The first of the list gives way to the rest, and takes precedence over what was there.
      rw [collect, held, Catalog.listed_cons_some held, List.reverse_cons, List.lookup_append, Option.or_assoc]
      simp only [ih, AddressMap.get?_insert]
      by_cases here : contract.address = address
      · simp [here]
      · have elsewhere : (address == contract.address) = false :=
          beq_eq_false_iff_ne.mpr (Ne.symm here)
        simp [here, elsewhere, List.lookup_cons]

theorem Denylist.applyAll_keeps {kept : Catalog Label → Prop}
    (writes : ∀ catalog id, kept catalog → kept (catalog.writeFlag id true)) (registry : Registry)
    {catalog : Catalog Label} (addresses : List Address) (holds : kept catalog) :
    kept (applyAll registry catalog addresses).catalog := by
  induction addresses generalizing catalog with
  | nil => exact holds
  | cons address rest ih =>
    cases found : registry.custom? address with
    | none =>
      simp only [applyAll, found]
      exact ih holds
    | some id =>
      simp only [applyAll, found]
      exact ih (writes catalog id holds)

/-- What holds of a machine at all times: only checked contracts were ever built, and every entry of
the custom set is at the address of its contract. -/
structure Machine.Sound (machine : Machine Label Host) : Prop where
  built : machine.catalog.Built
  housed : machine.catalog.Houses machine.registry.custom

namespace Machine.Sound

variable {machine : Machine Label Host}

theorem valid (sound : machine.Sound) {id : ContractId} {contract : Contract Label}
    (held : machine.catalog.get? id = some contract) : contract.Valid :=
  Contract.constructed_iff_valid.mp (sound.built id contract held)

theorem entry_lives (sound : machine.Sound) {address : Address} {id : ContractId}
    (entry : (address, id) ∈ machine.registry.custom.entries) :
    address ≠ .zero ∧
      ∃ contract, machine.catalog.get? id = some contract ∧ contract.address = address := by
  obtain ⟨contract, held, lives⟩ :=
    sound.housed address id (AddressMap.get?_eq_some_iff.mpr entry)
  exact ⟨lives ▸ (sound.valid held).address_ne_zero, contract, held, lives⟩

theorem zero_not_listed (sound : machine.Sound) :
    Address.zero ∉ machine.registry.contractAddresses := by
  intro listed
  obtain ⟨entry, member, zero⟩ := List.mem_map.mp listed
  exact (sound.entry_lives member).1 zero

end Machine.Sound

namespace Effect

theorem extends_apply (effect : Effect Label Host) (machine : Machine Label Host) :
    machine.catalog.Extends (effect.apply machine).catalog := by
  cases effect with
  | writeFlag id disabled => exact machine.catalog.extends_writeFlag id disabled
  | build address descriptors name =>
    simp only [apply]
    split
    · exact Catalog.Extends.refl machine.catalog
    · exact machine.catalog.extends_add _
  | deny denylist =>
    have writes (catalog : Catalog Label) (id : ContractId) (kept : machine.catalog.Extends catalog) :
        machine.catalog.Extends (catalog.writeFlag id true) :=
      kept.trans (catalog.extends_writeFlag id true)
    exact Denylist.applyAll_keeps writes machine.registry denylist.disabled.keys
      (Catalog.Extends.refl machine.catalog)
  | _ => exact Catalog.Extends.refl machine.catalog

theorem built_apply (effect : Effect Label Host) {machine : Machine Label Host}
    (built : machine.catalog.Built) : (effect.apply machine).catalog.Built := by
  cases effect with
  | writeFlag id disabled => exact built.writeFlag id disabled
  | build address descriptors name =>
    simp only [apply]
    split
    · exact built
    · rename_i contract accepted
      exact built.add
        (Contract.constructed_iff_valid.mpr (Contract.construct_eq_ok_iff.mp accepted).1)
  | deny denylist =>
    exact Denylist.applyAll_keeps (fun _ id kept => kept.writeFlag id true) machine.registry
      denylist.disabled.keys built
  | _ => exact built

theorem custom_apply (effect : Effect Label Host) (machine : Machine Label Host) :
    (effect.apply machine).registry.custom =
      match effect with
      | install ids => (machine.registry.collect machine.catalog .empty ids).1
      | _ => machine.registry.custom := by
  cases effect with
  | build address descriptors name =>
    simp only [apply]
    split <;> rfl
  | _ => rfl

theorem sound_apply (effect : Effect Label Host) {machine : Machine Label Host}
    (sound : machine.Sound) : (effect.apply machine).Sound := by
  refine ⟨effect.built_apply sound.built, ?_⟩
  have extension := effect.extends_apply machine
  have custom := effect.custom_apply machine
  cases effect with
  | install ids =>
    -- The new set is made of contracts that the catalog has, each put at its own address.
    intro address id registered
    rw [custom, Registry.get?_collect, AddressMap.get?_empty, Option.or_none] at registered
    obtain ⟨before, after, split, _⟩ := List.lookup_eq_some_iff.mp registered
    have member : (address, id) ∈ machine.catalog.listed ids := by
      rw [← List.mem_reverse, split]
      exact List.mem_append_right before (List.mem_cons_self ..)
    exact (Catalog.mem_listed_iff.mp member).2
  | _ =>
    -- The set stays as it is, and the catalog forgets nothing.
    rw [custom]
    exact sound.housed.extend extension

end Effect

structure Machine.Fresh (machine : Machine Label Host) : Prop where
  custom : machine.registry.custom = .empty
  installed : machine.registry.installed = .empty
  built : machine.catalog.Built

namespace Machine.Fresh

theorem ofFork (host : Host) (fork : Fork) (depth : UInt64) :
    (Machine.ofFork host fork depth : Machine Label Host).Fresh := by
  refine ⟨rfl, rfl, ?_⟩
  intro id contract held
  exact absurd held (by simp [Machine.ofFork, Catalog.empty, Catalog.get?])

theorem sound {machine : Machine Label Host} (fresh : machine.Fresh) : machine.Sound := by
  refine ⟨fresh.built, ?_⟩
  intro address id registered
  rw [fresh.custom, AddressMap.get?_empty] at registered
  contradiction

end Machine.Fresh

theorem Coherent.sound {machine : Machine Label Host} {events : List (Event Label Host)}
    (coherent : Coherent machine events) (sound : machine.Sound) : (replay machine events).Sound :=
  coherent.keeps Machine.Sound (fun effect _ kept => effect.sound_apply kept)
    (fun _ _ kept => ⟨kept.built, kept.housed⟩) sound

theorem Coherent.extends_replay {machine : Machine Label Host} {events : List (Event Label Host)}
    (coherent : Coherent machine events) : machine.catalog.Extends (replay machine events).catalog :=
  coherent.keeps (fun later => machine.catalog.Extends later.catalog)
    (fun effect later kept => kept.trans (effect.extends_apply later)) (fun _ _ kept => kept)
    (Catalog.Extends.refl machine.catalog)

theorem Coherent.extends_of_part {machine : Machine Label Host}
    {early late : List (Event Label Host)} (coherent : Coherent machine late)
    (part : early <+: late) :
    (replay machine early).catalog.Extends (replay machine late).catalog := by
  obtain ⟨rest, split⟩ := part
  subst split
  rw [replay_append]
  exact (coherent_append.mp coherent).2.extends_replay

/-- Right after a contract is built it is in the catalog, under the number that was next. -/
theorem replay_build (machine : Machine Label Host) {address : Address}
    {descriptors : List (Descriptor Label)} {name : String} {contract : Contract Label}
    (accepted : Contract.construct address descriptors name = .ok contract) :
    (replay machine [.performed (.build address descriptors name)]).catalog.get?
      machine.catalog.next = some contract := by
  simp only [replay_cons, replay_nil, Event.replay, Effect.apply, accepted, Catalog.get?_add,
    if_pos]

theorem Coherent.kept_since_build {machine : Machine Label Host}
    {earlier late : List (Event Label Host)} {address : Address}
    {descriptors : List (Descriptor Label)} {name : String} {contract : Contract Label}
    (coherent : Coherent machine late)
    (part : earlier ++ [.performed (.build address descriptors name)] <+: late)
    (accepted : Contract.construct address descriptors name = .ok contract) :
    ∃ disabled, (replay machine late).catalog.get? (replay machine earlier).catalog.next =
      some { contract with disabled } := by
  have extension := coherent.extends_of_part part
  rw [replay_append] at extension
  exact extension _ contract (replay_build (replay machine earlier) accepted)

namespace Counter

def session (request : Request) : Procedure Task Nat (Outcome (Option CallResult)) :=
  .act (.build address descriptors "counter")
    (.act (.install [0]) (.call (.address address) request .done))

def blank : Machine Task Nat := .ofFork 6 .cancun 3

end Counter

namespace Behaviour

/-- At every point of a run from a fresh machine the custom set maps addresses to contracts that live
there, none of them at the zero address and none listed twice; every contract has methods, with
distinct selectors, and charges for those that write; and every contract is, but for its flag, as it
was when it was built. -/
theorem sound_throughout_run {behaviour : Behaviour Label Host} {nesting : Nat}
    {program : Procedure Label Host α} {start : Machine Label Host} {run : Run Label Host α}
    (fresh : start.Fresh) (ran : program.run (behaviour.call nesting) start = some run) :
    Replays start run.events run.machine ∧ ∀ early, early <+: run.events →
      (∀ address id, (address, id) ∈ (replay start early).registry.custom.entries →
        address ≠ .zero ∧ ∃ contract, (replay start early).catalog.get? id = some contract ∧
          contract.address = address) ∧
      (∀ id contract, (replay start early).catalog.get? id = some contract →
        contract.methods ≠ [] ∧ (contract.methods.map Method.selector).Nodup ∧
          ∀ method ∈ contract.methods, method.readOnly = false → 1 ≤ method.gas) ∧
      (∀ earlier, earlier <+: early →
        (replay start earlier).catalog.Extends (replay start early).catalog) ∧
      (∀ earlier address descriptors name contract,
        earlier ++ [.performed (.build address descriptors name)] <+: early →
        Contract.construct address descriptors name = .ok contract →
        ∃ disabled, (replay start early).catalog.get? (replay start earlier).catalog.next =
          some { contract with disabled }) ∧
      Address.zero ∉ (replay start early).registry.contractAddresses ∧
      (replay start early).registry.contractAddresses.Nodup := by
  have replays := run_replays ran
  refine ⟨replays, ?_⟩
  intro early part
  have coherent : Coherent start early := replays.1.of_part part
  have sound : (replay start early).Sound := coherent.sound fresh.sound
  refine ⟨?_, ?_, ?_, ?_, sound.zero_not_listed, AddressMap.keys_nodup _⟩
  · intro address id entry
    exact sound.entry_lives entry
  · intro id contract held
    have valid := sound.valid held
    exact ⟨valid.methods_ne_nil, valid.distinct, valid.priced⟩
  · intro earlier before
    exact coherent.extends_of_part before
  · intro earlier address descriptors name contract before accepted
    exact coherent.kept_since_build before accepted

open Counter in
theorem sound_throughout_run_increment :
    ∃ run early, (session (increment 9 false)).run (behaviour.call 2) blank = some run ∧
      early <+: run.events ∧ (∃ entry, early.getLast? = some (.entered entry)) ∧
      (replay blank early).registry.contractAddresses = [address] ∧
      ∃ disabled, (replay blank early).catalog.get? 0 = some { contract with disabled } := by
  have ran : (session (increment 9 false)).run (behaviour.call 2) blank = some _ := rfl
  have sound := (sound_throughout_run (.ofFork 6 .cancun 3) ran).2
  obtain ⟨_, _, _, built, _⟩ := sound _ ⟨_, List.take_append_drop 7 _⟩
  refine ⟨_, _, ran, ⟨_, List.take_append_drop 7 _⟩, ⟨_, rfl⟩, rfl, ?_⟩
  exact built [] address descriptors "counter" contract ⟨_, rfl⟩ contract_built

end Behaviour

end PrecompileBridge
