import PrecompileBridge.Proofs.Integrity
import Mathlib.Data.List.Dedup

/-!
A new custom set is reported conflict by conflict. Of each listed contract it is said which built-in it
hides and which contract gives way to it, the latest before it in the list that has its address. What
gave way and what was installed are together the list, so nothing is lost silently.
-/
namespace PrecompileBridge

variable {Label α β : Type}

/-- What is said of each entry of a list in turn, in view of the entries before it. -/
def inTurn (say : List α → α → List β) (before entries : List α) : List β :=
  (entries.mapIdx fun place entry => say (before ++ entries.take place) entry).flatten

theorem inTurn_cons (say : List α → α → List β) (before : List α) (entry : α) (rest : List α) :
    inTurn say before (entry :: rest) = say before entry ++ inTurn say (before ++ [entry]) rest := by
  simp [inTurn, List.mapIdx_cons]

namespace AddressMap

/-- The map has the last of the entries at each address. -/
def HasLast (map : AddressMap α) (entries : List (Address × α)) : Prop :=
  ∀ address, map.get? address = entries.reverse.lookup address

variable {map : AddressMap α} {entries : List (Address × α)}

theorem HasLast.insert (last : map.HasLast entries) (key : Address) (value : α) :
    (map.insert key value).HasLast (entries ++ [(key, value)]) := by
  intro address
  rw [get?_insert, last address, List.reverse_concat, List.lookup_cons]
  by_cases here : key = address
  · simp [here]
  · have elsewhere : (address == key) = false := beq_eq_false_iff_ne.mpr (Ne.symm here)
    rw [if_neg here, elsewhere]

theorem HasLast.size_eq (last : map.HasLast entries) :
    map.size = (entries.map Prod.fst).dedup.length := by
  have members : ∀ key, key ∈ map.keys ↔ key ∈ (entries.map Prod.fst).dedup := by
    intro key
    rw [mem_keys_iff, last, List.lookup_isSome_iff, List.mem_dedup, List.mem_map]
    simp only [List.mem_reverse, beq_iff_eq, @eq_comm _ key]
  have perm := (List.perm_ext_iff_of_nodup map.keys_nodup (List.nodup_dedup _)).mpr members
  calc
    map.size = map.keys.length := (List.length_map _).symm
    _ = _ := perm.length_eq

end AddressMap

def givesWay (before : List (Address × ContractId)) (entry : Address × ContractId) :
    List (Address × ContractId) :=
  ((before.reverse.lookup entry.1).map (entry.1, ·)).toList

def Notice.replaced? : Notice → Option (Address × String)
  | duplicateAddress address replaced => some (address, replaced)
  | _ => none

namespace Catalog

variable (catalog : Catalog Label)

def named (entry : Address × ContractId) : Address × String := (entry.1, catalog.nameOf entry.2)

/-- What is said of a new entry: first of the built-in that it hides, then of the entry that gives way. -/
def remarks (registry : Registry) (before : List (Address × ContractId))
    (entry : Address × ContractId) : List Notice :=
  (if (registry.builtin? entry.1).isSome then [.shadowsBuiltin entry.1 (catalog.nameOf entry.2)]
    else []) ++
  (givesWay before entry).map fun old => .duplicateAddress old.1 (catalog.nameOf old.2)

theorem filterMap_remarks (registry : Registry) (before entries : List (Address × ContractId)) :
    (inTurn (catalog.remarks registry) before entries).filterMap Notice.replaced? =
      (inTurn givesWay before entries).map catalog.named := by
  induction entries generalizing before with
  | nil => rfl
  | cons entry rest ih =>
    have here : (catalog.remarks registry before entry).filterMap Notice.replaced? =
        (givesWay before entry).map catalog.named := by
      rw [remarks, List.filterMap_append, List.filterMap_map]
      split <;> exact congrFun List.filterMap_eq_map _
    rw [inTurn_cons, inTurn_cons, List.filterMap_append, List.map_append, here, ih]

theorem listed_map_snd {catalog : Catalog Label} {ids : List ContractId}
    (known : ∀ id ∈ ids, (catalog.get? id).isSome) : (catalog.listed ids).map Prod.snd = ids := by
  induction ids with
  | nil => rfl
  | cons id rest ih =>
    obtain ⟨contract, held⟩ := Option.isSome_iff_exists.mp (known id (List.mem_cons_self ..))
    have others := ih fun other member => known other (List.mem_cons_of_mem id member)
    rw [listed_cons_some held, List.map_cons, others]

end Catalog

namespace Registry

variable (registry : Registry) {catalog : Catalog Label} {custom : AddressMap ContractId}
  {before : List (Address × ContractId)}

theorem conflicts_eq_remarks (last : custom.HasLast before) {id : ContractId}
    {contract : Contract Label} (held : catalog.get? id = some contract) :
    registry.conflicts catalog custom contract =
      catalog.remarks registry before (contract.address, id) := by
  have name : catalog.nameOf id = contract.name := by simp [Catalog.nameOf, held]
  simp only [conflicts, Catalog.remarks, givesWay, name, last contract.address]
  cases before.reverse.lookup contract.address <;> rfl

theorem collect_remarks (last : custom.HasLast before) (ids : List ContractId) :
    (registry.collect catalog custom ids).2 =
      inTurn (catalog.remarks registry) before (catalog.listed ids) := by
  induction ids generalizing custom before with
  | nil => rfl
  | cons id rest ih =>
    cases held : catalog.get? id with
    | none =>
      rw [collect, held, Catalog.listed_cons_none held]
      exact ih last
    | some contract =>
      rw [collect, held, Catalog.listed_cons_some held, inTurn_cons]
      have later := ih (last.insert contract.address id)
      simp only [registry.conflicts_eq_remarks last held, later]

theorem collect_perm (last : custom.HasLast before) (ids : List ContractId) :
    (inTurn givesWay before (catalog.listed ids) ++
        (registry.collect catalog custom ids).1.entries).Perm
      (catalog.listed ids ++ custom.entries) := by
  induction ids generalizing custom before with
  | nil => exact .refl _
  | cons id rest ih =>
    cases held : catalog.get? id with
    | none =>
      rw [collect, held, Catalog.listed_cons_none held]
      exact ih last
    | some contract =>
      rw [collect, held, Catalog.listed_cons_some held, inTurn_cons]
      have later := ih (last.insert contract.address id)
      have placed := custom.insert_perm contract.address id
      rw [last contract.address] at placed
      rw [List.append_assoc]
      -- What gives way comes out of the map as it is now, before the rest of the list goes in.
      calc
        List.Perm _ (givesWay before (contract.address, id) ++
            (catalog.listed rest ++ (custom.insert contract.address id).entries)) :=
          later.append_left _
        List.Perm _ (catalog.listed rest ++ (givesWay before (contract.address, id) ++
            (custom.insert contract.address id).entries)) :=
          List.perm_append_comm_assoc ..
        List.Perm _ (catalog.listed rest ++ (contract.address, id) :: custom.entries) :=
          placed.append_left _
        List.Perm _ ((contract.address, id) :: catalog.listed rest ++ custom.entries) :=
          List.perm_middle

theorem hasLast_collect (catalog : Catalog Label) (ids : List ContractId) :
    (registry.collect catalog .empty ids).1.HasLast (catalog.listed ids) := by
  intro address
  rw [get?_collect, AddressMap.get?_empty, Option.or_none]

end Registry

namespace Counter

def trio : Catalog Task :=
  ⟨[contract, { contract with name := "twin" },
    { contract with name := "spare", address := .ofNat 0xaa02 }]⟩

def covered : Registry :=
  (machine 6 false).registry.installBuiltin address fun _ _ => .error .outOfGas

end Counter

namespace Registry

/-- A new custom set is reported of each contract in turn: the built-in that it hides, then the contract
that gives way to it. The last notice counts the addresses, and the contracts that the old set had. The
contracts that gave way, which the notices name in order, and those that are installed are together the
contracts of the list. -/
theorem replaceCustom_reported (registry : Registry) {catalog : Catalog Label} {ids : List ContractId}
    (known : ∀ id ∈ ids, (catalog.get? id).isSome) :
    (catalog.listed ids).map Prod.snd = ids ∧
      (registry.replaceCustom catalog ids).2 =
        inTurn (catalog.remarks registry) [] (catalog.listed ids) ++
          [.installed ((catalog.listed ids).map Prod.fst).dedup.length registry.custom.size] ∧
      (registry.replaceCustom catalog ids).2.filterMap Notice.replaced? =
        (inTurn givesWay [] (catalog.listed ids)).map catalog.named ∧
      (inTurn givesWay [] (catalog.listed ids) ++
          (registry.replaceCustom catalog ids).1.custom.entries).Perm (catalog.listed ids) ∧
      ((registry.replaceCustom catalog ids).2.filterMap Notice.replaced?).length +
        ((catalog.listed ids).map Prod.fst).dedup.length = ids.length := by
  have empty : AddressMap.empty.HasLast ([] : List (Address × ContractId)) := fun _ => rfl
  have size := (registry.hasLast_collect catalog ids).size_eq
  have whole : (catalog.listed ids).map Prod.snd = ids := Catalog.listed_map_snd known
  have kept : (inTurn givesWay [] (catalog.listed ids) ++
      (registry.replaceCustom catalog ids).1.custom.entries).Perm (catalog.listed ids) :=
    (registry.collect_perm empty ids).trans (.of_eq (List.append_nil _))
  have notices : (registry.replaceCustom catalog ids).2 =
      inTurn (catalog.remarks registry) [] (catalog.listed ids) ++
        [.installed ((catalog.listed ids).map Prod.fst).dedup.length registry.custom.size] := by
    rw [replaceCustom, registry.collect_remarks empty, size]
  have replaced : (registry.replaceCustom catalog ids).2.filterMap Notice.replaced? =
      (inTurn givesWay [] (catalog.listed ids)).map catalog.named := by
    rw [notices, List.filterMap_append, Catalog.filterMap_remarks]
    exact List.append_nil _
  refine ⟨whole, notices, replaced, kept, ?_⟩
  have lengths := kept.length_eq
  have same := congrArg List.length whole
  rw [List.length_append] at lengths
  rw [List.length_map] at same
  rw [replaced, List.length_map, ← size]
  exact lengths.trans same

open Counter in
theorem replaceCustom_reported_trio :
    (covered.replaceCustom trio [0, 2, 1, 0]).2 =
        [.shadowsBuiltin address "counter", .shadowsBuiltin address "twin",
          .duplicateAddress address "counter", .shadowsBuiltin address "counter",
          .duplicateAddress address "twin", .installed 2 1] ∧
      ([(address, 0), (address, 1)] ++
          (covered.replaceCustom trio [0, 2, 1, 0]).1.custom.entries).Perm
        [(address, 0), (.ofNat 0xaa02, 2), (address, 1), (address, 0)] ∧
      ((covered.replaceCustom trio [0, 2, 1, 0]).2.filterMap Notice.replaced?).length + 2 = 4 := by
  obtain ⟨_, notices, _, kept, counted⟩ :=
    @replaceCustom_reported Task covered trio [0, 2, 1, 0] (by decide)
  exact ⟨notices.trans rfl, kept, counted⟩

end Registry

end PrecompileBridge
