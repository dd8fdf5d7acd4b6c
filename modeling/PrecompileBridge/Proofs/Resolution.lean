import PrecompileBridge.Proofs.Integrity

/-!
What an address leads to is told by the history of registrations alone. The latest custom set comes
first, and in it the last contract at the address; then the built-in that was installed there last;
then the built-in of the fork. This holds at every point of every run, whoever registered and whatever
happened in between, and every question that the registry answers is answered by it.
-/
namespace PrecompileBridge

variable {Label Host α : Type}

inductive Registration
  /-- These contracts, each with its address, became the whole custom set. -/
  | contracts (listed : List (Address × ContractId))
  | builtin (address : Address) (run : Builtin)

namespace Registration

def contracts? : Registration → Option (List (Address × ContractId))
  | contracts listed => some listed
  | builtin _ _ => none

def builtin? (address : Address) : Registration → Option Builtin
  | contracts _ => none
  | builtin place run => if place = address then some run else none

end Registration

abbrev History := List Registration

namespace History

/-- The last contract at the address in the latest custom set. -/
def contract? (history : History) (address : Address) : Option ContractId :=
  ((history.reverse.findSome? Registration.contracts?).getD []).reverse.lookup address

def builtin? (history : History) (address : Address) : Option Builtin :=
  history.reverse.findSome? (Registration.builtin? address)

def resolve (history : History) (standard : AddressMap Builtin) (address : Address) :
    Option Precompile :=
  match history.contract? address, history.builtin? address with
  | some id, _ => some (.custom id)
  | none, some run => some (.builtin run)
  | none, none => (standard.get? address).map .builtin

variable (history : History) (listed : List (Address × ContractId)) (place address : Address)
  (run : Builtin)

theorem contract?_contracts :
    contract? (history ++ [.contracts listed]) address = listed.reverse.lookup address := by
  simp [contract?, List.findSome?_cons, Registration.contracts?]

theorem contract?_builtin :
    contract? (history ++ [.builtin place run]) address = history.contract? address := by
  simp [contract?, List.findSome?_cons, Registration.contracts?]

theorem builtin?_contracts :
    builtin? (history ++ [.contracts listed]) address = history.builtin? address := by
  simp [builtin?, List.findSome?_cons, Registration.builtin?]

theorem builtin?_builtin :
    builtin? (history ++ [.builtin place run]) address =
      if place = address then some run else history.builtin? address := by
  by_cases here : place = address <;> simp [builtin?, Registration.builtin?, here]

end History

def Effect.registration? (machine : Machine Label Host) : Effect Label Host → Option Registration
  | install ids => some (.contracts (machine.catalog.listed ids))
  | installBuiltin address run => some (.builtin address run)
  | _ => none

def Event.registrations (machine : Machine Label Host) : Event Label Host → History
  | performed effect => (effect.registration? machine).toList
  | _ => []

def registrations : Machine Label Host → List (Event Label Host) → History
  | _, [] => []
  | machine, event :: rest =>
    event.registrations machine ++ registrations (event.replay machine) rest

structure Registry.Reflects (registry : Registry) (standard : AddressMap Builtin)
    (history : History) : Prop where
  standard : registry.standard = standard
  installed : ∀ address, registry.installed.get? address = history.builtin? address
  custom : ∀ address, registry.custom.get? address = history.contract? address

namespace Registry.Reflects

variable {registry : Registry} {standard : AddressMap Builtin} {history : History}

theorem replaceCustom (reflects : registry.Reflects standard history) (catalog : Catalog Label)
    (ids : List ContractId) :
    (registry.replaceCustom catalog ids).1.Reflects standard
      (history ++ [.contracts (catalog.listed ids)]) := by
  refine ⟨reflects.standard, ?_, ?_⟩
  · intro address
    rw [History.builtin?_contracts]
    exact reflects.installed address
  · intro address
    have collected := registry.get?_collect catalog .empty ids address
    rw [AddressMap.get?_empty, Option.or_none] at collected
    rw [History.contract?_contracts]
    exact collected

theorem installBuiltin (reflects : registry.Reflects standard history) (place : Address)
    (run : Builtin) :
    (registry.installBuiltin place run).Reflects standard (history ++ [.builtin place run]) := by
  refine ⟨reflects.standard, ?_, ?_⟩
  · intro address
    rw [History.builtin?_builtin, ← reflects.installed address]
    exact AddressMap.get?_insert registry.installed place address run
  · intro address
    rw [History.contract?_builtin]
    exact reflects.custom address

theorem resolve_eq (reflects : registry.Reflects standard history) (address : Address) :
    registry.resolve address = history.resolve standard address := by
  simp only [resolve, custom?, builtin?, History.resolve, reflects.custom, reflects.installed,
    reflects.standard]
  cases history.contract? address with
  | some id => rfl
  | none => cases history.builtin? address <;> rfl

end Registry.Reflects

theorem Effect.reflects_apply (effect : Effect Label Host) {machine : Machine Label Host}
    {standard : AddressMap Builtin} {history : History}
    (reflects : machine.registry.Reflects standard history) :
    (effect.apply machine).registry.Reflects standard
      (history ++ (effect.registration? machine).toList) := by
  have kept : machine.registry.Reflects standard (history ++ []) := by rwa [List.append_nil]
  cases effect with
  | install ids => exact reflects.replaceCustom machine.catalog ids
  | installBuiltin address run => exact reflects.installBuiltin address run
  | build address descriptors name =>
    simp only [apply]
    split <;> exact kept
  | _ => exact kept

theorem Event.Fits.reflects_replay {event : Event Label Host} {machine : Machine Label Host}
    {standard : AddressMap Builtin} {history : History} (fits : event.Fits machine)
    (reflects : machine.registry.Reflects standard history) :
    (event.replay machine).registry.Reflects standard
      (history ++ event.registrations machine) := by
  have kept : machine.registry.Reflects standard (history ++ []) := by rwa [List.append_nil]
  have same := fits.replay_eq
  cases event with
  | performed effect => exact effect.reflects_apply reflects
  | _ =>
    rcases same with ⟨_, impossible⟩ | same
    · contradiction
    · rw [same]
      exact kept

theorem Coherent.reflects_replay {machine : Machine Label Host} {events : List (Event Label Host)}
    {standard : AddressMap Builtin} {history : History} (coherent : Coherent machine events)
    (reflects : machine.registry.Reflects standard history) :
    (replay machine events).registry.Reflects standard
      (history ++ registrations machine events) := by
  induction events generalizing machine history with
  | nil =>
    rw [registrations, List.append_nil]
    exact reflects
  | cons event rest ih =>
    have later := ih coherent.2 (coherent.1.reflects_replay reflects)
    rwa [List.append_assoc] at later

theorem Machine.Fresh.reflects {machine : Machine Label Host} (fresh : machine.Fresh) :
    machine.registry.Reflects machine.registry.standard [] := by
  refine ⟨rfl, ?_, ?_⟩
  · intro address
    rw [fresh.installed]
    rfl
  · intro address
    rw [fresh.custom]
    rfl

theorem Catalog.filterMap_get?_map_some {catalog : Catalog Label} {ids : List ContractId}
    (held : ∀ id ∈ ids, (catalog.get? id).isSome) :
    (ids.filterMap catalog.get?).map some = ids.map catalog.get? := by
  induction ids with
  | nil => rfl
  | cons id rest ih =>
    obtain ⟨contract, found⟩ := Option.isSome_iff_exists.mp (held id (List.mem_cons_self ..))
    have others := ih fun other member => held other (List.mem_cons_of_mem id member)
    rw [List.filterMap_cons_some found, List.map_cons, List.map_cons, others, found]

theorem Machine.Sound.registered_map_some {machine : Machine Label Host} (sound : machine.Sound) :
    machine.registered.map some = machine.registry.contractAddresses.map fun address =>
      (machine.registry.custom.get? address).bind machine.catalog.get? := by
  have held : ∀ id ∈ machine.registry.custom.values, (machine.catalog.get? id).isSome := by
    intro id member
    obtain ⟨entry, among, same⟩ := List.mem_map.mp member
    obtain ⟨_, contract, found, _⟩ := sound.entry_lives among
    rw [← same, found]
    rfl
  -- A listing passes over numbers without a contract; no registered number is such.
  calc
    machine.registered.map some
      = machine.registry.custom.values.map machine.catalog.get? :=
      Catalog.filterMap_get?_map_some held
    _ = (machine.registry.custom.values.map some).map fun id? => id?.bind machine.catalog.get? := by
      rw [List.map_map]
      rfl
    _ = _ := by
      rw [AddressMap.values_map_some, List.map_map]
      rfl

theorem Bridge.returns_none_iff {execute : Executor Label Host} {address : Address}
    {request : Request} {machine : Machine Label Host} {run : Run Label Host (Option CallResult)}
    (houses : machine.catalog.Houses machine.registry.custom)
    (answered : call execute (.address address) request machine = some run) :
    run.outcome = .returned none ↔ machine.resolve address = none := by
  have located : locate machine (.address address) = machine.resolve address := rfl
  cases found : machine.resolve address with
  | none =>
    simp only [call, located, found, Option.some.injEq] at answered
    subst answered
    exact iff_of_true rfl rfl
  | some precompile =>
    refine iff_of_false ?_ (Option.some_ne_none precompile)
    intro nothing
    rw [found] at located
    cases precompile with
    | builtin builtin =>
      simp only [call, located, callBuiltin, refuse, Option.map_some, Option.some.injEq] at answered
      subst answered
      simp [Run.map, Outcome.map] at nothing
    | custom id =>
      have registered : machine.registry.custom.get? address = some id := by
        simp only [Machine.resolve, Registry.resolve, Registry.custom?] at found
        split at found
        · cases found
          assumption
        · simp at found
      obtain ⟨contract, held, _⟩ := houses address id registered
      rw [call_custom execute located held] at answered
      obtain ⟨inner, _, same⟩ := Option.map_eq_some_iff.mp answered
      subst same
      cases outcome : inner.outcome <;> simp [Run.map, Outcome.map, outcome] at nothing

/-- All that can be asked about addresses is answered from a history, whoever asks. -/
structure Machine.AnswersFrom (machine : Machine Label Host) (behaviour : Behaviour Label Host)
    (standard : AddressMap Builtin) (history : History) : Prop where
  resolve : ∀ address, machine.resolve address = history.resolve standard address
  custom : ∀ address, machine.registry.custom? address = history.contract? address
  contains : ∀ address, machine.registry.contains address =
    (history.resolve standard address).isSome
  addresses_nodup : machine.registry.contractAddresses.Nodup
  mem_addresses_iff : ∀ address, address ∈ machine.registry.contractAddresses ↔
    (history.contract? address).isSome
  registered : machine.registered.map some = machine.registry.contractAddresses.map fun address =>
    (history.contract? address).bind machine.catalog.get?
  lives_there : ∀ address id, history.contract? address = some id →
    ∃ contract, machine.catalog.get? id = some contract ∧ contract.address = address
  call_of_none : ∀ nesting address request, history.resolve standard address = none →
    behaviour.call nesting (.address address) request machine = some (.pure none machine)
  returns_none_iff : ∀ nesting address request run,
    behaviour.call nesting (.address address) request machine = some run →
      (run.outcome = .returned none ↔ history.resolve standard address = none)

theorem Registry.Reflects.answersFrom {machine : Machine Label Host}
    {standard : AddressMap Builtin} {history : History}
    (reflects : machine.registry.Reflects standard history) (sound : machine.Sound)
    (behaviour : Behaviour Label Host) : machine.AnswersFrom behaviour standard history := by
  have resolved : ∀ address, machine.resolve address = history.resolve standard address :=
    reflects.resolve_eq
  constructor
  case resolve => exact resolved
  case custom => exact reflects.custom
  case contains =>
    intro address
    rw [Registry.contains_eq_isSome_resolve, reflects.resolve_eq]
  case addresses_nodup => exact machine.registry.custom.keys_nodup
  case mem_addresses_iff =>
    intro address
    rw [← reflects.custom]
    exact AddressMap.mem_keys_iff
  case registered =>
    rw [sound.registered_map_some]
    exact List.map_congr_left fun address _ => by rw [reflects.custom]
  case lives_there =>
    intro address id latest
    exact sound.housed address id ((reflects.custom address).trans latest)
  case call_of_none =>
    intro nesting address request nothing
    have located : Bridge.locate machine (.address address) = none :=
      (resolved address).trans nothing
    simp only [Behaviour.call, Bridge.call, located]
  case returns_none_iff =>
    intro nesting address request run answered
    rw [← resolved]
    exact Bridge.returns_none_iff sound.housed answered

namespace Counter

def takeover : Procedure Task Nat Unit :=
  .act (.build address descriptors "counter") (.act (.build address descriptors "twin")
    (.act (.installBuiltin address fun _ _ => .error .outOfGas)
      (.act (.install [0, 1]) (.act (.install []) (.done ())))))

end Counter

namespace Behaviour

/-- At every point of a run from a fresh machine, what an address leads to is what the registrations
up to that point say, whether the host made them or an executor during a call: the last contract at the
address in the latest custom set, or else the built-in installed there last, or else the standard one,
or else nothing. -/
theorem answers_from_history {behaviour : Behaviour Label Host} {nesting : Nat}
    {program : Procedure Label Host α} {start : Machine Label Host} {run : Run Label Host α}
    (fresh : start.Fresh) (ran : program.run (behaviour.call nesting) start = some run) :
    Replays start run.events run.machine ∧ ∀ early, early <+: run.events →
      (replay start early).AnswersFrom behaviour start.registry.standard
        (registrations start early) := by
  have replays := run_replays ran
  refine ⟨replays, ?_⟩
  intro early part
  have coherent : Coherent start early := replays.1.of_part part
  exact (coherent.reflects_replay fresh.reflects).answersFrom (coherent.sound fresh.sound) behaviour

open Counter in
theorem answers_from_history_takeover :
    ∃ run, takeover.run (behaviour.call 1) blank = some run ∧
      (replay blank (run.events.take 4)).resolve address = some (.custom 1) ∧
      (replay blank (run.events.take 4)).registered.length = 1 ∧
      ∃ builtin, run.machine.resolve address = some (.builtin builtin) := by
  have ran : takeover.run (behaviour.call 1) blank = some _ := rfl
  obtain ⟨⟨_, leads⟩, answers⟩ := answers_from_history (.ofFork 6 .cancun 3) ran
  refine ⟨_, ran, ?_, ?_, ?_⟩
  · exact ((answers _ ⟨_, List.take_append_drop 4 _⟩).resolve address).trans rfl
  · have listed := (answers _ ⟨_, List.take_append_drop 4 _⟩).registered
    have lengths := congrArg List.length listed
    rw [List.length_map, List.length_map] at lengths
    exact lengths.trans rfl
  · have final := (answers _ (List.prefix_refl _)).resolve address
    rw [leads] at final
    exact ⟨_, final.trans rfl⟩

end Behaviour

end PrecompileBridge
