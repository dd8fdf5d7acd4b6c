import PrecompileBridge.Proofs.Integrity
import PrecompileBridge.Proofs.Transparency

/-!
The flag that disables a contract. Whoever writes it, through whatever hold on the contract, the last
write counts: it decides the next call to the contract, be that a nested one or one made much later. A
call reads the flag once, at its entry, so what its own executor writes comes too late for it.
-/
namespace PrecompileBridge

variable {Label Host α : Type}

abbrev FlagWrites := List (ContractId × Bool)

def FlagWrites.last? (writes : FlagWrites) (id : ContractId) : Option Bool :=
  writes.reverse.lookup id

theorem FlagWrites.last?_append (first second : FlagWrites) (id : ContractId) :
    last? (first ++ second) id = (second.last? id).or (first.last? id) := by
  rw [last?, List.reverse_append, List.lookup_append]
  rfl

theorem FlagWrites.last?_singleton (id other : ContractId) (disabled : Bool) :
    last? [(id, disabled)] other = if id = other then some disabled else none := by
  by_cases same : id = other
  · simp [last?, same]
  · have apart : (other == id) = false := beq_eq_false_iff_ne.mpr (Ne.symm same)
    simp [last?, List.lookup_cons, apart, same]

/-- What an effect writes: a contract that is built starts out enabled, and a denylist disables each
contract that is registered at one of its addresses. Registration writes nothing. -/
def Effect.flagWrites (machine : Machine Label Host) : Effect Label Host → FlagWrites
  | writeFlag id disabled => [(id, disabled)]
  | build address descriptors name =>
    match Contract.construct address descriptors name with
    | .ok _ => [(machine.catalog.next, false)]
    | .error _ => []
  | deny denylist =>
    (denylist.disabled.keys.filterMap machine.registry.custom?).map fun id => (id, true)
  | _ => []

def Event.flagWrites (machine : Machine Label Host) : Event Label Host → FlagWrites
  | performed effect => effect.flagWrites machine
  | _ => []

def flagWrites : Machine Label Host → List (Event Label Host) → FlagWrites
  | _, [] => []
  | machine, event :: rest => event.flagWrites machine ++ flagWrites (event.replay machine) rest

/-- The flag of a contract after a trace, told by the writes alone: as it was written last, or as it was
at the start if it was not written since. -/
def lastFlag? (start : Machine Label Host) (events : List (Event Label Host)) (id : ContractId) :
    Option Bool :=
  ((flagWrites start events).last? id).or ((start.catalog.get? id).map Contract.disabled)

namespace Catalog

/-- In the later catalog every flag is as it was written last, or else as it was before. -/
def Wrote (early : Catalog Label) (writes : FlagWrites) (late : Catalog Label) : Prop :=
  ∀ id contract, late.get? id = some contract →
    (writes.last? id).or ((early.get? id).map Contract.disabled) = some contract.disabled

theorem Wrote.refl (catalog : Catalog Label) : catalog.Wrote [] catalog := by
  intro id contract held
  rw [held]
  rfl

theorem Wrote.append {early middle late : Catalog Label} {first second : FlagWrites}
    (before : early.Wrote first middle) (after : middle.Wrote second late) :
    early.Wrote (first ++ second) late := by
  intro id contract held
  have last := after id contract held
  rw [FlagWrites.last?_append, Option.or_assoc]
  cases written : second.last? id with
  | some disabled => rwa [written] at last
  | none =>
    -- Nothing is written later, so the contract was there before with the same flag.
    rw [written, Option.none_or] at last
    obtain ⟨other, found, same⟩ := Option.map_eq_some_iff.mp last
    rw [Option.none_or, before id other found, same]

theorem wrote_writeFlag (catalog : Catalog Label) (id : ContractId) (disabled : Bool) :
    catalog.Wrote [(id, disabled)] (catalog.writeFlag id disabled) := by
  intro other contract held
  rw [get?_writeFlag] at held
  rw [FlagWrites.last?_singleton]
  by_cases same : id = other
  · rw [if_pos same] at held
    obtain ⟨before, _, written⟩ := Option.map_eq_some_iff.mp held
    rw [if_pos same, ← written]
    rfl
  · rw [if_neg same] at held
    rw [if_neg same, held]
    rfl

theorem wrote_add (catalog : Catalog Label) {contract : Contract Label}
    (enabled : contract.disabled = false) :
    catalog.Wrote [(catalog.next, false)] (catalog.add contract) := by
  intro id other held
  rw [get?_add] at held
  rw [FlagWrites.last?_singleton]
  by_cases fresh : id = catalog.next
  · rw [if_pos fresh] at held
    rw [if_pos fresh.symm, ← Option.some.inj held, enabled]
    rfl
  · rw [if_neg fresh] at held
    rw [if_neg (Ne.symm fresh), held]
    rfl

end Catalog

theorem Denylist.wrote_applyAll (registry : Registry) (catalog : Catalog Label)
    (addresses : List Address) :
    catalog.Wrote ((addresses.filterMap registry.custom?).map fun id => (id, true))
      (applyAll registry catalog addresses).catalog := by
  induction addresses generalizing catalog with
  | nil => exact .refl catalog
  | cons address rest ih =>
    cases found : registry.custom? address with
    | none =>
      simp only [applyAll, found, List.filterMap_cons_none found]
      exact ih catalog
    | some id =>
      simp only [applyAll, found, List.filterMap_cons_some found, List.map_cons]
      exact (catalog.wrote_writeFlag id true).append (ih (catalog.writeFlag id true))

theorem Effect.wrote_apply (effect : Effect Label Host) (machine : Machine Label Host) :
    machine.catalog.Wrote (effect.flagWrites machine) (effect.apply machine).catalog := by
  cases effect with
  | writeFlag id disabled => exact machine.catalog.wrote_writeFlag id disabled
  | build address descriptors name =>
    cases built : Contract.construct address descriptors name with
    | error cause =>
      simp only [apply, flagWrites, built]
      exact .refl machine.catalog
    | ok contract =>
      have enabled : contract.disabled = false :=
        congrArg Contract.disabled (Contract.construct_eq_ok_iff.mp built).2.1
      simp only [apply, flagWrites, built]
      exact machine.catalog.wrote_add enabled
  | deny denylist => exact Denylist.wrote_applyAll machine.registry machine.catalog _
  | _ => exact .refl machine.catalog

theorem Event.Fits.wrote_replay {event : Event Label Host} {machine : Machine Label Host}
    (fits : event.Fits machine) :
    machine.catalog.Wrote (event.flagWrites machine) (event.replay machine).catalog := by
  have same := fits.replay_eq
  cases event with
  | performed effect => exact effect.wrote_apply machine
  | _ =>
    rcases same with ⟨_, impossible⟩ | same
    · contradiction
    · rw [same]
      exact .refl machine.catalog

namespace Coherent

variable {machine : Machine Label Host} {events : List (Event Label Host)}

theorem wrote_replay (coherent : Coherent machine events) :
    machine.catalog.Wrote (flagWrites machine events) (replay machine events).catalog := by
  induction events generalizing machine with
  | nil => exact .refl machine.catalog
  | cons event rest ih => exact coherent.1.wrote_replay.append (ih coherent.2)

theorem get?_of_unwritten (coherent : Coherent machine events) {id : ContractId}
    {contract : Contract Label} (held : machine.catalog.get? id = some contract)
    (unwritten : (flagWrites machine events).last? id = none) :
    (replay machine events).catalog.get? id = some contract := by
  obtain ⟨disabled, found⟩ := coherent.extends_replay id contract held
  have kept := coherent.wrote_replay id _ found
  rw [unwritten, held] at kept
  have same : contract.disabled = disabled := Option.some.inj kept
  rw [found, ← same]

end Coherent

/-- The whole of a call that is refused because the contract is disabled; no gas is taken. -/
def Frame.turnedAway (frame : Frame Label Host) : Run Label Host CallResult :=
  ⟨.returned ⟨[], frame.request.gas, 0, some .disabled⟩, frame.before,
    [.called frame,
      .noted (.disabledCall frame.contract.address frame.contract.name frame.request.caller),
      .answered frame (.returned ⟨[], frame.request.gas, 0, some .disabled⟩) frame.before]⟩

/-- An executor may fail in the same words, but no other call looks the same from its entry on. -/
theorem Bridge.callContract_eq_turnedAway_iff {execute : Executor Label Host}
    {frame : Frame Label Host} :
    callContract execute frame = some frame.turnedAway ↔ frame.contract.disabled = true := by
  constructor
  · intro answered
    rcases callContract_cases answered with
      ⟨result, refused, same⟩ | ⟨method, inner, admitted, ran, same⟩
    · have events := congrArg Run.events same
      cases verdict : frame.verdict with
      | disabled => exact Frame.verdict_eq_disabled_iff.mp verdict
      | admitted method => simp [verdict, Verdict.refusal?] at refused
      | _ => simp [Frame.turnedAway, Frame.refused, Frame.remarks, Frame.opening,
          Frame.payment, verdict] at events
    · have events := congrArg Run.events same
      simp [Frame.turnedAway, Frame.concluded, Frame.preamble, Frame.opening,
        Frame.payment] at events
  · intro off
    have verdict := Frame.verdict_eq_disabled_iff.mpr off
    have refused : frame.verdict.refusal? frame.request.gas =
        some ⟨[], frame.request.gas, 0, some .disabled⟩ := by
      rw [verdict]
      rfl
    rw [callContract_refused execute refused, Frame.refused, verdict]
    rfl

theorem Run.map_some_injective :
    Function.Injective (map some : Run Label Host α → Run Label Host (Option α)) := by
  intro first second same
  obtain ⟨outcome, machine, events⟩ := first
  obtain ⟨other, _, _⟩ := second
  simp only [map, mk.injEq] at same
  obtain ⟨answers, rfl, rfl⟩ := same
  cases outcome <;> cases other <;> simp_all [Outcome.map]

theorem Bridge.call_eq_turnedAway_iff (execute : Executor Label Host) {target : Target}
    {request : Request} {machine : Machine Label Host} {id : ContractId} {contract : Contract Label}
    (located : locate machine target = some (.custom id))
    (held : machine.catalog.get? id = some contract) :
    call execute target request machine =
        some ((Frame.turnedAway ⟨id, contract, request, machine⟩).map some) ↔
      contract.disabled = true := by
  rw [call_custom execute located held, ← Option.map_some,
    (Option.map_injective Run.map_some_injective).eq_iff]
  exact callContract_eq_turnedAway_iff

namespace Counter

def retiring : Behaviour Task Nat
  | .count, invocation =>
    .act (.writeFlag 0 true)
      (.call (.address invocation.contract) (increment 9 false) fun _ => .done (.ok []))
  | .increment, _ => .done (.ok [])

def comeback : Procedure Task Nat (Outcome (Option CallResult)) :=
  .call (.address address) (count false) fun _ =>
    .act (.install []) (.act (.install [0])
      (.call (.resolved (.custom 0)) (increment 9 false) .done))

end Counter

namespace Behaviour

/-- At every point of a run the last write decides whether a contract is disabled, and with that whether
calls to it are turned away, by its address or by a hold on it. Nothing else changes a flag. A call that
is not turned away is never stopped by a later write, be it of its own executor. -/
theorem disabled_by_last_write {behaviour : Behaviour Label Host} {nesting : Nat}
    {program : Procedure Label Host α} {start : Machine Label Host} {run : Run Label Host α}
    (ran : program.run (behaviour.call nesting) start = some run) :
    (∀ early, early <+: run.events →
        (∀ id contract, (replay start early).catalog.get? id = some contract →
          lastFlag? start early id = some contract.disabled) ∧
        (∀ depth target request id contract,
          Bridge.locate (replay start early) target = some (.custom id) →
          (replay start early).catalog.get? id = some contract →
          (behaviour.call depth target request (replay start early) =
              some ((Frame.turnedAway ⟨id, contract, request, replay start early⟩).map some) ↔
            lastFlag? start early id = some true)) ∧
        ∀ since id contract, early ++ since <+: run.events →
          (replay start early).catalog.get? id = some contract →
          (flagWrites (replay start early) since).last? id = none →
          (replay start (early ++ since)).catalog.get? id = some contract) ∧
      ∀ early frame, early ++ [.called frame] <+: run.events →
        ∃ depth answer, Bridge.callContract (behaviour.execute depth) frame = some answer ∧
          early ++ answer.events <+: run.events ∧
          (answer = frame.turnedAway ↔ lastFlag? start early frame.id = some true) ∧
          ∀ method, frame.verdict = .admitted method →
            ∃ inner, behaviour.execute depth method.executor frame.invocation frame.start =
              some inner ∧ frame.Relays method inner answer := by
  have coherent := (run_replays ran).1
  have flags (early : List (Event Label Host)) (part : early <+: run.events) (id : ContractId)
      (contract : Contract Label) (held : (replay start early).catalog.get? id = some contract) :
      lastFlag? start early id = some contract.disabled :=
    (coherent.of_part part).wrote_replay id contract held
  refine ⟨?_, ?_⟩
  · intro early part
    refine ⟨flags early part, ?_, ?_⟩
    · intro depth target request id contract located held
      rw [flags early part id contract held, Option.some_inj]
      exact Bridge.call_eq_turnedAway_iff (behaviour.execute depth) located held
    · intro since id contract later held unwritten
      rw [replay_append]
      exact (coherent_append.mp (coherent.of_part later)).2.get?_of_unwritten held unwritten
  · intro early frame called
    obtain ⟨here, held, answer, ⟨depth, answered⟩, piece⟩ :=
      (run_stretch ran).told.within coherent called
    have part : early <+: run.events := (List.prefix_append early _).trans called
    have flag := flags early part frame.id frame.contract (here.symm ▸ held)
    refine ⟨depth, answer, answered, piece, ?_, ?_⟩
    · rw [flag, Option.some_inj, ← Option.some_inj, ← answered]
      exact Bridge.callContract_eq_turnedAway_iff
    · intro method admitted
      exact Bridge.relays_of_answered admitted answered

open Counter in
/-- The count that disables the contract is answered itself; the increment after it and the one much
later, through a hold on the contract, are turned away. -/
theorem disabled_by_last_write_comeback :
    ∃ run late, comeback.run (retiring.call 2) (machine 6 false) = some run ∧
      run.outcome = .returned (.returned (some ⟨[], 9, 0, some .disabled⟩)) ∧
      (∃ frame answer, [.called frame] <+: run.events ∧ answer.events <+: run.events ∧
        answer ≠ frame.turnedAway) ∧
      retiring.call 0 (.resolved (.custom 0)) (increment 9 false)
        (replay (machine 6 false) run.events) = some late ∧
      late.outcome = .returned (some ⟨[], 9, 0, some .disabled⟩) := by
  have ran : comeback.run (retiring.call 2) (machine 6 false) = some _ := rfl
  obtain ⟨points, calls⟩ := disabled_by_last_write ran
  obtain ⟨_, refuses, _⟩ := points _ (List.prefix_refl _)
  have refused := (refuses 0 (.resolved (.custom 0)) (increment 9 false) 0 _ rfl rfl).mpr rfl
  refine ⟨_, _, ran, rfl, ?_, refused, rfl⟩
  obtain ⟨_, answer, _, told, refusal, _⟩ :=
    calls [] ⟨0, contract, count false, machine 6 false⟩ ⟨_, rfl⟩
  refine ⟨_, answer, ⟨_, rfl⟩, told, ?_⟩
  intro turned
  have written := refusal.mp turned
  contradiction

end Behaviour

end PrecompileBridge
