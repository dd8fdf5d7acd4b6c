import PrecompileBridge.Proofs.Nesting
import PrecompileBridge.Proofs.ReadOnly

/-!
The bridge adds nothing to what executors do, but for the read-only flag. An executor starts on the
machine of its caller, and the caller has back what the executor left, changes and all, also after a
panic. No call counts depth: where executors leave it alone it is the same throughout a call tree.
-/
namespace PrecompileBridge

variable {Label Host : Type}

def Event.depth? : Event Label Host → Option UInt64
  | performed (.writeDepth depth) => some depth
  | _ => none

theorem Event.Fits.depth_replay {event : Event Label Host} {machine : Machine Label Host}
    (fits : event.Fits machine) (spared : event.depth? = none) :
    (event.replay machine).depth = machine.depth := by
  rcases fits.replay_eq with ⟨effect, same⟩ | same
  · subst same
    cases effect with
    | writeDepth depth => contradiction
    | build address descriptors name =>
      simp only [replay, Effect.apply]
      split <;> rfl
    | _ => rfl
  · rw [same]

theorem Coherent.depth_replay {machine : Machine Label Host} {events : List (Event Label Host)}
    (coherent : Coherent machine events) (spared : ∀ event ∈ events, event.depth? = none) :
    (replay machine events).depth = machine.depth := by
  induction events generalizing machine with
  | nil => rfl
  | cons event rest ih =>
    obtain ⟨here, later⟩ := List.forall_mem_cons.mp spared
    rw [replay_cons, ih coherent.2 later, coherent.1.depth_replay here]

/-- At every point of a trace that does not write the depth, and at every entry, it is what it was. -/
theorem Coherent.depth_throughout {machine : Machine Label Host}
    {events : List (Event Label Host)} (coherent : Coherent machine events)
    (spared : events.filterMap Event.depth? = []) :
    (∀ early, early <+: events → (replay machine early).depth = machine.depth) ∧
      ∀ entry, .entered entry ∈ events → entry.start.depth = machine.depth := by
  have throughout (early : List (Event Label Host)) (part : early <+: events) :
      (replay machine early).depth = machine.depth := by
    apply (coherent.of_part part).depth_replay
    intro event member
    exact List.filterMap_eq_nil_iff.mp spared event (part.subset member)
  refine ⟨throughout, ?_⟩
  intro entry entered
  obtain ⟨early, late, split⟩ := List.append_of_mem entered
  -- Right after the entry the machine is the one on which the executor starts.
  have part : early ++ [.entered entry] <+: events := ⟨late, by simp [split]⟩
  have shown := throughout _ part
  rwa [replay_append] at shown

/-- The answer is what the executor did. What it left is handed back, with writes allowed again if it
was this call that forbade them. -/
structure Frame.Relays (frame : Frame Label Host) (method : Method Label)
    (inner : Run Label Host (Except CallFailure Bytes)) (answer : Run Label Host CallResult) :
    Prop where
  outcome : answer.outcome = inner.outcome.map (method.reply frame.request.gas)
  machine : answer.machine =
    if frame.request.readOnly = true ∧ frame.before.readOnly = false then
      { inner.machine with readOnly := false }
    else inner.machine

theorem Frame.concluded_relays (frame : Frame Label Host) (method : Method Label)
    (inner : Run Label Host (Except CallFailure Bytes)) :
    frame.Relays method inner (frame.concluded method inner) := by
  refine ⟨rfl, ?_⟩
  simp only [concluded, handBack, promotes_iff]

theorem optionRel_map {α β : Type} {related : α → β → Prop} {f : α → β}
    (image : ∀ value, related value (f value)) (found : Option α) :
    Option.Rel related found (found.map f) := by
  cases found with
  | none => exact .none
  | some value => exact .some (image value)

theorem Bridge.call_relays (execute : Executor Label Host) {target : Target} {request : Request}
    {machine : Machine Label Host} {id : ContractId} {contract : Contract Label}
    {method : Method Label} (located : locate machine target = some (.custom id))
    (held : machine.catalog.get? id = some contract)
    (admitted : Frame.verdict ⟨id, contract, request, machine⟩ = .admitted method) :
    Option.Rel
      (fun inner run => ∃ answer, run = answer.map some ∧
        Frame.Relays ⟨id, contract, request, machine⟩ method inner answer)
      (execute method.executor ⟨request.caller, contract.address, request.input⟩
        { machine with readOnly := request.readOnly || machine.readOnly })
      (call execute target request machine) := by
  rw [call_custom execute located held, callContract_admitted execute admitted, Option.map_map]
  exact optionRel_map (fun inner => ⟨_, rfl, Frame.concluded_relays _ method inner⟩) _

theorem Bridge.relays_of_answered {execute : Executor Label Host} {frame : Frame Label Host}
    {method : Method Label} {answer : Run Label Host CallResult}
    (admitted : frame.verdict = .admitted method)
    (answered : callContract execute frame = some answer) :
    ∃ inner, execute method.executor frame.invocation
        { frame.before with readOnly := frame.request.readOnly || frame.before.readOnly } =
          some inner ∧ frame.Relays method inner answer := by
  rw [callContract_admitted execute admitted] at answered
  obtain ⟨inner, ran, same⟩ := Option.map_eq_some_iff.mp answered
  exact ⟨inner, ran, same ▸ frame.concluded_relays method inner⟩

namespace Counter

def overflow : Behaviour Task Nat := fun _ _ =>
  .observe fun machine => .act (.writeHost (machine.host + 1)) (.panic "overflow")

end Counter

namespace Behaviour

/-- A call to a contract relays its executor, whatever that is; so does every admitted call that it
leads to. Where no executor writes the depth, all of them find the one at which the call was made. -/
theorem call_transparent {target : Target} {request : Request} {machine : Machine Label Host}
    {id : ContractId} {contract : Contract Label} {method : Method Label}
    (located : Bridge.locate machine target = some (.custom id))
    (held : machine.catalog.get? id = some contract)
    (admitted : Frame.verdict ⟨id, contract, request, machine⟩ = .admitted method) :
    (∀ execute : Executor Label Host,
        Option.Rel
          (fun inner run => ∃ answer, run = answer.map some ∧
            Frame.Relays ⟨id, contract, request, machine⟩ method inner answer)
          (execute method.executor ⟨request.caller, contract.address, request.input⟩
            { machine with readOnly := request.readOnly || machine.readOnly })
          (Bridge.call execute target request machine)) ∧
      ∀ (behaviour : Behaviour Label Host) (nesting : Nat) run,
        behaviour.call nesting target request machine = some run →
        (∀ early frame nested, early ++ [.called frame] <+: run.events →
            frame.verdict = .admitted nested →
            replay machine early = frame.before ∧
              ∃ depth inner answer,
                behaviour.execute depth nested.executor frame.invocation
                  { frame.before with
                    readOnly := frame.request.readOnly || frame.before.readOnly } = some inner ∧
                frame.Relays nested inner answer ∧
                early ++ answer.events <+: run.events ∧
                replay machine (early ++ answer.events) = answer.machine) ∧
          (run.events.filterMap Event.depth? = [] →
            (∀ early, early <+: run.events → (replay machine early).depth = machine.depth) ∧
              (∀ entry, .entered entry ∈ run.events → entry.start.depth = machine.depth) ∧
              run.machine.depth = machine.depth) := by
  refine ⟨?_, ?_⟩
  · intro execute
    exact Bridge.call_relays execute located held admitted
  · intro behaviour nesting run answered
    have stretch := Behaviour.call_stretch answered
    obtain ⟨coherent, ends⟩ := stretch.replays
    refine ⟨?_, ?_⟩
    · intro early frame nested called accepted
      obtain ⟨here, found, answer, own, piece⟩ := stretch.told.within coherent called
      have leads : replay machine (early ++ answer.events) = answer.machine := by
        rw [replay_append, here, (own.stretch found).replays.2]
      obtain ⟨depth, ran⟩ := own
      obtain ⟨inner, executed, relays⟩ := Bridge.relays_of_answered accepted ran
      exact ⟨here, depth, inner, answer, executed, relays, piece, leads⟩
    · intro spared
      obtain ⟨throughout, entries⟩ := coherent.depth_throughout spared
      refine ⟨throughout, entries, ?_⟩
      rw [← ends]
      exact throughout run.events (List.prefix_refl _)

open Counter in
theorem call_transparent_count :
    (∃ run, behaviour.call 2 (.address address) (count false) (machine 6 false) = some run ∧
        (run.events.filterMap Event.entered?).length = 2 ∧
        (∀ entry, .entered entry ∈ run.events → entry.start.depth = 3) ∧ run.machine.depth = 3) ∧
      ∃ run, overflow.call 1 (.address address) (count true) (machine 6 false) = some run ∧
        run.outcome = .panicked "overflow" ∧ run.machine = machine 7 false := by
  have counted : behaviour.call 2 (.address address) (count false) (machine 6 false) = some _ := rfl
  obtain ⟨_, within⟩ :=
    @call_transparent Task Nat (.address address) (count false) _ 0 _ countMethod
      (locate_address 6 false) rfl rfl
  obtain ⟨_, entries, after⟩ := (within behaviour 2 _ counted).2 rfl
  obtain ⟨relayed, _⟩ :=
    @call_transparent Task Nat (.address address) (count true) _ 0 _ countMethod
      (locate_address 6 false) rfl rfl
  refine ⟨⟨_, counted, rfl, entries, after⟩, ?_⟩
  have relays := relayed (overflow.execute 1)
  generalize called : Bridge.call _ (.address address) (count true) (machine 6 false) = answer at relays
  cases relays with
  | some relays =>
    obtain ⟨answer, rfl, outcome, left⟩ := relays
    refine ⟨_, called, ?_, left⟩
    rw [Run.map, outcome]
    rfl

end Behaviour

end PrecompileBridge
