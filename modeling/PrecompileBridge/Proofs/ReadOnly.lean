import PrecompileBridge.Proofs.Decision
import PrecompileBridge.Proofs.Stretch

/-!
The read-only flag across calls. Guards set it and clear it again, and executors may set it as they
like. As long as none of them does, a call returns the flag that it found, and no writing method runs
below a call that forbids writes, however the calls nest. A guard does not remember the flag that it
found, though, only whether it set it, so an executor's own setting can outlive the call.
-/
namespace PrecompileBridge

variable {Label Host : Type}

namespace Event

def setting? : Event Label Host → Option Bool
  | performed (.writeReadOnly readOnly) => some readOnly
  | _ => none

@[simp] theorem setting?_comp_noted :
    (setting? : Event Label Host → Option Bool) ∘ noted = fun _ => none := rfl

/-- No executor starts on a writable machine or writes, and no call hands back a writable machine. -/
def Sheltered : Event Label Host → Prop
  | entered entry => entry.start.readOnly = true ∧ entry.method.readOnly = true
  | resumed machine => machine.readOnly = true
  | _ => True

end Event

theorem Effect.readOnly_apply (effect : Effect Label Host) (machine : Machine Label Host)
    (spared : (effect.events machine).filterMap Event.setting? = []) :
    (effect.apply machine).readOnly = machine.readOnly := by
  cases effect with
  | writeReadOnly readOnly => simp [Effect.events, Event.setting?] at spared
  | build address descriptors name =>
    simp only [apply]
    split <;> rfl
  | _ => rfl

namespace Frame

variable {frame : Frame Label Host} {method : Method Label}
  {inner : Run Label Host (Except CallFailure Bytes)}

theorem readOnly_handBack_iff {left : Machine Label Host} :
    (frame.handBack left).readOnly = frame.before.readOnly ↔
      frame.promotes = true ∨ left.readOnly = frame.before.readOnly := by
  cases promoted : frame.promotes with
  | false => simp [handBack, promoted]
  | true => simp [handBack, promoted, (promotes_iff.mp promoted).2]

theorem readOnly_handBack {left : Machine Label Host} (kept : left.readOnly = frame.start.readOnly) :
    (frame.handBack left).readOnly = frame.before.readOnly := by
  rw [readOnly_handBack_iff]
  cases promoted : frame.promotes with
  | false => exact Or.inr (start_of_not_promotes promoted ▸ kept)
  | true => exact Or.inl rfl

theorem concluded_settings :
    (frame.concluded method inner).events.filterMap Event.setting? =
      inner.events.filterMap Event.setting? := by
  simp [concluded, preamble, coda, List.filterMap_cons, Event.setting?]

theorem refused_sheltered {result : CallResult} :
    ∀ event ∈ (frame.refused result).events, event.Sheltered :=
  forall_mem_refused trivial (fun _ => trivial) trivial

theorem concluded_sheltered (admitted : frame.verdict = .admitted method)
    (forbids : frame.forbids = true) (body : ∀ event ∈ inner.events, event.Sheltered) :
    ∀ event ∈ (frame.concluded method inner).events, event.Sheltered := by
  have reads : method.readOnly = true := by
    have allowed := (verdict_eq_admitted_iff.mp admitted).2.2
    simpa [forbids] using allowed
  have entered : Event.Sheltered (.entered ⟨frame, method, frame.start⟩) := ⟨forbids, reads⟩
  exact forall_mem_concluded trivial (fun _ => trivial) entered trivial body

end Frame

namespace Stretch

variable {behaviour : Behaviour Label Host} {before after : Machine Label Host}
  {events : List (Event Label Host)}

theorem readOnly_kept (stretch : Stretch behaviour before events after)
    (spared : events.filterMap Event.setting? = []) : after.readOnly = before.readOnly := by
  induction stretch with
  | empty | resumed | noted | refused => rfl
  | acted effect machine => exact effect.readOnly_apply machine spared
  | append first second early late =>
    rw [List.filterMap_append, List.append_eq_nil_iff] at spared
    exact (late spared.2).trans (early spared.1)
  | admitted held admitted _ body kept =>
    rw [Frame.concluded_settings] at spared
    exact Frame.readOnly_handBack (kept spared)

/-- Once writes are forbidden they stay so: a nested call finds the flag set, whatever it asks for,
and its guard neither sets nor clears it. -/
theorem sheltered (stretch : Stretch behaviour before events after)
    (spared : events.filterMap Event.setting? = []) (locked : before.readOnly = true) :
    ∀ event ∈ events, event.Sheltered := by
  induction stretch with
  | empty => simp
  | acted effect machine => simp [Effect.events, Event.Sheltered, or_imp, forall_and]
  | resumed machine => simpa [Event.Sheltered] using locked
  | noted result machine => simp [Event.Sheltered]
  | refused => exact Frame.refused_sheltered
  | append first second early late =>
    rw [List.filterMap_append, List.append_eq_nil_iff] at spared
    have still := (first.readOnly_kept spared.1).trans locked
    exact List.forall_mem_append.mpr ⟨early spared.1 locked, late spared.2 still⟩
  | @admitted frame method inner held admitted _ body within =>
    rw [Frame.concluded_settings] at spared
    have forbids : frame.forbids = true := Frame.forbids_iff.mpr (Or.inr locked)
    exact Frame.concluded_sheltered admitted forbids (within spared forbids)

end Stretch

theorem Bridge.readOnly_after_callContract_iff {execute : Executor Label Host}
    {frame : Frame Label Host} {run : Run Label Host CallResult}
    (answered : callContract execute frame = some run) :
    run.machine.readOnly = frame.before.readOnly ↔
      frame.request.readOnly = true ∧ frame.before.readOnly = false ∨
        ∀ method inner, frame.verdict = .admitted method →
          execute method.executor frame.invocation frame.before = some inner →
          inner.machine.readOnly = frame.before.readOnly := by
  rw [← Frame.promotes_iff]
  rcases callContract_cases answered with
    ⟨result, refused, rfl⟩ | ⟨method, inner, admitted, ran, rfl⟩
  · refine iff_of_true rfl (Or.inr fun method inner admitted _ => ?_)
    rw [admitted] at refused
    contradiction
  · refine Frame.readOnly_handBack_iff.trans (or_congr_right' fun unset => ?_)
    rw [Frame.start_of_not_promotes (Bool.eq_false_iff.mpr unset)] at ran
    constructor
    · intro same other again chosen repeated
      obtain rfl : method = other := Verdict.admitted.inj (admitted.symm.trans chosen)
      obtain rfl : inner = again := Option.some.inj (ran.symm.trans repeated)
      exact same
    · intro every
      exact every method inner admitted ran

namespace Counter

/-- Counting is registered as reading, but tries to increment on the way, and not read-only. -/
def behaviour : Behaviour Task Nat
  | .count, invocation =>
    .call (.address invocation.contract) (increment 9 false) fun _ =>
      .observe fun machine => .done (.ok [.ofNat machine.host])
  | .increment, _ => do
    Procedure.modifyHost (· + 1)
    pure (.ok [])

def count (readOnly : Bool) : Request := ⟨.ofNat 0xca, countMethod.selector.toBytes, 0, readOnly⟩

def setting (readOnly : Bool) : Behaviour Task Nat := fun _ _ =>
  .act (.writeReadOnly readOnly) (.done (.ok []))

end Counter

namespace Behaviour

/-- No writing method runs below a call that asks for reading only, or that finds the machine so, and
every nested call comes back to a read-only machine, if no executor sets the flag. -/
theorem readOnly_call_sheltered {behaviour : Behaviour Label Host} {nesting : Nat} {target : Target}
    {request : Request} {machine : Machine Label Host} {run : Run Label Host (Option CallResult)}
    (answered : behaviour.call nesting target request machine = some run)
    (forbids : request.readOnly = true ∨ machine.readOnly = true)
    (spared : run.events.filterMap Event.setting? = []) :
    (∀ entry, .entered entry ∈ run.events →
        entry.start.readOnly = true ∧ entry.method.readOnly = true) ∧
      ∀ back, .resumed back ∈ run.events → back.readOnly = true := by
  have sheltered : ∀ event ∈ run.events, event.Sheltered := by
    rcases Bridge.call_cases answered with
      ⟨_, notices, reported⟩ | ⟨id, contract, called, _, held, ran, rfl⟩
    · simp [reported, Event.Sheltered]
    · have forbidden : Frame.forbids ⟨id, contract, request, machine⟩ = true :=
        Frame.forbids_iff.mpr forbids
      rcases Bridge.callContract_cases ran with
        ⟨result, refused, rfl⟩ | ⟨method, inner, admitted, executed, rfl⟩
      · exact Frame.refused_sheltered
      · have body := behaviour.traced nesting _ _ _ inner executed
        have quiet := Frame.concluded_settings.symm.trans spared
        exact Frame.concluded_sheltered admitted forbidden (body.sheltered quiet forbidden)
  exact ⟨fun entry => sheltered (.entered entry), fun back => sheltered (.resumed back)⟩

open Counter in
theorem readOnly_call_sheltered_count :
    ∃ run, behaviour.call 2 (.address address) (count true) (machine 6 false) = some run ∧
      run.outcome = .returned (some ⟨[6], 0, 0, none⟩) ∧
      (run.events.filterMap Event.entered?).length = 1 ∧
      (∀ entry, .entered entry ∈ run.events →
        entry.start.readOnly = true ∧ entry.method.readOnly = true) ∧
      ∀ back, .resumed back ∈ run.events → back.readOnly = true := by
  have answered : behaviour.call 2 (.address address) (count true) (machine 6 false) = some _ := rfl
  exact ⟨_, answered, rfl, rfl, readOnly_call_sheltered answered (.inl rfl) rfl⟩

/-- The guard of a call remembers whether it set the flag, not what the flag was. So the flag comes
back as it was found exactly if the guard set it or the executor left it so, however the call ends; a
flag that no executor sets always comes back. -/
theorem readOnly_after_call_iff {behaviour : Behaviour Label Host} {nesting : Nat} {target : Target}
    {request : Request} {machine : Machine Label Host} {run : Run Label Host (Option CallResult)}
    {id : ContractId} {contract : Contract Label}
    (located : Bridge.locate machine target = some (.custom id))
    (held : machine.catalog.get? id = some contract)
    (answered : behaviour.call nesting target request machine = some run) :
    (run.machine.readOnly = machine.readOnly ↔
        request.readOnly = true ∧ machine.readOnly = false ∨
          ∀ method inner, Frame.verdict ⟨id, contract, request, machine⟩ = .admitted method →
            behaviour.execute nesting method.executor
              ⟨request.caller, contract.address, request.input⟩ machine = some inner →
            inner.machine.readOnly = machine.readOnly) ∧
      (run.events.filterMap Event.setting? = [] → run.machine.readOnly = machine.readOnly) := by
  have kept := (call_stretch answered).readOnly_kept
  have through : behaviour.call nesting target request machine = _ :=
    Bridge.call_custom (behaviour.execute nesting) located held
  obtain ⟨called, ran, rfl⟩ := Option.map_eq_some_iff.mp (through.symm.trans answered)
  exact ⟨Bridge.readOnly_after_callContract_iff ran, kept⟩

open Counter in
theorem readOnly_after_call_iff_count :
    (∃ run, (setting true).call 1 (.address address) (count true) (machine 6 false) = some run ∧
        run.machine.readOnly = false) ∧
      ∃ run, behaviour.call 2 (.address address) (count false) (machine 6 true) = some run ∧
        run.machine.readOnly = true := by
  have set : (setting true).call 1 (.address address) (count true) (machine 6 false) = some _ := rfl
  have counted : behaviour.call 2 (.address address) (count false) (machine 6 true) = some _ := rfl
  refine ⟨⟨_, set, ?_⟩, ⟨_, counted, ?_⟩⟩
  · exact (readOnly_after_call_iff (locate_address 6 false) rfl set).1.mpr (.inl ⟨rfl, rfl⟩)
  · exact (readOnly_after_call_iff (locate_address 6 true) rfl counted).2 rfl

open Counter in
/-- An executor strips a read-only machine of its flag, and another leaves a writable one read-only. -/
theorem setting_outlives_call :
    (∃ run, (setting false).call 1 (.address address) (count true) (machine 6 true) = some run ∧
        run.machine.readOnly = false) ∧
      ∃ run, (setting true).call 1 (.address address) (count false) (machine 6 false) = some run ∧
        run.machine.readOnly = true :=
  ⟨⟨_, rfl, rfl⟩, ⟨_, rfl, rfl⟩⟩

end Behaviour

end PrecompileBridge
