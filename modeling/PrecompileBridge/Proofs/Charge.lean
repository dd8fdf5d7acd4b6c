import PrecompileBridge.Proofs.Integrity
import PrecompileBridge.Proofs.Nesting

/-!
Writes are paid for and allowed. An executor starts only on a call that was admitted, to a contract
that was checked when it was built, so a writing method charges for itself, and it never runs while
its contract is disabled or where writes are forbidden. The answer leaves what the price leaves.
-/
namespace PrecompileBridge

variable {Label Host α : Type}

/-- Executors start on admitted calls, and an answer to such a call leaves what the price leaves. -/
def Event.Checked : Event Label Host → Prop
  | .entered entry =>
    entry.frame.before.catalog.get? entry.frame.id = some entry.frame.contract ∧
      entry.frame.contract.Constructed ∧ entry.frame.verdict = .admitted entry.method ∧
      entry.start = entry.frame.start
  | .answered frame (.returned result) _ =>
    ∀ method, frame.verdict = .admitted method →
      result.remaining = frame.request.gas - method.gas
  | _ => True

theorem toNat_sub_add_toNat {supplied price : UInt64} (covered : price ≤ supplied) :
    (supplied - price).toNat + price.toNat = supplied.toNat := by
  rw [UInt64.toNat_sub_of_le _ _ covered]
  exact Nat.sub_add_cancel (UInt64.le_iff_toNat_le.mp covered)

theorem charge_exact {supplied price : UInt64} (positive : 1 ≤ price) (covered : price ≤ supplied) :
    supplied - price < supplied ∧ (supplied - price).toNat + price.toNat = supplied.toNat := by
  have rejoined := toNat_sub_add_toNat covered
  have least : 1 ≤ price.toNat := UInt64.le_iff_toNat_le.mp positive
  refine ⟨?_, rejoined⟩
  rw [UInt64.lt_iff_toNat_lt]
  omega

namespace Frame

variable {frame : Frame Label Host} {method : Method Label}
  {inner : Run Label Host (Except CallFailure Bytes)}

theorem forbids_eq_false (admitted : frame.verdict = .admitted method)
    (writes : method.readOnly = false) : frame.forbids = false := by
  obtain ⟨_, _, allowed⟩ := verdict_eq_admitted_iff.mp admitted
  cases locked : frame.forbids with
  | false => rfl
  | true => exact absurd ⟨locked, writes⟩ allowed

theorem refused_checked {result : CallResult}
    (refused : frame.verdict.refusal? frame.request.gas = some result) :
    ∀ event ∈ (frame.refused result).events, event.Checked := by
  refine forall_mem_refused trivial (fun _ => trivial) ?_
  intro method admitted
  rw [admitted] at refused
  contradiction

theorem concluded_checked (held : frame.before.catalog.get? frame.id = some frame.contract)
    (constructed : frame.contract.Constructed) (admitted : frame.verdict = .admitted method)
    (body : ∀ event ∈ inner.events, event.Checked) :
    ∀ event ∈ (frame.concluded method inner).events, event.Checked := by
  have entered : Event.Checked (.entered ⟨frame, method, frame.start⟩) :=
    ⟨held, constructed, admitted, rfl⟩
  have answered : Event.Checked (.answered frame
      (inner.outcome.map (method.reply frame.request.gas))
      (frame.handBack inner.machine)) := by
    cases inner.outcome with
    | panicked message => trivial
    | returned answer =>
      intro other chosen
      obtain rfl : method = other := Verdict.admitted.inj (admitted.symm.trans chosen)
      exact method.remaining_reply _ answer
  exact forall_mem_concluded trivial (fun _ => trivial) entered answered body

end Frame

namespace Stretch

variable {behaviour : Behaviour Label Host} {before after : Machine Label Host}
  {events : List (Event Label Host)}

theorem built_kept (stretch : Stretch behaviour before events after) (built : before.catalog.Built) :
    after.catalog.Built := by
  obtain ⟨coherent, leads⟩ := stretch.replays
  rw [← leads]
  exact coherent.keeps (fun machine => machine.catalog.Built)
    (fun effect _ kept => effect.built_apply kept) (fun _ _ kept => kept) built

theorem checked (stretch : Stretch behaviour before events after) (built : before.catalog.Built) :
    ∀ event ∈ events, event.Checked := by
  induction stretch with
  | empty => simp
  | acted effect machine => simp [Effect.events, Event.Checked, or_imp, forall_and]
  | resumed machine => simp [Event.Checked]
  | noted result machine => simp [Event.Checked]
  | refused held refused => exact Frame.refused_checked refused
  | append first second early late =>
    -- What the first part built is checked as well before the second part calls it.
    exact List.forall_mem_append.mpr ⟨early built, late (first.built_kept built)⟩
  | @admitted frame method inner held admitted _ body within =>
    exact Frame.concluded_checked held (built _ _ held) admitted (within built)

end Stretch

namespace Bridge

variable {execute : Executor Label Host} {frame : Frame Label Host}
  {answer : Run Label Host CallResult}

theorem answered_mem (answered : callContract execute frame = some answer) :
    .answered frame answer.outcome answer.machine ∈ answer.events := by
  obtain ⟨inner, _, rfl⟩ := Option.map_eq_some_iff.mp answered
  exact List.mem_append_right _ (List.mem_singleton_self _)

theorem remaining_of_admitted {method : Method Label} {result : CallResult}
    (admitted : frame.verdict = .admitted method)
    (answered : callContract execute frame = some answer)
    (returned : answer.outcome = .returned result) :
    result.remaining = frame.request.gas - method.gas := by
  rw [callContract_admitted execute admitted] at answered
  obtain ⟨inner, _, rfl⟩ := Option.map_eq_some_iff.mp answered
  cases outcome : inner.outcome with
  | panicked message => simp [Frame.concluded, Outcome.map, outcome] at returned
  | returned value =>
    simp only [Frame.concluded, Outcome.map, outcome, Outcome.returned.injEq] at returned
    rw [← returned]
    exact method.remaining_reply _ value

end Bridge

namespace Behaviour

/-- Wherever the executor of a writing method starts, in a run over constructed contracts, its
contract was enabled, nobody had forbidden writes, and the supplied gas covered a price that is not
nothing. The start is part of a whole answer to its call, and if that answer returns, what is left is
the supply less the price. -/
theorem write_paid_and_allowed {behaviour : Behaviour Label Host} {nesting : Nat}
    {program : Procedure Label Host α} {start : Machine Label Host} {run : Run Label Host α}
    {entry : Entry Label Host} (built : start.catalog.Built)
    (ran : program.run (behaviour.call nesting) start = some run)
    (entered : .entered entry ∈ run.events) (writes : entry.method.readOnly = false) :
    (entry.frame.before.catalog.get? entry.frame.id = some entry.frame.contract ∧
        entry.method ∈ entry.frame.contract.methods ∧ entry.frame.contract.disabled = false) ∧
      (entry.frame.request.readOnly = false ∧ entry.frame.before.readOnly = false ∧
        entry.start.readOnly = false) ∧
      (1 ≤ entry.method.gas ∧ entry.method.gas ≤ entry.frame.request.gas) ∧
      (∃ early answer, behaviour.Answers entry.frame answer ∧ .entered entry ∈ answer.events ∧
        early ++ answer.events <+: run.events ∧
        ∀ result, answer.outcome = .returned result →
          result.remaining < entry.frame.request.gas ∧
            result.remaining.toNat + entry.method.gas.toNat = entry.frame.request.gas.toNat) ∧
      (∃ outcome left, .answered entry.frame outcome left ∈ run.events) ∧
      ∀ result left, .answered entry.frame (.returned result) left ∈ run.events →
        result.remaining < entry.frame.request.gas ∧
          result.remaining.toNat + entry.method.gas.toNat = entry.frame.request.gas.toNat := by
  have stretch := run_stretch ran
  have checked := stretch.checked built
  obtain ⟨held, constructed, admitted, starts⟩ := checked _ entered
  obtain ⟨names, enough, _⟩ := Frame.verdict_eq_admitted_iff.mp admitted
  obtain ⟨on, member, _⟩ := (Frame.names_iff constructed).mp names
  have free : entry.frame.forbids = false := Frame.forbids_eq_false admitted writes
  have unasked : entry.frame.request.readOnly = false ∧ entry.frame.before.readOnly = false :=
    Bool.or_eq_false_iff.mp free
  have positive : 1 ≤ entry.method.gas :=
    (Contract.constructed_iff_valid.mp constructed).priced entry.method member writes
  have covered : entry.method.gas ≤ entry.frame.request.gas := UInt64.not_lt.mp enough
  obtain ⟨early, answer, ⟨depth, answered⟩, within, piece⟩ := stretch.rooted entry entered
  have ended : .answered entry.frame answer.outcome answer.machine ∈ run.events :=
    piece.subset (List.mem_append_right early (Bridge.answered_mem answered))
  refine ⟨⟨held, member, on⟩, ⟨unasked.1, unasked.2, ?_⟩, ⟨positive, covered⟩,
    ⟨early, answer, ⟨depth, answered⟩, within, piece, ?_⟩, ⟨_, _, ended⟩, ?_⟩
  · rw [starts]
    exact free
  · intro result returned
    rw [Bridge.remaining_of_admitted admitted answered returned]
    exact charge_exact positive covered
  · intro result left closed
    have remaining : result.remaining = entry.frame.request.gas - entry.method.gas :=
      checked _ closed entry.method admitted
    rw [remaining]
    exact charge_exact positive covered

open Counter in
theorem write_paid_and_allowed_count :
    ∃ run entry left, (session (count false)).run (behaviour.call 2) blank = some run ∧
      .entered entry ∈ run.events ∧ entry.method.readOnly = false ∧ entry.frame.request.gas = 9 ∧
      .answered entry.frame (.returned ⟨[], 4, 0, none⟩) left ∈ run.events ∧
      entry.start.readOnly = false ∧ 1 ≤ entry.method.gas ∧
      (∃ answer, behaviour.Answers entry.frame answer ∧ .entered entry ∈ answer.events) ∧
      (4 : UInt64).toNat + entry.method.gas.toNat = 9 := by
  obtain ⟨run, entry, left, ran, starts, ends, writes, supplied⟩ :
      ∃ run entry left, (session (count false)).run (behaviour.call 2) blank = some run ∧
        run.events[10]? = some (.entered entry) ∧
        run.events[12]? = some (.answered entry.frame (.returned ⟨[], 4, 0, none⟩) left) ∧
        entry.method.readOnly = false ∧ entry.frame.request.gas = 9 :=
    ⟨_, _, _, rfl, rfl, rfl, rfl, rfl⟩
  have entered : .entered entry ∈ run.events := List.mem_of_getElem? starts
  have ended := List.mem_of_getElem? ends
  obtain ⟨_, ⟨_, _, writable⟩, ⟨positive, _⟩, ⟨_, answer, answered, within, _⟩, _, charged⟩ :=
    write_paid_and_allowed (Machine.Fresh.ofFork 6 .cancun 3).built ran entered writes
  have leftover := (charged _ _ ended).2
  rw [supplied] at leftover
  exact ⟨run, entry, left, ran, entered, writes, supplied, ended, writable, positive,
    ⟨answer, answered, within⟩, leftover⟩

end Behaviour

end PrecompileBridge
