import PrecompileBridge.Proofs.Charge

/-!
Supplied gas decides whether a call is paid for, and nothing else. Two calls that differ in their
supplies, both enough, run alike to the end, and what they have left differs as the supplies do. Below
the price all supplies are alike as well: nothing runs, and nothing is left.
-/
namespace PrecompileBridge

variable {Label Host : Type}

def Request.supplied (request : Request) (gas : UInt64) : Request := { request with gas }

namespace Frame

def supplied (frame : Frame Label Host) (gas : UInt64) : Frame Label Host :=
  { frame with request := frame.request.supplied gas }

def Reaches (frame : Frame Label Host) : Prop :=
  frame.contract.disabled = false ∧ 4 ≤ frame.request.input.length

def price (frame : Frame Label Host) : UInt64 := frame.contract.price frame.request.input

variable {frame : Frame Label Host} {gas : UInt64}

/-- Once the price is covered the supply has no part in the verdict. -/
theorem verdict_supplied (covered : frame.price ≤ frame.request.gas)
    (more : frame.request.gas ≤ gas) : (frame.supplied gas).verdict = frame.verdict := by
  have plenty {method : Method Label} (names : frame.Names method) : ¬ gas < method.gas :=
    UInt64.not_lt.mpr (UInt64.le_trans (names.price ▸ covered) more)
  cases verdict : frame.verdict with
  | disabled =>
    have off := verdict_eq_disabled_iff.mp verdict
    exact verdict_eq_disabled_iff.mpr off
  | headless =>
    have short := verdict_eq_headless_iff.mp verdict
    exact verdict_eq_headless_iff.mpr short
  | unknown selector =>
    have absent := verdict_eq_unknown_iff.mp verdict
    exact verdict_eq_unknown_iff.mpr absent
  | shortOfGas cost =>
    obtain ⟨method, names, _, short⟩ := verdict_eq_shortOfGas_iff.mp verdict
    exact absurd short (UInt64.not_lt.mpr (names.price ▸ covered))
  | forbidden method =>
    obtain ⟨names, _, forbids, writes⟩ := verdict_eq_forbidden_iff.mp verdict
    exact verdict_eq_forbidden_iff.mpr ⟨names, plenty names, forbids, writes⟩
  | admitted method =>
    obtain ⟨names, _, allowed⟩ := verdict_eq_admitted_iff.mp verdict
    exact verdict_eq_admitted_iff.mpr ⟨names, plenty names, allowed⟩

theorem verdict_of_short (reaches : frame.Reaches) (short : frame.request.gas < frame.price) :
    frame.verdict = .shortOfGas frame.price := by
  obtain ⟨on, long⟩ := reaches
  obtain ⟨selector, named⟩ := Option.isSome_iff_exists.mp (Selector.ofHead?_isSome_iff.mpr long)
  cases found : frame.contract.method? selector with
  | none =>
    rw [price, Contract.price_eq_zero named found] at short
    exact absurd short (UInt64.not_lt.mpr UInt64.zero_le)
  | some method =>
    have same := (Contract.mem_of_method? found).2
    have names : frame.Names method := ⟨on, same ▸ named, same ▸ found⟩
    have cost : frame.price = method.gas := names.price
    exact verdict_eq_shortOfGas_iff.mpr ⟨method, names, cost.symm, cost ▸ short⟩

theorem remaining_of_refusal (reaches : frame.Reaches) (covered : frame.price ≤ frame.request.gas)
    {result : CallResult} (refused : frame.verdict.refusal? frame.request.gas = some result) :
    result.remaining = frame.request.gas - frame.price := by
  cases verdict : frame.verdict with
  | disabled =>
    have off := verdict_eq_disabled_iff.mp verdict
    exact absurd (reaches.1.symm.trans off) Bool.false_ne_true
  | headless =>
    obtain ⟨_, none⟩ := verdict_eq_headless_iff.mp verdict
    exact absurd reaches.2 (Nat.not_le.mpr (Selector.ofHead?_eq_none_iff.mp none))
  | shortOfGas cost =>
    obtain ⟨method, names, _, short⟩ := verdict_eq_shortOfGas_iff.mp verdict
    exact absurd short (UInt64.not_lt.mpr (names.price ▸ covered))
  | unknown selector =>
    obtain ⟨_, named, absent⟩ := verdict_eq_unknown_iff.mp verdict
    have free : frame.price = 0 := Contract.price_eq_zero named absent
    rw [verdict] at refused
    cases refused
    rw [free]
    exact (UInt64.sub_zero _).symm
  | forbidden method =>
    have cost : frame.price = method.gas := (verdict_eq_forbidden_iff.mp verdict).1.price
    rw [verdict] at refused
    cases refused
    rw [cost]
  | admitted method =>
    rw [verdict] at refused
    contradiction

end Frame

def CallResult.unmetered (result : CallResult) : CallResult := { result with remaining := 0 }

def Entry.supplied (entry : Entry Label Host) (gas : UInt64) : Entry Label Host :=
  { entry with frame := entry.frame.supplied gas }

/-- Of two runs of a call that differ in its supply, everything is the same but that supply and what
is left of it: the answer, the executors that start, the nested ones with the gas that they are given,
and the machine. -/
structure Run.Alike (lower upper : UInt64) (first second : Run Label Host CallResult) : Prop where
  outcome : second.outcome.map CallResult.unmetered = first.outcome.map CallResult.unmetered
  machine : second.machine = first.machine
  entries : second.events.filterMap Event.entered? =
    (first.events.filterMap Event.entered?).modifyHead (Entry.supplied · upper)
  remaining : ∀ less more, first.outcome = .returned less → second.outcome = .returned more →
    more.remaining.toNat = less.remaining.toNat + (upper.toNat - lower.toNat)

theorem Verdict.refusal?_unmetered (verdict : Verdict Label) (lower upper : UInt64) :
    (verdict.refusal? upper).map CallResult.unmetered =
      (verdict.refusal? lower).map CallResult.unmetered := by
  cases verdict <;> rfl

theorem Outcome.map_reply_unmetered (outcome : Outcome (Except CallFailure Bytes))
    (method : Method Label) (lower upper : UInt64) :
    (outcome.map (method.reply upper)).map CallResult.unmetered =
      (outcome.map (method.reply lower)).map CallResult.unmetered := by
  cases outcome with
  | panicked message => rfl
  | returned answer => cases answer <;> rfl

theorem Run.returned_map_some_iff {α : Type} {run : Run Label Host α} {value : α} :
    (run.map some).outcome = .returned (some value) ↔ run.outcome = .returned value := by
  cases outcome : run.outcome <;> simp [Run.map, Outcome.map, outcome]

namespace Bridge

variable {execute : Executor Label Host} {frame : Frame Label Host}

theorem remaining_eq (reaches : frame.Reaches) (covered : frame.price ≤ frame.request.gas)
    {run : Run Label Host CallResult} {result : CallResult}
    (answered : callContract execute frame = some run) (returned : run.outcome = .returned result) :
    result.remaining = frame.request.gas - frame.price := by
  rcases callContract_cases answered with
    ⟨refusal, refused, rfl⟩ | ⟨method, inner, admitted, _, rfl⟩
  · obtain rfl : refusal = result := Outcome.returned.inj returned
    exact Frame.remaining_of_refusal reaches covered refused
  · have cost : frame.price = method.gas := (Frame.verdict_eq_admitted_iff.mp admitted).1.price
    rw [cost]
    exact remaining_of_admitted admitted answered returned

theorem callContract_short (reaches : frame.Reaches) (short : frame.request.gas < frame.price) :
    callContract execute frame = some (frame.refused ⟨[], 0, 0, some .outOfGas⟩) := by
  apply callContract_refused
  rw [Frame.verdict_of_short reaches short]
  rfl

/-- Neither subtraction wraps, so what is left differs as the supplies do. -/
theorem remaining_differs (reaches : frame.Reaches) (covered : frame.price ≤ frame.request.gas)
    {gas : UInt64} (more : frame.request.gas ≤ gas) {first second : Run Label Host CallResult}
    (lower : callContract execute frame = some first)
    (upper : callContract execute (frame.supplied gas) = some second) (less rest : CallResult)
    (least : first.outcome = .returned less) (most : second.outcome = .returned rest) :
    rest.remaining.toNat = less.remaining.toNat + (gas.toNat - frame.request.gas.toNat) := by
  have plenty : frame.price ≤ gas := UInt64.le_trans covered more
  have also : (frame.supplied gas).Reaches := reaches
  have small : less.remaining = frame.request.gas - frame.price :=
    remaining_eq reaches covered lower least
  have large : rest.remaining = gas - frame.price := remaining_eq also plenty upper most
  have below := toNat_sub_add_toNat covered
  have above := toNat_sub_add_toNat plenty
  have apart := UInt64.le_iff_toNat_le.mp more
  rw [small, large]
  omega

theorem callContract_alike (execute : Executor Label Host) (reaches : frame.Reaches)
    (covered : frame.price ≤ frame.request.gas) {gas : UInt64} (more : frame.request.gas ≤ gas) :
    Option.Rel (Run.Alike frame.request.gas gas) (callContract execute frame)
      (callContract execute (frame.supplied gas)) := by
  have same := Frame.verdict_supplied covered more
  cases refusal : frame.verdict.refusal? frame.request.gas with
  | some result =>
    have reason := frame.verdict.refusal?_unmetered frame.request.gas gas
    rw [refusal, ← same] at reason
    obtain ⟨other, again, alike⟩ := Option.map_eq_some_iff.mp reason
    have lower := callContract_refused execute refusal
    have upper := callContract_refused execute again
    have differs := remaining_differs reaches covered more lower upper
    rw [lower, upper]
    refine .some ⟨congrArg Outcome.returned alike, rfl, ?_, differs⟩
    rw [Frame.refused_entries, Frame.refused_entries]
    rfl
  | none =>
    obtain ⟨method, admitted⟩ := Verdict.admitted_of_refusal?_eq_none refusal
    have lower := callContract_admitted execute admitted
    have upper := callContract_admitted execute (same.trans admitted)
    -- The executor is told neither supply: both calls make the same run of it.
    have alone : (frame.supplied gas).invocation = frame.invocation ∧
        (frame.supplied gas).start = frame.start := ⟨rfl, rfl⟩
    rw [alone.1, alone.2] at upper
    cases ran : execute method.executor frame.invocation frame.start with
    | none =>
      rw [lower, upper, ran]
      exact .none
    | some inner =>
      rw [ran] at lower upper
      have differs := remaining_differs reaches covered more lower upper
      rw [lower, upper]
      refine .some ⟨Outcome.map_reply_unmetered _ _ _ _, rfl, ?_, differs⟩
      simp only [Frame.concluded, List.filterMap_append, Frame.preamble_entries, Frame.coda_entries]
      rfl

end Bridge

namespace Behaviour

/-- From the price upwards no supply of gas can be told from another by what happens, and what is left
is the supply less the price; below the price every supply is refused alike. -/
theorem supply_invisible {behaviour : Behaviour Label Host} {nesting : Nat} {target : Target}
    {request : Request} {machine : Machine Label Host} {id : ContractId} {contract : Contract Label}
    (located : Bridge.locate machine target = some (.custom id))
    (held : machine.catalog.get? id = some contract) (on : contract.disabled = false)
    (long : 4 ≤ request.input.length) :
    (∀ lower upper, contract.price request.input ≤ lower → lower ≤ upper →
        Option.Rel (fun first second => ∃ less more, first = less.map some ∧
            second = more.map some ∧ Run.Alike lower upper less more)
          (behaviour.call nesting target (request.supplied lower) machine)
          (behaviour.call nesting target (request.supplied upper) machine)) ∧
      (∀ gas, gas < contract.price request.input →
        ∃ run, behaviour.call nesting target (request.supplied gas) machine = some run ∧
          run.outcome = .returned (some ⟨[], 0, 0, some .outOfGas⟩) ∧ run.machine = machine ∧
          run.events.filterMap Event.entered? = []) ∧
      ∀ gas run result, contract.price request.input ≤ gas →
        behaviour.call nesting target (request.supplied gas) machine = some run →
          run.outcome = .returned (some result) →
            result.remaining.toNat + (contract.price request.input).toNat = gas.toNat := by
  have answers (gas : UInt64) :
      behaviour.call nesting target (request.supplied gas) machine =
        (Bridge.callContract (behaviour.execute nesting)
          ⟨id, contract, request.supplied gas, machine⟩).map (Run.map some) :=
    Bridge.call_custom (behaviour.execute nesting) located held
  have reaches (gas : UInt64) :
      Frame.Reaches ⟨id, contract, request.supplied gas, machine⟩ := ⟨on, long⟩
  refine ⟨?_, ?_, ?_⟩
  · intro lower upper covered more
    rw [answers, answers]
    have alike := Bridge.callContract_alike (behaviour.execute nesting) (reaches lower) covered more
    have same : Frame.supplied ⟨id, contract, request.supplied lower, machine⟩ upper =
      ⟨id, contract, request.supplied upper, machine⟩ := rfl
    rw [same] at alike
    generalize Bridge.callContract _ ⟨id, contract, request.supplied lower, machine⟩ = first at alike ⊢
    generalize Bridge.callContract _ ⟨id, contract, request.supplied upper, machine⟩ = second at alike ⊢
    cases alike with
    | none => exact .none
    | some alike => exact .some ⟨_, _, rfl, rfl, alike⟩
  · intro gas short
    rw [answers, Bridge.callContract_short (reaches gas) short]
    exact ⟨_, rfl, rfl, rfl, Frame.refused_entries _ _⟩
  · intro gas run result covered answered returned
    rw [answers] at answered
    obtain ⟨inner, called, rfl⟩ := Option.map_eq_some_iff.mp answered
    have left := Bridge.remaining_eq (reaches gas) covered called
      (Run.returned_map_some_iff.mp returned)
    rw [left]
    exact toNat_sub_add_toNat covered

open Counter in
/-- Counting, and the increment below it, run the same with no gas and with seven; four do not pay for
an increment, and of nine it leaves four. -/
theorem supply_invisible_count :
    (∃ first second less more,
        behaviour.call 2 (.address address) ((count false).supplied 0) (machine 6 false) = some first ∧
        behaviour.call 2 (.address address) ((count false).supplied 7) (machine 6 false) = some second ∧
        (first.events.filterMap Event.entered?).length = 2 ∧
        first = less.map some ∧ second = more.map some ∧ Run.Alike 0 7 less more) ∧
      (∃ run, behaviour.call 1 (.address address) ((increment 9 false).supplied 4) (machine 6 false) =
          some run ∧ run.outcome = .returned (some ⟨[], 0, 0, some .outOfGas⟩)) ∧
      (4 : UInt64).toNat + (5 : UInt64).toNat = (9 : UInt64).toNat := by
  obtain ⟨alike, _, _⟩ := @supply_invisible Task Nat behaviour 2 (.address address) (count false)
    (machine 6 false) 0 contract (locate_address 6 false) rfl rfl (by decide)
  obtain ⟨_, short, left⟩ := @supply_invisible Task Nat behaviour 1 (.address address)
    (increment 9 false) (machine 6 false) 0 contract (locate_address 6 false) rfl rfl (by decide)
  refine ⟨?_, ?_, left 9 _ _ (by decide) rfl rfl⟩
  · have both := alike 0 7 (by decide) (by decide)
    have lower : behaviour.call 2 (.address address) ((count false).supplied 0) (machine 6 false) =
      some _ := rfl
    have upper : behaviour.call 2 (.address address) ((count false).supplied 7) (machine 6 false) =
      some _ := rfl
    rw [lower, upper] at both
    cases both with
    | some both =>
      obtain ⟨less, more, first, second, same⟩ := both
      exact ⟨_, _, less, more, lower, upper, rfl, first, second, same⟩
  · obtain ⟨run, called, refused, _⟩ := short 4 (by decide)
    exact ⟨run, called, refused⟩

end Behaviour

end PrecompileBridge
