import PrecompileBridge.Proofs.Verdict

/-!
How the bridge decides on a call to a contract. Six rules, tried in order, cover every call, and the
first that applies fixes the answer. A call that a rule refuses leaves the whole machine as it was.
-/
namespace PrecompileBridge

variable {Label Host : Type}

/-- The rules in order of precedence; each one applies where none before it does. -/
inductive Ruling (frame : Frame Label Host) : Verdict Label → Prop
  | disabled (off : frame.contract.disabled = true) : Ruling frame .disabled
  | headless (on : frame.contract.disabled = false) (short : frame.request.input.length < 4) :
    Ruling frame .headless
  | shortOfGas (on : frame.contract.disabled = false) (long : 4 ≤ frame.request.input.length)
      (short : frame.request.gas < frame.contract.price frame.request.input) :
    Ruling frame (.shortOfGas (frame.contract.price frame.request.input))
  | unknown (on : frame.contract.disabled = false)
      (covered : frame.contract.price frame.request.input ≤ frame.request.gas) (selector : Selector)
      (head : selector.toBytes = frame.request.input.take 4)
      (absent : ∀ method ∈ frame.contract.methods, method.selector ≠ selector) :
    Ruling frame (.unknown selector)
  | forbidden (on : frame.contract.disabled = false)
      (covered : frame.contract.price frame.request.input ≤ frame.request.gas)
      (method : Method Label) (member : method ∈ frame.contract.methods)
      (head : method.selector.toBytes = frame.request.input.take 4)
      (writes : method.readOnly = false)
      (forbids : frame.request.readOnly = true ∨ frame.before.readOnly = true) :
    Ruling frame (.forbidden method)
  | admitted (on : frame.contract.disabled = false)
      (covered : frame.contract.price frame.request.input ≤ frame.request.gas)
      (method : Method Label) (member : method ∈ frame.contract.methods)
      (head : method.selector.toBytes = frame.request.input.take 4)
      (allowed : method.readOnly = true ∨
        frame.request.readOnly = false ∧ frame.before.readOnly = false) :
    Ruling frame (.admitted method)

namespace Frame

theorem forbids_iff {frame : Frame Label Host} :
    frame.forbids = true ↔ frame.request.readOnly = true ∨ frame.before.readOnly = true := by
  simp [forbids]

theorem names_iff {frame : Frame Label Host} (built : frame.contract.Constructed)
    {method : Method Label} :
    frame.Names method ↔ frame.contract.disabled = false ∧ method ∈ frame.contract.methods ∧
      method.selector.toBytes = frame.request.input.take 4 := by
  unfold Names
  rw [built.method?_eq_some_iff, Selector.ofHead?_eq_some_iff]
  simp only [and_true]
  exact and_congr_right fun _ => And.comm

theorem Names.unique {frame : Frame Label Host} {method other : Method Label}
    (names : frame.Names method) (again : frame.Names other) : other = method := by
  have same : other.selector = method.selector :=
    Option.some.inj (again.2.1.symm.trans names.2.1)
  exact Option.some.inj (again.2.2.symm.trans (same ▸ names.2.2))

theorem Names.price {frame : Frame Label Host} {method : Method Label} (names : frame.Names method) :
    frame.contract.price frame.request.input = method.gas :=
  Contract.price_eq_gas names.2.1 names.2.2

end Frame

/-- The rules say what the verdict says. -/
theorem ruling_iff {frame : Frame Label Host} (built : frame.contract.Constructed)
    {verdict : Verdict Label} : Ruling frame verdict ↔ frame.verdict = verdict := by
  constructor
  · intro ruling
    cases ruling with
    | disabled off => exact Frame.verdict_eq_disabled_iff.mpr off
    | headless on short =>
      exact Frame.verdict_eq_headless_iff.mpr ⟨on, Selector.ofHead?_eq_none_iff.mpr short⟩
    | shortOfGas on long short =>
      cases named : Selector.ofHead? frame.request.input with
      | none => exact absurd (Selector.ofHead?_eq_none_iff.mp named) (Nat.not_lt.mpr long)
      | some selector =>
        cases found : frame.contract.method? selector with
        | none => simp [Contract.price_eq_zero named found] at short
        | some method =>
          have same := (Contract.mem_of_method? found).2
          have names : frame.Names method := ⟨on, same ▸ named, same ▸ found⟩
          rw [names.price] at short ⊢
          exact Frame.verdict_eq_shortOfGas_iff.mpr ⟨method, names, rfl, short⟩
    | unknown on covered selector head absent =>
      exact Frame.verdict_eq_unknown_iff.mpr
        ⟨on, Selector.ofHead?_eq_some_iff.mpr head, Contract.method?_eq_none_iff.mpr absent⟩
    | forbidden on covered method member head writes forbids =>
      have names := (Frame.names_iff built).mpr ⟨on, member, head⟩
      rw [names.price] at covered
      exact Frame.verdict_eq_forbidden_iff.mpr
        ⟨names, UInt64.not_lt.mpr covered, Frame.forbids_iff.mpr forbids, writes⟩
    | admitted on covered method member head allowed =>
      have names := (Frame.names_iff built).mpr ⟨on, member, head⟩
      rw [names.price] at covered
      refine Frame.verdict_eq_admitted_iff.mpr ⟨names, UInt64.not_lt.mpr covered, ?_⟩
      rw [Frame.forbids_iff]
      grind
  · rintro rfl
    cases verdict : frame.verdict with
    | disabled => exact .disabled (Frame.verdict_eq_disabled_iff.mp verdict)
    | headless =>
      obtain ⟨on, named⟩ := Frame.verdict_eq_headless_iff.mp verdict
      exact .headless on (Selector.ofHead?_eq_none_iff.mp named)
    | shortOfGas cost =>
      obtain ⟨method, names, rfl, short⟩ := Frame.verdict_eq_shortOfGas_iff.mp verdict
      have long : 4 ≤ frame.request.input.length := by
        apply Selector.ofHead?_isSome_iff.mp
        rw [names.2.1]
        rfl
      have ruling := Ruling.shortOfGas names.1 long (names.price.symm ▸ short)
      rwa [names.price] at ruling
    | unknown selector =>
      obtain ⟨on, named, absent⟩ := Frame.verdict_eq_unknown_iff.mp verdict
      refine .unknown on ?_ selector (Selector.ofHead?_eq_some_iff.mp named)
        (Contract.method?_eq_none_iff.mp absent)
      rw [Contract.price_eq_zero named absent]
      exact UInt64.zero_le
    | forbidden method =>
      obtain ⟨names, covered, forbids, writes⟩ := Frame.verdict_eq_forbidden_iff.mp verdict
      obtain ⟨on, member, head⟩ := (Frame.names_iff built).mp names
      refine .forbidden on ?_ method member head writes (Frame.forbids_iff.mp forbids)
      rw [names.price]
      exact UInt64.not_lt.mp covered
    | admitted method =>
      obtain ⟨names, covered, allowed⟩ := Frame.verdict_eq_admitted_iff.mp verdict
      obtain ⟨on, member, head⟩ := (Frame.names_iff built).mp names
      rw [Frame.forbids_iff] at allowed
      refine .admitted on ?_ method member head (by grind)
      rw [names.price]
      exact UInt64.not_lt.mp covered

theorem Verdict.failed_of_refusal? {verdict : Verdict Label} {supplied : UInt64}
    {result : CallResult} (refused : verdict.refusal? supplied = some result) :
    result.succeeded = false := by
  cases verdict with
  | admitted method => contradiction
  | _ =>
    cases refused
    rfl

/-- Reasons for which a call is refused, in no order; several can hold of one call. -/
inductive Refusable (frame : Frame Label Host) : Prop
  | disabled (off : frame.contract.disabled = true)
  | headless (short : frame.request.input.length < 4)
  | shortOfGas (short : frame.request.gas < frame.contract.price frame.request.input)
  | unknown (absent : ∀ method ∈ frame.contract.methods,
      method.selector.toBytes ≠ frame.request.input.take 4)
  | forbidden (method : Method Label) (member : method ∈ frame.contract.methods)
      (head : method.selector.toBytes = frame.request.input.take 4)
      (writes : method.readOnly = false)
      (forbids : frame.request.readOnly = true ∨ frame.before.readOnly = true)

theorem refusable_iff {frame : Frame Label Host} (built : frame.contract.Constructed) :
    Refusable frame ↔ ∃ result, frame.verdict.refusal? frame.request.gas = some result := by
  constructor
  · intro refusable
    cases verdict : frame.verdict with
    | admitted method =>
      obtain ⟨names, covered, allowed⟩ := Frame.verdict_eq_admitted_iff.mp verdict
      obtain ⟨on, member, head⟩ := (Frame.names_iff built).mp names
      cases refusable with
      | disabled off => exact absurd (on.symm.trans off) Bool.false_ne_true
      | headless short =>
        have none := Selector.ofHead?_eq_none_iff.mpr short
        exact absurd (none.symm.trans names.2.1) (by simp)
      | shortOfGas short => exact absurd (names.price ▸ short) covered
      | unknown absent => exact absurd head (absent method member)
      | forbidden other among spelled writes forbids =>
        have same : other = method :=
          names.unique ((Frame.names_iff built).mpr ⟨on, among, spelled⟩)
        exact absurd ⟨Frame.forbids_iff.mpr forbids, same ▸ writes⟩ allowed
    | _ => exact ⟨_, rfl⟩
  · rintro ⟨result, refused⟩
    have ruling := (ruling_iff built).mpr (rfl : frame.verdict = _)
    generalize frame.verdict = verdict at ruling refused
    cases ruling with
    | disabled off => exact .disabled off
    | headless _ short => exact .headless short
    | shortOfGas _ _ short => exact .shortOfGas short
    | unknown _ _ selector head absent =>
      refine .unknown fun method member spelled => absent method member ?_
      have named := Selector.ofHead?_eq_some_iff.mpr spelled
      exact Option.some.inj (named.symm.trans (Selector.ofHead?_eq_some_iff.mpr head))
    | forbidden _ _ method member head writes forbids =>
      exact .forbidden method member head writes forbids
    | admitted => contradiction

theorem Frame.refused_entries (frame : Frame Label Host) (result : CallResult) :
    (frame.refused result).events.filterMap Event.entered? = [] := by
  simp [Frame.refused, List.filterMap_cons, Event.entered?]

theorem Frame.preamble_entries (frame : Frame Label Host) (method : Method Label) :
    (frame.preamble method).filterMap Event.entered? = [⟨frame, method, frame.start⟩] := by
  simp [Frame.preamble, List.filterMap_cons, Event.entered?]

theorem Frame.coda_entries (frame : Frame Label Host) (outcome : Outcome CallResult)
    (after : Machine Label Host) : (frame.coda outcome after).filterMap Event.entered? = [] := by
  simp [Frame.coda, List.filterMap_cons, Event.entered?]

namespace Counter

/-- What the methods of a small contract do: one reads for nothing, one writes for a price. -/
inductive Task
  | count
  | increment

def address : Address := .ofNat 0xaa01

def countMethod : Method Task := ⟨⟨0x06, 0x66, 0x1a, 0xbd⟩, 0, true, .count⟩

def incrementMethod : Method Task := ⟨⟨0xd0, 0x9d, 0xe0, 0x8a⟩, 5, false, .increment⟩

def contract : Contract Task := ⟨"counter", address, [countMethod, incrementMethod], false⟩

def descriptors : List (Descriptor Task) := contract.methods.map Method.descriptor

theorem contract_built : Contract.construct address descriptors "counter" = .ok contract := rfl

theorem contract_constructed : contract.Constructed :=
  ⟨address, descriptors, "counter", contract, contract_built, rfl⟩

def machine (count : Nat) (readOnly : Bool) : Machine Task Nat :=
  ⟨count, ⟨.empty, .empty, AddressMap.empty.insert address 0⟩, 3, readOnly, ⟨[contract]⟩⟩

theorem locate_address (count : Nat) (readOnly : Bool) :
    Bridge.locate (machine count readOnly) (.address address) = some (.custom 0) := rfl

def increment (gas : UInt64) (readOnly : Bool) : Request :=
  ⟨.ofNat 0xca, incrementMethod.selector.toBytes ++ [7], gas, readOnly⟩

end Counter

namespace Bridge

/-- Exactly one rule applies to a call of a constructed contract. A refusing rule fixes the answer and
no executor is entered. Otherwise the call is one run of the executor of the method that the calldata
names, and what that run returns comes back with the gas that is left after the price of the method;
`before` and `after` are what the call adds to the events of that run. -/
theorem call_decided (execute : Executor Label Host) (request : Request) {target : Target}
    {machine : Machine Label Host} {id : ContractId} {contract : Contract Label}
    (located : locate machine target = some (.custom id))
    (held : machine.catalog.get? id = some contract) (built : contract.Constructed) :
    ∃ verdict, (∀ other, Ruling ⟨id, contract, request, machine⟩ other ↔ other = verdict) ∧
      (∀ result, verdict.refusal? request.gas = some result →
        ∃ run, call execute target request machine = some run ∧
          run.outcome = .returned (some result) ∧ run.events.filterMap Event.entered? = []) ∧
      ∀ method start, verdict = .admitted method →
        start = { machine with readOnly := request.readOnly || machine.readOnly } →
        method.gas ≤ request.gas ∧ ∃ (before : List (Event Label Host))
            (after : Run Label Host (Except CallFailure Bytes) → List (Event Label Host)),
          before.filterMap Event.entered? = [⟨⟨id, contract, request, machine⟩, method, start⟩] ∧
          (∀ inner, (after inner).filterMap Event.entered? = []) ∧
          call execute target request machine =
            (execute method.executor ⟨request.caller, contract.address, request.input⟩ start).map
              fun inner => ⟨inner.outcome.map fun result =>
                  some (method.reply request.gas result),
                Frame.handBack ⟨id, contract, request, machine⟩ inner.machine,
                before ++ inner.events ++ after inner⟩ := by
  refine ⟨Frame.verdict ⟨id, contract, request, machine⟩, fun other => ?_, fun result refusal => ?_,
    fun method start admitted starts => ?_⟩
  · rw [ruling_iff built, eq_comm]
  · exact ⟨_, call_refused execute located held refusal, rfl, Frame.refused_entries _ result⟩
  · subst starts
    refine ⟨UInt64.not_lt.mp (Frame.verdict_eq_admitted_iff.mp admitted).2.1,
      Frame.preamble ⟨id, contract, request, machine⟩ method,
      fun inner => Frame.coda ⟨id, contract, request, machine⟩
        (inner.outcome.map (method.reply request.gas))
        (Frame.handBack ⟨id, contract, request, machine⟩ inner.machine),
      Frame.preamble_entries _ method, fun inner => Frame.coda_entries _ _ _, ?_⟩
    rw [call_custom execute located held, callContract_admitted execute admitted, Option.map_map]
    congr 1
    funext inner
    simp only [Function.comp_apply, Run.map, Frame.concluded]
    congr 1
    cases inner.outcome <;> rfl

open Counter in
theorem call_decided_increment :
    (∃ run, call (fun _ _ _ => none) (.address address) (increment 9 false) (machine 6 true) =
        some run ∧ run.outcome = .returned (some ⟨[], 4, 0, some .writeProtection⟩)) ∧
      ∃ run, call (fun _ _ start => some ⟨.returned (.ok [8]), { start with host := 7 }, []⟩)
          (.address address) (increment 9 false) (machine 6 false) = some run ∧
        run.outcome = .returned (some ⟨[8], 4, 0, none⟩) ∧ run.machine = machine 7 false := by
  constructor
  · obtain ⟨verdict, rules, refused, _⟩ := call_decided (fun _ _ _ => none)
      (increment 9 false) (locate_address 6 true) rfl contract_constructed
    have forbidden := (rules (.forbidden incrementMethod)).mp
      (.forbidden rfl (by decide) _ (by simp [contract]) rfl rfl (.inr rfl))
    obtain ⟨run, called, outcome, _⟩ := refused ⟨[], 4, 0, some .writeProtection⟩ (forbidden ▸ rfl)
    exact ⟨run, called, outcome⟩
  · obtain ⟨verdict, rules, _, admitted⟩ := call_decided
      (fun _ _ start => some ⟨.returned (.ok [8]), { start with host := 7 }, []⟩)
      (increment 9 false) (locate_address 6 false) rfl contract_constructed
    have chosen := (rules (.admitted incrementMethod)).mp
      (.admitted rfl (by decide) _ (by simp [contract]) rfl (.inr ⟨rfl, rfl⟩))
    obtain ⟨_, before, after, _, _, called⟩ := admitted incrementMethod _ chosen.symm rfl
    exact ⟨_, called, rfl, rfl⟩

/-- Neither a call that has no result nor a refused one changes the machine in any part: host,
registry, depth, flag and every contract are as they were. -/
theorem machine_of_refused_call (execute : Executor Label Host) (request : Request) (target : Target)
    (machine : Machine Label Host) :
    (∀ run, call execute target request machine = some run → run.outcome = .returned none →
        run.machine = machine) ∧
      (∀ address, target = .address address → machine.resolve address = none →
        call execute target request machine = some (.pure none machine)) ∧
      ∀ id contract, locate machine target = some (.custom id) →
        machine.catalog.get? id = some contract → contract.Constructed →
        Refusable ⟨id, contract, request, machine⟩ →
        ∃ run result, call execute target request machine = some run ∧
          run.outcome = .returned (some result) ∧ result.succeeded = false ∧
          run.machine = machine ∧ run.events.filterMap Event.entered? = [] := by
  refine ⟨fun run answered empty => ?_, fun address same vacant => ?_,
    fun id contract located held built refusable => ?_⟩
  · rcases call_cases answered with ⟨same, _⟩ | ⟨id, contract, inner, _, _, _, rfl⟩
    · exact same
    · cases outcome : inner.outcome <;> simp [Run.map, Outcome.map, outcome] at empty
  · subst same
    have located : locate machine (.address address) = none := vacant
    simp only [call, located]
  · obtain ⟨result, refused⟩ := (refusable_iff built).mp refusable
    exact ⟨_, result, call_refused execute located held refused, rfl,
      Verdict.failed_of_refusal? refused, rfl, Frame.refused_entries _ result⟩

open Counter in
theorem machine_of_refused_call_increment :
    (∃ run result, call (fun _ _ _ => none) (.address address) (increment 9 true) (machine 6 false) =
        some run ∧ run.outcome = .returned (some result) ∧ run.machine = machine 6 false) ∧
      call (fun _ _ _ => none) (.address .zero) (increment 9 true) (machine 6 false) =
        some (.pure none (machine 6 false)) ∧
      ∀ run, call (fun _ _ _ => none) (.address .zero) (increment 9 true) (machine 6 false) =
        some run → run.machine = machine 6 false := by
  refine ⟨?_, ?_, fun run answered => ?_⟩
  · have refusable : Refusable ⟨0, contract, increment 9 true, machine 6 false⟩ :=
      .forbidden incrementMethod (by simp [contract]) rfl rfl (.inl rfl)
    obtain ⟨run, result, called, outcome, _, kept, _⟩ :=
      (machine_of_refused_call (fun _ _ _ => none) (increment 9 true) (.address address)
        (machine 6 false)).2.2 0 contract (locate_address 6 false) rfl contract_constructed refusable
    exact ⟨run, result, called, outcome, kept⟩
  · exact (machine_of_refused_call (fun _ _ _ => none) (increment 9 true) (.address .zero)
      (machine 6 false)).2.1 .zero rfl rfl
  · refine (machine_of_refused_call (fun _ _ _ => none) (increment 9 true) (.address .zero)
      (machine 6 false)).1 run answered ?_
    cases answered
    rfl

end Bridge

end PrecompileBridge
