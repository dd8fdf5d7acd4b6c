import PrecompileBridge.Bridge
import PrecompileBridge.Proofs.Construction

/-!
The verdict on a call to a contract. It is read off the frame in one pass, before anything runs; a
refused call leaves the machine alone, and an admitted one is the run of one executor between two
fixed stretches of events. Everything that is proved about calls starts from here.
-/
namespace PrecompileBridge

variable {Label Host : Type}

inductive Verdict (Label : Type)
  | disabled
  | headless
  | shortOfGas (cost : UInt64)
  | unknown (selector : Selector)
  | forbidden (method : Method Label)
  | admitted (method : Method Label)

def Verdict.refusal? (supplied : UInt64) : Verdict Label → Option CallResult
  | disabled => some ⟨[], supplied, 0, some .disabled⟩
  | headless => some ⟨[], 0, 0, some .reverted⟩
  | shortOfGas _ => some ⟨[], 0, 0, some .outOfGas⟩
  | unknown _ => some ⟨[], supplied, 0, some .reverted⟩
  | forbidden method => some ⟨[], supplied - method.gas, 0, some .writeProtection⟩
  | admitted _ => none

theorem Verdict.admitted_of_refusal?_eq_none {verdict : Verdict Label} {supplied : UInt64}
    (accepted : verdict.refusal? supplied = none) : ∃ method, verdict = .admitted method := by
  cases verdict with
  | admitted method => exact ⟨method, rfl⟩
  | _ => contradiction

def Method.reply (method : Method Label) (supplied : UInt64) : Except CallFailure Bytes → CallResult
  | .ok output => ⟨output, supplied - method.gas, 0, none⟩
  | .error error => ⟨[], supplied - method.gas, 0, some error⟩

theorem Method.settle_eq_reply (method : Method Label) (supplied : UInt64) :
    CallResult.settle (supplied - method.gas) = method.reply supplied := by
  funext answer
  cases answer <;> rfl

theorem Method.remaining_reply (method : Method Label) (supplied : UInt64)
    (answer : Except CallFailure Bytes) :
    (method.reply supplied answer).remaining = supplied - method.gas := by
  cases answer <;> rfl

namespace Frame

/-- Writes are forbidden to a call that asks for it and to every call on a read-only machine. -/
def forbids (frame : Frame Label Host) : Bool := frame.request.readOnly || frame.before.readOnly

def promotes (frame : Frame Label Host) : Bool := frame.request.readOnly && !frame.before.readOnly

def verdict (frame : Frame Label Host) : Verdict Label :=
  if frame.contract.disabled then .disabled
  else
    match Selector.ofHead? frame.request.input with
    | none => .headless
    | some selector =>
      match frame.contract.method? selector with
      | none => .unknown selector
      | some method =>
        if frame.request.gas < method.gas then .shortOfGas method.gas
        else if frame.forbids = true ∧ method.readOnly = false then .forbidden method
        else .admitted method

def start (frame : Frame Label Host) : Machine Label Host :=
  { frame.before with readOnly := frame.forbids }

/-- What the caller has back of the machine that the executor left. -/
def handBack (frame : Frame Label Host) (left : Machine Label Host) : Machine Label Host :=
  if frame.promotes then { left with readOnly := false } else left

def payment (frame : Frame Label Host) (cost : UInt64) : Notice :=
  .running frame.contract.address frame.contract.name frame.request.caller cost
    (frame.request.gas - cost) frame.request.readOnly frame.before.depth

def opening (frame : Frame Label Host) (cost : UInt64) : List Notice :=
  frame.payment cost :: if frame.promotes then [.enteredReadOnly] else []

def closing (frame : Frame Label Host) : List Notice :=
  if frame.promotes then [.leftReadOnly] else []

def remarks (frame : Frame Label Host) : Verdict Label → List Notice
  | .disabled =>
    [.disabledCall frame.contract.address frame.contract.name frame.request.caller]
  | .headless => []
  | .shortOfGas cost => [.shortOfGas frame.contract.address cost frame.request.gas]
  | .unknown selector =>
    frame.opening 0 ++
      .unknownSelector frame.contract.name frame.contract.address selector :: frame.closing
  | .forbidden method =>
    frame.opening method.gas ++
      .forbiddenWrite frame.contract.name frame.request.caller method.selector :: frame.closing
  | .admitted _ => []

def refused (frame : Frame Label Host) (result : CallResult) : Run Label Host CallResult :=
  ⟨.returned result, frame.before, .called frame ::
    (frame.remarks frame.verdict).map .noted ++ [.answered frame (.returned result) frame.before]⟩

def preamble (frame : Frame Label Host) (method : Method Label) : List (Event Label Host) :=
  .called frame :: (frame.opening method.gas).map .noted ++
    [.noted (.invoking frame.contract.name frame.request.caller method.selector frame.forbids
      frame.request.input.length), .entered ⟨frame, method, frame.start⟩]

def coda (frame : Frame Label Host) (outcome : Outcome CallResult) (after : Machine Label Host) :
    List (Event Label Host) :=
  frame.closing.map .noted ++ [.answered frame outcome after]

def concluded (frame : Frame Label Host) (method : Method Label)
    (inner : Run Label Host (Except CallFailure Bytes)) : Run Label Host CallResult :=
  let outcome := inner.outcome.map (method.reply frame.request.gas)
  let after := frame.handBack inner.machine
  ⟨outcome, after, frame.preamble method ++ inner.events ++ frame.coda outcome after⟩

theorem verdict_eq_disabled_iff {frame : Frame Label Host} :
    frame.verdict = .disabled ↔ frame.contract.disabled = true := by
  unfold verdict
  grind

theorem verdict_eq_headless_iff {frame : Frame Label Host} :
    frame.verdict = .headless ↔
      frame.contract.disabled = false ∧ Selector.ofHead? frame.request.input = none := by
  unfold verdict
  grind

theorem verdict_eq_unknown_iff {frame : Frame Label Host} {selector : Selector} :
    frame.verdict = .unknown selector ↔
      frame.contract.disabled = false ∧ Selector.ofHead? frame.request.input = some selector ∧
        frame.contract.method? selector = none := by
  unfold verdict
  grind

def Names (frame : Frame Label Host) (method : Method Label) : Prop :=
  frame.contract.disabled = false ∧ Selector.ofHead? frame.request.input = some method.selector ∧
    frame.contract.method? method.selector = some method

theorem verdict_eq_shortOfGas_iff {frame : Frame Label Host} {cost : UInt64} :
    frame.verdict = .shortOfGas cost ↔
      ∃ method, frame.Names method ∧ method.gas = cost ∧ frame.request.gas < method.gas := by
  unfold verdict Names
  grind [→ Contract.mem_of_method?]

theorem verdict_eq_forbidden_iff {frame : Frame Label Host} {method : Method Label} :
    frame.verdict = .forbidden method ↔
      frame.Names method ∧ ¬ frame.request.gas < method.gas ∧
        frame.forbids = true ∧ method.readOnly = false := by
  unfold verdict Names
  grind [→ Contract.mem_of_method?]

theorem verdict_eq_admitted_iff {frame : Frame Label Host} {method : Method Label} :
    frame.verdict = .admitted method ↔
      frame.Names method ∧ ¬ frame.request.gas < method.gas ∧
        ¬ (frame.forbids = true ∧ method.readOnly = false) := by
  unfold verdict Names
  grind [→ Contract.mem_of_method?]

theorem admission_eq (frame : Frame Label Host) :
    frame.contract.admission frame.request.input frame.request.gas =
      match frame.verdict with
      | .disabled => .disabled
      | .headless => .headless
      | .shortOfGas cost => .shortOfGas cost
      | .unknown _ => .admitted 0 frame.request.gas
      | .forbidden method => .admitted method.gas (frame.request.gas - method.gas)
      | .admitted method => .admitted method.gas (frame.request.gas - method.gas) := by
  unfold Contract.admission Frame.verdict
  by_cases off : frame.contract.disabled = true
  · simp [off]
  · cases named : Selector.ofHead? frame.request.input with
    | none => simp [off, Selector.ofHead?_eq_none_iff.mp named]
    | some selector =>
      have long : ¬ frame.request.input.length < Selector.size := by
        rw [← Selector.ofHead?_eq_none_iff, named]
        exact Option.some_ne_none selector
      cases found : frame.contract.method? selector with
      | none => simp [off, long, found, Contract.price_eq_zero named found]
      | some method =>
        by_cases short : frame.request.gas < method.gas
        · simp [off, long, found, short, Contract.price_eq_gas named found]
        · by_cases writes : frame.forbids = true ∧ method.readOnly = false
          · simp [off, long, found, short, writes, Contract.price_eq_gas named found]
          · simp [off, long, found, short, writes, Contract.price_eq_gas named found]

theorem promotes_iff {frame : Frame Label Host} :
    frame.promotes = true ↔ frame.request.readOnly = true ∧ frame.before.readOnly = false := by
  simp [promotes]

theorem start_of_promotes {frame : Frame Label Host} (promoted : frame.promotes = true) :
    frame.start = { frame.before with readOnly := true } := by
  simp [start, forbids, (promotes_iff.mp promoted).1]

/-- A call that does not make the machine read-only starts on the machine as it was found. -/
theorem start_of_not_promotes {frame : Frame Label Host} (kept : frame.promotes = false) :
    frame.start = frame.before := by
  have same : frame.forbids = frame.before.readOnly := by
    revert kept
    unfold promotes forbids
    cases frame.request.readOnly <;> cases frame.before.readOnly <;> decide
  rw [start, same]

theorem handBack_start (frame : Frame Label Host) : frame.handBack frame.start = frame.before := by
  cases promoted : frame.promotes with
  | false => simp [handBack, promoted, start_of_not_promotes promoted]
  | true =>
    have writable := (promotes_iff.mp promoted).2
    simp only [handBack, promoted, start_of_promotes promoted, ↓reduceIte]
    rw [← writable]

theorem guarded_eq (frame : Frame Label Host) {α : Type}
    (body : Machine Label Host → Option (Run Label Host α)) :
    Bridge.guarded frame.request.readOnly body frame.before =
      (body frame.start).map fun run =>
        ⟨run.outcome, frame.handBack run.machine,
          (if frame.promotes then [.noted .enteredReadOnly] else []) ++ run.events ++
            frame.closing.map .noted⟩ := by
  have guard : (frame.request.readOnly && !frame.before.readOnly) = frame.promotes := rfl
  unfold Bridge.guarded
  rw [guard]
  cases promoted : frame.promotes with
  | false => simp [handBack, closing, promoted, start_of_not_promotes promoted]
  | true => simp [handBack, closing, promoted, start_of_promotes promoted]

theorem select_of_unknown {frame : Frame Label Host} {selector : Selector}
    (verdict : frame.verdict = .unknown selector) :
    frame.contract.select frame.request.input frame.start.readOnly = .unknown selector := by
  obtain ⟨_, named, absent⟩ := verdict_eq_unknown_iff.mp verdict
  simp [Contract.select, named, absent]

theorem select_of_forbidden {frame : Frame Label Host} {method : Method Label}
    (verdict : frame.verdict = .forbidden method) :
    frame.contract.select frame.request.input frame.start.readOnly = .forbidden method.selector := by
  obtain ⟨⟨_, named, found⟩, _, forbids, writes⟩ := verdict_eq_forbidden_iff.mp verdict
  simp [Contract.select, named, found, start, forbids, writes]

theorem select_of_admitted {frame : Frame Label Host} {method : Method Label}
    (verdict : frame.verdict = .admitted method) :
    frame.contract.select frame.request.input frame.start.readOnly = .chosen method := by
  obtain ⟨⟨_, named, found⟩, _, allowed⟩ := verdict_eq_admitted_iff.mp verdict
  simp [Contract.select, named, found, start, allowed]

end Frame

namespace Bridge

open PrecompileBridge.Frame

/-- A call that is paid for and then refused has its flag restored by the guard. -/
theorem answer_of_paid_refusal {execute : Executor Label Host} {frame : Frame Label Host}
    {cost remaining : UInt64} {failure : CallFailure} {notice : Notice}
    (paid : frame.contract.admission frame.request.input frame.request.gas =
      .admitted cost remaining) (rest : remaining = frame.request.gas - cost)
    (stopped : invoke execute frame frame.start.readOnly frame.start =
      refuse (.error failure) [notice] frame.start) :
    answer execute frame =
      refuse ⟨[], remaining, 0, some failure⟩ (frame.opening cost ++ notice :: frame.closing)
        frame.before := by
  subst rest
  unfold answer
  simp only [paid, guarded_eq, stopped, refuse, Option.map_some, handBack_start]
  cases promoted : frame.promotes <;>
    simp [opening, payment, promoted, Run.map, Run.after, Outcome.map, CallResult.settle,
      CallResult.failure]

theorem callContract_refused (execute : Executor Label Host) {frame : Frame Label Host}
    {result : CallResult} (refused : frame.verdict.refusal? frame.request.gas = some result) :
    callContract execute frame = some (frame.refused result) := by
  have admission := frame.admission_eq
  unfold callContract Frame.refused
  cases verdict : frame.verdict with
  | disabled | headless | shortOfGas cost =>
    rw [verdict] at refused admission
    cases refused
    simp [answer, admission, refuse, remarks, CallResult.failure]
  | unknown selector =>
    rw [verdict] at refused admission
    cases refused
    have stopped : invoke execute frame frame.start.readOnly frame.start =
        refuse (.error .reverted)
          [.unknownSelector frame.contract.name frame.contract.address selector] frame.start := by
      simp only [invoke, select_of_unknown verdict]
    rw [answer_of_paid_refusal admission (UInt64.sub_zero _).symm stopped]
    rfl
  | forbidden method =>
    rw [verdict] at refused admission
    cases refused
    have stopped : invoke execute frame frame.start.readOnly frame.start =
        refuse (.error .writeProtection)
          [.forbiddenWrite frame.contract.name frame.request.caller method.selector]
          frame.start := by
      simp only [invoke, select_of_forbidden verdict]
    rw [answer_of_paid_refusal admission rfl stopped]
    rfl
  | admitted method => simp [verdict, Verdict.refusal?] at refused

theorem callContract_admitted (execute : Executor Label Host) {frame : Frame Label Host}
    {method : Method Label} (admitted : frame.verdict = .admitted method) :
    callContract execute frame =
      (execute method.executor frame.invocation frame.start).map (frame.concluded method) := by
  have admission := frame.admission_eq
  rw [admitted] at admission
  unfold callContract answer
  simp only [admission, guarded_eq, invoke, select_of_admitted admitted, Option.map_map,
    method.settle_eq_reply]
  congr 1
  funext inner
  simp [Frame.concluded, preamble, coda, opening, payment, Run.map, Run.after, start]
  split <;> simp

/-- Every call to a contract that comes to its end was refused or is the run of one executor. -/
theorem callContract_cases {execute : Executor Label Host} {frame : Frame Label Host}
    {run : Run Label Host CallResult} (answered : callContract execute frame = some run) :
    (∃ result, frame.verdict.refusal? frame.request.gas = some result ∧ run = frame.refused result) ∨
      ∃ method inner, frame.verdict = .admitted method ∧
        execute method.executor frame.invocation frame.start = some inner ∧
        run = frame.concluded method inner := by
  cases refusal : frame.verdict.refusal? frame.request.gas with
  | some result =>
    rw [callContract_refused execute refusal] at answered
    exact Or.inl ⟨result, rfl, (Option.some.inj answered).symm⟩
  | none =>
    obtain ⟨method, admitted⟩ := Verdict.admitted_of_refusal?_eq_none refusal
    rw [callContract_admitted execute admitted] at answered
    obtain ⟨inner, ran, same⟩ := Option.map_eq_some_iff.mp answered
    exact Or.inr ⟨method, inner, admitted, ran, same.symm⟩

theorem call_custom (execute : Executor Label Host) {target : Target} {request : Request}
    {machine : Machine Label Host} {id : ContractId} {contract : Contract Label}
    (located : locate machine target = some (.custom id))
    (held : machine.catalog.get? id = some contract) :
    call execute target request machine =
      (callContract execute ⟨id, contract, request, machine⟩).map (Run.map some) := by
  simp [call, located, held]

theorem call_refused (execute : Executor Label Host) {target : Target} {request : Request}
    {machine : Machine Label Host} {id : ContractId} {contract : Contract Label}
    (located : locate machine target = some (.custom id))
    (held : machine.catalog.get? id = some contract) {result : CallResult}
    (refused : (Frame.verdict ⟨id, contract, request, machine⟩).refusal? request.gas = some result) :
    call execute target request machine =
      some ((Frame.refused ⟨id, contract, request, machine⟩ result).map some) := by
  rw [call_custom execute located held, callContract_refused execute refused]
  rfl

theorem call_builtin (execute : Executor Label Host) {target : Target} {request : Request}
    {machine : Machine Label Host} {builtin : Builtin}
    (located : locate machine target = some (.builtin builtin)) :
    call execute target request machine =
      some ⟨.returned (some (.ofBuiltin request.gas (builtin request.input request.gas))), machine,
        (builtinNotices (builtin request.input request.gas)).map .noted⟩ := by
  simp [call, located, callBuiltin, refuse, Run.map, Outcome.map]

theorem call_inversion {execute : Executor Label Host} {target : Target} {request : Request}
    {machine : Machine Label Host} {run : Run Label Host (Option CallResult)}
    (answered : call execute target request machine = some run) :
    run = .pure none machine ∨
      (∃ builtin, locate machine target = some (.builtin builtin) ∧
        run = ⟨.returned (some (.ofBuiltin request.gas (builtin request.input request.gas))), machine,
          (builtinNotices (builtin request.input request.gas)).map .noted⟩) ∨
      ∃ id contract inner, locate machine target = some (.custom id) ∧
        machine.catalog.get? id = some contract ∧
        callContract execute ⟨id, contract, request, machine⟩ = some inner ∧
        run = inner.map some := by
  cases located : locate machine target with
  | none =>
    simp only [call, located, Option.some.injEq] at answered
    exact Or.inl answered.symm
  | some precompile =>
    cases precompile with
    | builtin builtin =>
      rw [call_builtin execute located, Option.some.injEq] at answered
      exact Or.inr (Or.inl ⟨builtin, rfl, answered.symm⟩)
    | custom id =>
      cases held : machine.catalog.get? id with
      | none =>
        simp only [call, located, held, Option.some.injEq] at answered
        exact Or.inl answered.symm
      | some contract =>
        rw [call_custom execute located held] at answered
        obtain ⟨inner, called, same⟩ := Option.map_eq_some_iff.mp answered
        exact Or.inr (Or.inr ⟨id, contract, inner, rfl, held, called, same.symm⟩)

theorem call_cases {execute : Executor Label Host} {target : Target} {request : Request}
    {machine : Machine Label Host} {run : Run Label Host (Option CallResult)}
    (answered : call execute target request machine = some run) :
    (run.machine = machine ∧ ∃ notices : List Notice, run.events = notices.map .noted) ∨
      ∃ id contract inner, locate machine target = some (.custom id) ∧
        machine.catalog.get? id = some contract ∧
        callContract execute ⟨id, contract, request, machine⟩ = some inner ∧
        run = inner.map some := by
  rcases call_inversion answered with rfl | ⟨builtin, _, rfl⟩ | reached
  · exact Or.inl ⟨rfl, [], rfl⟩
  · exact Or.inl ⟨rfl, _, rfl⟩
  · exact Or.inr reached

end Bridge

end PrecompileBridge
