import PrecompileBridge.Proofs.Supply

/-!
What a caller learns of a built-in. Its output, its refund and its failure are handed on, and the
machine is left alone; a contract hands on neither a refund nor output beside an error, so both tell of
a built-in. Gas is accounted for exactly as long as the built-in keeps to its supply: of a built-in that
says it used more, the bridge takes the whole supply and believes the rest.
-/
namespace PrecompileBridge

variable {Label Host : Type}

theorem CallResult.toNat_leftover (supplied used : UInt64) :
    (leftover supplied used).toNat = supplied.toNat - used.toNat := by
  unfold leftover
  split
  next covered => exact UInt64.toNat_sub_of_le _ _ covered
  next short =>
    have less := UInt64.lt_iff_toNat_lt.mp (UInt64.not_le.mp short)
    rw [UInt64.toNat_zero]
    omega

namespace CallFailure

theorem ofBuiltin_ne_builtin {error wrapped : BuiltinFailure}
    (apart : wrapped = .outOfGas ∨ ∃ message, wrapped = .fatal message) :
    ofBuiltin error ≠ builtin wrapped := by
  rcases apart with rfl | ⟨message, rfl⟩ <;> cases error <;> simp [ofBuiltin]

theorem ofBuiltin_eq_fatal_iff {error : BuiltinFailure} {message : String} :
    ofBuiltin error = fatal message ↔ error = .fatal message := by
  cases error <;> simp [ofBuiltin]

end CallFailure

namespace CallResult

/-- What the caller learns is what the built-in returned. -/
structure Conveys (result : CallResult) (supplied : UInt64)
    (returned : Except BuiltinFailure BuiltinOutput) : Prop where
  succeeded_iff : result.succeeded = true ↔ ∃ output, returned = .ok output ∧ output.reverted = false
  of_success : ∀ output, returned = .ok output → output.reverted = false →
    result.output = output.bytes ∧ result.refund = output.refund
  of_revert : ∀ output, returned = .ok output → output.reverted = true →
    result.output = output.bytes ∧ result.refund = 0 ∧ result.error = some .reverted
  of_failure : ∀ error, returned = .error error →
    result.output = [] ∧ result.remaining = 0 ∧ result.refund = 0 ∧
      result.error = some (.ofBuiltin error)
  remaining : ∀ output, returned = .ok output → output.gasUsed ≤ supplied →
    result.remaining.toNat + output.gasUsed.toNat = supplied.toNat
  not_wrapped : ∀ wrapped, result.error = some (.builtin wrapped) →
    wrapped ≠ .outOfGas ∧ ∀ message, wrapped ≠ .fatal message
  mustAbort_iff : result.mustAbort = true ↔ ∃ message, returned = .error (.fatal message)
  fatal_iff : ∀ message, result.error = some (.fatal message) ↔ returned = .error (.fatal message)

theorem ofBuiltin_ok (supplied : UInt64) (output : BuiltinOutput) :
    ofBuiltin supplied (.ok output) =
      ⟨output.bytes, leftover supplied output.gasUsed, if output.reverted then 0 else output.refund,
        if output.reverted then some .reverted else none⟩ := by
  cases reverted : output.reverted <;> simp [ofBuiltin, reverted]

theorem ofBuiltin_conveys (supplied : UInt64) (returned : Except BuiltinFailure BuiltinOutput) :
    (ofBuiltin supplied returned).Conveys supplied returned := by
  cases returned with
  | ok output =>
    rw [ofBuiltin_ok]
    constructor
    case remaining =>
      rintro _ ⟨⟩ covered
      have enough := UInt64.le_iff_toNat_le.mp covered
      rw [toNat_leftover]
      exact Nat.sub_add_cancel enough
    all_goals
      cases reverted : output.reverted <;>
        simp [succeeded, mustAbort, reverted, CallFailure.mustAbort]
  | error error =>
    rw [ofBuiltin_error]
    constructor
    case not_wrapped =>
      intro wrapped same
      have known : CallFailure.ofBuiltin error = .builtin wrapped := Option.some.inj same
      refine ⟨fun starved => ?_, fun message fatal => ?_⟩
      · exact CallFailure.ofBuiltin_ne_builtin (.inl starved) known
      · exact CallFailure.ofBuiltin_ne_builtin (.inr ⟨message, fatal⟩) known
    case mustAbort_iff =>
      have same : (failure (.ofBuiltin error) 0).mustAbort = error.mustAbort :=
        CallFailure.mustAbort_ofBuiltin error
      rw [same]
      cases error <;> simp [BuiltinFailure.mustAbort]
    case fatal_iff =>
      intro message
      simp [failure, CallFailure.ofBuiltin_eq_fatal_iff]
    all_goals simp [failure, succeeded]

def Plain (result : CallResult) : Prop :=
  result.refund = 0 ∧ (result.succeeded = false → result.output = [])

end CallResult

theorem Method.plain_reply (method : Method Label) (supplied : UInt64)
    (answer : Except CallFailure Bytes) : (method.reply supplied answer).Plain := by
  cases answer with
  | ok output => exact ⟨rfl, fun failed => absurd failed (by simp [reply, CallResult.succeeded])⟩
  | error error => exact ⟨rfl, fun _ => rfl⟩

theorem Verdict.plain_of_refusal? {verdict : Verdict Label} {supplied : UInt64} {result : CallResult}
    (refused : verdict.refusal? supplied = some result) : result.Plain := by
  cases verdict with
  | admitted method => contradiction
  | _ =>
    cases refused
    exact ⟨rfl, fun _ => rfl⟩

namespace Bridge

variable {execute : Executor Label Host} {target : Target} {request : Request}
  {machine : Machine Label Host}

theorem plain_of_callContract {frame : Frame Label Host} {run : Run Label Host CallResult}
    {result : CallResult} (answered : callContract execute frame = some run)
    (returned : run.outcome = .returned result) : result.Plain := by
  rcases callContract_cases answered with
    ⟨refusal, refused, rfl⟩ | ⟨method, inner, _, _, rfl⟩
  · obtain rfl : refusal = result := Outcome.returned.inj returned
    exact Verdict.plain_of_refusal? refused
  · cases outcome : inner.outcome with
    | panicked message => simp [Frame.concluded, Outcome.map, outcome] at returned
    | returned answer =>
      simp only [Frame.concluded, Outcome.map, outcome, Outcome.returned.injEq] at returned
      exact returned ▸ method.plain_reply _ answer

theorem plain_or_builtin {run : Run Label Host (Option CallResult)} {result : CallResult}
    (answered : call execute target request machine = some run)
    (returned : run.outcome = .returned (some result)) :
    result.Plain ∨ ∃ builtin, locate machine target = some (.builtin builtin) ∧
      result = .ofBuiltin request.gas (builtin request.input request.gas) := by
  rcases call_inversion answered with rfl | ⟨builtin, located, rfl⟩ | ⟨_, _, inner, _, _, called, rfl⟩
  · simp [Run.pure] at returned
  · simp only [Outcome.returned.injEq, Option.some.injEq] at returned
    exact Or.inr ⟨builtin, located, returned.symm⟩
  · exact Or.inl (plain_of_callContract called (Run.returned_map_some_iff.mp returned))

theorem locate_installBuiltin {address : Address} {builtin : Builtin}
    (clear : machine.registry.custom? address = none) :
    locate ((Effect.installBuiltin address builtin).apply machine) (.address address) =
      some (.builtin builtin) := by
  have unhidden : ((Effect.installBuiltin address builtin).apply machine).registry.custom? address =
    none := clear
  have found : ((Effect.installBuiltin address builtin).apply machine).registry.builtin? address =
      some builtin := by
    simp [Effect.apply, Registry.builtin?, Registry.installBuiltin]
  simp only [locate, Machine.resolve, Registry.resolve, unhidden, found, Option.map_some]

end Bridge

namespace Counter

def place : Address := .ofNat 0xbb

def spending (used : UInt64) (reverted : Bool) : Builtin := fun input _ => .ok ⟨used, 2, reverted, input⟩

def failing (error : BuiltinFailure) : Builtin := fun _ _ => .error error

def beside (builtin : Builtin) : Machine Task Nat :=
  (Effect.installBuiltin place builtin).apply (machine 6 false)

theorem locate_place (builtin : Builtin) :
    Bridge.locate (beside builtin) (.address place) = some (.builtin builtin) :=
  Bridge.locate_installBuiltin rfl

def echo (gas : UInt64) : Request := ⟨.ofNat 0xca, [1, 2], gas, true⟩

end Counter

namespace Bridge

/-- A call to a built-in returns, leaves the machine alone and conveys what the built-in returned. Over
all calls, output beside an error comes from a reverted built-in only, and a refund from one that
succeeded. -/
theorem builtin_conveyed (execute : Executor Label Host) (request : Request) (target : Target)
    (machine : Machine Label Host) :
    (∀ builtin, locate machine target = some (.builtin builtin) →
      ∃ run result, call execute target request machine = some run ∧
        run.outcome = .returned (some result) ∧ run.machine = machine ∧
        result.Conveys request.gas (builtin request.input request.gas)) ∧
      ∀ run result, call execute target request machine = some run →
        run.outcome = .returned (some result) →
        (result.output ≠ [] → result.succeeded = false →
          ∃ builtin output, locate machine target = some (.builtin builtin) ∧
            builtin request.input request.gas = .ok output ∧ output.reverted = true ∧
            result.error = some .reverted) ∧
        (result.refund ≠ 0 →
          ∃ builtin output, locate machine target = some (.builtin builtin) ∧
            builtin request.input request.gas = .ok output ∧ output.reverted = false ∧
            result.succeeded = true) := by
  refine ⟨fun builtin located => ?_, fun run result answered returned => ?_⟩
  · exact ⟨_, _, call_builtin execute located, rfl, rfl, CallResult.ofBuiltin_conveys _ _⟩
  rcases plain_or_builtin answered returned with ⟨unrefunded, bare⟩ | ⟨builtin, located, conveyed⟩
  · exact ⟨fun output failed => absurd (bare failed) output, fun refund => absurd unrefunded refund⟩
  have conveys := CallResult.ofBuiltin_conveys request.gas (builtin request.input request.gas)
  rw [← conveyed] at conveys
  cases ran : builtin request.input request.gas with
  | error error =>
    obtain ⟨empty, _, unrefunded, _⟩ := conveys.of_failure error ran
    exact ⟨fun output _ => absurd empty output, fun refund => absurd unrefunded refund⟩
  | ok output =>
    cases reverted : output.reverted with
    | false =>
      have succeeded := conveys.succeeded_iff.mpr ⟨output, ran, reverted⟩
      refine ⟨fun _ failed => ?_, fun _ => ⟨builtin, output, located, ran, reverted, succeeded⟩⟩
      exact absurd (succeeded.symm.trans failed) (by decide)
    | true =>
      obtain ⟨_, unrefunded, error⟩ := conveys.of_revert output ran reverted
      refine ⟨fun _ _ => ⟨builtin, output, located, ran, reverted, error⟩, fun refund => ?_⟩
      exact absurd unrefunded refund

open Counter in
theorem builtin_conveyed_spending :
    (∃ run, call (fun _ _ _ => none) (.address place) (echo 9) (beside (spending 5 false)) =
        some run ∧ run.machine = beside (spending 5 false) ∧
      ∃ result, run.outcome = .returned (some result) ∧ result.succeeded = true ∧
        result.refund = 2 ∧ result.remaining.toNat + 5 = 9) ∧
      (∃ builtin output, locate (beside (spending 5 true)) (.address place) = some (.builtin builtin) ∧
        builtin [1, 2] 9 = .ok output ∧ output.reverted = true) ∧
      ∃ run result, call (fun _ _ _ => none) (.address place) (echo 9)
          (beside (failing (.fatal "lost"))) = some run ∧
        run.outcome = .returned (some result) ∧ result.error = some (.fatal "lost") ∧
        result.mustAbort = true := by
  refine ⟨?_, ?_, ?_⟩
  · obtain ⟨run, result, called, returned, kept, conveys⟩ :=
      (builtin_conveyed (fun _ _ _ => none) (echo 9) (.address place)
        (beside (spending 5 false))).1 _ (locate_place _)
    obtain ⟨_, refund⟩ := conveys.of_success _ rfl rfl
    exact ⟨run, called, kept, result, returned, conveys.succeeded_iff.mpr ⟨_, rfl, rfl⟩, refund,
      conveys.remaining _ rfl (by decide)⟩
  · have every := (builtin_conveyed (fun _ _ _ => none) (echo 9) (.address place)
      (beside (spending 5 true))).2
    obtain ⟨builtin, output, located, ran, reverted, _⟩ :=
      (every _ _ (call_builtin _ (locate_place _)) rfl).1 (by decide) rfl
    exact ⟨builtin, output, located, ran, reverted⟩
  · obtain ⟨run, result, called, returned, _, conveys⟩ :=
      (builtin_conveyed (fun _ _ _ => none) (echo 9) (.address place)
        (beside (failing (.fatal "lost")))).1 _ (locate_place _)
    exact ⟨run, result, called, returned, (conveys.fatal_iff "lost").mpr rfl,
      conveys.mustAbort_iff.mpr ⟨"lost", rfl⟩⟩

/-- What a built-in says it used and what the caller has left add up to the supply, or to the use where
that is more; so gas is conserved exactly as long as the use is within the supply. Either way the call
comes back as a success or as a revert. -/
theorem builtin_gas_conserved_iff (execute : Executor Label Host) {request : Request}
    {target : Target} {machine : Machine Label Host} {builtin : Builtin} {output : BuiltinOutput}
    (located : locate machine target = some (.builtin builtin))
    (ran : builtin request.input request.gas = .ok output) :
    ∃ run result, call execute target request machine = some run ∧
      run.outcome = .returned (some result) ∧
      (result.succeeded = true ∨ result.error = some .reverted) ∧
      result.remaining.toNat + output.gasUsed.toNat = max request.gas.toNat output.gasUsed.toNat ∧
      (result.remaining.toNat + output.gasUsed.toNat = request.gas.toNat ↔
        output.gasUsed ≤ request.gas) := by
  refine ⟨_, _, call_builtin execute located, rfl, ?_⟩
  rw [ran, CallResult.ofBuiltin_ok, CallResult.toNat_leftover, UInt64.le_iff_toNat_le]
  refine ⟨?_, ?_, ?_⟩
  · cases output.reverted <;> simp [CallResult.succeeded]
  · omega
  · omega

open Counter in
theorem builtin_gas_conserved_iff_spending :
    ∃ run result, call (fun _ _ _ => none) (.address place) (echo 9) (beside (spending 5 true)) =
        some run ∧ run.outcome = .returned (some result) ∧
      result.remaining.toNat + (5 : UInt64).toNat = (9 : UInt64).toNat := by
  obtain ⟨run, result, called, returned, _, _, conserved⟩ :=
    @builtin_gas_conserved_iff Task Nat (fun _ _ _ => none) (echo 9) _ _ _ _
      (locate_place (spending 5 true)) rfl
  exact ⟨run, result, called, returned, conserved.mpr (by decide)⟩

open Counter in
/-- A built-in that says it used seven of five still succeeds, or reverts, and the two gas figures that
are left do not add up to the supply. -/
theorem overuse_passes :
    (∃ run result, call (fun _ _ _ => none) (.address place) (echo 5) (beside (spending 7 false)) =
        some run ∧ run.outcome = .returned (some result) ∧ result.succeeded = true ∧
        result.remaining.toNat + (7 : UInt64).toNat ≠ (5 : UInt64).toNat) ∧
      ∃ run result, call (fun _ _ _ => none) (.address place) (echo 5) (beside (spending 7 true)) =
        some run ∧ run.outcome = .returned (some result) ∧ result.error = some .reverted ∧
        result.remaining.toNat + (7 : UInt64).toNat ≠ (5 : UInt64).toNat :=
  ⟨⟨_, _, rfl, rfl, rfl, by decide⟩, ⟨_, _, rfl, rfl, rfl, by decide⟩⟩

end Bridge

end PrecompileBridge
