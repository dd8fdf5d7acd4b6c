import Mathlib.Data.List.Perm.Basic
import PrecompileBridge.Proofs.Decision

/-!
A constructed contract is a finite map from selectors to descriptors. The price of calldata, the
refusal of a write and the executor that runs are read off the one descriptor that the calldata
names, and the order in which the descriptors were given leaves no trace in what a call does.
-/
namespace PrecompileBridge

variable {Label Host : Type}

theorem filter_key_eq_singleton {α β : Type} [DecidableEq β] {key : α → β} {elements : List α}
    {element : α} (distinct : (elements.map key).Nodup) (member : element ∈ elements) :
    elements.filter (fun other => key other = key element) = [element] := by
  obtain ⟨before, after, rfl⟩ := List.append_of_mem member
  rw [List.map_append, List.map_cons, List.nodup_append, List.nodup_cons] at distinct
  obtain ⟨_, ⟨later, _⟩, apart⟩ := distinct
  have none_before : before.filter (fun other => key other = key element) = [] := by
    refine List.filter_eq_nil_iff.mpr fun other among => ?_
    have differ := apart _ (List.mem_map_of_mem among) _ (List.mem_cons_self ..)
    simpa using differ
  have none_after : after.filter (fun other => key other = key element) = [] := by
    refine List.filter_eq_nil_iff.mpr fun other among => ?_
    have differ : key other ≠ key element := fun same => later (same ▸ List.mem_map_of_mem among)
    simpa using differ
  simp [List.filter_append, none_before, none_after]

namespace Contract

def called? (contract : Contract Label) (input : Bytes) : Option (Method Label) :=
  (Selector.ofHead? input).bind contract.method?

theorem called?_eq_none_iff {contract : Contract Label} {input : Bytes} :
    contract.called? input = none ↔
      ∀ method ∈ contract.methods, method.selector.toBytes ≠ input.take Selector.size := by
  simp only [called?, Option.bind_eq_none_iff, Selector.ofHead?_eq_some_iff, method?_eq_none_iff]
  constructor
  · intro absent method member spelled
    exact absent method.selector spelled method member rfl
  · intro absent selector spelled method member same
    exact absent method member (same ▸ spelled)

theorem Constructed.called?_eq_some_iff {contract : Contract Label}
    (constructed : contract.Constructed) {input : Bytes} {method : Method Label} :
    contract.called? input = some method ↔
      method ∈ contract.methods ∧ method.selector.toBytes = input.take Selector.size := by
  simp only [called?, Option.bind_eq_some_iff, Selector.ofHead?_eq_some_iff,
    constructed.method?_eq_some_iff]
  constructor
  · rintro ⟨selector, spelled, member, rfl⟩
    exact ⟨member, spelled⟩
  · rintro ⟨member, spelled⟩
    exact ⟨method.selector, spelled, member, rfl⟩

theorem price_eq_called (contract : Contract Label) (input : Bytes) :
    contract.price input = ((contract.called? input).map Method.gas).getD 0 := by
  unfold price called?
  cases (Selector.ofHead? input).bind contract.method? <;> rfl

/-- The selection and the price come of one look-up, though each makes its own. -/
theorem select_eq_called (contract : Contract Label) (input : Bytes) (readOnly : Bool) :
    contract.select input readOnly =
      match contract.called? input with
      | some method =>
        if readOnly = true ∧ method.readOnly = false then .forbidden method.selector
        else .chosen method
      | none => ((Selector.ofHead? input).map .unknown).getD .headless := by
  unfold select called?
  cases Selector.ofHead? input with
  | none => rfl
  | some selector =>
    cases found : contract.method? selector with
    | none => simp [found]
    | some method =>
      have same : method.selector = selector := (mem_of_method? found).2
      simp [found, same]

theorem called?_perm {contract other : Contract Label} (built : contract.Constructed)
    (also : other.Constructed) (perm : other.methods.Perm contract.methods) (input : Bytes) :
    other.called? input = contract.called? input := by
  ext method
  rw [also.called?_eq_some_iff, built.called?_eq_some_iff, perm.mem_iff]

theorem construct_perm {address : Address} {descriptors permuted : List (Descriptor Label)}
    {name : String} {contract : Contract Label}
    (built : construct address descriptors name = .ok contract)
    (perm : permuted.Perm descriptors) :
    ∃ methods, methods.Perm contract.methods ∧
      construct address permuted name = .ok ⟨name, address, methods, false⟩ := by
  obtain ⟨valid, shape, ordered⟩ := construct_eq_ok_iff.mp built
  rw [ordered] at perm
  -- The methods move as the descriptors do, which are images of them.
  obtain ⟨methods, listed, same⟩ :
      Relation.Comp (· = List.map Method.descriptor ·) List.Perm permuted contract.methods := by
    rwa [List.eq_map_comp_perm]
  have located : address = contract.address := by rw [shape]
  refine ⟨methods, same, construct_eq_ok_iff.mpr ⟨⟨?_, ?_, ?_, ?_⟩, rfl, listed⟩⟩
  · exact located ▸ valid.address_ne_zero
  · intro empty
    exact valid.methods_ne_nil (List.nil_perm.mp (empty ▸ same))
  · exact (same.map Method.selector).nodup_iff.mpr valid.distinct
  · intro method member
    exact valid.priced method (same.mem_iff.mp member)

end Contract

/-- An error comes back and nothing else happens but that it is reported. -/
structure Run.Rejects (run : Run Label Host (Except CallFailure Bytes)) (error : CallFailure)
    (machine : Machine Label Host) : Prop where
  outcome : run.outcome = .returned (.error error)
  unchanged : run.machine = machine
  reports : ∀ event ∈ run.events, ∃ notice, event = .noted notice
  unentered : run.events.filterMap Event.entered? = []

/-- What a contract makes of a call, told by the descriptors alone. -/
structure Dispatched (address : Address) (descriptors : List (Descriptor Label))
    (execute : Executor Label Host) (frame : Frame Label Host) (readOnly : Bool)
    (machine : Machine Label Host) : Prop where
  unique : ∀ descriptor ∈ descriptors, descriptor.signature = frame.request.input.take 4 →
    descriptors.filter (fun other => other.signature = frame.request.input.take 4) = [descriptor]
  priced : ∀ descriptor ∈ descriptors, descriptor.signature = frame.request.input.take 4 →
    frame.contract.price frame.request.input = descriptor.gas
  forbidden : ∀ descriptor ∈ descriptors, descriptor.signature = frame.request.input.take 4 →
    readOnly = true → descriptor.readOnly = false →
      ∃ run, Bridge.invoke execute frame readOnly machine = some run ∧
        run.Rejects .writeProtection machine
  executed : ∀ descriptor ∈ descriptors, descriptor.signature = frame.request.input.take 4 →
    (readOnly = true → descriptor.readOnly = true) →
      ∃ method, descriptor = method.descriptor ∧ Bridge.invoke execute frame readOnly machine =
        (execute method.executor ⟨frame.request.caller, address, frame.request.input⟩ machine).map
          (·.after [.noted (.invoking frame.contract.name frame.request.caller method.selector
            readOnly frame.request.input.length), .entered ⟨frame, method, machine⟩])
  absent : (frame.request.input.length < 4 ∨
      ∀ descriptor ∈ descriptors, descriptor.signature ≠ frame.request.input.take 4) →
    frame.contract.price frame.request.input = 0 ∧
      ∃ run, Bridge.invoke execute frame readOnly machine = some run ∧
        run.Rejects .reverted machine

namespace Bridge

open Contract

section

variable {execute : Executor Label Host} {frame : Frame Label Host} {readOnly : Bool}
  {machine : Machine Label Host}

theorem invoke_of_called {method : Method Label}
    (called : frame.contract.called? frame.request.input = some method)
    (allowed : readOnly = true → method.readOnly = true) :
    invoke execute frame readOnly machine =
      (execute method.executor frame.invocation machine).map
        (·.after [.noted (.invoking frame.contract.name frame.request.caller method.selector
          readOnly frame.request.input.length), .entered ⟨frame, method, machine⟩]) := by
  have unlocked : ¬ (readOnly = true ∧ method.readOnly = false) := by
    rintro ⟨locked, writes⟩
    exact Bool.false_ne_true (writes.symm.trans (allowed locked))
  simp only [invoke, select_eq_called, called, if_neg unlocked]

theorem rejects_of_refuse (error : CallFailure) (notices : List Notice)
    (machine : Machine Label Host) :
    ∃ run, refuse (.error error) notices machine = some run ∧ run.Rejects error machine := by
  refine ⟨_, rfl, rfl, rfl, ?_, ?_⟩
  · intro event member
    obtain ⟨notice, _, same⟩ := List.mem_map.mp member
    exact ⟨notice, same.symm⟩
  · simp [Event.entered?]

theorem invoke_of_forbidden {method : Method Label}
    (called : frame.contract.called? frame.request.input = some method)
    (locked : readOnly = true) (writes : method.readOnly = false) :
    ∃ run, invoke execute frame readOnly machine = some run ∧
      run.Rejects .writeProtection machine := by
  simp only [invoke, select_eq_called, called, if_pos (And.intro locked writes)]
  exact rejects_of_refuse _ _ machine

theorem invoke_of_not_called (absent : frame.contract.called? frame.request.input = none) :
    ∃ run, invoke execute frame readOnly machine = some run ∧ run.Rejects .reverted machine := by
  simp only [invoke, select_eq_called, absent]
  cases Selector.ofHead? frame.request.input with
  | none => exact rejects_of_refuse _ _ machine
  | some selector => exact rejects_of_refuse _ _ machine

end

/-- What the caller of a contract sees: the outcome, the machine and what was reported. -/
def seen {α : Type} (run : Run Label Host α) : Outcome α × Machine Label Host × List Notice :=
  (run.outcome, run.machine, run.notices)

theorem invoke_perm (execute : Executor Label Host) {contract other : Contract Label}
    (built : contract.Constructed) (also : other.Constructed)
    (perm : other.methods.Perm contract.methods) (named : other.name = contract.name)
    (located : other.address = contract.address) (id : ContractId) (request : Request)
    (before : Machine Label Host) (readOnly : Bool) (machine : Machine Label Host) :
    (invoke execute ⟨id, other, request, before⟩ readOnly machine).map seen =
      (invoke execute ⟨id, contract, request, before⟩ readOnly machine).map seen := by
  have same := called?_perm built also perm request.input
  simp only [invoke, select_eq_called, same, named, located]
  cases contract.called? request.input with
  | none => cases Selector.ofHead? request.input <;> rfl
  | some method =>
    by_cases locked : readOnly = true ∧ method.readOnly = false
    · simp only [if_pos locked]
    · simp only [if_neg locked, Option.map_map, Frame.invocation, located]
      congr 1

theorem dispatched_of_construct (execute : Executor Label Host) {address : Address}
    {descriptors : List (Descriptor Label)} {name : String} {frame : Frame Label Host}
    (built : construct address descriptors name = .ok frame.contract) (readOnly : Bool)
    (machine : Machine Label Host) :
    Dispatched address descriptors execute frame readOnly machine := by
  obtain ⟨valid, shape, ordered⟩ := construct_eq_ok_iff.mp built
  have located : frame.contract.address = address := by rw [shape]
  have constructed : frame.contract.Constructed := constructed_iff_valid.mpr valid
  -- Construction compares selectors; signatures are distinct because they spell them out.
  have signatures : (descriptors.map Descriptor.signature).Nodup := by
    have spelled : descriptors.map Descriptor.signature =
        (frame.contract.methods.map Method.selector).map Selector.toBytes := by
      rw [ordered, List.map_map, List.map_map]
      rfl
    rw [spelled]
    exact valid.distinct.map Selector.toBytes_injective
  have named : ∀ descriptor ∈ descriptors, descriptor.signature = frame.request.input.take 4 →
      ∃ method, descriptor = method.descriptor ∧
        frame.contract.called? frame.request.input = some method := by
    intro descriptor member spelled
    rw [ordered] at member
    obtain ⟨method, among, same⟩ := List.mem_map.mp member
    subst same
    exact ⟨method, rfl, constructed.called?_eq_some_iff.mpr ⟨among, spelled⟩⟩
  constructor
  case unique =>
    intro descriptor member spelled
    rw [← spelled]
    exact filter_key_eq_singleton signatures member
  case priced =>
    intro descriptor member spelled
    obtain ⟨method, same, called⟩ := named descriptor member spelled
    rw [price_eq_called, called, same]
    rfl
  case forbidden =>
    intro descriptor member spelled locked writes
    obtain ⟨method, same, called⟩ := named descriptor member spelled
    subst same
    exact invoke_of_forbidden called locked writes
  case executed =>
    intro descriptor member spelled allowed
    obtain ⟨method, same, called⟩ := named descriptor member spelled
    subst same
    have ran : invoke execute frame readOnly machine = _ := invoke_of_called called allowed
    rw [Frame.invocation, located] at ran
    exact ⟨method, rfl, ran⟩
  case absent =>
    intro unnamed
    have nothing : frame.contract.called? frame.request.input = none := by
      rcases unnamed with short | unlisted
      · rw [called?, Selector.ofHead?_eq_none_iff.mpr short, Option.bind_none]
      · refine called?_eq_none_iff.mpr fun method member => ?_
        exact unlisted method.descriptor (ordered ▸ List.mem_map_of_mem member)
    refine ⟨?_, invoke_of_not_called nothing⟩
    rw [price_eq_called, nothing]
    rfl

end Bridge

namespace Contract

/-- A contract lists its descriptors in order and dispatches by them alone, and any other order of
the descriptors is accepted and gives a contract that no call can tell apart from it. -/
theorem construct_refines {address : Address} {descriptors : List (Descriptor Label)}
    {name : String} {contract : Contract Label}
    (built : construct address descriptors name = .ok contract) :
    contract.methods.map (fun method => (method.selector.toBytes, method.gas, method.readOnly)) =
        descriptors.map (fun descriptor =>
          (descriptor.signature, descriptor.gas, descriptor.readOnly)) ∧
      (∀ (execute : Executor Label Host) id request before readOnly machine,
        Dispatched address descriptors execute ⟨id, contract, request, before⟩ readOnly machine) ∧
      ∀ permuted, permuted.Perm descriptors →
        ∃ other, construct address permuted name = .ok other ∧
          (∀ input, other.price input = contract.price input) ∧
          ∀ (execute : Executor Label Host) id request before readOnly machine,
            (Bridge.invoke execute ⟨id, other, request, before⟩ readOnly machine).map Bridge.seen =
              (Bridge.invoke execute ⟨id, contract, request, before⟩ readOnly machine).map
                Bridge.seen := by
  obtain ⟨valid, shape, ordered⟩ := construct_eq_ok_iff.mp built
  have constructed : contract.Constructed := constructed_iff_valid.mpr valid
  refine ⟨?_, ?_, ?_⟩
  · rw [ordered, List.map_map]
    rfl
  · intro execute id request before readOnly machine
    exact Bridge.dispatched_of_construct execute built readOnly machine
  · intro permuted perm
    obtain ⟨methods, same, accepted⟩ := construct_perm built perm
    have also : Contract.Constructed ⟨name, address, methods, false⟩ :=
      constructed_iff_valid.mpr (construct_eq_ok_iff.mp accepted).1
    refine ⟨_, accepted, ?_, ?_⟩
    · intro input
      rw [price_eq_called, price_eq_called, called?_perm constructed also same]
    · intro execute id request before readOnly machine
      exact Bridge.invoke_perm execute constructed also same (by rw [shape]) (by rw [shape]) id
        request before readOnly machine

open Counter in
theorem construct_refines_counter :
    contract.price (increment 9 false).input = 5 ∧
      (∃ run, Bridge.invoke (fun _ _ _ => none) ⟨0, contract, increment 9 false, machine 6 false⟩
          true (machine 6 false) = some run ∧ run.Rejects .writeProtection (machine 6 false)) ∧
      (∃ run, Bridge.invoke
          (fun _ _ start => some ⟨.returned (.ok [8]), { start with host := 7 }, []⟩)
          ⟨0, contract, increment 9 false, machine 6 false⟩ false (machine 6 false) = some run ∧
        run.outcome = .returned (.ok [8]) ∧ run.machine = machine 7 false) ∧
      ∃ other, construct Counter.address descriptors.reverse "counter" = .ok other ∧
        other.price (increment 9 false).input = 5 := by
  have member : incrementMethod.descriptor ∈ descriptors := by simp [descriptors, contract]
  obtain ⟨_, dispatched, orders⟩ := @construct_refines Task Nat _ _ _ _ contract_built
  have refused := dispatched (fun _ _ _ => none) 0 (increment 9 false) (machine 6 false) true
    (machine 6 false)
  have ran := dispatched (fun _ _ start => some ⟨.returned (.ok [8]), { start with host := 7 }, []⟩)
    0 (increment 9 false) (machine 6 false) false (machine 6 false)
  have priced : contract.price (increment 9 false).input = 5 := refused.priced _ member rfl
  refine ⟨priced, refused.forbidden _ member rfl rfl rfl, ?_, ?_⟩
  · obtain ⟨method, _, answered⟩ := ran.executed _ member rfl (fun locked => by contradiction)
    exact ⟨_, answered, rfl, rfl⟩
  · obtain ⟨other, accepted, same, _⟩ := orders _ (List.reverse_perm descriptors)
    exact ⟨other, accepted, (same _).trans priced⟩

end Contract

end PrecompileBridge
