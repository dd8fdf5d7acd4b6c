import PrecompileBridge.Proofs.Construction

/-!
Which flaw is reported. Descriptors are admitted from the head of the list, and the first one that is
invalid or repeats an earlier signature ends construction; of that one the length of its signature is
checked before its price, and its price before its executor. So every result of a construction, an
error or a contract, has exactly one reason.
-/
namespace PrecompileBridge

variable {Label : Type}

namespace Descriptor

def Invalid (descriptor : Descriptor Label) : Prop :=
  descriptor.signature.length ≠ 4 ∨ (descriptor.readOnly = false ∧ descriptor.gas = 0) ∨
    descriptor.executor = none

inductive Fails (descriptor : Descriptor Label) : DescriptorFlaw → Prop
  | signatureLength (wrong : descriptor.signature.length ≠ 4) :
    Fails descriptor (.signatureLength descriptor.signature.length)
  | missingGas (spelled : descriptor.signature.length = 4)
      (free : descriptor.readOnly = false ∧ descriptor.gas = 0) : Fails descriptor .missingGas
  | missingExecutor (spelled : descriptor.signature.length = 4)
      (priced : ¬ (descriptor.readOnly = false ∧ descriptor.gas = 0))
      (absent : descriptor.executor = none) : Fails descriptor .missingExecutor

theorem validate_eq_error_iff {descriptor : Descriptor Label} {flaw : DescriptorFlaw} :
    descriptor.validate = .error flaw ↔ descriptor.Fails flaw := by
  constructor
  · intro rejected
    unfold validate at rejected
    split at rejected
    · rename_i wrong
      cases rejected
      exact .signatureLength (Selector.ofBytes?_eq_none_iff.mp wrong)
    · rename_i selector found
      have spelled : descriptor.signature.length = 4 := by
        rw [Selector.ofBytes?_eq_some_iff.mp found]
        rfl
      by_cases free : descriptor.readOnly = false ∧ descriptor.gas = 0
      · rw [if_pos free] at rejected
        cases rejected
        exact .missingGas spelled free
      · rw [if_neg free] at rejected
        split at rejected
        · rename_i absent
          cases rejected
          exact .missingExecutor spelled free absent
        · contradiction
  · intro fails
    unfold validate
    cases fails with
    | signatureLength wrong => rw [Selector.ofBytes?_eq_none_iff.mpr wrong]
    | missingGas spelled free =>
      split
      · exact absurd spelled (Selector.ofBytes?_eq_none_iff.mp ‹_›)
      · rw [if_pos free]
    | missingExecutor spelled priced absent =>
      split
      · exact absurd spelled (Selector.ofBytes?_eq_none_iff.mp ‹_›)
      · rw [if_neg priced, absent]

theorem invalid_iff {descriptor : Descriptor Label} :
    descriptor.Invalid ↔ ∃ flaw, descriptor.Fails flaw := by
  constructor
  · intro invalid
    by_cases spelled : descriptor.signature.length = 4
    · by_cases free : descriptor.readOnly = false ∧ descriptor.gas = 0
      · exact ⟨_, .missingGas spelled free⟩
      · have absent := (invalid.resolve_left (not_not.mpr spelled)).resolve_left free
        exact ⟨_, .missingExecutor spelled free absent⟩
    · exact ⟨_, .signatureLength spelled⟩
  · rintro ⟨flaw, fails⟩
    cases fails with
    | signatureLength wrong => exact Or.inl wrong
    | missingGas _ free => exact Or.inr (Or.inl free)
    | missingExecutor _ _ absent => exact Or.inr (Or.inr absent)

theorem not_invalid_iff {descriptor : Descriptor Label} :
    ¬ descriptor.Invalid ↔ ∃ method, descriptor.validate = .ok method := by
  simp only [invalid_iff, ← validate_eq_error_iff]
  cases descriptor.validate <;> simp

end Descriptor

theorem Method.descriptor_injective : Function.Injective (@Method.descriptor Label) := by
  rintro ⟨_, _, _, _⟩ ⟨_, _, _, _⟩ same
  simpa [Method.descriptor, Selector.toBytes_injective.eq_iff] using same

namespace Contract

/-- Why a descriptor is not admitted after the methods before it. -/
inductive Stops (seen : List Selector) (descriptor : Descriptor Label) : ContractFlaw → Prop
  | invalid {flaw : DescriptorFlaw} (rejected : descriptor.validate = .error flaw) :
    Stops seen descriptor (.invalidMethod descriptor.signature flaw)
  | duplicate {method : Method Label} (valid : descriptor.validate = .ok method)
      (known : method.selector ∈ seen) : Stops seen descriptor (.duplicateMethod method.selector)

theorem methodsOf_cons_eq_error_iff {seen : List Selector} {descriptor : Descriptor Label}
    {rest : List (Descriptor Label)} {cause : ContractFlaw} :
    methodsOf seen (descriptor :: rest) = .error cause ↔
      Stops seen descriptor cause ∨
        ∃ method, descriptor.validate = .ok method ∧ method.selector ∉ seen ∧
          methodsOf (method.selector :: seen) rest = .error cause := by
  rw [methodsOf]
  cases validated : descriptor.validate with
  | error flaw =>
    constructor
    · intro reported
      cases reported
      exact Or.inl (.invalid validated)
    · rintro (stops | ⟨method, valid, _⟩)
      · cases stops with
        | invalid rejected => rw [Except.error.inj (validated.symm.trans rejected)]
        | duplicate valid _ => rw [validated] at valid; contradiction
      · contradiction
  | ok method =>
    have stops : Stops seen descriptor cause ↔
        method.selector ∈ seen ∧ .duplicateMethod method.selector = cause := by
      constructor
      · intro stops
        cases stops with
        | invalid rejected => rw [validated] at rejected; contradiction
        | duplicate valid known =>
          rw [Except.ok.inj (validated.symm.trans valid)]
          exact ⟨known, rfl⟩
      · rintro ⟨known, rfl⟩
        exact .duplicate validated known
    rw [stops]
    by_cases known : method.selector ∈ seen
    · simp [known]
    · cases later : methodsOf (method.selector :: seen) rest <;> simp [known, later]

theorem Stops.congr {seen known : List Selector} {descriptor : Descriptor Label}
    {cause : ContractFlaw} (same : ∀ selector, selector ∈ seen ↔ selector ∈ known)
    (stops : Stops seen descriptor cause) : Stops known descriptor cause := by
  cases stops with
  | invalid rejected => exact .invalid rejected
  | duplicate valid repeated => exact .duplicate valid ((same _).mp repeated)

theorem methodsOf_eq_error_iff {seen : List Selector} {descriptors : List (Descriptor Label)}
    {cause : ContractFlaw} :
    methodsOf seen descriptors = .error cause ↔
      ∃ before descriptor after methods, descriptors = before ++ descriptor :: after ∧
        methodsOf seen before = .ok methods ∧
        Stops (methods.map Method.selector ++ seen) descriptor cause := by
  -- The code puts the selectors that it has met in reverse order; only membership counts.
  have regroup (method : Method Label) (others : List (Method Label)) (seen : List Selector)
      (selector : Selector) :
      selector ∈ others.map Method.selector ++ method.selector :: seen ↔
        selector ∈ (method :: others).map Method.selector ++ seen := by
    simp only [List.mem_append, List.mem_cons, List.map_cons]
    tauto
  induction descriptors generalizing seen with
  | nil => simp [methodsOf]
  | cons first rest ih =>
    rw [methodsOf_cons_eq_error_iff]
    constructor
    · rintro (stops | ⟨method, valid, new, later⟩)
      · exact ⟨[], first, rest, [], rfl, rfl, stops⟩
      · obtain ⟨before, descriptor, after, others, split, admitted, stops⟩ := ih.mp later
        exact ⟨first :: before, descriptor, after, method :: others, congrArg _ split,
          methodsOf_cons_eq_ok_iff.mpr ⟨method, others, rfl, valid, new, admitted⟩,
          stops.congr (regroup method others seen)⟩
    · rintro ⟨before, descriptor, after, methods, split, admitted, stops⟩
      cases before with
      | nil =>
        cases split
        cases admitted
        exact Or.inl stops
      | cons head before =>
        cases split
        obtain ⟨method, others, rfl, valid, new, admitted⟩ := methodsOf_cons_eq_ok_iff.mp admitted
        exact Or.inr ⟨method, valid, new, ih.mpr ⟨before, descriptor, after, others, rfl, admitted,
          stops.congr fun selector => (regroup method others seen selector).symm⟩⟩

/-- A descriptor at which construction ends: it is invalid, or its signature stands before it. -/
def FlawedAt (descriptors : List (Descriptor Label)) (index : Nat) : Prop :=
  ∃ descriptor, descriptors[index]? = some descriptor ∧
    (descriptor.Invalid ∨
      ∃ earlier ∈ descriptors.take index, earlier.signature = descriptor.signature)

theorem flawedAt_append_iff {before after : List (Descriptor Label)} {index : Nat}
    (within : index < before.length) : FlawedAt (before ++ after) index ↔ FlawedAt before index := by
  unfold FlawedAt
  rw [List.getElem?_append_left within, List.take_append_of_le_length (Nat.le_of_lt within)]

theorem mem_selectors_iff {before : List (Descriptor Label)} {methods : List (Method Label)}
    (admitted : methodsOf [] before = .ok methods) {selector : Selector} :
    selector ∈ methods.map Method.selector ↔
      ∃ earlier ∈ before, earlier.signature = selector.toBytes := by
  obtain ⟨ordered, _⟩ := methodsOf_eq_ok_iff.mp admitted
  subst ordered
  simp only [List.mem_map, exists_exists_and_eq_and]
  refine exists_congr fun method => and_congr_right fun _ => ?_
  exact Selector.toBytes_injective.eq_iff.symm

theorem flawedAt_length_iff {before after : List (Descriptor Label)}
    {descriptor : Descriptor Label} {methods : List (Method Label)}
    (admitted : methodsOf [] before = .ok methods) :
    FlawedAt (before ++ descriptor :: after) before.length ↔
      ∃ cause, Stops (methods.map Method.selector) descriptor cause := by
  have here : FlawedAt (before ++ descriptor :: after) before.length ↔
      (descriptor.Invalid ∨ ∃ earlier ∈ before, earlier.signature = descriptor.signature) := by
    simp [FlawedAt]
  rw [here]
  constructor
  · intro flawed
    cases validated : descriptor.validate with
    | error flaw => exact ⟨_, .invalid validated⟩
    | ok method =>
      have repeated := flawed.resolve_left (Descriptor.not_invalid_iff.mpr ⟨method, validated⟩)
      rw [(Descriptor.validate_eq_ok_iff.mp validated).1] at repeated
      exact ⟨_, .duplicate validated ((mem_selectors_iff admitted).mpr repeated)⟩
  · rintro ⟨cause, stops⟩
    cases stops with
    | @invalid flaw rejected =>
      exact Or.inl (Descriptor.invalid_iff.mpr ⟨flaw, Descriptor.validate_eq_error_iff.mp rejected⟩)
    | duplicate valid known =>
      rw [(Descriptor.validate_eq_ok_iff.mp valid).1]
      exact Or.inr ((mem_selectors_iff admitted).mp known)

theorem methodsOf_append_eq_error {seen : List Selector} {before : List (Descriptor Label)}
    {cause : ContractFlaw} (rejected : methodsOf seen before = .error cause)
    (after : List (Descriptor Label)) : methodsOf seen (before ++ after) = .error cause := by
  obtain ⟨start, descriptor, rest, methods, rfl, admitted, stops⟩ :=
    methodsOf_eq_error_iff.mp rejected
  exact methodsOf_eq_error_iff.mpr
    ⟨start, descriptor, rest ++ after, methods, by simp, admitted, stops⟩

theorem split_at_index {descriptors : List (Descriptor Label)} {index : Nat}
    {descriptor : Descriptor Label} (there : descriptors[index]? = some descriptor) :
    ∃ before after, descriptors = before ++ descriptor :: after ∧ before.length = index := by
  obtain ⟨within, same⟩ := List.getElem?_eq_some_iff.mp there
  refine ⟨descriptors.take index, descriptors.drop (index + 1), ?_,
    List.length_take_of_le (Nat.le_of_lt within)⟩
  rw [← same, List.getElem_cons_drop, List.take_append_drop]

theorem exists_methodsOf_iff {descriptors : List (Descriptor Label)} :
    (∃ methods, methodsOf [] descriptors = .ok methods) ↔
      ∀ index, ¬ FlawedAt descriptors index := by
  constructor
  · rintro ⟨methods, admitted⟩ index flawed
    obtain ⟨descriptor, there, _⟩ := id flawed
    obtain ⟨before, after, rfl, rfl⟩ := split_at_index there
    cases start : methodsOf [] before with
    | error cause =>
      have rejected := methodsOf_append_eq_error start (descriptor :: after)
      rw [admitted] at rejected
      contradiction
    | ok earlier =>
      obtain ⟨cause, stops⟩ := (flawedAt_length_iff start).mp flawed
      have rejected : methodsOf [] (before ++ descriptor :: after) = .error cause :=
        methodsOf_eq_error_iff.mpr
          ⟨before, descriptor, after, earlier, rfl, start, by rwa [List.append_nil]⟩
      rw [admitted] at rejected
      contradiction
  · intro flawless
    cases admitted : methodsOf [] descriptors with
    | ok methods => exact ⟨methods, rfl⟩
    | error cause =>
      obtain ⟨before, descriptor, after, methods, rfl, fine, stops⟩ :=
        methodsOf_eq_error_iff.mp admitted
      rw [List.append_nil] at stops
      exact absurd ((flawedAt_length_iff fine).mpr ⟨cause, stops⟩) (flawless before.length)

/-- What is wrong with the first flawed descriptor. -/
inductive FirstFlaw (descriptors : List (Descriptor Label)) : ContractFlaw → Prop
  | invalidMethod {index : Nat} {descriptor : Descriptor Label} {flaw : DescriptorFlaw}
      (there : descriptors[index]? = some descriptor)
      (first : ∀ earlier < index, ¬ FlawedAt descriptors earlier) (fails : descriptor.Fails flaw) :
    FirstFlaw descriptors (.invalidMethod descriptor.signature flaw)
  | duplicateMethod {index : Nat} {descriptor : Descriptor Label} {selector : Selector}
      (there : descriptors[index]? = some descriptor)
      (first : ∀ earlier < index, ¬ FlawedAt descriptors earlier) (valid : ¬ descriptor.Invalid)
      (flawed : FlawedAt descriptors index) (spelled : selector.toBytes = descriptor.signature) :
    FirstFlaw descriptors (.duplicateMethod selector)

theorem exists_methodsOf_before {before after : List (Descriptor Label)}
    (first : ∀ earlier < before.length, ¬ FlawedAt (before ++ after) earlier) :
    ∃ methods, methodsOf [] before = .ok methods := by
  refine exists_methodsOf_iff.mpr fun index flawed => ?_
  have within : index < before.length := by
    obtain ⟨_, there, _⟩ := flawed
    exact (List.getElem?_eq_some_iff.mp there).1
  exact first index within ((flawedAt_append_iff within).mpr flawed)

theorem methodsOf_eq_error_iff_firstFlaw {descriptors : List (Descriptor Label)}
    {cause : ContractFlaw} :
    methodsOf [] descriptors = .error cause ↔ FirstFlaw descriptors cause := by
  constructor
  · intro rejected
    obtain ⟨before, descriptor, after, methods, rfl, admitted, stops⟩ :=
      methodsOf_eq_error_iff.mp rejected
    rw [List.append_nil] at stops
    have there : (before ++ descriptor :: after)[before.length]? = some descriptor := by simp
    have first : ∀ earlier < before.length, ¬ FlawedAt (before ++ descriptor :: after) earlier := by
      intro earlier within
      rw [flawedAt_append_iff within]
      exact exists_methodsOf_iff.mp ⟨methods, admitted⟩ earlier
    have flawed : FlawedAt (before ++ descriptor :: after) before.length :=
      (flawedAt_length_iff admitted).mpr ⟨cause, stops⟩
    cases stops with
    | invalid failed =>
      exact .invalidMethod there first (Descriptor.validate_eq_error_iff.mp failed)
    | @duplicate method valid known =>
      have spelled : method.selector.toBytes = descriptor.signature := by
        rw [(Descriptor.validate_eq_ok_iff.mp valid).1]
        rfl
      exact .duplicateMethod there first (Descriptor.not_invalid_iff.mpr ⟨method, valid⟩) flawed
        spelled
  · intro found
    cases found with
    | invalidMethod there first fails =>
      obtain ⟨before, after, rfl, rfl⟩ := split_at_index there
      obtain ⟨methods, admitted⟩ := exists_methodsOf_before first
      exact methodsOf_eq_error_iff.mpr ⟨before, _, after, methods, rfl, admitted,
        .invalid (Descriptor.validate_eq_error_iff.mpr fails)⟩
    | @duplicateMethod _ descriptor selector there first valid flawed spelled =>
      obtain ⟨before, after, rfl, rfl⟩ := split_at_index there
      obtain ⟨methods, admitted⟩ := exists_methodsOf_before first
      obtain ⟨method, validated⟩ := Descriptor.not_invalid_iff.mp valid
      have same : method.selector = selector := by
        apply Selector.toBytes_injective
        rw [spelled, (Descriptor.validate_eq_ok_iff.mp validated).1]
        rfl
      obtain ⟨cause, stops⟩ := (flawedAt_length_iff admitted).mp flawed
      cases stops with
      | invalid failed =>
        rw [validated] at failed
        contradiction
      | @duplicate other again known =>
        obtain rfl : method = other := Except.ok.inj (validated.symm.trans again)
        rw [← same]
        exact methodsOf_eq_error_iff.mpr ⟨before, descriptor, after, methods, rfl, admitted,
          .duplicate validated (by rwa [List.append_nil])⟩

inductive Ends (address : Address) (descriptors : List (Descriptor Label)) (name : String) :
    Except ContractFlaw (Contract Label) → Prop
  | zeroAddress (zero : address = .zero) : Ends address descriptors name (.error .zeroAddress)
  | flawed (located : address ≠ .zero) {cause : ContractFlaw} (first : FirstFlaw descriptors cause) :
    Ends address descriptors name (.error cause)
  | noMethods (located : address ≠ .zero) (empty : descriptors = []) :
    Ends address descriptors name (.error .noMethods)
  | built (located : address ≠ .zero) (nonempty : descriptors ≠ [])
      (flawless : ∀ index, ¬ FlawedAt descriptors index) {methods : List (Method Label)}
      (ordered : descriptors = methods.map Method.descriptor) :
    Ends address descriptors name (.ok ⟨name, address, methods, false⟩)

/-- Construction ends in one way for one reason: at the zero address, or else at the first flawed
descriptor, or else for want of descriptors, or else with a contract of all the methods in order. -/
theorem construct_eq_iff_ends {address : Address} {descriptors : List (Descriptor Label)}
    {name : String} {result : Except ContractFlaw (Contract Label)} :
    construct address descriptors name = result ↔ Ends address descriptors name result := by
  constructor
  · rintro rfl
    unfold construct
    by_cases zero : address = .zero
    · rw [if_pos zero]
      exact .zeroAddress zero
    · rw [if_neg zero]
      cases admitted : methodsOf [] descriptors with
      | error cause => exact .flawed zero (methodsOf_eq_error_iff_firstFlaw.mp admitted)
      | ok methods =>
        have ordered := (methodsOf_eq_ok_iff.mp admitted).1
        cases methods with
        | nil => exact .noMethods zero ordered
        | cons method rest =>
          refine .built zero ?_ (exists_methodsOf_iff.mp ⟨_, admitted⟩) ordered
          rw [ordered]
          exact List.cons_ne_nil _ _
  · intro ends
    unfold construct
    cases ends with
    | zeroAddress zero => rw [if_pos zero]
    | flawed located first =>
      rw [if_neg located, methodsOf_eq_error_iff_firstFlaw.mpr first]
    | noMethods located empty =>
      rw [if_neg located, empty]
      rfl
    | @built located nonempty flawless methods ordered =>
      obtain ⟨others, admitted⟩ := exists_methodsOf_iff.mpr flawless
      -- The descriptors are images of the methods, so they determine them.
      have same : others = methods := List.map_injective_iff.mpr Method.descriptor_injective
        ((methodsOf_eq_ok_iff.mp admitted).1.symm.trans ordered)
      subst same
      rw [if_neg located, admitted]
      cases others with
      | nil => exact absurd ordered nonempty
      | cons method rest => rfl

example : construct (.ofNat 1) [⟨[1, 2, 3, 4], 0, true, some ()⟩, ⟨[9], 0, false, none⟩,
    ⟨[1, 2, 3, 4], 5, false, some ()⟩] "flawed" = .error (.invalidMethod [9] (.signatureLength 1)) :=
  rfl

end Contract

end PrecompileBridge
