import PrecompileBridge.Proofs.Verdict

/-!
What a run is made of. Between two machines lie effects, reports, refused calls and admitted calls
with a run of their own inside; whatever an executor does, and however deep its calls nest, its
events come about in no other way. What each of these steps keeps, every run keeps, by induction on
the stretch.
-/
namespace PrecompileBridge

variable {Label Host α : Type}

/-- The bridge gives this answer to a call in which executors nest to some depth. -/
def Behaviour.Answers (behaviour : Behaviour Label Host) (frame : Frame Label Host)
    (answer : Run Label Host CallResult) : Prop :=
  ∃ nesting, Bridge.callContract (behaviour.execute nesting) frame = some answer

/-- A stretch of a run, with the machine that it starts from and the machine that it leaves. -/
inductive Stretch (behaviour : Behaviour Label Host) :
    Machine Label Host → List (Event Label Host) → Machine Label Host → Prop
  | empty (machine : Machine Label Host) : Stretch behaviour machine [] machine
  | append {before middle after : Machine Label Host} {early late : List (Event Label Host)}
      (first : Stretch behaviour before early middle) (second : Stretch behaviour middle late after) :
    Stretch behaviour before (early ++ late) after
  | acted (effect : Effect Label Host) (machine : Machine Label Host) :
    Stretch behaviour machine (effect.events machine) (effect.apply machine)
  | resumed (machine : Machine Label Host) : Stretch behaviour machine [.resumed machine] machine
  | noted (result : Except BuiltinFailure BuiltinOutput) (machine : Machine Label Host) :
    Stretch behaviour machine ((Bridge.builtinNotices result).map .noted) machine
  | refused {frame : Frame Label Host} {result : CallResult}
      (held : frame.before.catalog.get? frame.id = some frame.contract)
      (refused : frame.verdict.refusal? frame.request.gas = some result)
      (answered : behaviour.Answers frame (frame.refused result)) :
    Stretch behaviour frame.before (frame.refused result).events frame.before
  | admitted {frame : Frame Label Host} {method : Method Label}
      {inner : Run Label Host (Except CallFailure Bytes)}
      (held : frame.before.catalog.get? frame.id = some frame.contract)
      (admitted : frame.verdict = .admitted method)
      (answered : behaviour.Answers frame (frame.concluded method inner))
      (body : Stretch behaviour frame.start inner.events inner.machine) :
    Stretch behaviour frame.before (frame.concluded method inner).events
      (frame.handBack inner.machine)

namespace Frame

variable {frame : Frame Label Host} {holds : Event Label Host → Prop}

theorem forall_mem_refused {result : CallResult} (called : holds (.called frame))
    (noted : ∀ notice, holds (.noted notice))
    (answered : holds (.answered frame (.returned result) frame.before)) :
    ∀ event ∈ (frame.refused result).events, holds event := by
  simp only [refused, List.cons_append, List.forall_mem_cons, List.forall_mem_append,
    List.forall_mem_map]
  exact ⟨called, fun notice _ => noted notice, answered, List.forall_mem_nil _⟩

theorem forall_mem_concluded {method : Method Label}
    {inner : Run Label Host (Except CallFailure Bytes)} (called : holds (.called frame))
    (noted : ∀ notice, holds (.noted notice))
    (entered : holds (.entered ⟨frame, method, frame.start⟩))
    (answered : holds (.answered frame
      (inner.outcome.map (method.reply frame.request.gas))
      (frame.handBack inner.machine)))
    (body : ∀ event ∈ inner.events, holds event) :
    ∀ event ∈ (frame.concluded method inner).events, holds event := by
  have opened : ∀ event ∈ frame.preamble method, holds event := by
    simp only [preamble, List.cons_append, List.forall_mem_cons, List.forall_mem_append,
      List.forall_mem_map]
    exact ⟨called, fun notice _ => noted notice, noted _, entered, List.forall_mem_nil _⟩
  have closed : ∀ event ∈ frame.coda (inner.outcome.map (method.reply frame.request.gas))
      (frame.handBack inner.machine), holds event := by
    simp only [coda, List.forall_mem_append, List.forall_mem_map, List.forall_mem_singleton]
    exact ⟨fun notice _ => noted notice, answered⟩
  exact List.forall_mem_append.mpr ⟨List.forall_mem_append.mpr ⟨opened, body⟩, closed⟩

end Frame

section

variable {behaviour : Behaviour Label Host}

theorem Procedure.run_stretch {callee : Callee Label Host}
    (answers : ∀ target request machine run, callee target request machine = some run →
      Stretch behaviour machine run.events run.machine)
    {procedure : Procedure Label Host α} {machine : Machine Label Host} {run : Run Label Host α}
    (ran : procedure.run callee machine = some run) :
    Stretch behaviour machine run.events run.machine := by
  induction procedure generalizing machine run with
  | done value =>
    cases ran
    exact .empty machine
  | panic message =>
    cases ran
    exact .empty machine
  | observe next ih => exact ih machine ran
  | act effect next ih =>
    obtain ⟨rest, continued, rfl⟩ := Option.map_eq_some_iff.mp ran
    exact .append (.acted effect machine) (ih continued)
  | call target request next ih =>
    obtain ⟨answer, answered, continued⟩ := Option.bind_eq_some_iff.mp ran
    obtain ⟨rest, finished, rfl⟩ := Option.map_eq_some_iff.mp continued
    have called := answers target request machine answer answered
    exact .append (.append called (.resumed answer.machine)) (ih answer.outcome finished)

namespace Behaviour

variable {nesting : Nat}

def Traced (behaviour : Behaviour Label Host) (nesting : Nat) : Prop :=
  ∀ label invocation machine run, behaviour.execute nesting label invocation machine = some run →
    Stretch behaviour machine run.events run.machine

theorem Traced.callContract (traced : behaviour.Traced nesting) {frame : Frame Label Host}
    {answer : Run Label Host CallResult}
    (held : frame.before.catalog.get? frame.id = some frame.contract)
    (answered : Bridge.callContract (behaviour.execute nesting) frame = some answer) :
    Stretch behaviour frame.before answer.events answer.machine := by
  rcases Bridge.callContract_cases answered with
    ⟨result, refused, rfl⟩ | ⟨method, inner, admitted, ran, rfl⟩
  · exact .refused held refused ⟨nesting, answered⟩
  · exact .admitted held admitted ⟨nesting, answered⟩ (traced _ _ _ inner ran)

theorem Traced.call (traced : behaviour.Traced nesting) {target : Target} {request : Request}
    {machine : Machine Label Host} {run : Run Label Host (Option CallResult)}
    (answered : behaviour.call nesting target request machine = some run) :
    Stretch behaviour machine run.events run.machine := by
  rcases Bridge.call_inversion answered with
    rfl | ⟨builtin, _, rfl⟩ | ⟨id, contract, inner, _, held, called, rfl⟩
  · exact .empty machine
  · exact .noted _ machine
  · exact traced.callContract held called

theorem traced (behaviour : Behaviour Label Host) (nesting : Nat) : behaviour.Traced nesting := by
  induction nesting with
  | zero =>
    intro label invocation machine run ran
    contradiction
  | succ nesting ih =>
    intro label invocation machine run ran
    -- What an executor calls is answered by executors that nest one level less.
    exact Procedure.run_stretch (fun _ _ _ _ answered => ih.call answered) ran

theorem Answers.stretch {frame : Frame Label Host} {answer : Run Label Host CallResult}
    (answered : behaviour.Answers frame answer)
    (held : frame.before.catalog.get? frame.id = some frame.contract) :
    Stretch behaviour frame.before answer.events answer.machine := by
  obtain ⟨nesting, called⟩ := answered
  exact (behaviour.traced nesting).callContract held called

theorem call_stretch {target : Target} {request : Request} {machine : Machine Label Host}
    {run : Run Label Host (Option CallResult)}
    (answered : behaviour.call nesting target request machine = some run) :
    Stretch behaviour machine run.events run.machine :=
  (behaviour.traced nesting).call answered

theorem run_stretch {program : Procedure Label Host α} {start : Machine Label Host}
    {run : Run Label Host α} (ran : program.run (behaviour.call nesting) start = some run) :
    Stretch behaviour start run.events run.machine :=
  Procedure.run_stretch (fun _ _ _ _ answered => call_stretch answered) ran

end Behaviour

end

end PrecompileBridge
