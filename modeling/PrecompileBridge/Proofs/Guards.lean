import PrecompileBridge.Proofs.Nesting
import PrecompileBridge.Proofs.ReadOnly
import Mathlib.Combinatorics.Enumerative.DyckWord

/-!
Guards nest like brackets. A call that makes the machine read-only says so on entering and on leaving,
and what lies between is the work of that call, with the brackets of its own calls in it. Only a call
that asks for reading on a writable machine brackets anything, so where no executor sets the flag no
bracket stands inside another.
-/
namespace PrecompileBridge

variable {Label Host α : Type}

/-- Entering read-only mode opens a bracket, leaving it closes one. -/
def Notice.bracket? : Notice → Option DyckStep
  | enteredReadOnly => some .U
  | leftReadOnly => some .D
  | _ => none

def Event.bracket? (event : Event Label Host) : Option DyckStep := event.notice?.bind Notice.bracket?

def brackets (events : List (Event Label Host)) : List DyckStep := events.filterMap Event.bracket?

theorem brackets_append (early late : List (Event Label Host)) :
    brackets (early ++ late) = brackets early ++ brackets late :=
  List.filterMap_append

/-- Every prefix has at least as many enterings as leavings, and the whole has as many. -/
def Balanced (events : List (Event Label Host)) : Prop := ∃ word : DyckWord, word.toList = brackets events

def Quiet (events : List (Event Label Host)) : Prop := ∀ event ∈ events, event.bracket? = none

namespace Quiet

variable {early late : List (Event Label Host)}

theorem brackets_eq (quiet : Quiet early) : brackets early = [] := List.filterMap_eq_nil_iff.mpr quiet

theorem no_bracket (quiet : Quiet early) {event : Event Label Host} {step : DyckStep}
    (bracket : event.bracket? = some step) : event ∉ early := by
  intro member
  rw [quiet event member] at bracket
  contradiction

theorem only_bracket (before : Quiet early) (after : Quiet late) {only event : Event Label Host}
    {step : DyckStep} (bracket : event.bracket? = some step) {start : List (Event Label Host)}
    (part : start ++ [event] <+: early ++ only :: late) : event = only ∧ start = early := by
  rcases concat_prefix_append part with within | ⟨rest, rfl, beyond⟩
  · exact absurd (within.subset (by simp)) (before.no_bracket bracket)
  · cases rest with
    | nil => exact ⟨(List.cons_prefix_cons.mp beyond).1, List.append_nil early⟩
    | cons _ rest =>
      have later : rest ++ [event] <+: late := (List.cons_prefix_cons.mp beyond).2
      exact absurd (later.subset (by simp)) (after.no_bracket bracket)

theorem nil : Quiet ([] : List (Event Label Host)) := List.forall_mem_nil _

theorem singleton {event : Event Label Host} (silent : event.bracket? = none) : Quiet [event] :=
  List.forall_mem_singleton.mpr silent

theorem append (first : Quiet early) (second : Quiet late) : Quiet (early ++ late) :=
  List.forall_mem_append.mpr ⟨first, second⟩

theorem noted {notices : List Notice} (quiet : ∀ notice ∈ notices, notice.bracket? = none) :
    Quiet (notices.map .noted : List (Event Label Host)) := by
  intro event member
  obtain ⟨notice, among, rfl⟩ := List.mem_map.mp member
  exact quiet notice among

end Quiet

namespace Balanced

variable {early late : List (Event Label Host)}

theorem of_quiet (quiet : Quiet early) : Balanced early := ⟨0, quiet.brackets_eq.symm⟩

theorem append (first : Balanced early) (second : Balanced late) : Balanced (early ++ late) := by
  obtain ⟨left, same⟩ := first
  obtain ⟨right, equal⟩ := second
  refine ⟨left + right, ?_⟩
  rw [brackets_append, ← same, ← equal]
  rfl

theorem count_eq (balanced : Balanced early) :
    (brackets early).count .U = (brackets early).count .D := by
  obtain ⟨word, same⟩ := balanced
  exact same ▸ word.count_U_eq_count_D

end Balanced

/-- The answer to a call that made the machine read-only: paid for, entered, left and ended. -/
structure Frame.Guards (frame : Frame Label Host) (paid : Notice) (inside : List (Event Label Host))
    (answer : Run Label Host CallResult) : Prop where
  asked : frame.request.readOnly = true
  writable : frame.before.readOnly = false
  silent : paid.bracket? = none
  shape : answer.events = [.called frame, .noted paid, .noted .enteredReadOnly] ++
    (inside ++ [.noted .leftReadOnly, .answered frame answer.outcome answer.machine])

/-- Traces in which every bracket is that of an answer. -/
inductive Bracketed (answers : Frame Label Host → Run Label Host CallResult → Prop) :
    List (Event Label Host) → Prop
  | quiet {events : List (Event Label Host)} (silent : Quiet events) : Bracketed answers events
  | append {early late : List (Event Label Host)} (first : Bracketed answers early)
      (second : Bracketed answers late) : Bracketed answers (early ++ late)
  | guarded {frame : Frame Label Host} {paid : Notice} {inside : List (Event Label Host)}
      {answer : Run Label Host CallResult} (answered : answers frame answer)
      (guards : frame.Guards paid inside answer) (body : Bracketed answers inside) :
      Bracketed answers answer.events

/-- After `start`, a trace tells the whole of a call that made the machine read-only, and every bracket
that opens in between closes in between. -/
def GuardAt (answers : Frame Label Host → Run Label Host CallResult → Prop)
    (events start : List (Event Label Host)) (frame : Frame Label Host) (paid : Notice)
    (inside : List (Event Label Host)) : Prop :=
  ∃ answer, answers frame answer ∧ frame.Guards paid inside answer ∧ Balanced inside ∧
    start ++ answer.events <+: events

/-- The bracket right after `early` is the one that such a call opens, or the one that it closes. -/
def BracketAt (answers : Frame Label Host → Run Label Host CallResult → Prop)
    (events early : List (Event Label Host)) (step : DyckStep) : Prop :=
  ∃ start frame paid inside, GuardAt answers events start frame paid inside ∧
    (step = .U ∧ early = start ++ [.called frame, .noted paid] ∨
      step = .D ∧ early = start ++ [.called frame, .noted paid, .noted .enteredReadOnly] ++ inside)

theorem BracketAt.within {answers : Frame Label Host → Run Label Host CallResult → Prop}
    {events larger early : List (Event Label Host)} {step : DyckStep}
    (bracket : BracketAt answers events early step) (front : List (Event Label Host))
    (piece : front ++ events <+: larger) :
    BracketAt answers larger (front ++ early) step := by
  obtain ⟨start, frame, paid, inside, ⟨answer, answered, guards, level, told⟩, place⟩ := bracket
  have further : front ++ start ++ answer.events <+: larger := by
    rw [List.append_assoc]
    exact ((List.prefix_append_right_inj front).mpr told).trans piece
  refine ⟨front ++ start, frame, paid, inside, ⟨answer, answered, guards, level, further⟩, ?_⟩
  rcases place with ⟨opens, rfl⟩ | ⟨closes, rfl⟩
  · exact Or.inl ⟨opens, by simp only [List.append_assoc]⟩
  · exact Or.inr ⟨closes, by simp only [List.append_assoc]⟩

namespace Frame.Guards

variable {frame : Frame Label Host} {paid : Notice} {inside : List (Event Label Host)}
  {answer : Run Label Host CallResult}

theorem quiet_opening (guards : frame.Guards paid inside answer) :
    Quiet [.called frame, .noted paid] :=
  List.forall_mem_cons.mpr ⟨rfl, Quiet.singleton guards.silent⟩

theorem brackets_eq (guards : frame.Guards paid inside answer) :
    brackets answer.events = .U :: brackets inside ++ [.D] := by
  have opening : brackets [.called frame, .noted paid, .noted .enteredReadOnly] = [.U] := by
    have silent : brackets [.called frame, .noted paid] = [] := guards.quiet_opening.brackets_eq
    calc
      brackets _ = brackets [.called frame, .noted paid] ++ brackets [.noted .enteredReadOnly] :=
        brackets_append [_, _] [_]
      _ = [.U] := congrArg (· ++ _) silent
  rw [guards.shape, brackets_append, brackets_append, opening]
  rfl

theorem balanced (guards : frame.Guards paid inside answer) (body : Balanced inside) :
    Balanced answer.events := by
  obtain ⟨word, same⟩ := body
  refine ⟨word.nest, ?_⟩
  rw [guards.brackets_eq, ← same]
  rfl

end Frame.Guards

namespace Bracketed

variable {answers : Frame Label Host → Run Label Host CallResult → Prop}
  {events : List (Event Label Host)}

theorem balanced (bracketed : Bracketed answers events) : Balanced events := by
  induction bracketed with
  | quiet silent => exact .of_quiet silent
  | append first second early late => exact early.append late
  | guarded answered guards body inner => exact guards.balanced inner

theorem bracketAt (bracketed : Bracketed answers events) {early : List (Event Label Host)}
    {event : Event Label Host} {step : DyckStep} (bracket : event.bracket? = some step)
    (part : early ++ [event] <+: events) : BracketAt answers events early step := by
  induction bracketed generalizing early with
  | quiet silent => exact absurd (part.subset (by simp)) (silent.no_bracket bracket)
  | @append first second _ _ before after =>
    rcases concat_prefix_append part with within | ⟨rest, rfl, beyond⟩
    · exact (before within).within [] (List.prefix_append first second)
    · exact (after beyond).within first (List.prefix_refl _)
  | @guarded frame paid inside answer answered guards body inner =>
    have whole : GuardAt answers answer.events [] frame paid inside :=
      ⟨answer, answered, guards, body.balanced, List.prefix_refl _⟩
    have shape := guards.shape
    rw [shape] at part
    rcases concat_prefix_append part with opening | ⟨rest, rfl, beyond⟩
    · obtain ⟨rfl, rfl⟩ := guards.quiet_opening.only_bracket .nil bracket opening
      cases bracket
      exact ⟨[], frame, paid, inside, whole, Or.inl ⟨rfl, rfl⟩⟩
    · rcases concat_prefix_append beyond with within | ⟨rest, rfl, closing⟩
      · have piece : [.called frame, .noted paid, .noted .enteredReadOnly] ++ inside <+:
            answer.events := by
          rw [shape]
          exact (List.prefix_append_right_inj _).mpr (List.prefix_append _ _)
        exact (inner within).within _ piece
      · have after : Quiet [.answered frame answer.outcome answer.machine] := .singleton rfl
        obtain ⟨rfl, rfl⟩ := Quiet.nil.only_bracket after bracket closing
        cases bracket
        exact ⟨[], frame, paid, inside, whole, Or.inr ⟨rfl, by simp⟩⟩

theorem quiet_of_locked (bracketed : Bracketed answers events)
    (locked : ∀ frame, .called frame ∈ events → frame.before.readOnly = true) : Quiet events := by
  induction bracketed with
  | quiet silent => exact silent
  | append first second early late =>
    have before := early fun frame called => locked frame (List.mem_append_left _ called)
    have after := late fun frame called => locked frame (List.mem_append_right _ called)
    exact before.append after
  | @guarded frame paid inside answer answered guards body inner =>
    have called : .called frame ∈ answer.events := by simp [guards.shape]
    exact absurd ((locked frame called).symm.trans guards.writable) (by decide)

theorem one_open (bracketed : Bracketed answers events)
    (locked : ∀ frame paid inside answer, answers frame answer → frame.Guards paid inside answer →
      answer.events.filterMap Event.setting? = [] →
      ∀ other, .called other ∈ inside → other.before.readOnly = true)
    (spared : events.filterMap Event.setting? = []) {early : List (Event Label Host)}
    (part : early <+: events) : (brackets early).count .U ≤ (brackets early).count .D + 1 := by
  induction bracketed generalizing early with
  | quiet silent =>
    have none : Quiet early := fun event member => silent event (part.subset member)
    rw [none.brackets_eq]
    exact Nat.zero_le _
  | @append first second whole _ before after =>
    rw [List.filterMap_append, List.append_eq_nil_iff] at spared
    rcases List.prefix_or_prefix_of_prefix part (List.prefix_append first second) with
      within | ⟨rest, rfl⟩
    · exact before spared.1 within
    · -- The first part closes what it opens, so what is open was opened in the rest.
      have level := whole.balanced.count_eq
      have later := after spared.2 ((List.prefix_append_right_inj first).mp part)
      rw [brackets_append, List.count_append, List.count_append]
      omega
  | guarded answered guards body =>
    have quiet := body.quiet_of_locked (locked _ _ _ _ answered guards spared)
    have sublist : List.Sublist (brackets early) [.U, .D] := by
      have shorter := part.sublist.filterMap Event.bracket?
      rwa [← brackets, ← brackets, guards.brackets_eq, quiet.brackets_eq] at shorter
    have fewer : (brackets early).count .U ≤ 1 := sublist.count_le .U
    omega

end Bracketed

/-! Neither the registry nor a denylist reports a bracket. -/

theorem Registry.collect_quiet (registry : Registry) (catalog : Catalog Label)
    (custom : AddressMap ContractId) (ids : List ContractId) :
    ∀ notice ∈ (registry.collect catalog custom ids).2, notice.bracket? = none := by
  induction ids generalizing custom with
  | nil => simp [collect]
  | cons id rest ih =>
    cases held : catalog.get? id with
    | none =>
      simp only [collect, held]
      exact ih custom
    | some contract =>
      have here : ∀ notice ∈ registry.conflicts catalog custom contract, notice.bracket? = none := by
        unfold conflicts
        grind [Notice.bracket?]
      simp only [collect, held]
      exact List.forall_mem_append.mpr ⟨here, ih _⟩

theorem Denylist.applyAll_quiet (registry : Registry) (catalog : Catalog Label)
    (addresses : List Address) :
    ∀ notice ∈ (applyAll registry catalog addresses).notices, notice.bracket? = none := by
  induction addresses generalizing catalog with
  | nil => simp [applyAll]
  | cons address rest ih =>
    simp only [applyAll]
    split
    · exact List.forall_mem_cons.mpr ⟨rfl, ih _⟩
    · exact List.forall_mem_cons.mpr ⟨rfl, ih _⟩

theorem Effect.quiet (effect : Effect Label Host) (machine : Machine Label Host) :
    Quiet (effect.events machine) := by
  have silent : ∀ notice ∈ effect.notices machine, notice.bracket? = none := by
    cases effect with
    | install ids =>
      have collected := machine.registry.collect_quiet machine.catalog .empty ids
      exact List.forall_mem_append.mpr ⟨collected, by simp [Notice.bracket?]⟩
    | deny denylist => exact Denylist.applyAll_quiet machine.registry machine.catalog _
    | _ => simp [notices]
  exact List.forall_mem_cons.mpr ⟨rfl, Quiet.noted silent⟩

namespace Bracketed

variable {answers : Frame Label Host → Run Label Host CallResult → Prop}

theorem of_paid {frame : Frame Label Host} (cost : UInt64) {inside : List (Event Label Host)}
    {answer : Run Label Host CallResult} (answered : answers frame answer)
    (shape : answer.events = .called frame :: (frame.opening cost).map .noted ++ inside ++
      frame.coda answer.outcome answer.machine)
    (body : Bracketed answers inside) : Bracketed answers answer.events := by
  cases promoted : frame.promotes with
  | false =>
    have before : Quiet (.called frame :: (frame.opening cost).map .noted) := by
      simp [Quiet, Frame.opening, Frame.payment, promoted, Event.bracket?, Event.notice?,
        Notice.bracket?]
    have after : Quiet (frame.coda answer.outcome answer.machine) := by
      simp [Quiet, Frame.coda, Frame.closing, promoted, Event.bracket?, Event.notice?]
    rw [shape]
    exact ((Bracketed.quiet before).append body).append (.quiet after)
  | true =>
    obtain ⟨asked, writable⟩ := Frame.promotes_iff.mp promoted
    have guards : frame.Guards (frame.payment cost) inside answer := by
      refine ⟨asked, writable, rfl, ?_⟩
      rw [shape]
      simp [Frame.opening, Frame.coda, Frame.closing, promoted]
    exact .guarded answered guards body

theorem of_refused {frame : Frame Label Host} {result : CallResult}
    (answered : answers frame (frame.refused result)) :
    Bracketed answers (frame.refused result).events := by
  have unpaid (silent : ∀ notice ∈ frame.remarks frame.verdict, notice.bracket? = none) :
      Bracketed answers (frame.refused result).events := by
    have before : Quiet [.called frame] := .singleton rfl
    have after : Quiet [.answered frame (.returned result) frame.before] := .singleton rfl
    exact .quiet ((before.append (.noted silent)).append after)
  have paid {cost : UInt64} {notice : Notice} (silent : notice.bracket? = none)
      (remarked : frame.remarks frame.verdict = frame.opening cost ++ notice :: frame.closing) :
      Bracketed answers (frame.refused result).events := by
    have body : Quiet [(.noted notice : Event Label Host)] := .singleton silent
    refine .of_paid cost answered ?_ (.quiet body)
    simp [Frame.refused, remarked, Frame.coda]
  cases verdict : frame.verdict with
  | disabled | headless | shortOfGas cost | admitted method =>
    exact unpaid (by simp [Frame.remarks, verdict, Notice.bracket?])
  | unknown selector => exact paid rfl (by rw [verdict]; rfl)
  | forbidden method => exact paid rfl (by rw [verdict]; rfl)

end Bracketed

theorem Stretch.bracketed {behaviour : Behaviour Label Host} {before after : Machine Label Host}
    {events : List (Event Label Host)} (stretch : Stretch behaviour before events after) :
    Bracketed behaviour.Answers events := by
  induction stretch with
  | empty => exact .quiet .nil
  | acted effect machine => exact .quiet (effect.quiet machine)
  | resumed machine => exact .quiet (.singleton rfl)
  | noted result machine =>
    refine .quiet (.noted ?_)
    unfold Bridge.builtinNotices
    split <;> simp [Notice.bracket?]
  | append first second early late => exact early.append late
  | refused held refused answered => exact .of_refused answered
  | @admitted frame method inner held admitted answered body within =>
    have start : Quiet [.noted (.invoking frame.contract.name frame.request.caller method.selector
        frame.forbids frame.request.input.length), .entered ⟨frame, method, frame.start⟩] := by
      simp [Quiet, Event.bracket?, Event.notice?, Notice.bracket?]
    refine .of_paid method.gas answered ?_ ((Bracketed.quiet start).append within)
    simp [Frame.concluded, Frame.preamble]

theorem Stretch.called_locked {behaviour : Behaviour Label Host} {before after : Machine Label Host}
    {events : List (Event Label Host)} (stretch : Stretch behaviour before events after)
    (spared : events.filterMap Event.setting? = [])
    (locked : before.readOnly = true) :
    ∀ frame, .called frame ∈ events → frame.before.readOnly = true := by
  induction stretch with
  | empty | resumed | noted => simp
  | acted effect machine => simp [Effect.events]
  | @refused frame result =>
    intro other called
    obtain rfl : other = frame := by simpa [Frame.refused] using called
    exact locked
  | append first second early late =>
    rw [List.filterMap_append, List.append_eq_nil_iff] at spared
    have still := (first.readOnly_kept spared.1).trans locked
    intro frame called
    rcases List.mem_append.mp called with member | member
    · exact early spared.1 locked frame member
    · exact late spared.2 still frame member
  | @admitted frame method inner _ _ _ body within =>
    rw [Frame.concluded_settings] at spared
    have forbids : frame.forbids = true := Frame.forbids_iff.mpr (Or.inr locked)
    intro other called
    have place : other = frame ∨ .called other ∈ inner.events := by
      simpa [Frame.concluded, Frame.preamble, Frame.coda] using called
    rcases place with rfl | member
    · exact locked
    · exact within spared forbids other member

namespace Behaviour

section

variable {behaviour : Behaviour Label Host}

theorem Answers.locked_inside {frame : Frame Label Host} {paid : Notice}
    {inside : List (Event Label Host)} {answer : Run Label Host CallResult}
    (answered : behaviour.Answers frame answer) (guards : frame.Guards paid inside answer)
    (spared : answer.events.filterMap Event.setting? = []) :
    ∀ other, .called other ∈ inside → other.before.readOnly = true := by
  intro other called
  obtain ⟨nesting, ran⟩ := answered
  have later : .called other ∈ answer.events.tail := by simp [guards.shape, called]
  rcases Bridge.callContract_cases ran with
    ⟨result, refused, rfl⟩ | ⟨method, inner, admitted, executed, rfl⟩
  · simp [Frame.refused] at later
  · have member : .called other ∈ inner.events := by
      simpa [Frame.concluded, Frame.preamble, Frame.coda] using later
    rw [Frame.concluded_settings] at spared
    have forbids : frame.start.readOnly = true := Frame.forbids_iff.mpr (Or.inl guards.asked)
    have body := behaviour.traced nesting _ _ _ inner executed
    exact body.called_locked spared forbids other member

/-- The brackets that a call reports, from its entry to its return or panic, are balanced. Each opening
one and the closing one that matches it are those of one call, which asked for reading and found the
machine writable. If no executor sets the flag, one bracket is open at most. -/
theorem guards_balanced {nesting : Nat} {target : Target} {request : Request}
    {machine : Machine Label Host} {run : Run Label Host (Option CallResult)}
    (answered : behaviour.call nesting target request machine = some run) :
    Balanced run.events ∧
      (∀ early, early ++ [.noted .enteredReadOnly] <+: run.events →
        ∃ start frame paid inside, GuardAt behaviour.Answers run.events start frame paid inside ∧
          early = start ++ [.called frame, .noted paid]) ∧
      (∀ early, early ++ [.noted .leftReadOnly] <+: run.events →
        ∃ start frame paid inside, GuardAt behaviour.Answers run.events start frame paid inside ∧
          early = start ++ [.called frame, .noted paid, .noted .enteredReadOnly] ++ inside) ∧
      (run.events.filterMap Event.setting? = [] → ∀ early, early <+: run.events →
        (brackets early).count .U ≤ (brackets early).count .D + 1) := by
  have bracketed := (call_stretch answered).bracketed
  refine ⟨bracketed.balanced, ?_, ?_, ?_⟩
  · intro early part
    obtain ⟨start, frame, paid, inside, guard, ⟨_, place⟩ | ⟨other, _⟩⟩ :=
      bracketed.bracketAt rfl part
    · exact ⟨start, frame, paid, inside, guard, place⟩
    · contradiction
  · intro early part
    obtain ⟨start, frame, paid, inside, guard, ⟨other, _⟩ | ⟨_, place⟩⟩ :=
      bracketed.bracketAt rfl part
    · contradiction
    · exact ⟨start, frame, paid, inside, guard, place⟩
  · intro spared early part
    exact bracketed.one_open (fun _ _ _ _ => Answers.locked_inside) spared part

end

open Counter in
theorem guards_balanced_count :
    ∃ run, behaviour.call 2 (.address address) (count true) (machine 6 false) = some run ∧
      brackets run.events = [.U, .D] ∧ Balanced run.events ∧
      (∃ start frame paid inside, GuardAt behaviour.Answers run.events start frame paid inside ∧
        run.events.take 2 = start ++ [.called frame, .noted paid]) ∧
      (brackets (run.events.take 6)).count .U ≤ (brackets (run.events.take 6)).count .D + 1 := by
  have answered : behaviour.call 2 (.address address) (count true) (machine 6 false) = some _ := rfl
  obtain ⟨balanced, opening, _, alone⟩ := guards_balanced answered
  exact ⟨_, answered, rfl, balanced, opening _ ⟨_, rfl⟩, alone rfl _ (List.take_prefix 6 _)⟩

end Behaviour

end PrecompileBridge
