import PrecompileBridge.Proofs.Replay

/-!
Calls within runs. Wherever a trace tells of the entry to a call, it goes on to tell the whole call,
and what it tells is the answer that the bridge gives on the machine of that point. So what is proved
of one call holds of every call in a run, however deep it is nested.
-/
namespace PrecompileBridge

variable {Label Host α : Type}

/-- What ends with an event inside two lists ends in the first of them, or goes through it. -/
theorem concat_prefix_append {early first second : List α} {event : α}
    (part : early ++ [event] <+: first ++ second) :
    early ++ [event] <+: first ∨ ∃ rest, early = first ++ rest ∧ rest ++ [event] <+: second := by
  rcases List.prefix_or_prefix_of_prefix part (List.prefix_append first second) with
    within | beyond
  · exact Or.inl within
  · rcases List.prefix_concat_iff.mp beyond with same | ⟨rest, same⟩
    · exact Or.inl (same ▸ List.prefix_refl _)
    · subst same
      rw [List.append_assoc] at part
      exact Or.inr ⟨rest, rfl, (List.prefix_append_right_inj first).mp part⟩

/-- Every call that a trace enters it tells in one piece, as it was answered. -/
def Told (answers : Frame Label Host → Run Label Host CallResult → Prop)
    (events : List (Event Label Host)) : Prop :=
  ∀ early frame, early ++ [.called frame] <+: events →
    ∃ answer, answers frame answer ∧ early ++ answer.events <+: events

namespace Told

variable {answers : Frame Label Host → Run Label Host CallResult → Prop}
  {first second : List (Event Label Host)}

theorem of_no_call (silent : ∀ frame, .called frame ∉ first) : Told answers first := by
  intro early frame part
  exact absurd (part.subset (by simp)) (silent frame)

theorem append (start : Told answers first) (rest : Told answers second) :
    Told answers (first ++ second) := by
  intro early frame part
  rcases concat_prefix_append part with within | ⟨late, rfl, beyond⟩
  · obtain ⟨answer, answered, told⟩ := start early frame within
    exact ⟨answer, answered, told.trans (List.prefix_append first second)⟩
  · obtain ⟨answer, answered, told⟩ := rest late frame beyond
    refine ⟨answer, answered, ?_⟩
    rw [List.append_assoc]
    exact (List.prefix_append_right_inj first).mpr told

theorem noted (notices : List Notice) : Told answers (notices.map .noted) :=
  of_no_call (by simp)

theorem call {frame : Frame Label Host} {answer : Run Label Host CallResult}
    {inside : List (Event Label Host)} (answered : answers frame answer)
    (shape : answer.events = .called frame :: inside) (told : Told answers inside) :
    Told answers answer.events := by
  intro early other part
  rw [shape] at part
  cases early with
  | nil =>
    obtain ⟨same, _⟩ := List.cons_prefix_cons.mp part
    cases same
    exact ⟨answer, answered, List.prefix_refl _⟩
  | cons event early =>
    obtain ⟨rfl, within⟩ := List.cons_prefix_cons.mp part
    obtain ⟨nested, ended, piece⟩ := told early other within
    rw [shape]
    exact ⟨nested, ended, List.cons_prefix_cons.mpr ⟨rfl, piece⟩⟩

theorem within (told : Told answers first) {start : Machine Label Host}
    (coherent : Coherent start first) {early : List (Event Label Host)} {frame : Frame Label Host}
    (called : early ++ [.called frame] <+: first) :
    replay start early = frame.before ∧
      frame.before.catalog.get? frame.id = some frame.contract ∧
      ∃ answer, answers frame answer ∧ early ++ answer.events <+: first := by
  obtain ⟨_, ⟨same, held⟩, _⟩ := coherent_append.mp (coherent.of_part called)
  exact ⟨same.symm, same ▸ held, told early frame called⟩

end Told

theorem Stretch.told {behaviour : Behaviour Label Host} {before after : Machine Label Host}
    {events : List (Event Label Host)} (stretch : Stretch behaviour before events after) :
    Told behaviour.Answers events := by
  induction stretch with
  | empty | resumed => exact .of_no_call (by simp)
  | acted effect machine => exact .of_no_call (by simp [Effect.events])
  | noted result machine => exact .noted _
  | append first second early late => exact early.append late
  | refused held refused answered =>
    exact .call answered rfl (.append (.noted _) (.of_no_call (by simp)))
  | @admitted frame method inner held admitted answered body within =>
    -- The events around the executor enter no call but the one that they belong to.
    have opening : Told behaviour.Answers [.noted (.invoking frame.contract.name
        frame.request.caller method.selector frame.forbids frame.request.input.length),
        .entered ⟨frame, method, frame.start⟩] := .of_no_call (by simp)
    have closing : Told behaviour.Answers (frame.coda
        (inner.outcome.map (method.reply frame.request.gas)) (frame.handBack inner.machine)) :=
      .append (.noted frame.closing) (.of_no_call (by simp))
    exact .call answered rfl (.append (.append (.append (.noted _) opening) within) closing)

/-- Every executor that a trace starts runs within a piece that answers the call to it. -/
def Rooted (answers : Frame Label Host → Run Label Host CallResult → Prop)
    (events : List (Event Label Host)) : Prop :=
  ∀ entry, .entered entry ∈ events → ∃ early answer, answers entry.frame answer ∧
    .entered entry ∈ answer.events ∧ early ++ answer.events <+: events

namespace Rooted

variable {answers : Frame Label Host → Run Label Host CallResult → Prop}
  {first second : List (Event Label Host)}

theorem of_no_entry (silent : ∀ entry, .entered entry ∉ first) : Rooted answers first :=
  fun entry entered => absurd entered (silent entry)

theorem append (start : Rooted answers first) (rest : Rooted answers second) :
    Rooted answers (first ++ second) := by
  intro entry entered
  rcases List.mem_append.mp entered with here | later
  · obtain ⟨early, answer, answered, within, piece⟩ := start entry here
    exact ⟨early, answer, answered, within, piece.trans (List.prefix_append first second)⟩
  · obtain ⟨early, answer, answered, within, piece⟩ := rest entry later
    refine ⟨first ++ early, answer, answered, within, ?_⟩
    rw [List.append_assoc]
    exact (List.prefix_append_right_inj first).mpr piece

theorem call {frame : Frame Label Host} {method : Method Label}
    {inner : Run Label Host (Except CallFailure Bytes)}
    (answered : answers frame (frame.concluded method inner)) (body : Rooted answers inner.events) :
    Rooted answers (frame.concluded method inner).events := by
  intro entry entered
  rcases List.mem_append.mp entered with ahead | closing
  · rcases List.mem_append.mp ahead with opening | inside
    · -- This call starts one executor itself, that of its own frame.
      obtain rfl : entry = ⟨frame, method, frame.start⟩ := by
        simpa [Frame.preamble] using opening
      exact ⟨[], _, answered, entered, List.prefix_refl _⟩
    · obtain ⟨early, nested, ended, within, piece⟩ := body entry inside
      refine ⟨frame.preamble method ++ early, nested, ended, within, ?_⟩
      rw [List.append_assoc, Frame.concluded, List.append_assoc]
      exact (List.prefix_append_right_inj _).mpr (piece.trans (List.prefix_append _ _))
  · simp [Frame.coda] at closing

end Rooted

theorem Stretch.rooted {behaviour : Behaviour Label Host} {before after : Machine Label Host}
    {events : List (Event Label Host)} (stretch : Stretch behaviour before events after) :
    Rooted behaviour.Answers events := by
  induction stretch with
  | empty | resumed | noted => exact .of_no_entry (by simp)
  | acted effect machine => exact .of_no_entry (by simp [Effect.events])
  | append first second early late => exact early.append late
  | refused held refused answered => exact .of_no_entry (by simp [Frame.refused])
  | admitted held admitted answered body within => exact .call answered within

end PrecompileBridge
