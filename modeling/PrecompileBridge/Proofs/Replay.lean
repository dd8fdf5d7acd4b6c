import PrecompileBridge.Proofs.Stretch

/-!
The machine at every point of a run. A trace can be replayed: effects change the machine, and the
events that show a machine say what it is. What they show agrees with what came before them, up to the
read-only flag, which guards change as well. So what every effect keeps, and what does not depend on
the flag, holds at every point of a run.
-/
namespace PrecompileBridge

variable {Label Host α : Type}

namespace Event

def replay (machine : Machine Label Host) : Event Label Host → Machine Label Host
  | performed effect => effect.apply machine
  | called frame => frame.before
  | entered entry => entry.start
  | answered _ _ after => after
  | resumed back => back
  | noted _ => machine

/-- What an event shows is true of the machine on which it happens. -/
def Fits (machine : Machine Label Host) : Event Label Host → Prop
  | called frame =>
    frame.before = machine ∧ machine.catalog.get? frame.id = some frame.contract
  | entered entry => entry.start = { machine with readOnly := entry.start.readOnly }
  | answered _ _ after => after = { machine with readOnly := after.readOnly }
  | resumed back => back = machine
  | _ => True

theorem Fits.replay_eq {event : Event Label Host} {machine : Machine Label Host}
    (fits : event.Fits machine) :
    (∃ effect, event = performed effect) ∨
      event.replay machine = { machine with readOnly := (event.replay machine).readOnly } := by
  cases event with
  | performed effect => exact Or.inl ⟨effect, rfl⟩
  | called frame =>
    have shown : frame.before = machine := fits.1
    exact Or.inr (by rw [← shown]; rfl)
  | entered entry => exact Or.inr fits
  | answered frame outcome after => exact Or.inr fits
  | resumed back =>
    have shown : back = machine := fits
    exact Or.inr (by rw [← shown]; rfl)
  | noted notice => exact Or.inr rfl

end Event

def replay (machine : Machine Label Host) (events : List (Event Label Host)) : Machine Label Host :=
  events.foldl Event.replay machine

@[simp] theorem replay_nil (machine : Machine Label Host) : replay machine [] = machine := rfl

@[simp] theorem replay_cons (machine : Machine Label Host) (event : Event Label Host)
    (rest : List (Event Label Host)) :
    replay machine (event :: rest) = replay (event.replay machine) rest := rfl

@[simp] theorem replay_append (machine : Machine Label Host)
    (early late : List (Event Label Host)) :
    replay machine (early ++ late) = replay (replay machine early) late :=
  List.foldl_append

/-- Every event of a trace fits the machine that the events before it leave. -/
def Coherent : Machine Label Host → List (Event Label Host) → Prop
  | _, [] => True
  | machine, event :: rest => event.Fits machine ∧ Coherent (event.replay machine) rest

theorem coherent_append {machine : Machine Label Host} {early late : List (Event Label Host)} :
    Coherent machine (early ++ late) ↔
      Coherent machine early ∧ Coherent (replay machine early) late := by
  induction early generalizing machine with
  | nil => simp [Coherent]
  | cons event rest ih => simp only [List.cons_append, Coherent, ih, replay_cons, and_assoc]

theorem Coherent.of_part {machine : Machine Label Host} {early events : List (Event Label Host)}
    (coherent : Coherent machine events) (part : early <+: events) : Coherent machine early := by
  obtain ⟨late, split⟩ := part
  rw [← split] at coherent
  exact (coherent_append.mp coherent).1

/-- What every effect keeps, and what does not depend on the flag, a trace keeps. -/
theorem Coherent.keeps (kept : Machine Label Host → Prop)
    (acts : ∀ (effect : Effect Label Host) machine, kept machine → kept (effect.apply machine))
    (flags : ∀ machine readOnly, kept machine → kept { machine with readOnly })
    {machine : Machine Label Host} {events : List (Event Label Host)}
    (coherent : Coherent machine events) (holds : kept machine) : kept (replay machine events) := by
  induction events generalizing machine with
  | nil => exact holds
  | cons event rest ih =>
    -- What is no effect can differ from its machine in the flag, and nowhere else.
    have next : kept (event.replay machine) := by
      rcases coherent.1.replay_eq with ⟨effect, same⟩ | same
      · subst same
        exact acts effect machine holds
      · rw [same]
        exact flags machine _ holds
    exact ih coherent.2 next

def Replays (before : Machine Label Host) (events : List (Event Label Host))
    (after : Machine Label Host) : Prop :=
  Coherent before events ∧ replay before events = after

namespace Replays

theorem append {before middle after : Machine Label Host} {early late : List (Event Label Host)}
    (first : Replays before early middle) (second : Replays middle late after) :
    Replays before (early ++ late) after := by
  obtain ⟨fits, leads⟩ := first
  obtain ⟨later, ends⟩ := second
  refine ⟨coherent_append.mpr ⟨fits, leads.symm ▸ later⟩, ?_⟩
  rw [replay_append, leads, ends]

theorem cons {machine after : Machine Label Host} {event : Event Label Host}
    {rest : List (Event Label Host)} (fits : event.Fits machine)
    (later : Replays (event.replay machine) rest after) : Replays machine (event :: rest) after :=
  ⟨⟨fits, later.1⟩, later.2⟩

theorem nil (machine : Machine Label Host) : Replays machine [] machine := ⟨trivial, rfl⟩

theorem noted (machine : Machine Label Host) (notices : List Notice) :
    Replays machine (notices.map .noted) machine := by
  induction notices with
  | nil => exact nil machine
  | cons notice rest ih => exact cons trivial ih

theorem acted (effect : Effect Label Host) (machine : Machine Label Host) :
    Replays machine (effect.events machine) (effect.apply machine) :=
  cons trivial (noted (effect.apply machine) (effect.notices machine))

theorem called {frame : Frame Label Host}
    (held : frame.before.catalog.get? frame.id = some frame.contract) :
    Replays frame.before [.called frame] frame.before :=
  cons ⟨rfl, held⟩ (nil frame.before)

theorem answered (frame : Frame Label Host) (outcome : Outcome CallResult) (left : Machine Label Host) :
    Replays left [.answered frame outcome (frame.handBack left)] (frame.handBack left) := by
  have shown : frame.handBack left = { left with readOnly := (frame.handBack left).readOnly } := by
    unfold Frame.handBack
    split <;> rfl
  exact cons shown (nil (frame.handBack left))

theorem preamble {frame : Frame Label Host} (method : Method Label)
    (held : frame.before.catalog.get? frame.id = some frame.contract) :
    Replays frame.before (frame.preamble method) frame.start := by
  have entered : Replays frame.before [.entered ⟨frame, method, frame.start⟩] frame.start :=
    cons rfl (nil frame.start)
  exact ((called held).append (noted _ (frame.opening method.gas))).append (cons trivial entered)

theorem coda (frame : Frame Label Host) (outcome : Outcome CallResult) (left : Machine Label Host) :
    Replays left (frame.coda outcome (frame.handBack left)) (frame.handBack left) :=
  (noted left frame.closing).append (answered frame outcome left)

theorem refused {frame : Frame Label Host} (result : CallResult)
    (held : frame.before.catalog.get? frame.id = some frame.contract) :
    Replays frame.before (frame.refused result).events frame.before := by
  have answered : Replays frame.before [.answered frame (.returned result) frame.before]
      frame.before := cons rfl (nil frame.before)
  exact ((called held).append (noted _ (frame.remarks frame.verdict))).append answered

end Replays

theorem Stretch.replays {behaviour : Behaviour Label Host} {before after : Machine Label Host}
    {events : List (Event Label Host)} (stretch : Stretch behaviour before events after) :
    Replays before events after := by
  induction stretch with
  | empty machine => exact .nil machine
  | append first second early late => exact early.append late
  | acted effect machine => exact .acted effect machine
  | resumed machine => exact .cons rfl (.nil machine)
  | noted result machine => exact .noted machine _
  | refused held => exact .refused _ held
  | @admitted frame method inner held _ _ body within =>
    exact ((Replays.preamble method held).append within).append (.coda frame _ inner.machine)

theorem Behaviour.run_replays {behaviour : Behaviour Label Host} {nesting : Nat}
    {program : Procedure Label Host α} {start : Machine Label Host} {run : Run Label Host α}
    (ran : program.run (behaviour.call nesting) start = some run) :
    Replays start run.events run.machine :=
  (run_stretch ran).replays

end PrecompileBridge
