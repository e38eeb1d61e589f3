import CncMachine.Link.System

/-!
# Putting the pendant to sleep

Both exits from the manual mode clear the panel's flag and send the pendant one request with the
status off. The result of the transmission is not looked at, and from then on nothing is sent any
more: if the transfer is refused because the last poll is still under way, the pendant stays on.
In every run in which the requests of the exits are accepted the pendant sleeps whenever the panel
is out of the manual mode and nothing is under way.
-/

namespace Cnc

open Transition

namespace Pendant

/-- The pendant is off, and so is its MPG functionality. -/
def Asleep (p : Pendant) : Prop := p.status = false ∧ p.data.mpg = false

/-- The operator does not wake a sleeping pendant. -/
theorem Asleep.step {p : Pendant} (asleep : p.Asleep) {e : PendantEvent}
    (other : ∀ text, e ≠ .message text) : (p.step e).Asleep := by
  cases e with
  | turn w counts => exact asleep
  | settle channel state => exact asleep
  | inputs =>
      simp only [Pendant.step]
      rw [if_neg (by simp [asleep.1])]
      exact asleep
  | message text => exact absurd rfl (other text)

/-- The request of the exits puts the pendant to sleep. -/
theorem asleep_step_sleep (p : Pendant) (mpgStatus : MpgStatus) :
    (p.step (.message (requestBody false mpgStatus))).Asleep := by
  rw [step_requestBody]
  exact ⟨rfl, rfl⟩

end Pendant

namespace LinkEvent

def losesRequest : LinkEvent → Bool
  | .loseRequest => true
  | _ => false

/-- A transfer to the pendant would be refused. -/
def refuses : LinkEvent → Bool
  | .menu input => !input.accepted
  | .tim1 accepted => !accepted
  | _ => false

def menuInput : LinkEvent → Option MenuInput
  | .menu input => some input
  | _ => none

end LinkEvent

namespace Link

variable {η : Type} (note : Pendant → PendantEvent → η → η)

/-- Every request that has been accepted is delivered. -/
def Delivered (_ : Link η) (e : LinkEvent) : Prop := e.losesRequest = false

instance (l : Link η) (e : LinkEvent) : Decidable (Delivered l e) :=
  inferInstanceAs (Decidable (_ = _))

/-- A transfer is refused only while an earlier request is under way. -/
def RefusedBusy (l : Link η) (e : LinkEvent) : Prop :=
  e.refuses = true → l.panel.pendantLine ≠ []

instance (l : Link η) (e : LinkEvent) : Decidable (RefusedBusy l e) :=
  inferInstanceAs (Decidable (_ → _))

/-- The cycle leaves the manual mode with the pendant on. -/
def PutsToSleep (l : Link η) (input : MenuInput) : Prop :=
  l.panel.LeavesFirstLevel input ∧ (l.panel.enterCycle input).Sleeps

instance (l : Link η) (input : MenuInput) : Decidable (l.PutsToSleep input) :=
  inferInstanceAs (Decidable (_ ∧ _))

/-- The request of an exit is accepted. -/
def ExitAccepted (l : Link η) (e : LinkEvent) : Prop :=
  ∀ input ∈ e.menuInput, l.PutsToSleep input → input.accepted = true

instance (l : Link η) (e : LinkEvent) : Decidable (ExitAccepted l e) :=
  inferInstanceAs (Decidable (∀ _ ∈ _, _ → _))

/-- Out of the manual mode, with no request under way, the pendant sleeps. -/
def SleepsTogether (l : Link η) : Prop :=
  l.panel.menu.enteredManualMode = false → l.panel.pendantLine = [] → l.pendant.Asleep

/-- The pendant sleeps, or the last request on the line will put it to sleep. -/
def Resting (l : Link η) : Prop :=
  (l.panel.pendantLine = [] ∧ l.pendant.Asleep) ∨
    ∃ earlier, l.panel.pendantLine = earlier ++ [requestBody false .disabled]

/-- Out of the manual mode everything is at rest. -/
structure Rests (l : Link η) : Prop where
  gate : l.panel.Gate
  resting : l.panel.menu.enteredManualMode = false → l.Resting

variable {l : Link η}

theorem Rests.sleepsTogether (rests : l.Rests) : l.SleepsTogether := by
  intro outside empty
  obtain ⟨-, asleep⟩ | ⟨earlier, line⟩ := rests.resting outside
  · exact asleep
  · rw [empty] at line
    exact absurd line.symm (by simp)

/-- A step that leaves the line to the pendant and the pendant alone. -/
theorem Resting.of_eq {l' : Link η} (resting : l.Resting)
    (line : l'.panel.pendantLine = l.panel.pendantLine) (pendant : l'.pendant = l.pendant) :
    l'.Resting := by
  simp only [Resting, line, pendant]
  exact resting

section

variable (l)

/-- A cycle of the menu ends out of the manual mode in one of two ways: it was out before and
sends nothing, or it leaves with the pendant on. -/
theorem screenMenu_outside (input : MenuInput)
    (outside : (l.panel.screenMenu input).menu.enteredManualMode = false) :
    (l.panel.menu.enteredManualMode = false ∧
      (l.panel.screenMenu input).pendantLine = l.panel.pendantLine) ∨
    (l.PutsToSleep input ∧ (l.panel.screenMenu input).pendantLine = l.panel.pendantLine ++
      if input.accepted = true then [requestBody false .disabled] else []) := by
  obtain stays | ⟨leaves, eq⟩ | ⟨enters, manual, -, eq⟩ := l.panel.screenMenu_cases input
  · left
    constructor
    · rw [← stays.entered]
      exact outside
    · rw [stays.frame]
  · have left := (l.panel.enterCycle input).leaveFirstLevel_eq input
    have line : (l.panel.screenMenu input).pendantLine = l.panel.pendantLine ++
        if (l.panel.enterCycle input).Sleeps ∧ input.accepted = true then
          [requestBody false .disabled] else [] := by
      rw [eq, left]
      rfl
    have entered : (l.panel.screenMenu input).menu.enteredManualMode =
        (l.panel.menu.enteredManualMode && !decide (l.panel.enterCycle input).Sleeps) := by
      rw [eq, left]
      rfl
    rw [entered] at outside
    by_cases sleeps : (l.panel.enterCycle input).Sleeps
    · right
      refine ⟨⟨leaves, sleeps⟩, ?_⟩
      rw [line]
      simp only [sleeps, true_and]
    · left
      constructor
      · simpa only [sleeps, decide_false, Bool.not_false, Bool.and_true] using outside
      · rw [line, if_neg fun both => sleeps both.1, List.append_nil]
  · obtain ⟨menu, _, _, place, -, cycle⟩ := (l.panel.enterCycle input).manualMode_eq input
    rw [eq, cycle] at outside
    exact absurd (place.entered.symm.trans outside) (by simp [Panel.enterManual])

end

/-- The pendant's own events keep a link at rest, its messages apart. -/
theorem Resting.pendantStep (resting : l.Resting) {e : PendantEvent}
    (other : ∀ text, e ≠ .message text) : (l.pendantStep note e).Resting := by
  obtain ⟨empty, asleep⟩ | line := resting
  · exact .inl ⟨empty, asleep.step other⟩
  · exact .inr line

/-- Handling a request keeps a link at rest: the last one puts the pendant to sleep. -/
theorem Resting.request {text : List Char} {rest : List (List Char)} (resting : l.Resting)
    (line : l.panel.pendantLine = text :: rest) :
    ({ l with panel.pendantLine := rest }.pendantStep note (.message text)).Resting := by
  obtain ⟨empty, -⟩ | ⟨earlier, split⟩ := resting
  · rw [line] at empty
    cases empty
  · rw [line] at split
    cases earlier with
    | nil =>
        obtain ⟨rfl, rfl⟩ := List.cons.inj split
        exact .inl ⟨rfl, l.pendant.asleep_step_sleep .disabled⟩
    | cons first earlier =>
        obtain ⟨-, rfl⟩ := List.cons.inj split
        exact .inr ⟨earlier, rfl⟩

theorem Rests.step {e : LinkEvent} (rests : l.Rests) (delivered : Delivered l e)
    (accepted : ExitAccepted l e) : (l.step note e).Rests := by
  obtain ⟨gate, resting⟩ := rests
  simp only [Link.step]
  cases e with
  | menu input =>
      refine ⟨gate.step (.menu input), ?_⟩
      intro outside
      obtain ⟨before, line⟩ | ⟨puts, line⟩ := l.screenMenu_outside input outside
      · exact (resting before).of_eq line rfl
      · rw [if_pos (accepted input rfl puts)] at line
        exact .inr ⟨_, line⟩
  | tim1 ok =>
      refine ⟨gate.step (.tim1 ok), ?_⟩
      intro outside
      obtain ⟨menu, _, _, place, -, -, eq⟩ := l.panel.tim1_eq ok
      have before : l.panel.menu.enteredManualMode = false := by
        rw [← place.entered]
        simpa [Panel.step, eq] using outside
      exact (resting before).of_eq (Panel.tim1_pendantLine_of_asleep before ok) rfl
  | grbl chunk => exact ⟨gate.step (.grbl chunk), fun outside => (resting outside).of_eq rfl rfl⟩
  | reply tx =>
      dsimp only
      split
      next => exact ⟨gate, resting⟩
      next data stamp rest line =>
        refine ⟨gate.step (.frame data.toPendantData tx), ?_⟩
        intro outside
        obtain ⟨_, _, _, -, eq⟩ := l.panel.uart4Callback_eq tx data.toPendantData
        have same : (l.panel.step (.frame data.toPendantData tx)).menu = l.panel.menu ∧
            (l.panel.step (.frame data.toPendantData tx)).pendantLine = l.panel.pendantLine := by
          rw [Panel.step, eq]
          exact ⟨rfl, rfl⟩
        dsimp only at outside
        rw [same.1] at outside
        exact (resting outside).of_eq same.2 rfl
  | loseReply => exact ⟨gate, fun outside => (resting outside).of_eq rfl rfl⟩
  | request =>
      dsimp only
      split
      next => exact ⟨gate, resting⟩
      next text rest line =>
        refine ⟨gate.of_samePlace ⟨rfl, rfl, rfl⟩ rfl, ?_⟩
        intro outside
        exact (resting outside).request note line
  | loseRequest => cases delivered
  | turn w counts => exact ⟨gate, fun outside => (resting outside).pendantStep note (by simp)⟩
  | settle channel state =>
      exact ⟨gate, fun outside => (resting outside).pendantStep note (by simp)⟩
  | inputs => exact ⟨gate, fun outside => (resting outside).pendantStep note (by simp)⟩

/-- In every run that delivers the requests and accepts those of the exits, the pendant sleeps
whenever the panel is out of the manual mode and no request is under way. -/
theorem sleeps_together (startup : Startup) (history : η) (es : List LinkEvent)
    (delivered : Always (Link.step note) Delivered (initial startup history) es)
    (accepted : Always (Link.step note) ExitAccepted (initial startup history) es) :
    (run (Link.step note) (initial startup history) es).SleepsTogether := by
  have keeps : Preserves (Link.step note) (fun l e => Delivered l e ∧ ExitAccepted l e) Rests :=
    fun _ _ rests ok => rests.step note ok.1 ok.2
  have start : (initial startup history).Rests :=
    ⟨Panel.gate_initial startup, fun _ => .inl ⟨rfl, rfl, rfl⟩⟩
  exact (keeps.run start (delivered.and accepted)).sleepsTogether

/-- A session of which the last poll is still under way. -/
def pollUnderWay : List LinkEvent := beginSession ++ List.replicate 10 (.tim1 true)

/-- BACK is pressed; the request of the exit is refused or not. -/
def leaveByBack (accepted : Bool) : List LinkEvent :=
  [.menu { Panel.backPressed with accepted := accepted }, .request, .request]

/-- Nothing is noted. -/
def noNote : Pendant → PendantEvent → Unit → Unit := fun _ _ _ => ()

set_option maxRecDepth 8000 in
theorem sleeps_together_leaveByBack :
    (run (Link.step noNote) (initial {} ()) (pollUnderWay ++ leaveByBack true)).SleepsTogether :=
  sleeps_together noNote {} () _ (by decide) (by decide)

set_option maxRecDepth 8000 in
/-- The refused request is never sent again: the pendant stays on, with its MPG functionality. -/
theorem not_sleepsTogether_leaveByBack :
    Always (Link.step noNote) Delivered (initial {} ()) (pollUnderWay ++ leaveByBack false) ∧
    Always (Link.step noNote) RefusedBusy (initial {} ()) (pollUnderWay ++ leaveByBack false) ∧
    ¬ (run (Link.step noNote) (initial {} ())
      (pollUnderWay ++ leaveByBack false)).SleepsTogether := by
  refine ⟨by decide, by decide, ?_⟩
  intro together
  have asleep := together (by decide) (by decide)
  exact absurd asleep.1 (by decide)

end Link

end Cnc
