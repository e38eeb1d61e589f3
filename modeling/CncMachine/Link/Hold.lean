import CncMachine.Link.System

/-!
# Releasing a feed hold

`system_status` remembers the last of the buttons HOLD and CYCLE START that was read as pressed, and
every frame carries it. The panel compares it with the machine state: a `CMD_CYCLE_START` is sent
for a remembered CYCLE START whenever the machine is reported in another state than idle, run or
jog, however long ago the button was pressed.
-/

namespace Cnc

open Transition

/-- The two buttons that set `system_status`. -/
inductive StatusButton where
  | hold
  | cycleStart
deriving DecidableEq, Repr

/-- `system_status` after the last press. -/
def statusAfter : Option StatusButton → BitVec 8
  | none => GrblState.unknown.code
  | some .hold => GrblState.hold.code
  | some .cycleStart => GrblState.idle.code

namespace Pendant

/-- The status button that `process_inputs` reads as pressed; HOLD goes first. -/
def readButton (p : Pendant) : PendantEvent → Option StatusButton
  | .inputs =>
      if p.status = true ∧ p.buttonStatus = .enabled then
        if p.pressed .holdBut then some .hold
        else if p.pressed .cycleStartBut then some .cycleStart
        else none
      else none
  | _ => none

theorem step_systemStatus (p : Pendant) (e : PendantEvent) :
    (p.step e).data.systemStatus =
      (p.readButton e).elim p.data.systemStatus fun button => statusAfter (some button) := by
  cases e with
  | inputs =>
      rw [step, readButton]
      by_cases on : p.status = true
      · rw [if_pos on, p.processInputs_processed.systemStatus]
        by_cases enabled : p.buttonStatus = .enabled
        · rw [if_pos enabled, if_pos ⟨on, enabled⟩, buttonsSystemStatus, statusButtons]
          cases p.pressed .holdBut <;> cases p.pressed .cycleStartBut <;> rfl
        · rw [if_neg enabled, if_neg fun both => enabled both.2]
          rfl
      · rw [if_neg on, if_neg fun both => on both.1]
        rfl
  | message text =>
      obtain same | ⟨status, mpgStatus, taken⟩ := p.step_message text
      · rw [same]
        rfl
      · obtain ⟨_, _, _, eq⟩ := p.takeStatus_eq status mpgStatus
        rw [taken, eq]
        rfl
  | turn w counts => rfl
  | settle channel state => rfl

end Pendant

/-- The last status button that was read as pressed. -/
abbrev Presses := Option StatusButton

namespace Presses

def note (p : Pendant) (e : PendantEvent) (h : Presses) : Presses := (p.readButton e).or h

def Own (p : Pendant) (h : Presses) : Prop := p.data.systemStatus = statusAfter h

def Told (_ : Presses) (frame : PendantData) (stamp : Presses) : Prop :=
  frame.systemStatus = statusAfter stamp

theorem Own.note {p : Pendant} {h : Presses} (own : Own p h) (e : PendantEvent) :
    Own (p.step e) (note p e h) := by
  simp only [Own] at own ⊢
  rw [Pendant.step_systemStatus, Presses.note]
  cases p.readButton e with
  | none => exact own
  | some button => rfl

end Presses

namespace Link

theorem presses_step (l : Link Presses) (e : LinkEvent)
    (truthful : Truthful Presses.Own Presses.Told l) :
    Truthful Presses.Own Presses.Told (l.step Presses.note e) :=
  truthful.step Presses.note (fun _ _ own => own) (fun event _ => truthful.own.note event)
    fun _ _ x member => truthful.replies x member

/-- In every run `CMD_CYCLE_START` is sent only for a frame at whose sending CYCLE START was the
last status button read as pressed, and only while the machine is known to be neither idle nor
running nor jogging. -/
theorem cycle_start_remembered (startup : Startup) (es : List LinkEvent) :
    Always (step Presses.note)
      (fun l e => ∀ event ∈ l.panelEvent e, ∀ x ∈ l.arriving e,
        Packet.cycleStart ∈ l.panel.sentBy event →
          x.2 = some .cycleStart ∧ l.panel.grblData.state ≠ .idle ∧
            l.panel.grblData.state ≠ .run ∧ l.panel.grblData.state ≠ .jog)
      (initial startup none) es := by
  have start : Truthful Presses.Own Presses.Told (initial startup (none : Presses)) :=
    ⟨rfl, nofun⟩
  refine Preserves.always (C := fun _ _ => True)
    (fun l e truthful _ => presses_step l e truthful) ?_ start (always_true _ es)
  intro l e truthful _ event handled x arrives sent
  obtain ⟨tx, rfl, data, frame, member⟩ := arriving_frame handled arrives
  obtain ⟨-, packet⟩ := Panel.mem_sentBy_frame tx x.1 l.panel sent (by decide)
  have told : x.1.systemStatus = statusAfter x.2 := by
    rw [← frame]
    exact truthful.replies _ member
  rcases Panel.mem_pendantDataToAction packet with ⟨_, _, _, _, eq⟩ | ⟨eq, -⟩ | ⟨eq, -⟩ | ⟨eq, -⟩ |
    ⟨-, status, states⟩ | ⟨eq, -⟩
  · cases eq
  · cases eq
  · cases eq
  · cases eq
  · have code : statusAfter x.2 = GrblState.idle.code := told.symm.trans status
    refine ⟨?_, states⟩
    revert code
    obtain _ | _ | _ := x.2 <;> decide
  · cases eq

/-- CYCLE START is pressed and released while the machine is idle, and the machine runs. -/
def pressCycleStart : List LinkEvent :=
  beginSession ++ [.settle .cycleStartBut .reset, .inputs, .settle .cycleStartBut .set, .inputs] ++
    poll ++ [.grbl "<Run|FS:500,0>\r\n".toList] ++ poll

/-- The controller goes into a feed hold by itself. -/
def holdReport : LinkEvent := .grbl "<Hold:0|FS:0,0>\r\n".toList

set_option maxRecDepth 8000 in
/-- The machine leaves the states idle, run and jog for a feed hold; no button is pressed any more,
and the next frame resumes it. -/
theorem cycle_start_without_press :
    let l := run (step Presses.note) (initial {} none) pressCycleStart
    l.panel.grblData.state = .run ∧
      (l.step Presses.note holdReport).panel.grblData.state = .hold ∧
      Always (step Presses.note)
        (fun l e => ∀ event ∈ l.pendantEvent e, l.pendant.readButton event = none) l
        (holdReport :: poll) ∧
      ¬ Always (step Presses.note)
        (fun l e => ∀ event ∈ l.panelEvent e, Packet.cycleStart ∉ l.panel.sentBy event) l
        (holdReport :: poll) := by
  decide

end Link

end Cnc
