import CncMachine.Link.System

/-!
# Spindle starts and sessions

The pendant keeps the last spindle mode it has read when its MPG functionality is switched off, and
sends it in the first frames of the next session, before it reads the switch again. The panel acts
on such a frame in the very callback in which it becomes enabled. So a spindle start belongs to the
current session only if every session ends with the mode read as `OFF`.
-/

namespace Cnc

open Transition

namespace Pendant

/-- The event switches the pendant's MPG functionality off. -/
def SwitchesOff (p : Pendant) (e : PendantEvent) : Prop :=
  p.mpgStatus ≠ .disabled ∧ (p.step e).mpgStatus = .disabled

instance (p : Pendant) (e : PendantEvent) : Decidable (p.SwitchesOff e) :=
  inferInstanceAs (Decidable (_ ∧ _))

/-- The event makes `process_inputs` read the spindle switch. -/
def ReadsSpindle (p : Pendant) : PendantEvent → Prop
  | .inputs => p.status = true ∧ p.buttonStatus = .enabled
  | _ => False

instance (p : Pendant) : (e : PendantEvent) → Decidable (p.ReadsSpindle e)
  | .inputs => inferInstanceAs (Decidable (_ ∧ _))
  | .turn _ _ | .settle _ _ | .message _ => inferInstanceAs (Decidable False)

/-- The spindle mode changes only when the switch is read. -/
theorem step_spindleMode {p : Pendant} {e : PendantEvent} (unread : ¬ p.ReadsSpindle e) :
    (p.step e).data.spindleMode = p.data.spindleMode := by
  cases e with
  | inputs =>
      rw [step]
      split
      next on =>
        rw [p.processInputs_processed.spindleMode, if_neg fun enabled => unread ⟨on, enabled⟩]
      next => rfl
  | message text =>
      obtain same | ⟨status, mpgStatus, taken⟩ := p.step_message text
      · rw [same]
      · obtain ⟨_, _, _, eq⟩ := p.takeStatus_eq status mpgStatus
        rw [taken, eq]
  | turn w counts => rfl
  | settle channel state => rfl

end Pendant

/-- Sessions are counted by their ends; `sampled` is the session in which the spindle switch was
last read. -/
structure Sampling where
  session : Nat := 0
  sampled : Option Nat := none
deriving DecidableEq, Repr

namespace Sampling

def note (p : Pendant) (e : PendantEvent) (h : Sampling) : Sampling :=
  let h := if p.SwitchesOff e then { h with session := h.session + 1 } else h
  if p.ReadsSpindle e then { h with sampled := some h.session } else h

/-- A mode other than `OFF` has been read in the current session. -/
def Own (p : Pendant) (h : Sampling) : Prop :=
  p.data.spindleMode ≠ spindleModeOff → h.sampled = some h.session

/-- A mode other than `OFF` had been read in the current session when the frame was sent. -/
def Told (h : Sampling) (frame : PendantData) (stamp : Sampling) : Prop :=
  frame.mpg = true → frame.spindleMode ≠ spindleModeOff → stamp.sampled = some h.session

variable {p : Pendant} {e : PendantEvent} {h : Sampling}

theorem note_session :
    (note p e h).session = if p.SwitchesOff e then h.session + 1 else h.session := by
  simp only [note]
  split <;> split <;> rfl

theorem Own.note (own : Own p h) (off : p.SwitchesOff e → p.data.spindleMode = spindleModeOff) :
    Own (p.step e) (note p e h) := by
  intro mode
  by_cases reads : p.ReadsSpindle e
  · simp only [Sampling.note]
    rw [if_pos reads]
  · rw [Pendant.step_spindleMode reads] at mode
    have stays : ¬ p.SwitchesOff e := fun switches => mode (off switches)
    simp only [Sampling.note]
    rw [if_neg reads, if_neg stays]
    exact own mode

theorem Told.note {frame : PendantData} {stamp : Sampling} (told : Told h frame stamp)
    (off : p.SwitchesOff e → frame.mpg = true → frame.spindleMode = spindleModeOff) :
    Told (note p e h) frame stamp := by
  intro mpg mode
  have stays : ¬ p.SwitchesOff e := fun switches => mode (off switches mpg)
  rw [note_session, if_neg stays]
  exact told mpg mode

end Sampling

/-- `"M3S…"` and `"M4S…"`. -/
def Packet.StartsSpindle : Packet → Prop
  | .spindle mode _ => mode = 3 ∨ mode = 4
  | _ => False

instance : (packet : Packet) → Decidable packet.StartsSpindle
  | .spindle _ _ => inferInstanceAs (Decidable (_ ∨ _))
  | .jog .. | .buttonJog .. | .coolantFloodToggle | .coolantMistToggle | .cycleStart | .feedHold
  | .mpgModeToggle | .statusRequest => inferInstanceAs (Decidable False)

/-- A spindle start is asked for by a frame with the MPG flag and a mode other than `OFF`. -/
theorem Panel.frame_of_startsSpindle {s : Panel} {frame : PendantData} {tx : Tx} {packet : Packet}
    (sent : packet ∈ s.sentBy (.frame frame tx)) (starts : packet.StartsSpindle) :
    frame.mpg = true ∧ frame.spindleMode ≠ spindleModeOff := by
  have other : packet ≠ .mpgModeToggle := by
    rintro rfl
    exact starts
  obtain ⟨acts, member⟩ := mem_sentBy_frame tx frame s sent other
  refine ⟨acts.2.1, ?_⟩
  intro off
  have mode : (s.received frame).actedAction.spindleMode = spindleModeOff := off
  rcases mem_pendantDataToAction member with ⟨_, _, _, _, rfl⟩ | ⟨rfl, -⟩ | ⟨rfl, -⟩ | ⟨rfl, -⟩ |
    ⟨rfl, -⟩ | ⟨rfl, -⟩
  · exact starts
  · revert starts
    simp only [spindleCode]
    rw [mode]
    cases (s.received frame).grblData.spindleOn <;> simp [Packet.StartsSpindle]
  all_goals exact starts

namespace Link

/-- Whenever the pendant's MPG functionality is switched off, the spindle mode last read and those
of the replies on the line that carry the MPG flag are `OFF`. -/
def EndsSpindleOff (l : Link Sampling) (e : LinkEvent) : Prop :=
  ∀ event ∈ l.pendantEvent e, l.pendant.SwitchesOff event →
    l.pendant.data.spindleMode = spindleModeOff ∧
      ∀ x ∈ l.replyLine, x.1.mpg = true → x.1.spindleMode = spindleModeOff

instance (l : Link Sampling) (e : LinkEvent) : Decidable (l.EndsSpindleOff e) :=
  inferInstanceAs (Decidable (∀ event ∈ l.pendantEvent e, _ → _))

/-- A frame makes the panel start the spindle only if the spindle switch was read in the current
session before the frame was sent. -/
def StartsInSession (l : Link Sampling) (e : LinkEvent) : Prop :=
  ∀ event ∈ l.panelEvent e, ∀ x ∈ l.arriving e, ∀ packet ∈ l.panel.sentBy event,
    packet.StartsSpindle → x.2.sampled = some l.history.session

instance (l : Link Sampling) (e : LinkEvent) : Decidable (l.StartsInSession e) :=
  inferInstanceAs (Decidable (∀ event ∈ l.panelEvent e, ∀ x ∈ l.arriving e, _))

theorem sampling_step :
    Preserves (step Sampling.note) EndsSpindleOff (Truthful Sampling.Own Sampling.Told) := by
  intro l e truthful ends
  refine truthful.step Sampling.note (fun p h own _ => own) (fun event this => ?_)
    fun event this x member => ?_
  · exact truthful.own.note fun off => (ends event this off).1
  · exact (truthful.replies x member).note fun off => (ends event this off).2 x member

theorem Truthful.startsInSession {l : Link Sampling}
    (truthful : Truthful Sampling.Own Sampling.Told l) (e : LinkEvent) : l.StartsInSession e := by
  intro event handled x arrives packet sent starts
  obtain ⟨tx, rfl, data, frame, member⟩ := arriving_frame handled arrives
  obtain ⟨mpg, mode⟩ := Panel.frame_of_startsSpindle sent starts
  have told := truthful.replies _ member
  rw [frame] at told
  exact told mpg mode

/-- In every run in which the pendant's MPG functionality is switched off only with the spindle
mode at `OFF`, the panel starts the spindle only for a mode that was read in the current session. -/
theorem spindle_starts_in_session (startup : Startup) (es : List LinkEvent)
    (ends : Always (step Sampling.note) EndsSpindleOff (initial startup {}) es) :
    Always (step Sampling.note) StartsInSession (initial startup {}) es := by
  have start : Truthful Sampling.Own Sampling.Told (initial startup ({} : Sampling)) :=
    ⟨fun mode => absurd rfl mode, nofun⟩
  exact sampling_step.always (fun _ e truthful _ => truthful.startsInSession e) start ends

/-- In a session the spindle switch is moved to `CW`. -/
def startSpindle : List LinkEvent := [.settle .spindle3PosSwNc1 .reset, .inputs]

def stopSpindle : List LinkEvent := [.settle .spindle3PosSwNc1 .set, .inputs]

set_option maxRecDepth 8000 in
/-- The spindle is started, stopped and the session ended, and another session begun. -/
theorem spindle_starts_two_sessions :
    Always (step Sampling.note) StartsInSession (initial {} {})
      (beginSession ++ startSpindle ++ poll ++ stopSpindle ++ poll ++ pressMpg ++ poll ++
        pressMpg ++ poll ++ poll) :=
  spindle_starts_in_session {} _ (by decide)

set_option maxRecDepth 8000 in
/-- The spindle switch is read as `CW`, the session ended and the switch moved to `OFF`. The first
frame of the next session starts the spindle. -/
theorem spindle_started_by_last_session :
    ¬ Always (step Sampling.note) StartsInSession (initial {} {})
      (beginSession ++ startSpindle ++ pressMpg ++ [.settle .spindle3PosSwNc1 .set] ++ poll ++
        pressMpg ++ poll) := by
  decide

end Link

end Cnc
