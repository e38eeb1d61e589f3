import CncMachine.Panel.Interrupts
import CncMachine.Transition.Run

/-!
# The gate of the manual mode

`entered_manual_mode` belongs to the menu and gates the interrupt handlers; `pendant_control.status`
belongs to the pendant and drives the exit loop. Both are set in the manual mode and cleared on
its way out, so in every run they agree and are true in the Manual menu only.
-/

namespace Cnc.Panel

open Transition

/-- The flags agree, and the manual mode is on in the Manual menu only. -/
structure Gate (s : Panel) : Prop where
  agree : s.menu.enteredManualMode = s.pendantControl.status
  place : s.menu.enteredManualMode = true → s.InManualMenu

theorem SamePlace.inManualMenu {s s' : Panel} (place : SamePlace s.menu s'.menu)
    (manual : s.InManualMenu) : s'.InManualMenu :=
  ⟨place.level.trans manual.1, by rw [place.levelIndexes]; exact manual.2⟩

/-- A step that keeps the place in the menu and the pendant's flag keeps the gate. -/
theorem Gate.of_samePlace {s s' : Panel} (gate : Gate s) (place : SamePlace s.menu s'.menu)
    (status : s'.pendantControl.status = s.pendantControl.status) : Gate s' where
  agree := by rw [place.entered, status, gate.agree]
  place entered := place.inManualMenu (gate.place (place.entered.symm.trans entered))

theorem Gate.screenMenu {s : Panel} (gate : Gate s) (input : MenuInput) :
    Gate (s.screenMenu input) := by
  obtain stays | ⟨leaves, eq⟩ | ⟨enters, manual, -, eq⟩ := s.screenMenu_cases input
  · have status : (s.screenMenu input).pendantControl.status = s.pendantControl.status := by
      rw [stays.frame]
    refine ⟨by rw [stays.entered, status, gate.agree], ?_⟩
    intro entered
    have before := gate.place (stays.entered.symm.trans entered)
    rw [s.screenMenu_idle input (stays.manual before)]
    exact before
  · -- on the way out both flags are false, whether or not the loop ran
    have off (on : s.pendantControl.status = true) : (s.enterCycle input).Sleeps :=
      ⟨(gate.place (gate.agree.trans on)).2, on⟩
    rw [eq, leaveFirstLevel_eq]
    by_cases sleeps : (s.enterCycle input).Sleeps
    · exact ⟨by simp [sleeps], by simp [sleeps]⟩
    · have asleep : s.pendantControl.status = false := by
        by_contra on
        exact sleeps (off (by simpa using on))
      have left : s.menu.enteredManualMode = false := gate.agree.trans asleep
      rw [if_neg sleeps]
      exact ⟨by simp [asleep, enterCycle, left], by simp [enterCycle, left]⟩
  · obtain ⟨menu, turnOffMpg, packets, place, -, cycle⟩ :=
      (s.enterCycle input).manualMode_eq input
    rw [eq, cycle]
    exact ⟨place.entered, fun _ => ⟨place.level.trans manual.1, by
      show highByte (menu.levelIndexes 0) = 1
      rw [place.levelIndexes]
      exact manual.2⟩⟩

theorem Gate.step {s : Panel} (gate : Gate s) (e : PanelEvent) : Gate (s.step e) := by
  cases e with
  | menu input => exact gate.screenMenu input
  | tim1 accepted =>
      obtain ⟨menu, control, requests, place, status, -, eq⟩ := s.tim1_eq accepted
      rw [Panel.step, eq]
      exact gate.of_samePlace place status
  | frame frame tx =>
      obtain ⟨control, data, last, status, eq⟩ := s.uart4Callback_eq tx frame
      rw [Panel.step, eq]
      exact gate.of_samePlace ⟨rfl, rfl, rfl⟩ status
  | grbl chunk => exact gate.of_samePlace ⟨rfl, rfl, rfl⟩ rfl

theorem gate_initial (startup : Startup) : Gate (initial startup) :=
  ⟨rfl, fun entered => by cases entered⟩

theorem gate_run (startup : Startup) (es : List PanelEvent) :
    Gate (run step (initial startup) es) :=
  invariant_run (I := Gate) (fun _ e gate => gate.step e) (gate_initial startup) es

section

variable {s : Panel} (asleep : s.menu.enteredManualMode = false)
include asleep

theorem not_processes_of_asleep : ¬ s.Processes := fun processes => by
  simpa [asleep] using processes.1.1

/-- A frame outside the manual mode is stored and has no other effect. -/
theorem uart4Callback_of_asleep (tx : Tx) (frame : PendantData) :
    s.uart4Callback tx frame = ({ s with pendantData := frame }, none) :=
  uart4Callback_ignored tx frame s fun listens => by simpa [asleep] using listens.1

theorem tim1_pendantLine_of_asleep (accepted : Bool) :
    (s.tim1 accepted).pendantLine = s.pendantLine := by
  obtain ⟨menu, place, counted⟩ := s.countMenu_eq
  rw [tim1, counted, pollPendant_asleep]
  exact place.entered.trans asleep

end

/-- The Manual block of the main menu is touched. -/
def manualTouched : MenuInput := { touchDetected := 1, touchX := 270, touchY := 200 }

def enterPressed : MenuInput :=
  { buttonState := fun button => if button = .enter then .reset else .set }

def backPressed : MenuInput :=
  { buttonState := fun button => if button = .back then .reset else .set }

/-- A run into the Manual menu, up to the first poll of the pendant. -/
def openManual : List PanelEvent :=
  .menu manualTouched :: List.replicate 6 (.tim1 true) ++ .menu {} :: List.replicate 9 (.tim1 true)

/-- In every run the two flags agree and are true in the Manual menu only. Outside that menu the
pendant is not polled and its frames neither get processed nor make the panel send anything, and
the exit loop ends after at most one iteration. -/
theorem manual_mode_gate (startup : Startup) (es : List PanelEvent) :
    let s := run step (initial startup) es
    s.menu.enteredManualMode = s.pendantControl.status ∧
    (s.menu.enteredManualMode = true →
      s.menu.level = 1 ∧ highByte (s.menu.levelIndexes 0) = 1) ∧
    (¬ (s.menu.level = 1 ∧ highByte (s.menu.levelIndexes 0) = 1) →
      (∀ accepted, (s.tim1 accepted).pendantLine = s.pendantLine) ∧
      ∀ frame tx, ¬ s.Processes ∧
        s.uart4Callback tx frame = ({ s with pendantData := frame }, none)) ∧
    ∀ accepted, Stops (fun s : Panel => s.pendantControl.status) (sleepPendant accepted) 1 s := by
  intro s
  have gate : Gate s := gate_run startup es
  refine ⟨gate.agree, gate.place, ?_, fun accepted => sleepPendant_stops s accepted⟩
  intro outside
  have asleep : s.menu.enteredManualMode = false := by
    by_contra entered
    exact outside (gate.place (by simpa using entered))
  exact ⟨tim1_pendantLine_of_asleep asleep, fun frame tx =>
    ⟨not_processes_of_asleep asleep, uart4Callback_of_asleep asleep tx frame⟩⟩

set_option maxRecDepth 4000 in
example : (run step (initial {}) openManual).InManualMenu ∧
    (run step (initial {}) openManual).Processes ∧
    (run step (initial {}) openManual).pendantLine = [requestBody true .disabled] := by decide

end Cnc.Panel
