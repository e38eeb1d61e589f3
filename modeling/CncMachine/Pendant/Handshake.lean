import CncMachine.Pendant.Board
import CncMachine.Transition.Run

/-!
# The MPG status of the pendant

The pendant keeps its MPG mode twice, as `pendant_mpg_status` and as the flag in its data, and
changes both from the MPG button and from the panel's requests. A request with the panel's status
off switches both off. A request with the status on and the MPG status no longer enabled clears
the flag only: the pendant stays in `MPG_STATUS_ENABLED`. That is the one way to get out of step;
`agrees_iff` says so for whole runs.
-/

namespace Cnc.Pendant

open Transition

/-- The messages that reach the pendant are requests of the panel. -/
def FromPanel (_ : Pendant) (e : PendantEvent) : Prop :=
  ∀ text, e = .message text → ∃ status mpgStatus, text = requestBody status mpgStatus

/-- After a request the pendant is in `MPG_STATUS_ENABLED` only if its flag is set and the request
said that the panel is. -/
def Agrees (p : Pendant) (e : PendantEvent) : Prop :=
  ∀ status mpgStatus, e = .message (requestBody status mpgStatus) →
    (p.step e).mpgStatus = .enabled → (p.step e).data.mpg = true ∧ mpgStatus = .enabled

/-- A panel that is on does not end the MPG mode of an enabled pendant by a request. -/
def Kept (p : Pendant) (e : PendantEvent) : Prop :=
  ∀ mpgStatus, e = .message (requestBody true mpgStatus) → p.mpgStatus = .enabled →
    mpgStatus = .enabled

/-- The two representations of the mode. -/
def InStep (p : Pendant) : Prop := p.mpgStatus = .enabled → p.data.mpg = true

variable {p : Pendant} {e : PendantEvent}

/-- The MPG button never enables the pendant. -/
theorem buttonStatus_enabled (enabled : p.buttonStatus = .enabled) : p.mpgStatus = .enabled := by
  simp only [buttonStatus, mpgButton] at enabled
  repeat' split at enabled
  all_goals simp_all

/-- Without a request the pendant does not become enabled, and its flag stays. -/
theorem step_unrequested (other : ∀ text, e ≠ .message text) :
    ((p.step e).mpgStatus = .enabled → p.mpgStatus = .enabled) ∧
      (p.step e).data.mpg = p.data.mpg := by
  cases e with
  | turn w counts => exact ⟨id, rfl⟩
  | settle channel state => exact ⟨id, rfl⟩
  | inputs =>
      simp only [step]
      split
      · have processed := p.processInputs_processed
        refine ⟨?_, processed.mpg⟩
        intro enabled
        rw [processed.mpgStatus] at enabled
        exact buttonStatus_enabled enabled
      · exact ⟨id, rfl⟩
  | message text => exact absurd rfl (other text)

/-- What a request with the panel's status on leaves of an enabled pendant. -/
theorem takeStatus_of_enabled (enabled : p.mpgStatus = .enabled) (mpgStatus : MpgStatus) :
    (p.takeStatus '1' (digit mpgStatus.code)).mpgStatus = .enabled ∧
      (mpgStatus = .enabled →
        (p.takeStatus '1' (digit mpgStatus.code)).data.mpg = p.data.mpg) := by
  simp only [takeStatus, enabled]
  cases mpgStatus <;> cases flag : p.data.mpg <;> simp [digit, MpgStatus.code, flag]

/-- A request enables the pendant in one way only: the panel is enabled, and the flag is set. -/
theorem takeStatus_enabled {status : Bool} {mpgStatus : MpgStatus} (before : p.mpgStatus ≠ .enabled)
    (enabled : (p.takeStatus (digit status.toNat) (digit mpgStatus.code)).mpgStatus = .enabled) :
    (p.takeStatus (digit status.toNat) (digit mpgStatus.code)).data.mpg = true ∧
      mpgStatus = .enabled := by
  simp only [takeStatus] at enabled ⊢
  repeat' split at enabled
  all_goals simp_all
  all_goals cases mpgStatus <;> simp_all [digit, MpgStatus.code]

theorem digit_true : digit true.toNat = '1' := rfl

theorem takeStatus_false (mpgStatus : Char) :
    (p.takeStatus (digit false.toNat) mpgStatus).mpgStatus = .disabled := rfl

/-- One step: agreement is exactly that the mode is kept. -/
theorem agrees_step_iff (inStep : p.InStep) : Agrees p e ↔ Kept p e := by
  constructor
  · intro agrees mpgStatus request enabled
    apply (agrees true mpgStatus request ?_).2
    rw [request, step_requestBody, digit_true]
    exact (takeStatus_of_enabled enabled mpgStatus).1
  · intro kept status mpgStatus request enabled
    rw [request, step_requestBody] at enabled ⊢
    by_cases before : p.mpgStatus = .enabled
    · cases status with
      | false => rw [takeStatus_false] at enabled; cases enabled
      | true =>
          have same := kept mpgStatus request before
          rw [digit_true, (takeStatus_of_enabled before mpgStatus).2 same]
          exact ⟨inStep before, same⟩
    · exact takeStatus_enabled before enabled

theorem InStep.step (inStep : p.InStep) (panel : FromPanel p e) (kept : Kept p e) :
    (p.step e).InStep := by
  intro enabled
  by_cases request : ∃ text, e = .message text
  · obtain ⟨text, rfl⟩ := request
    obtain ⟨status, mpgStatus, rfl⟩ := panel text rfl
    exact ((agrees_step_iff inStep).mpr kept status mpgStatus rfl enabled).1
  · have other : ∀ text, e ≠ .message text := fun text eq => request ⟨text, eq⟩
    have quiet := step_unrequested (p := p) other
    rw [quiet.2]
    exact inStep (quiet.1 enabled)

/-- In every run with the panel's requests, the pendant agrees with the panel after each of them
if and only if none of them ends the MPG mode of an enabled pendant without switching it off. -/
theorem agrees_iff (es : List PendantEvent) (requests : Always step FromPanel {} es) :
    Always step Agrees {} es ↔ Always step Kept {} es := by
  have start : InStep {} := nofun
  generalize ({} : Pendant) = p at requests start
  induction es generalizing p with
  | nil => exact Iff.rfl
  | cons e es ih =>
      rw [always_cons, always_cons, agrees_step_iff start]
      apply and_congr_right
      intro kept
      exact ih _ requests.2 (start.step requests.1 kept)

/-- The pendant is switched on, its MPG button is pressed and the panel follows; then the panel
ends the MPG mode. -/
def panelTurnsOff : List PendantEvent :=
  [.settle .mpgBut .set, .message (requestBody true .disabled), .settle .mpgBut .reset, .inputs,
    .message (requestBody true .disabled), .message (requestBody true .enabled),
    .message (requestBody true .disabled)]

theorem fromPanel_panelTurnsOff : Always step FromPanel {} panelTurnsOff := by
  refine ⟨?_, ?_, ?_, ?_, ?_, ?_, ?_, trivial⟩ <;> intro text eq <;> cases eq <;>
    exact ⟨_, _, rfl⟩

theorem agrees_iff_panelTurnsOff :
    Always step Agrees {} panelTurnsOff ↔ Always step Kept {} panelTurnsOff :=
  agrees_iff _ fromPanel_panelTurnsOff

/-- At the end of that run the pendant is still enabled. -/
theorem not_agrees_panelTurnsOff :
    Always step FromPanel {} panelTurnsOff ∧ ¬ Always step Agrees {} panelTurnsOff := by
  refine ⟨fromPanel_panelTurnsOff, ?_⟩
  intro agrees
  have last := agrees.2.2.2.2.2.2.1 true .disabled rfl (by decide)
  cases last.2

end Cnc.Pendant
