import CncMachine.Panel.Adjusting
import CncMachine.Panel.Repeating
import CncMachine.Pendant.Board

/-!
# Buttons held down on both boards

The MPG button of the pendant repeats by a copy of the panel's idiom without the second increment:
its count goes up to 3, starts at zero again, and the button acts in both of these ticks. Neither of
the two boards keeps four ticks between the actions of a button, although both delays are four.
-/

namespace Cnc

open Transition

namespace Pendant

variable (p : Pendant)

/-- The count of the pressed MPG button after `process_inputs`. -/
def nextMpgCnt (cnt : BitVec 8) : BitVec 8 := if cnt = 3 then 0 else cnt + 1

def mpgFiresAt (cnt : BitVec 8) : Bool := cnt == 0 || cnt == 3

theorem readEncoders_delayCnts : p.readEncoders.delayCnts = p.delayCnts := by
  obtain ⟨_, _, -, -, -, eq⟩ := p.readEncoders_frame
  rw [eq]

theorem mpgInputs_delayCnts : p.mpgInputs.delayCnts .mpgBut = p.delayCnts .mpgBut := by
  simp only [mpgInputs]
  cases p.mpgStatus <;> rfl

theorem processInputs_mpgBut :
    p.processInputs.delayCnts .mpgBut = p.mpgButton.delayCnts .mpgBut := by
  rw [processInputs, mpgInputs_delayCnts, readEncoders_delayCnts]

/-- What an event is to the MPG button. It acts when the MPG functionality is switched. -/
def mpgContact (p : Pendant) : PendantEvent → Contact
  | .inputs =>
      if p.status = false then .idle
      else if p.pressed .mpgBut = false then .release
      else .tick (decide (p.buttonStatus ≠ p.mpgStatus))
  | _ => .idle

variable {p}

theorem mpgButton_pressed (pressed : p.pressed .mpgBut = true)
    (small : p.delayCnts .mpgBut < buttonDelayActionCnt) :
    p.mpgButton.delayCnts .mpgBut = nextMpgCnt (p.delayCnts .mpgBut) ∧
      decide (p.buttonStatus ≠ p.mpgStatus) = mpgFiresAt (p.delayCnts .mpgBut) := by
  have counts : p.delayCnts .mpgBut = 0 ∨ p.delayCnts .mpgBut = 1 ∨ p.delayCnts .mpgBut = 2 ∨
      p.delayCnts .mpgBut = 3 := by
    revert small
    generalize p.delayCnts .mpgBut = cnt
    decide +revert
  have delay : buttonDelayActionCnt = 4 := rfl
  obtain cnt | cnt | cnt | cnt := counts <;> cases mode : p.mpgStatus <;>
    simp [buttonStatus, mpgButton, delay, pressed, cnt, mode, nextMpgCnt, mpgFiresAt]

theorem mpgButton_released (released : p.pressed .mpgBut = false) :
    p.mpgButton.delayCnts .mpgBut = 0 := by
  simp [mpgButton, released]

theorem message_delayCnts (text : List Char) :
    (p.step (.message text)).delayCnts = p.delayCnts := by
  obtain same | ⟨status, mpgStatus, taken⟩ := p.step_message text
  · rw [same]
  · obtain ⟨_, _, _, eq⟩ := p.takeStatus_eq status mpgStatus
    rw [taken, eq]

/-- The count of the MPG button follows its contacts. -/
theorem mpgCnt_step (e : PendantEvent) (small : p.delayCnts .mpgBut < buttonDelayActionCnt) :
    (p.step e).delayCnts .mpgBut =
      (mpgContact p e).count nextMpgCnt 0 (p.delayCnts .mpgBut) := by
  cases e with
  | turn w counts => rfl
  | settle channel state => rfl
  | message text => rw [message_delayCnts]; rfl
  | inputs =>
      cases status : p.status with
      | false => simp [step, mpgContact, status, Contact.count]
      | true =>
          have processed : (p.step .inputs).delayCnts .mpgBut = p.mpgButton.delayCnts .mpgBut := by
            rw [step, if_pos status, processInputs_mpgBut]
          rw [processed]
          cases pressed : p.pressed .mpgBut with
          | false => simp [mpgButton_released pressed, mpgContact, status, pressed, Contact.count]
          | true =>
              simp [(mpgButton_pressed pressed small).1, mpgContact, status, pressed, Contact.count]

theorem mpgActs_step {e : PendantEvent} {acts : Bool}
    (small : p.delayCnts .mpgBut < buttonDelayActionCnt) (tick : mpgContact p e = .tick acts) :
    acts = mpgFiresAt (p.delayCnts .mpgBut) := by
  cases e with
  | turn w counts => cases tick
  | settle channel state => cases tick
  | message text => cases tick
  | inputs =>
      simp only [mpgContact] at tick
      split at tick
      · cases tick
      · split at tick
        next => cases tick
        next pressed =>
          cases tick
          exact (mpgButton_pressed (by simpa using pressed) small).2

theorem mpgCnt_small (e : PendantEvent) (small : p.delayCnts .mpgBut < buttonDelayActionCnt) :
    (p.step e).delayCnts .mpgBut < buttonDelayActionCnt := by
  rw [mpgCnt_step e small]
  cases mpgContact p e with
  | release => exact (by decide : (0 : BitVec 8) < buttonDelayActionCnt)
  | idle => exact small
  | tick acts =>
      show nextMpgCnt (p.delayCnts .mpgBut) < buttonDelayActionCnt
      revert small
      generalize p.delayCnts .mpgBut = cnt
      decide +revert

/-- The holds of the MPG button in a run from power-up. -/
abbrev mpgHolds (es : List PendantEvent) : List (List Bool) :=
  holds (contacts step mpgContact {} es)

theorem spaced_mpgHolds (es : List PendantEvent) :
    (∀ hold ∈ mpgHolds es, Spaced buttonDelayActionCnt.toNat hold) ↔
      ∀ hold ∈ mpgHolds es, hold.length ≤ 3 := by
  have start : ({} : Pendant).delayCnts .mpgBut < buttonDelayActionCnt := by decide
  have counts : CountsBy nextMpgCnt mpgFiresAt 0 (({} : Pendant).delayCnts .mpgBut)
      (contacts step mpgContact {} es) :=
    countsBy_contacts (I := fun p : Pendant => p.delayCnts .mpgBut < buttonDelayActionCnt)
      (fun _ e small => mpgCnt_small e small) (fun _ e small => mpgCnt_step e small)
      (fun _ _ _ small tick => mpgActs_step small tick) start es
  have counts : CountsBy nextMpgCnt mpgFiresAt 0 0 (contacts step mpgContact {} es) := counts
  apply counts.spaced_iff
  · decide
  · decide
  · decide
  · intro i positive early
    obtain rfl | rfl : i = 1 ∨ i = 2 := by omega
    · decide
    · decide
  · decide

end Pendant

/-- Held buttons keep the distance of the delay between their actions, in all runs of the two
boards, as long as no hold comes to the second action. -/
theorem repeats_spaced_iff (startup : Startup) (es : List PanelEvent) (fs : List PendantEvent) :
    ((∀ button, ∀ hold ∈ Panel.buttonHolds button startup es,
        Spaced (Panel.initial startup).menu.buttonDelay.toNat hold) ∧
      ∀ hold ∈ Pendant.mpgHolds fs, Spaced buttonDelayActionCnt.toNat hold) ↔
    (∀ button, ∀ hold ∈ Panel.buttonHolds button startup es,
        hold.length ≤ button.secondAction) ∧
      ∀ hold ∈ Pendant.mpgHolds fs, hold.length ≤ 3 :=
  and_congr (forall_congr' fun button => Panel.spaced_buttonHolds button startup es)
    (Pendant.spaced_mpgHolds fs)

/-- RIGHT moves the selection of the main menu in the first and the third cycle of a hold, and the
MPG button switches in its fourth tick and in its fifth. -/
theorem repeats_too_early :
    (¬ ∀ hold ∈ Panel.buttonHolds .right {} (Panel.cycles Panel.rightPressed 3), Spaced 4 hold) ∧
      ¬ ∀ hold ∈ Pendant.mpgHolds
          (.message (requestBody true .disabled) :: List.replicate 5 .inputs), Spaced 2 hold := by
  have close (i j : Nat) (hold : List Bool) {delay : Nat} {holds : List (List Bool)}
      (only : holds = [hold]) (before : i < j) (early : j < i + delay)
      (first : hold[i]? = some true) (second : hold[j]? = some true) :
      ¬ ∀ hold ∈ holds, Spaced delay hold := by
    intro spaced
    have gap := (spaced hold (by simp [only])).2 i j before first second
    omega
  constructor
  · exact close 0 2 [true, false, true] (by decide +kernel) (by decide) (by decide) rfl rfl
  · exact close 3 4 [true, false, false, true, true] (by decide +kernel) (by decide) (by decide)
      rfl rfl

end Cnc
