import Mathlib.Data.Fintype.Basic
import CncMachine.Pendant.Board
import CncMachine.Transition.Run

/-!
# What the LEDs of the pendant tell

The LEDs are written at the end of `process_inputs` only, from the data record, and the main loop
skips the call while the pendant is off. Both rows of multiplier LEDs are set from the X axis, the
MPG LED is lit for `MPG_STATUS_ENABLED` whatever the flag in the data says, and a pendant that is
put to sleep keeps the LEDs it has.
-/

namespace Cnc

open Transition

/-- One LED of a row is lit, the one of the value. -/
def ShowsOnly (row : Fin 3 → Bool) (value : BitVec 8) : Prop :=
  ∃ position : Fin 3, value.toNat = position ∧ ∀ other, row other = decide (other = position)

instance (row : Fin 3 → Bool) (value : BitVec 8) : Decidable (ShowsOnly row value) :=
  inferInstanceAs (Decidable (∃ _, _))

/-- A row that is set from a value shows another one only if it is the same. -/
theorem showsOnly_iff {set value : BitVec 8} (small : set < 3) :
    ShowsOnly (fun position => set.toNat == position) value ↔ set = value := by
  have small : set.toNat < 3 := small
  constructor
  · rintro ⟨position, eq, row⟩
    have lit : set.toNat = position := by simpa using row position
    exact BitVec.eq_of_toNat_eq (lit.trans eq.symm)
  · rintro rfl
    refine ⟨⟨set.toNat, small⟩, rfl, fun other => ?_⟩
    rw [Bool.eq_iff_iff, beq_iff_eq, decide_eq_true_iff, Fin.ext_iff]
    exact eq_comm

namespace Pendant

variable (p : Pendant)

/-- The LEDs are those of the data that the next frame carries. -/
structure ShowsData : Prop where
  xAxis : ShowsOnly (fun position => p.leds (.xAxisMultiplier position)) p.data.xAxisMultiplicity
  yzAxis : ShowsOnly (fun position => p.leds (.yzAxisMultiplier position))
    p.data.yzAxisMultiplicity
  yOrZ : p.leds .yzSwY = (p.data.yOrZ == yzMovementY) ∧ p.leds .yzSwZ = (p.data.yOrZ == yzMovementZ)
  spindle : p.leds .spindleCw = (p.data.spindleMode == spindleModeCw) ∧
    p.leds .spindleCcw = (p.data.spindleMode == spindleModeCcw)
  coolant : p.leds .flood = p.data.flood ∧ p.leds .mist = p.data.mist
  holdOrRun : p.leds .cycleStart = (p.data.systemStatus == GrblState.idle.code) ∧
    p.leds .hold = (p.data.systemStatus == GrblState.hold.code)

/-- The two LEDs of the buttons are set, or neither button has been pressed and both are off. -/
def StatusShown : Prop :=
  p.data.systemStatus = GrblState.idle.code ∨ p.data.systemStatus = GrblState.hold.code ∨
    p.leds .cycleStart = false ∧ p.leds .hold = false

/-- The event calls `process_inputs`. -/
def Calls (p : Pendant) (e : PendantEvent) : Prop := e = .inputs ∧ p.status = true

/-- After a call in the active mode the LEDs show the data. After any call, and while the pendant is
off, the MPG LED is lit only if the flag in the data is set. -/
structure Truthful (p : Pendant) (e : PendantEvent) : Prop where
  shows : Calls p e → (p.step e).mpgStatus = .enabled → (p.step e).data.mpg = true →
    (p.step e).ShowsData
  mpgOn : Calls p e ∨ (p.step e).status = false → (p.step e).leds .mpgOn = true →
    (p.step e).data.mpg = true

/-- The message is a request with the status off. -/
def PutsToSleep (text : List Char) : Prop :=
  isRequest text = true ∧ 13 ≤ text.length ∧ text.getD 9 '\x00' = '0'

instance (text : List Char) : Decidable (PutsToSleep text) := inferInstanceAs (Decidable (_ ∧ _))

/-- Inputs are processed in the enabled mode only with the flag set and both multiplier switches in
one position, and the pendant is put to sleep only with the MPG LED off. -/
def Fitting (p : Pendant) : PendantEvent → Prop
  | .inputs => p.status = true → p.buttonStatus = .enabled →
      p.data.mpg = true ∧ p.getXAxisMultiplier = p.getYzAxisMultiplier
  | .message text => PutsToSleep text → p.leds .mpgOn = false
  | _ => True

/-- The MPG LED is lit in the enabled mode only. -/
structure Lit : Prop where
  mpgOn : p.leds .mpgOn = true → p.status = true ∧ p.mpgStatus = .enabled
  statusShown : p.StatusShown

theorem getPosition_lt (nc1 nc2 : Channel) : p.getPosition nc1 nc2 < 3 := by
  simp only [getPosition]
  repeat' split
  all_goals decide

/-- The LEDs show the data exactly if the second row may be set from the first value. -/
theorem showLeds_showsData (multiplier : p.data.xAxisMultiplicity < 3)
    (spindle : p.data.spindleMode < 3) (status : p.StatusShown) :
    p.showLeds.ShowsData ↔ p.data.xAxisMultiplicity = p.data.yzAxisMultiplicity := by
  have row (led : Fin 3 → Led) (value : BitVec 8) : ShowsOnly (fun position =>
      if p.data.xAxisMultiplicity < 3 then p.data.xAxisMultiplicity.toNat == position
      else p.leds (led position)) value ↔ p.data.xAxisMultiplicity = value := by
    simp only [if_pos multiplier]
    exact showsOnly_iff multiplier
  constructor
  · intro shows
    exact (row .yzAxisMultiplier _).mp shows.yzAxis
  · intro same
    have mode : p.data.spindleMode ≤ spindleModeCcw := by bv_omega
    refine ⟨(row .xAxisMultiplier _).mpr rfl, (row .yzAxisMultiplier _).mpr same, ⟨rfl, rfl⟩,
      ⟨if_pos mode, if_pos mode⟩, ⟨rfl, rfl⟩, ?_⟩
    obtain idle | hold | ⟨cycleStart, off⟩ := status
    · simp [showLeds, idle, GrblState.code]
    · simp [showLeds, hold, GrblState.code]
    · by_cases idle : p.data.systemStatus = GrblState.idle.code
      · simp [showLeds, idle, GrblState.code]
      · by_cases hold : p.data.systemStatus = GrblState.hold.code
        · simp [showLeds, hold, GrblState.code]
        · simp [showLeds, idle, hold, cycleStart, off]

/-- The state in which an enabled call sets the LEDs. -/
structure BeforeLeds (q : Pendant) : Prop where
  leds : q.leds = p.leds
  status : q.status = p.status
  mpgStatus : q.mpgStatus = .enabled
  mpg : q.data.mpg = p.data.mpg
  xAxisMultiplicity : q.data.xAxisMultiplicity = p.getXAxisMultiplier
  yzAxisMultiplicity : q.data.yzAxisMultiplicity = p.getYzAxisMultiplier
  spindleMode : q.data.spindleMode = p.getSpindleMode
  systemStatus : q.data.systemStatus = p.buttonsSystemStatus

theorem processInputs_enabled (enabled : p.buttonStatus = .enabled) :
    ∃ q, p.BeforeLeds q ∧ p.processInputs = q.showLeds := by
  obtain ⟨cnts, button⟩ := p.mpgButton_eq
  obtain ⟨data, cnt, mpg, -, systemStatus, read⟩ := p.mpgButton.readEncoders_frame
  have mode : p.mpgButton.readEncoders.mpgStatus = .enabled := by
    rw [read, ← enabled]
    rfl
  refine ⟨p.mpgButton.readEncoders.readSelectors.yzSwitch.floodSwitch.mistSwitch.statusButtons, ?_,
    by rw [processInputs, mpgInputs, mode]⟩
  rw [button] at read mode mpg systemStatus ⊢
  rw [read] at mode ⊢
  refine ⟨rfl, rfl, mode, mpg, rfl, rfl, rfl, ?_⟩
  rw [buttonsSystemStatus]
  simp only [statusButtons, mistSwitch, floodSwitch, yzSwitch, readSelectors, systemStatus]
  rfl

theorem processInputs_leds (other : p.buttonStatus ≠ .enabled) :
    p.processInputs.leds = if p.buttonStatus = .disabled then fun _ => false else p.leds := by
  obtain ⟨cnts, button⟩ := p.mpgButton_eq
  obtain ⟨data, cnt, -, -, -, read⟩ := p.mpgButton.readEncoders_frame
  have mode : p.mpgButton.readEncoders.mpgStatus = p.buttonStatus := by
    rw [read]
    rfl
  rw [processInputs, mpgInputs, mode]
  cases status : p.buttonStatus with
  | enabled => exact absurd status other
  | disabled => rfl
  | enableOngoing =>
      rw [read, button]
      rfl

theorem step_putsToSleep {text : List Char} (sleeps : PutsToSleep text) :
    p.step (.message text) =
      { p with status := false, mpgStatus := .disabled, data.mpg := false } := by
  obtain ⟨request, long, off⟩ := sleeps
  simp only [step, usart2Callback, request, if_true, if_pos long, off]
  rfl

/-- Any other message keeps an enabled pendant enabled and switches no pendant off. -/
theorem step_message_awake {text : List Char} (awake : ¬ PutsToSleep text) :
    ∃ on mode mpg, p.step (.message text) =
        { p with status := on, mpgStatus := mode, data.mpg := mpg } ∧
      (p.status = true → on = true) ∧ (p.mpgStatus = .enabled → mode = .enabled) := by
  simp only [step, usart2Callback]
  split
  next request =>
    split
    next long =>
      have other : text.getD 9 '\x00' ≠ '0' := fun off => awake ⟨request, long, off⟩
      simp only [takeStatus, other, if_false]
      repeat' split
      all_goals exact ⟨_, _, _, rfl, by simp, by simp_all⟩
    next => exact ⟨_, _, _, rfl, id, id⟩
  next => exact ⟨_, _, _, rfl, id, id⟩

variable {p} {e : PendantEvent}

theorem StatusShown.buttons {q : Pendant} (shown : p.StatusShown) (before : p.BeforeLeds q) :
    q.StatusShown := by
  simp only [StatusShown, before.systemStatus, before.leds, buttonsSystemStatus, statusButtons]
  split
  · exact .inr (.inl rfl)
  · split
    · exact .inl rfl
    · exact shown

theorem StatusShown.showLeds (shown : p.StatusShown) : p.showLeds.StatusShown := by
  obtain idle | hold | ⟨cycleStart, off⟩ := shown
  · exact .inl idle
  · exact .inr (.inl hold)
  · by_cases idle : p.data.systemStatus = GrblState.idle.code
    · exact .inl idle
    · by_cases hold : p.data.systemStatus = GrblState.hold.code
      · exact .inr (.inl hold)
      · exact .inr (.inr (by simp [Pendant.showLeds, idle, hold, cycleStart, off]))

/-- A call in the enabled mode. -/
theorem Lit.truthful_enabled (lit : p.Lit) (on : p.status = true)
    (enabled : p.buttonStatus = .enabled) :
    Truthful p .inputs ↔ p.data.mpg = true ∧ p.getXAxisMultiplier = p.getYzAxisMultiplier := by
  obtain ⟨q, before, eq⟩ := p.processInputs_enabled enabled
  have processed : p.step .inputs = q.showLeds := by rw [step, if_pos on, eq]
  have shows : q.showLeds.ShowsData ↔ p.getXAxisMultiplier = p.getYzAxisMultiplier := by
    rw [showLeds_showsData, before.xAxisMultiplicity, before.yzAxisMultiplicity]
    · rw [before.xAxisMultiplicity]
      exact getPosition_lt p _ _
    · rw [before.spindleMode]
      exact getPosition_lt p _ _
    · exact lit.statusShown.buttons before
  have flag : q.showLeds.data.mpg = p.data.mpg := before.mpg
  constructor
  · intro truthful
    have mpg : p.data.mpg = true := by
      rw [← flag, ← processed]
      apply truthful.mpgOn (.inl ⟨rfl, on⟩)
      rw [processed]
      rfl
    refine ⟨mpg, shows.mp ?_⟩
    rw [← processed]
    apply truthful.shows ⟨rfl, on⟩
    · rw [processed]
      exact before.mpgStatus
    · rw [processed, flag, mpg]
  · rintro ⟨mpg, same⟩
    refine ⟨fun _ _ _ => ?_, fun _ _ => ?_⟩
    · rw [processed]
      exact shows.mpr same
    · rw [processed, flag, mpg]

/-- The button only starts the enabling from `MPG_STATUS_DISABLED`. -/
theorem buttonStatus_of_enabled (mode : p.mpgStatus = .enabled) :
    p.buttonStatus = .enabled ∨ p.buttonStatus = .disabled := by
  simp only [buttonStatus, mpgButton, mode]
  repeat' split
  all_goals simp_all

/-- Otherwise the MPG LED is off after the call. -/
theorem Lit.mpgOn_processInputs (lit : p.Lit) (other : p.buttonStatus ≠ .enabled) :
    p.processInputs.leds .mpgOn = false := by
  rw [p.processInputs_leds other]
  split
  next => rfl
  next working =>
    rw [Bool.eq_false_iff]
    intro on
    obtain enabled | disabled := buttonStatus_of_enabled (lit.mpgOn on).2
    · exact other enabled
    · exact working disabled

/-- While the pendant is off, so is its MPG LED. -/
theorem Lit.mpgOn_off (lit : p.Lit) (off : p.status = false) : p.leds .mpgOn = false := by
  rw [Bool.eq_false_iff]
  intro on
  rw [(lit.mpgOn on).1] at off
  cases off

/-- An event that does not call `process_inputs` tells the truth if the MPG LED is off whenever the
pendant is off afterwards. -/
theorem truthful_of_quiet (quiet : ¬ Calls p e)
    (dark : (p.step e).status = false → (p.step e).leds .mpgOn = false) : Truthful p e where
  shows calls := absurd calls quiet
  mpgOn when on := by
    rw [dark (when.resolve_left quiet)] at on
    cases on

theorem Lit.truthful_inputs (lit : p.Lit) : Truthful p .inputs ↔ Fitting p .inputs := by
  cases on : p.status with
  | false =>
      have same : p.step .inputs = p := if_neg (by simp [on])
      refine iff_of_true (truthful_of_quiet ?_ ?_) fun on' => ?_
      · intro calls
        simp [Calls, on] at calls
      · rw [same]
        exact lit.mpgOn_off
      · rw [on] at on'
        cases on'
  | true =>
      by_cases enabled : p.buttonStatus = .enabled
      · rw [lit.truthful_enabled on enabled]
        exact ⟨fun meets _ _ => meets, fun fits => fits on enabled⟩
      · have processed : p.step .inputs = p.processInputs := if_pos on
        have dark := lit.mpgOn_processInputs enabled
        refine iff_of_true ⟨fun _ mode => ?_, fun _ lamp => ?_⟩ fun _ mode => ?_
        · rw [processed, p.processInputs_processed.mpgStatus] at mode
          exact absurd mode enabled
        · rw [processed, dark] at lamp
          cases lamp
        · exact absurd mode enabled

theorem Lit.truthful_message (lit : p.Lit) (text : List Char) :
    Truthful p (.message text) ↔ Fitting p (.message text) := by
  have quiet : ¬ Calls p (.message text) := fun calls => nomatch calls.1
  by_cases sleeps : PutsToSleep text
  · have eq := p.step_putsToSleep sleeps
    constructor
    · intro truthful _
      rw [Bool.eq_false_iff]
      intro lamp
      have flag := truthful.mpgOn (.inr (by rw [eq])) (by rw [eq]; exact lamp)
      rw [eq] at flag
      cases flag
    · intro fits
      apply truthful_of_quiet quiet
      intro _
      rw [eq]
      exact fits sleeps
  · obtain ⟨on, mode, mpg, eq, stays, -⟩ := p.step_message_awake sleeps
    refine iff_of_true (truthful_of_quiet quiet fun off => ?_) fun sleeps' => absurd sleeps' sleeps
    rw [eq] at off ⊢
    apply lit.mpgOn_off
    rw [Bool.eq_false_iff]
    intro status
    rw [show on = false from off] at stays
    cases stays status

theorem Lit.truthful_iff (lit : p.Lit) (e : PendantEvent) : Truthful p e ↔ Fitting p e := by
  cases e with
  | turn w counts =>
      exact iff_of_true (truthful_of_quiet (fun calls => nomatch calls.1) lit.mpgOn_off) trivial
  | settle channel state =>
      exact iff_of_true (truthful_of_quiet (fun calls => nomatch calls.1) lit.mpgOn_off) trivial
  | inputs => exact lit.truthful_inputs
  | message text => exact lit.truthful_message text

theorem Lit.processInputs (lit : p.Lit) (on : p.status = true) : p.processInputs.Lit := by
  by_cases enabled : p.buttonStatus = .enabled
  · obtain ⟨q, before, eq⟩ := p.processInputs_enabled enabled
    rw [eq]
    exact ⟨fun _ => ⟨before.status.trans on, before.mpgStatus⟩,
      (lit.statusShown.buttons before).showLeds⟩
  · refine ⟨fun lamp => ?_, ?_⟩
    · rw [lit.mpgOn_processInputs enabled] at lamp
      cases lamp
    · have status : p.processInputs.data.systemStatus = p.data.systemStatus := by
        rw [p.processInputs_processed.systemStatus, if_neg enabled]
      simp only [StatusShown, status, p.processInputs_leds enabled]
      split
      · exact .inr (.inr ⟨rfl, rfl⟩)
      · exact lit.statusShown

theorem Lit.step (lit : p.Lit) (fits : Fitting p e) : (p.step e).Lit := by
  cases e with
  | turn w counts => exact ⟨lit.mpgOn, lit.statusShown⟩
  | settle channel state => exact ⟨lit.mpgOn, lit.statusShown⟩
  | inputs =>
      cases on : p.status with
      | false =>
          rw [show p.step .inputs = p from if_neg (by simp [on])]
          exact lit
      | true =>
          rw [show p.step .inputs = p.processInputs from if_pos on]
          exact lit.processInputs on
  | message text =>
      by_cases sleeps : PutsToSleep text
      · rw [p.step_putsToSleep sleeps]
        refine ⟨fun lamp => ?_, lit.statusShown⟩
        have dark : p.leds .mpgOn = false := fits sleeps
        rw [show p.leds .mpgOn = true from lamp] at dark
        cases dark
      · obtain ⟨on, mode, mpg, eq, stays, keeps⟩ := p.step_message_awake sleeps
        rw [eq]
        refine ⟨fun lamp => ?_, lit.statusShown⟩
        obtain ⟨status, enabled⟩ := lit.mpgOn lamp
        exact ⟨stays status, keeps enabled⟩

/-- In every run the LEDs tell the truth if and only if inputs are processed in the enabled mode
only with the flag set and both multiplier switches in one position, and the pendant is put to sleep
only with its MPG LED off. -/
theorem leds_truthful_iff (es : List PendantEvent) :
    Always step Truthful {} es ↔ Always step Fitting {} es :=
  always_iff (I := Lit) (fun _ _ lit fits => lit.step fits) (fun _ e lit => lit.truthful_iff e)
    ⟨fun lamp => Bool.noConfusion lamp, .inr (.inr ⟨rfl, rfl⟩)⟩ es

/-- The pendant is switched on, its MPG button is pressed and the panel follows; the multiplier
switches are in different positions. -/
def enabledRun : List PendantEvent :=
  [.message (requestBody true .disabled), .inputs, .message (requestBody true .disabled),
    .message (requestBody true .enabled), .settle .mpgBut .set, .settle .yzAxisMultiplierSwNc2 .set]

/-- The Y/Z row shows the multiplier of the X axis, and the MPG LED of a pendant that is put to
sleep stays lit. -/
theorem leds_lie :
    ¬ Always step Truthful {} (enabledRun ++ [.inputs]) ∧
      ¬ Always step Truthful {} (enabledRun ++ [.settle .yzAxisMultiplierSwNc2 .reset, .inputs,
        .message (requestBody false .disabled)]) := by
  constructor
  · intro truthful
    have last := ((always_append _ _ _ _).mp truthful).2.1
    have shows := last.shows ⟨rfl, by decide +kernel⟩ (by decide +kernel) (by decide +kernel)
    exact absurd shows.yzAxis (by decide +kernel)
  · intro truthful
    have last := ((always_append _ _ _ _).mp truthful).2.2.2.1
    have flag := last.mpgOn (.inr (by decide +kernel)) (by decide +kernel)
    exact absurd flag (by decide +kernel)

end Pendant

end Cnc
