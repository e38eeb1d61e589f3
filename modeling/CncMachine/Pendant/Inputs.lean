import CncMachine.Pendant.State

/-!
# Processing the inputs

`process_inputs` in the order of the source: the MPG button, the encoders, and, while the MPG
functionality is enabled, the other switches and the LEDs.
-/

namespace Cnc.Pendant

variable (p : Pendant)

/-- The MPG button acts when it is first read as pressed and, while held, after each delay. -/
def mpgButton : Pendant :=
  if p.pressed .mpgBut then
    let cnt := p.delayCnts .mpgBut + 1
    if cnt ≥ buttonDelayActionCnt ∨ cnt = 1 then
      let cnt := if cnt ≠ 1 ∧ buttonDelayActionCnt ≠ 1 then 0 else cnt
      { p with
        delayCnts := Function.update p.delayCnts .mpgBut cnt
        mpgStatus := if p.mpgStatus ≠ .disabled then .disabled else .enableOngoing }
    else { p with delayCnts := Function.update p.delayCnts .mpgBut cnt }
  else { p with delayCnts := Function.update p.delayCnts .mpgBut 0 }

/-- An encoder is read, or put back to the last value read when its axis is locked. -/
def readEncoder (w : Wheel) : Pendant :=
  if p.unlocked w then
    { p with data.toPendantData := p.data.setEncoderVal w ((p.cnt w).setWidth 32) }
  else { p with cnt := Function.update p.cnt w ((p.data.encoderVal w).setWidth 16) }

/-- Outside MPG mode the encoder inputs are discarded. -/
def readEncoders : Pendant :=
  if p.status && p.data.mpg then (p.readEncoder .x).readEncoder .yz
  else { p with data.encoder1Val := 0, data.encoder2Val := 0, cnt := fun _ => 0 }

/-- The three-way switches. -/
def readSelectors : Pendant :=
  { p with
    data.spindleMode := p.getSpindleMode
    data.jogMode := 0
    data.xAxisMultiplicity := p.getXAxisMultiplier
    data.yzAxisMultiplicity := p.getYzAxisMultiplier }

/-- The switch between Y and Z, which has to stay in a position for the delay. -/
def yzSwitch : Pendant :=
  let position := p.pressed .yzSw
  let cnt := (if p.yOrZLastState = position then p.delayCnts .yOrZBut else 0) + 1
  let settled : Bool := cnt ≥ buttonDelayActionCnt
  { p with
    yOrZLastState := position
    delayCnts := Function.update p.delayCnts .yOrZBut (if settled then 0 else cnt)
    data.yOrZ :=
      if settled then (if position then yzMovementZ else yzMovementY) else p.data.yOrZ }

/-- A coolant switch: its delay counter and whether the delay is over. -/
def holdSwitch (channel : Channel) (delay : DelayChannel) : BitVec 8 × Bool :=
  if p.pressed channel then
    let cnt := p.delayCnts delay + 1
    if cnt ≥ buttonDelayActionCnt then (0, true) else (cnt, false)
  else (0, false)

def floodSwitch : Pendant :=
  let held := p.holdSwitch .floodSw .floodBut
  { p with
    delayCnts := Function.update p.delayCnts .floodBut held.1
    data.flood := if held.2 then !p.data.flood else p.data.flood }

def mistSwitch : Pendant :=
  let held := p.holdSwitch .mistSw .mistBut
  { p with
    delayCnts := Function.update p.delayCnts .mistBut held.1
    data.mist := if held.2 then !p.data.mist else p.data.mist }

/-- The HOLD and CYCLE START buttons. -/
def statusButtons : Pendant :=
  { p with
    data.systemStatus :=
      if p.pressed .holdBut then GrblState.hold.code
      else if p.pressed .cycleStartBut then GrblState.idle.code
      else p.data.systemStatus }

/-- The LEDs while the MPG functionality is enabled. Both rows of multiplier LEDs are set from
the X axis multiplier. -/
def showLeds : Pendant :=
  { p with
    leds := fun
      | .mpgOn => true
      | .yzSwZ => p.data.yOrZ == yzMovementZ
      | .yzSwY => p.data.yOrZ == yzMovementY
      | .flood => p.data.flood
      | .mist => p.data.mist
      | .xAxisMultiplier position =>
          if p.data.xAxisMultiplicity < 3 then p.data.xAxisMultiplicity.toNat == position
          else p.leds (.xAxisMultiplier position)
      | .yzAxisMultiplier position =>
          if p.data.xAxisMultiplicity < 3 then p.data.xAxisMultiplicity.toNat == position
          else p.leds (.yzAxisMultiplier position)
      | .spindleCw =>
          if p.data.spindleMode ≤ spindleModeCcw then p.data.spindleMode == spindleModeCw
          else p.leds .spindleCw
      | .spindleCcw =>
          if p.data.spindleMode ≤ spindleModeCcw then p.data.spindleMode == spindleModeCcw
          else p.leds .spindleCcw
      | .cycleStart =>
          if p.data.systemStatus = GrblState.idle.code then true
          else if p.data.systemStatus = GrblState.hold.code then false
          else p.leds .cycleStart
      | .hold =>
          if p.data.systemStatus = GrblState.idle.code then false
          else if p.data.systemStatus = GrblState.hold.code then true
          else p.leds .hold }

/-- `turn_off_leds`. -/
def turnOffLeds : Pendant := { p with leds := fun _ => false }

/-- The part of `process_inputs` that depends on the MPG status. -/
def mpgInputs : Pendant :=
  match p.mpgStatus with
  | .enabled => p.readSelectors.yzSwitch.floodSwitch.mistSwitch.statusButtons.showLeds
  | .disabled => p.turnOffLeds
  | .enableOngoing => p

/-- `process_inputs`. -/
def processInputs : Pendant := p.mpgButton.readEncoders.mpgInputs

/-- `pendant_mpg_status` after the MPG button has been looked at. -/
def buttonStatus : MpgStatus := p.mpgButton.mpgStatus

/-- `system_status` after the HOLD and CYCLE START buttons have been looked at. -/
def buttonsSystemStatus : BitVec 8 := p.statusButtons.data.systemStatus

/-- The encoder inputs are in use. -/
abbrev reads : Bool := p.status && p.data.mpg

theorem mpgButton_eq :
    ∃ cnts, p.mpgButton = { p with mpgStatus := p.buttonStatus, delayCnts := cnts } := by
  simp only [buttonStatus, mpgButton]
  repeat' split
  all_goals exact ⟨_, rfl⟩

theorem readEncoder_frame (w : Wheel) :
    ∃ data cnt, data.mpg = p.data.mpg ∧ data.spindleMode = p.data.spindleMode ∧
      data.systemStatus = p.data.systemStatus ∧
      p.readEncoder w = { p with data.toPendantData := data, cnt := cnt } := by
  simp only [readEncoder]
  split
  · exact ⟨_, p.cnt, by simp, by simp, by simp, rfl⟩
  · exact ⟨p.data.toPendantData, _, rfl, rfl, rfl, rfl⟩

theorem readEncoder_encoderVal (w v : Wheel) :
    (p.readEncoder w).data.encoderVal v =
      if v = w ∧ p.unlocked w = true then (p.cnt w).setWidth 32 else p.data.encoderVal v := by
  simp only [readEncoder]
  split
  next unlocked => simp [PendantData.encoderVal_setEncoderVal, unlocked]
  next locked => simp [locked]

theorem readEncoder_cnt (w v : Wheel) :
    (p.readEncoder w).cnt v =
      if v = w ∧ p.unlocked w = false then (p.data.encoderVal w).setWidth 16 else p.cnt v := by
  simp only [readEncoder]
  split
  next unlocked => simp [unlocked]
  next locked => simp [locked, Function.update_apply]

theorem readEncoders_frame :
    ∃ data cnt, data.mpg = p.data.mpg ∧ data.spindleMode = p.data.spindleMode ∧
      data.systemStatus = p.data.systemStatus ∧
      p.readEncoders = { p with data.toPendantData := data, cnt := cnt } := by
  simp only [readEncoders]
  split
  · obtain ⟨data, cnt, mpg, spindleMode, systemStatus, eq⟩ := p.readEncoder_frame .x
    obtain ⟨data', cnt', mpg', spindleMode', systemStatus', eq'⟩ :=
      (p.readEncoder .x).readEncoder_frame .yz
    rw [eq] at mpg' spindleMode' systemStatus'
    exact ⟨data', cnt', mpg'.trans mpg, spindleMode'.trans spindleMode,
      systemStatus'.trans systemStatus, by rw [eq', eq]⟩
  · exact ⟨{ p.data.toPendantData with encoder1Val := 0, encoder2Val := 0 }, _, rfl, rfl, rfl, rfl⟩

theorem readEncoders_encoderVal (w : Wheel) :
    p.readEncoders.data.encoderVal w =
      if p.reads then if p.unlocked w then (p.cnt w).setWidth 32 else p.data.encoderVal w
      else 0 := by
  obtain ⟨data, cnt, -, -, -, eq⟩ := p.readEncoder_frame .x
  have same : (p.readEncoder .x).unlocked .yz = p.unlocked .yz := by rw [eq]; rfl
  simp only [readEncoders]
  split
  · rw [readEncoder_encoderVal, readEncoder_encoderVal, readEncoder_cnt, same]
    cases w <;> simp
  · cases w <;> rfl

theorem readEncoders_cnt (w : Wheel) :
    p.readEncoders.cnt w =
      if p.reads then if p.unlocked w then p.cnt w else (p.data.encoderVal w).setWidth 16
      else 0 := by
  obtain ⟨data, cnt, -, -, -, eq⟩ := p.readEncoder_frame .x
  have same : (p.readEncoder .x).unlocked .yz = p.unlocked .yz := by rw [eq]; rfl
  simp only [readEncoders]
  split
  · rw [readEncoder_cnt, readEncoder_cnt, readEncoder_encoderVal, same]
    cases w <;> cases p.unlocked .x <;> cases p.unlocked .yz <;> simp
  · rfl

/-- What `process_inputs` does to the parts of the state that matter to the panel. -/
structure Processed (p' : Pendant) : Prop where
  status : p'.status = p.status
  mpgStatus : p'.mpgStatus = p.buttonStatus
  buttonStates : p'.buttonStates = p.buttonStates
  mpg : p'.data.mpg = p.data.mpg
  encoderVal : ∀ w, p'.data.encoderVal w =
    if p.reads then if p.unlocked w then (p.cnt w).setWidth 32 else p.data.encoderVal w else 0
  cnt : ∀ w, p'.cnt w =
    if p.reads then if p.unlocked w then p.cnt w else (p.data.encoderVal w).setWidth 16 else 0
  spindleMode : p'.data.spindleMode =
    if p.buttonStatus = .enabled then p.getSpindleMode else p.data.spindleMode
  systemStatus : p'.data.systemStatus =
    if p.buttonStatus = .enabled then p.buttonsSystemStatus else p.data.systemStatus

/-- The parts of the state that the inputs depending on the MPG status leave alone. -/
structure SameMotion (q : Pendant) : Prop where
  status : q.status = p.status
  mpgStatus : q.mpgStatus = p.mpgStatus
  buttonStates : q.buttonStates = p.buttonStates
  cnt : q.cnt = p.cnt
  mpg : q.data.mpg = p.data.mpg
  encoderVal : q.data.encoderVal = p.data.encoderVal

variable {p} in
theorem SameMotion.trans {q r : Pendant} (first : p.SameMotion q) (second : q.SameMotion r) :
    p.SameMotion r :=
  ⟨second.status.trans first.status, second.mpgStatus.trans first.mpgStatus,
    second.buttonStates.trans first.buttonStates, second.cnt.trans first.cnt,
    second.mpg.trans first.mpg, second.encoderVal.trans first.encoderVal⟩

theorem encoderVal_congr {data data' : PendantData} (x : data.encoder1Val = data'.encoder1Val)
    (yz : data.encoder2Val = data'.encoder2Val) : data.encoderVal = data'.encoderVal := by
  funext w
  cases w
  · exact x
  · exact yz

theorem readSelectors_sameMotion : p.SameMotion p.readSelectors :=
  ⟨rfl, rfl, rfl, rfl, rfl, encoderVal_congr rfl rfl⟩

theorem yzSwitch_sameMotion : p.SameMotion p.yzSwitch :=
  ⟨rfl, rfl, rfl, rfl, rfl, encoderVal_congr rfl rfl⟩

theorem floodSwitch_sameMotion : p.SameMotion p.floodSwitch :=
  ⟨rfl, rfl, rfl, rfl, rfl, encoderVal_congr rfl rfl⟩

theorem mistSwitch_sameMotion : p.SameMotion p.mistSwitch :=
  ⟨rfl, rfl, rfl, rfl, rfl, encoderVal_congr rfl rfl⟩

theorem statusButtons_sameMotion : p.SameMotion p.statusButtons :=
  ⟨rfl, rfl, rfl, rfl, rfl, encoderVal_congr rfl rfl⟩

theorem mpgInputs_sameMotion : p.SameMotion p.mpgInputs := by
  simp only [mpgInputs]
  split
  · exact ((((p.readSelectors_sameMotion.trans (yzSwitch_sameMotion _)).trans
      (floodSwitch_sameMotion _)).trans (mistSwitch_sameMotion _)).trans
      (statusButtons_sameMotion _)).trans ⟨rfl, rfl, rfl, rfl, rfl, rfl⟩
  · exact ⟨rfl, rfl, rfl, rfl, rfl, rfl⟩
  · exact ⟨rfl, rfl, rfl, rfl, rfl, rfl⟩

theorem mpgInputs_spindleMode :
    p.mpgInputs.data.spindleMode =
      if p.mpgStatus = .enabled then p.getSpindleMode else p.data.spindleMode := by
  simp only [mpgInputs]
  cases p.mpgStatus <;> rfl

theorem mpgInputs_systemStatus :
    p.mpgInputs.data.systemStatus =
      if p.mpgStatus = .enabled then p.buttonsSystemStatus else p.data.systemStatus := by
  simp only [mpgInputs]
  cases p.mpgStatus <;> rfl

theorem processInputs_processed : p.Processed p.processInputs := by
  obtain ⟨cnts, button⟩ := p.mpgButton_eq
  obtain ⟨data, cnt, mpg, spindleMode, systemStatus, read⟩ := p.mpgButton.readEncoders_frame
  have encoderVal := p.mpgButton.readEncoders_encoderVal
  have counter := p.mpgButton.readEncoders_cnt
  have same := p.mpgButton.readEncoders.mpgInputs_sameMotion
  have readStatus : p.mpgButton.readEncoders.mpgStatus = p.buttonStatus := by rw [read]; rfl
  refine ⟨?_, same.mpgStatus.trans readStatus, ?_, ?_, fun w => ?_, fun w => ?_, ?_, ?_⟩
  · rw [processInputs, same.status, read, button]
  · rw [processInputs, same.buttonStates, read, button]
  · rw [processInputs, same.mpg, read, mpg, button]
  · rw [processInputs, same.encoderVal, encoderVal, button]
    rfl
  · rw [processInputs, same.cnt, counter, button]
    rfl
  · rw [processInputs, mpgInputs_spindleMode, readStatus, read, spindleMode, button]
    rfl
  · rw [processInputs, mpgInputs_systemStatus, readStatus, buttonsSystemStatus, statusButtons,
      read, systemStatus, button]
    rfl

end Cnc.Pendant
