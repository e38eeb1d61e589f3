import CncMachine.Panel.Sender

/-!
# From pendant frames to controller packets

`process_pendant_data_to_action` compares the frame in `pendant_data` with the previous one,
follows the pendant's MPG flag and, when the pendant function is enabled, calls
`pendant_data_to_action`, which sends the packets the frame asks for. The model returns the
argument of that call next to the new state, so that a statement can speak of the call itself.
-/

namespace Cnc

/-- `pendant_action_t`. The two differences are 16-bit signed values. -/
structure PendantAction where
  encoder1ValDiff : BitVec 16 := 0
  encoder2ValDiff : BitVec 16 := 0
  xAxisMultiplicity : BitVec 8 := 0
  yzAxisMultiplicity : BitVec 8 := 0
  yOrZ : Bool := false
  jogMode : BitVec 8 := 0
  spindleMode : BitVec 8 := 0
  systemStatus : BitVec 8 := 0
  mpg : Bool := false
  flood : Bool := false
  mist : Bool := false
deriving DecidableEq, Repr

/-- `encoder1_val_diff` or `encoder2_val_diff`. -/
def PendantAction.encoderValDiff (action : PendantAction) : Wheel → BitVec 16
  | .x => action.encoder1ValDiff
  | .yz => action.encoder2ValDiff

/-- The four branches that compute one `encoder_val_diff`: unsigned 32-bit arithmetic, of which
the assignment keeps the low 16 bits. A jump of 300 counts or more is taken for a wrap. -/
def encoderValDiff (last current : BitVec 32) : BitVec 16 :=
  if current > last ∧ current - last < 300 then (current - last).setWidth 16
  else if current > last then (-((0xFFFF - current) + last)).setWidth 16
  else if current < last ∧ last - current < 300 then (current - last).setWidth 16
  else if current < last then (-((0xFFFF - last) + current)).setWidth 16
  else 0

namespace Panel

/-- The jog packet of `pendant_data_to_action`, unless both distances are zero. -/
def movementPackets (s : Panel) (data : PendantAction) : List Packet :=
  let xMovement :=
    data.encoder1ValDiff.toInt * s.mpgSettings.xAxisMultiplicity data.xAxisMultiplicity.toNat
  let yzMovement :=
    data.encoder2ValDiff.toInt * s.mpgSettings.yzAxisMultiplicity data.yzAxisMultiplicity.toNat
  if xMovement ≠ 0 ∨ yzMovement ≠ 0 then
    [.jog xMovement (if data.yOrZ = yzMovementY then 'Y' else 'Z') yzMovement
      (s.mpgSettings.jogSpeeds data.jogMode.toNat)]
  else []

/-- The local `spindle_mode` of `pendant_data_to_action`: the M code to send, or 0. -/
def spindleCode (s : Panel) (data : PendantAction) : Nat :=
  if s.grblData.spindleOn && data.spindleMode == spindleModeOff then 5
  else if !s.grblData.spindleOn && data.spindleMode == spindleModeCw then 3
  else if !s.grblData.spindleOn && data.spindleMode == spindleModeCcw then 4
  else 0

def spindlePackets (s : Panel) (data : PendantAction) : List Packet :=
  if s.spindleCode data ≠ 0 then [.spindle (s.spindleCode data) s.mpgSettings.spindleSpeed] else []

def coolantPackets (s : Panel) (data : PendantAction) : List Packet :=
  (if data.flood ≠ s.grblData.flood then [.coolantFloodToggle] else []) ++
    (if data.mist ≠ s.grblData.mist then [.coolantMistToggle] else [])

/-- The hold and cycle start part reads the status of the frame in the global `pendant_data`. -/
def systemPackets (s : Panel) : List Packet :=
  if s.pendantData.systemStatus = GrblState.idle.code ∧ s.grblData.state ≠ .idle ∧
      s.grblData.state ≠ .run ∧ s.grblData.state ≠ .jog then [.cycleStart]
  else if s.pendantData.systemStatus = GrblState.hold.code ∧ s.grblData.state ≠ .hold ∧
      s.grblData.state ≠ .alarm ∧ s.grblData.state ≠ .check ∧ s.grblData.state ≠ .door ∧
      s.grblData.state ≠ .sleep then [.feedHold]
  else []

/-- `pendant_data_to_action`: the packets it hands to `grbl_send_packet`, in order. -/
def pendantDataToAction (s : Panel) (data : PendantAction) : List Packet :=
  s.movementPackets data ++ s.spindlePackets data ++ s.coolantPackets data ++ s.systemPackets

section

variable {s : Panel} {data : PendantAction} {packet : Packet}

theorem mem_movementPackets (member : packet ∈ s.movementPackets data) :
    ∃ x yOrZ yz feed, packet = .jog x yOrZ yz feed := by
  simp only [movementPackets] at member
  split at member
  · exact ⟨_, _, _, _, List.mem_singleton.mp member⟩
  · cases member

theorem mem_spindlePackets (member : packet ∈ s.spindlePackets data) :
    packet = .spindle (s.spindleCode data) s.mpgSettings.spindleSpeed ∧ s.spindleCode data ≠ 0 := by
  simp only [spindlePackets] at member
  split at member
  next code => exact ⟨List.mem_singleton.mp member, code⟩
  next => cases member

theorem mem_coolantPackets (member : packet ∈ s.coolantPackets data) :
    (packet = .coolantFloodToggle ∧ data.flood ≠ s.grblData.flood) ∨
    (packet = .coolantMistToggle ∧ data.mist ≠ s.grblData.mist) := by
  rw [coolantPackets, List.mem_append] at member
  obtain flood | mist := member
  · split at flood
    next differs => exact .inl ⟨List.mem_singleton.mp flood, differs⟩
    next => cases flood
  · split at mist
    next differs => exact .inr ⟨List.mem_singleton.mp mist, differs⟩
    next => cases mist

theorem mem_systemPackets (member : packet ∈ s.systemPackets) :
    (packet = .cycleStart ∧ s.pendantData.systemStatus = GrblState.idle.code ∧
      s.grblData.state ≠ .idle ∧ s.grblData.state ≠ .run ∧ s.grblData.state ≠ .jog) ∨
    (packet = .feedHold ∧ s.pendantData.systemStatus = GrblState.hold.code) := by
  simp only [systemPackets] at member
  split at member
  next resumes => exact .inl ⟨List.mem_singleton.mp member, resumes⟩
  next =>
    split at member
    next holds => exact .inr ⟨List.mem_singleton.mp member, holds.1⟩
    next => cases member

/-- What a packet of `pendant_data_to_action` can be, and what it is sent for. -/
theorem mem_pendantDataToAction (member : packet ∈ s.pendantDataToAction data) :
    (∃ x yOrZ yz feed, packet = .jog x yOrZ yz feed) ∨
    (packet = .spindle (s.spindleCode data) s.mpgSettings.spindleSpeed ∧ s.spindleCode data ≠ 0) ∨
    (packet = .coolantFloodToggle ∧ data.flood ≠ s.grblData.flood) ∨
    (packet = .coolantMistToggle ∧ data.mist ≠ s.grblData.mist) ∨
    (packet = .cycleStart ∧ s.pendantData.systemStatus = GrblState.idle.code ∧
      s.grblData.state ≠ .idle ∧ s.grblData.state ≠ .run ∧ s.grblData.state ≠ .jog) ∨
    (packet = .feedHold ∧ s.pendantData.systemStatus = GrblState.hold.code) := by
  simp only [pendantDataToAction, List.mem_append] at member
  obtain ((movement | spindle) | coolant) | system := member
  · exact .inl (mem_movementPackets movement)
  · exact .inr (.inl (mem_spindlePackets spindle))
  · obtain flood | mist := mem_coolantPackets coolant
    · exact .inr (.inr (.inl flood))
    · exact .inr (.inr (.inr (.inl mist)))
  · exact .inr (.inr (.inr (.inr (mem_systemPackets system))))

end

/-- The local `action` before the MPG control logic: differences to the saved frame and copies
of the other fields. -/
def frameAction (s : Panel) : PendantAction where
  encoder1ValDiff := encoderValDiff s.lastData.encoder1Val s.pendantData.encoder1Val
  encoder2ValDiff := encoderValDiff s.lastData.encoder2Val s.pendantData.encoder2Val
  xAxisMultiplicity := s.pendantData.xAxisMultiplicity
  yzAxisMultiplicity := s.pendantData.yzAxisMultiplicity
  yOrZ := s.pendantData.yOrZ
  spindleMode := s.pendantData.spindleMode
  jogMode := s.pendantControl.jogMode
  systemStatus := s.pendantData.systemStatus
  flood := s.pendantData.flood
  mist := s.pendantData.mist

/-- The statement `if(current_data.mpg) ... else ...` of `process_pendant_data_to_action`, on the
globals and the locals `current_data` and `action`. -/
def pendantMpgControl (tx : Tx) (s : Panel) (current : PendantData) (action : PendantAction) :
    Panel × PendantData × PendantAction :=
  if current.mpg then
    -- the pendant asks for MPG mode, which is off and not being enabled
    if !s.grblData.mpgMode && !s.grblData.mpgEnableOngoing then
      let s := { s with
        pendantControl.mpgStatus := .enableOngoing
        pendantData.mpg := false
        pendantData.encoder1Val := 0
        pendantData.encoder2Val := 0 }
      ((s.enableMpg tx).1,
        { current with mpg := false, encoder1Val := 0, encoder2Val := 0 },
        { action with encoder1ValDiff := 0, encoder2ValDiff := 0 })
    else if s.grblData.mpgMode then
      ({ s with pendantControl.mpgStatus := .enabled }, current, action)
    -- being enabled: `mpg_status` is left as it is
    else (s, current, action)
  else
    ({ s with
        pendantControl.mpgStatus := .disabled
        pendantData.encoder1Val := 0
        pendantData.encoder2Val := 0 },
      { current with encoder1Val := 0, encoder2Val := 0 },
      { action with encoder1ValDiff := 0, encoder2ValDiff := 0 })

/-- `process_pendant_data_to_action`, with the argument it calls `pendant_data_to_action` with,
if it does. -/
def processPendantDataToAction (tx : Tx) (s : Panel) : Panel × Option PendantAction :=
  let (s, current, action) := s.pendantMpgControl tx s.pendantData s.frameAction
  let action := { action with mpg := current.mpg }
  if s.pendantControl.status && s.pendantControl.mpgStatus == .enabled then
    ({ s.transmitAll tx (s.pendantDataToAction action) with lastData := current }, some action)
  else ({ s with lastData := current }, none)

/-- The frame is handed to `pendant_data_to_action`: with MPG mode on the pendant function is
(re)enabled first, and while it is being enabled an `ENABLED` of before is still honoured. -/
def Acts (s : Panel) : Prop :=
  s.pendantData.mpg = true ∧ s.pendantControl.status = true ∧
    (s.grblData.mpgMode = true ∨
      s.grblData.mpgEnableOngoing = true ∧ s.pendantControl.mpgStatus = .enabled)

instance (s : Panel) : Decidable s.Acts := inferInstanceAs (Decidable (_ ∧ _))

/-- The argument of `pendant_data_to_action` when it is called. -/
def actedAction (s : Panel) : PendantAction := { s.frameAction with mpg := true }

/-- The record that `process_pendant_data_to_action` saves for the next frame. -/
def savedData (s : Panel) : PendantData :=
  if s.pendantData.mpg && (s.grblData.mpgMode || s.grblData.mpgEnableOngoing) then s.pendantData
  else { s.pendantData with mpg := false, encoder1Val := 0, encoder2Val := 0 }

/-- `mpg_status` after a frame. -/
def nextMpgStatus (s : Panel) : MpgStatus :=
  if !s.pendantData.mpg then .disabled
  else if s.grblData.mpgMode then .enabled
  else if s.grblData.mpgEnableOngoing then s.pendantControl.mpgStatus
  else .enableOngoing

/-- The frame makes the panel call `enable_mpg`. -/
def RequestsMpg (s : Panel) : Prop :=
  s.pendantData.mpg = true ∧ s.grblData.mpgMode = false ∧ s.grblData.mpgEnableOngoing = false

instance (s : Panel) : Decidable s.RequestsMpg := inferInstanceAs (Decidable (_ ∧ _))

/-- The call of `enable_mpg` that a frame makes. -/
def requestCall (s : Panel) : Option Bool := if s.RequestsMpg then some true else none

/-- The packets of `pendant_data_to_action`, when it is called. -/
def actionPackets (s : Panel) : List Packet :=
  if s.Acts then s.pendantDataToAction s.actedAction else []

variable (tx : Tx) (s : Panel)

/-- Exactly the frames that satisfy `Acts` reach `pendant_data_to_action`. -/
theorem process_invokes :
    (s.processPendantDataToAction tx).2 = if s.Acts then some s.actedAction else none := by
  obtain ⟨menu, ⟨_, _, mpgStatus, status, _, _, _⟩, ⟨_, _, _, _, _, _, _, _, mpg, _, _⟩, last,
    ⟨_, _, _, _, _, _, _, mode, enabling, _⟩, _, _, _⟩ := s
  cases mpg <;> cases mode <;> cases enabling <;> cases status <;> cases mpgStatus <;>
    simp [processPendantDataToAction, pendantMpgControl, enableMpg_eq, Acts, actedAction,
      frameAction]

/-- Everything a frame changes, whichever branches it takes. -/
theorem process_eq :
    (s.processPendantDataToAction tx).1 =
      { s with
        pendantControl.mpgStatus := s.nextMpgStatus
        pendantData := s.savedData
        lastData := s.savedData
        grblData := s.grblData.afterCall s.requestCall
        controllerLine := s.controllerLine ++ s.grblData.callPackets tx s.requestCall ++
          s.actionPackets.filter tx } := by
  obtain ⟨menu, ⟨_, _, mpgStatus, status, _, _, _⟩, ⟨_, _, _, _, _, _, _, _, mpg, _, _⟩, last,
    ⟨_, _, _, _, _, _, _, mode, enabling, _⟩, _, _, _⟩ := s
  cases mpg <;> cases mode <;> cases enabling <;> cases status <;> cases mpgStatus <;>
    simp [processPendantDataToAction, pendantMpgControl, enableMpg_eq, transmitAll, Acts,
      RequestsMpg, requestCall, actionPackets, GrblData.afterCall, GrblData.callPackets,
      GrblData.attempts, nextMpgStatus, savedData] <;> rfl

end Panel

end Cnc
