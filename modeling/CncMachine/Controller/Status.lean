import CncMachine.Controller.Planner
import CncMachine.Plant.Report
import CncMachine.Text.Number

/-!
# The controller's status reports

`report_realtime_status` writes the state, the position and whatever else the settings ask for.
What seldom changes is written only when a flag of `sys.report` is set, and offsets and overrides
also after a number of reports without them. A report clears all flags.

Numbers that the controller computes in floating point enter as their decimals.
-/

namespace Cnc

open Text

/-- `sys_state_t`; the flags exclude each other. -/
inductive SysState where
  | idle
  | alarm
  | checkMode
  | homing
  | cycle
  | hold
  | jog
  | safetyDoor
  | sleep
  | estop
  | toolChange
deriving DecidableEq, Repr

/-- The states in which the refresh counters start higher. -/
def SysState.busy (state : SysState) : Bool :=
  state == .homing || state == .cycle || state == .hold || state == .jog || state == .safetyDoor

/-- The states in which the MPG mode can be entered. -/
def SysState.free (state : SysState) : Bool :=
  state == .idle || state == .alarm || state == .estop

/-- The states in which the coolant follows the override commands. -/
def SysState.takesCoolant (state : SysState) : Bool :=
  state == .idle || state == .cycle || state == .hold

/-- `hold_state_t`. -/
inductive HoldState where
  | notHolding
  | complete
  | pending
deriving DecidableEq, Repr

def HoldState.code : HoldState → Nat
  | .notHolding => 0
  | .complete => 1
  | .pending => 2

/-- `parking_state_t`. -/
inductive ParkingState where
  | doorClosed
  | doorAjar
  | retracting
  | cancel
  | resuming
deriving DecidableEq, Repr

def ParkingState.code : ParkingState → Nat
  | .doorClosed => 0
  | .doorAjar => 1
  | .retracting => 2
  | .cancel => 3
  | .resuming => 4

/-- `control_signals_t`. -/
structure ControlSignals where
  reset : Bool := false
  feedHold : Bool := false
  cycleStart : Bool := false
  safetyDoorAjar : Bool := false
  blockDelete : Bool := false
  stopDisable : Bool := false
  eStop : Bool := false
  probeDisconnected : Bool := false
  motorFault : Bool := false
  motorWarning : Bool := false
  limitsOverride : Bool := false
  singleBlock : Bool := false
  probeOvertravel : Bool := false
  probeTriggered : Bool := false
  deasserted : Bool := false
deriving DecidableEq

/-- `report_tracking_flags_t`, as far as the report reads it. -/
structure ReportFlags where
  mpgMode : Bool := false
  scaling : Bool := false
  homed : Bool := false
  xmode : Bool := false
  spindle : Bool := false
  coolant : Bool := false
  overrides : Bool := false
  tool : Bool := false
  wco : Bool := false
  gwco : Bool := false
  m66result : Bool := false
  tloReference : Bool := false
  cycleStart : Bool := false
  all : Bool := false
deriving DecidableEq, Repr

/-- `Report_All` as `CMD_STATUS_REPORT_ALL` adds it. -/
def ReportFlags.addAll (f : ReportFlags) (var5399 : Int) : ReportFlags where
  mpgMode := true
  scaling := true
  homed := true
  xmode := true
  spindle := true
  coolant := true
  overrides := true
  tool := true
  wco := true
  gwco := true
  m66result := f.m66result || decide (-2 < var5399)
  tloReference := true
  cycleStart := f.cycleStart
  all := true

/-- `system_add_rt_report`, for any flags. -/
def ReportFlags.add (f g : ReportFlags) : ReportFlags where
  mpgMode := f.mpgMode || g.mpgMode
  scaling := f.scaling || g.scaling
  homed := f.homed || g.homed
  xmode := f.xmode || g.xmode
  spindle := f.spindle || g.spindle
  coolant := f.coolant || g.coolant
  overrides := f.overrides || g.overrides
  tool := f.tool || g.tool
  wco := f.wco || g.wco
  gwco := f.gwco || g.gwco
  m66result := f.m66result || g.m66result
  tloReference := f.tloReference || g.tloReference
  cycleStart := f.cycleStart || g.cycleStart
  all := f.all || g.all

/-- The settings that decide what is reported, and what the driver says it can do. -/
structure ReportSettings where
  machinePosition : Bool := true
  bufferState : Bool := true
  lineNumbers : Bool := true
  feedSpeed : Bool := true
  pinState : Bool := true
  workCoordOffset : Bool := true
  overrides : Bool := true
  alarmSubstate : Bool := false
  runSubstate : Bool := false
  reportInterval : Nat := 0
  lathe : Bool := false
  singleAxisCommands : Bool := false
  manualHoming : Bool := false
  variableSpindle : Bool := true
  spindleSync : Bool := false
  safetyDoorCap : Bool := false
  stopDisableCap : Bool := false
  blockDeleteCap : Bool := false
  singleBlockCap : Bool := false
deriving DecidableEq

/-- What a report reads of the machine and of the interpreter. A hold that is reported is under
way. -/
structure Machine where
  state : SysState := .idle
  /-- `gc_state.tool_change`. -/
  toolChange : Bool := false
  feedHoldPending : Bool := false
  /-- `sys.probing_state == Probing_Active`. -/
  probingActive : Bool := false
  probeTriggered : Bool := false
  probeConnected : Bool := true
  holdingState : HoldState := .notHolding
  alarm : BitVec 8 := 0
  parkingState : ParkingState := .doorClosed
  mpos : Axis → Decimal
  wpos : Axis → Decimal
  wco : Axis → Decimal
  blockBufferAvailable : Nat := 0
  rxBufferFree : Nat := 0
  /-- `line_number` of the planner's current block. -/
  lineNumber : Option Int := none
  realtimeRate : Nat := 0
  rpmOverridden : Nat := 0
  rpmActual : Option Nat := none
  encoderError : Bool := false
  limits : Axis → Bool := fun _ => false
  control : ControlSignals := {}
  blockDeleteEnabled : Bool := false
  optionalStopDisable : Bool := false
  singleBlock : Bool := false
  /-- `gc_state.modal.coord_system.id`. -/
  coordSystem : Nat := 0
  /-- `gc_get_g51_state`. -/
  g51 : Axis → Bool := fun _ => false
  homing : Axis → Bool := fun _ => false
  homed : Axis → Bool := fun _ => false
  diameterMode : Bool := false
  toolId : Nat := 0
  tloReferenceSet : Bool := false
  var5399 : Int := -2
  blockingEvent : Bool := false
  /-- What the plugins write in `grbl.on_realtime_report`. -/
  plugins : List (List Char) := []
  holding : state = .hold → holdingState ≠ .notHolding := by decide

/-- `sys.override`, in percent; the spindle's own is in `param->override_pct`. -/
structure Overrides where
  feedRate : Nat := 100
  rapidRate : Nat := 100
  spindle : Nat := 100
deriving DecidableEq, Repr

/-- The static variables of `report.c`. -/
structure Reporter where
  wcoCounter : Nat := 0
  overrideCounter : Nat := 0
  probing : Bool := false
deriving DecidableEq, Repr

/-- `REPORT_WCO_REFRESH_BUSY_COUNT`. -/
abbrev wcoRefreshBusyCount : Nat := 30

/-- `REPORT_WCO_REFRESH_IDLE_COUNT`. -/
abbrev wcoRefreshIdleCount : Nat := 10

/-- `REPORT_OVERRIDE_REFRESH_BUSY_COUNT`. -/
abbrev overrideRefreshBusyCount : Nat := 20

/-- `REPORT_OVERRIDE_REFRESH_IDLE_COUNT`. -/
abbrev overrideRefreshIdleCount : Nat := 10

/-- `uitoa`. -/
def uitoa (n : Nat) : List Char := Nat.toDigits 10 n

/-- `get_axis_values`. -/
def axisValues (v : Axis → Decimal) : List Char :=
  (v .x).text ++ ',' :: ((v .y).text ++ ',' :: (v .z).text)

/-- `axis_signals_tostring`. -/
def axisSignalsToString (on : Axis → Bool) : List Char :=
  (if on .x then ['X'] else []) ++ (if on .y then ['Y'] else []) ++ if on .z then ['Z'] else []

/-- `control_signals_tostring`, with the letters of its `signals_map`. -/
def controlSignalsToString (safetyDoorCap : Bool) (signals : ControlSignals) : List Char :=
  if signals.deasserted then []
  else
    ([(signals.reset, 'R'), (signals.feedHold, 'H'), (signals.cycleStart, 'S'),
      (signals.safetyDoorAjar && safetyDoorCap, 'D'), (signals.blockDelete, 'L'),
      (signals.stopDisable, 'T'), (signals.eStop, 'E'), (signals.probeDisconnected, 'O'),
      (signals.motorFault, 'F'), (signals.motorWarning, 'M'), (signals.singleBlock, 'Q'),
      (signals.probeTriggered, 'P')].filter (·.1)).map (·.2)

/-- `map_coord_system`. -/
def mapCoordSystem (id : Nat) : List Char :=
  let g5x := (id + 54) % 256
  if 59 < g5x then "59.".toList ++ uitoa (g5x - 59) else uitoa g5x

variable (settings : ReportSettings) (m : Machine) (report : ReportFlags)

/-- The static `probing`. -/
def Reporter.nextProbing (r : Reporter) : Bool :=
  if m.state = .cycle ∧ m.toolChange = false then
    if m.probingActive && settings.runSubstate then true
    else if r.probing then m.probeTriggered
    else r.probing
  else r.probing

/-- The state and its substate. -/
def stateText (probing : Bool) : List Char :=
  match m.state with
  | .idle => "Idle".toList
  | .cycle =>
      if m.toolChange then "Tool".toList
      else "Run".toList ++
        if m.feedHoldPending then ":1".toList else if probing then ":2".toList else []
  | .hold => "Hold:".toList ++ uitoa ((m.holdingState.code + (2 ^ 32 - 1)) % 2 ^ 32)
  | .jog => "Jog".toList
  | .homing => "Home".toList
  | .estop | .alarm =>
      if (report.all || settings.alarmSubstate) && m.alarm != 0 then
        "Alarm:".toList ++ uitoa m.alarm.toNat
      else "Alarm".toList
  | .checkMode => "Check".toList
  | .safetyDoor => "Door:".toList ++ uitoa m.parkingState.code
  | .sleep => "Sleep".toList
  | .toolChange => "Tool".toList

def positionField : List Char :=
  if settings.machinePosition then "MPos:".toList ++ axisValues m.mpos
  else "WPos:".toList ++ axisValues m.wpos

def bufferField : List (List Char) :=
  if settings.bufferState then
    ["Bf:".toList ++ uitoa m.blockBufferAvailable ++ ',' :: uitoa m.rxBufferFree]
  else []

def lineNumberField : List (List Char) :=
  match m.lineNumber with
  | some n => if settings.lineNumbers ∧ 0 < n then ["Ln:".toList ++ uitoa n.toNat] else []
  | none => []

def feedSpeedField (accessories : Accessories) : List (List Char) :=
  if settings.feedSpeed then
    if settings.variableSpindle then
      ["FS:".toList ++ uitoa m.realtimeRate ++
        ',' :: (uitoa (if accessories.spindleOn then m.rpmOverridden else 0) ++
          match m.rpmActual with
          | some rpm => ',' :: uitoa rpm
          | none => [])]
    else ["F:".toList ++ uitoa m.realtimeRate]
  else []

/-- `ctrl_pin_state`. -/
def controlPins (cycleStart : Bool) : ControlSignals :=
  let pins := { m.control with
    probeTriggered := m.probeTriggered
    probeDisconnected := !m.probeConnected
    cycleStart := m.control.cycleStart || cycleStart }
  if m.blockDeleteEnabled || m.optionalStopDisable || m.singleBlock then
    { pins with
      stopDisable := if settings.stopDisableCap then pins.stopDisable else m.optionalStopDisable
      blockDelete := if settings.blockDeleteCap then pins.blockDelete else m.blockDeleteEnabled
      singleBlock := if settings.singleBlockCap then pins.singleBlock else m.singleBlock }
  else pins

/-- The letters of the pins. -/
def pinLetters (cycleStart : Bool) : List Char :=
  let pins := controlPins settings m cycleStart
  (if pins.limitsOverride then [] else axisSignalsToString m.limits) ++
    controlSignalsToString settings.safetyDoorCap pins

def pinField (cycleStart : Bool) : List (List Char) :=
  let limits := m.limits .x || m.limits .y || m.limits .z
  if settings.pinState ∧ (limits = true ∨ controlPins settings m cycleStart ≠ {}) then
    ["Pn:".toList ++ pinLetters settings m cycleStart]
  else []

/-- The flags of this report once the refresh counters have had their say, and the counters. -/
def Reporter.refresh (r : Reporter) (accessories : Accessories) : ReportFlags × Reporter :=
  let (wco, wcoCounter) :=
    if settings.workCoordOffset then
      if 0 < r.wcoCounter ∧ report.wco = false then
        let counter :=
          if wcoRefreshIdleCount - 1 < r.wcoCounter ∧ m.state = .idle then wcoRefreshIdleCount - 1
          else r.wcoCounter
        (false, counter - 1)
      else
        (report.wco, if m.state.busy then wcoRefreshBusyCount - 1 else wcoRefreshIdleCount - 1)
    else (false, r.wcoCounter)
  let report := { report with wco := wco }
  let r := { r with wcoCounter := wcoCounter, probing := r.nextProbing settings m }
  if settings.overrides then
    if 0 < r.overrideCounter ∧ report.overrides = false then
      (report, { r with overrideCounter := r.overrideCounter - 1 })
    else if wco then ({ report with overrides := false }, r)
    else
      ({ report with
          overrides := true
          spindle := report.spindle || accessories.spindleOn
          coolant := report.coolant || (accessories.flood || accessories.mist) },
        { r with
          overrideCounter :=
            if m.state.busy then overrideRefreshBusyCount - 1
            else overrideRefreshIdleCount - 1 })
  else ({ report with overrides := false }, r)

def accessoriesField (accessories : Accessories) : List (List Char) :=
  if report.spindle || report.coolant || report.tool || m.toolChange then
    ["A:".toList ++
      ((if accessories.spindleOn then [if accessories.spindleCcw then 'C' else 'S'] else []) ++
        (if m.encoderError && settings.spindleSync then ['E'] else []) ++
        (if accessories.flood then ['F'] else []) ++ (if accessories.mist then ['M'] else []) ++
        (if m.toolChange && !report.tool then ['T'] else []))]
  else []

def autoReportField (autoReporting : Bool) : List (List Char) :=
  if (report.all || report.mpgMode) && settings.reportInterval != 0 then
    [if autoReporting then "AR:".toList ++ uitoa settings.reportInterval else "AR".toList]
  else []

/-- The number of a set of axes. -/
def axisMask (on : Axis → Bool) : Nat :=
  (on .x).toNat + 2 * (on .y).toNat + 4 * (on .z).toNat

def homedField : List (List Char) :=
  let some := m.homing .x || m.homing .y || m.homing .z
  let homing (a : Axis) : Bool := if some then m.homing a else true
  let missing (a : Axis) : Bool := homing a && !m.homed a
  if report.homed && (some || settings.singleAxisCommands || settings.manualHoming) then
    ["H:".toList ++ (if missing .x || missing .y || missing .z then "0".toList else "1".toList) ++
      if settings.singleAxisCommands then ',' :: uitoa (axisMask m.homed) else []]
  else []

def inputField : List (List Char) :=
  if report.m66result ∧ -2 < m.var5399 then
    [if 0 ≤ m.var5399 then "In:".toList ++ uitoa m.var5399.toNat else "In:-1".toList]
  else []

/-- A field that is there if a flag is set. -/
def flagged (flag : Bool) (field : List Char) : List (List Char) := if flag then [field] else []

/-- All fields behind the position. -/
def statusFields (accessories : Accessories) (overrides : Overrides)
    (mpgMode autoReporting cycleStart : Bool) : List (List Char) :=
  bufferField settings m ++ lineNumberField settings m ++ feedSpeedField settings m accessories ++
    pinField settings m cycleStart ++
    flagged report.wco ("WCO:".toList ++ axisValues m.wco) ++
    flagged report.gwco ("WCS:G".toList ++ mapCoordSystem m.coordSystem) ++
    flagged report.overrides ("Ov:".toList ++ uitoa overrides.feedRate ++
      ',' :: (uitoa overrides.rapidRate ++ ',' :: uitoa overrides.spindle)) ++
    accessoriesField settings m report accessories ++
    flagged report.scaling ("Sc:".toList ++ axisSignalsToString m.g51) ++
    autoReportField settings report autoReporting ++
    flagged report.mpgMode (if mpgMode then "MPG:1".toList else "MPG:0".toList) ++
    homedField settings m report ++
    flagged (report.xmode && settings.lathe)
      (if m.diameterMode then "D:1".toList else "D:0".toList) ++
    flagged report.tool ("T:".toList ++ uitoa m.toolId) ++
    flagged report.tloReference
      ("TLR:".toList ++ if m.tloReferenceSet then "1".toList else "0".toList) ++
    inputField m report ++ m.plugins ++
    flagged report.all "FW:grblHAL".toList ++
    flagged (report.all && m.blockingEvent) "$C:1".toList

/-- The whole line. -/
def statusText (probing : Bool) (accessories : Accessories) (overrides : Overrides)
    (mpgMode autoReporting cycleStart : Bool) : List Char :=
  '<' :: (joined '|' (stateText settings m report probing :: positionField settings m ::
    statusFields settings m report accessories overrides mpgMode autoReporting cycleStart) ++
      ">\r\n".toList)

end Cnc
