import CncMachine.Data
import CncMachine.Text.Scan

/-!
# State of the pendant

The pendant samples its switches into one data record and sends a copy of it whenever the control
panel asks. Its two encoders are counted by 16-bit timers. The state of a switch is the one that
the debouncer has settled on; after a reset the debouncer takes every switch for pressed.
-/

namespace Cnc

/-- The debouncer's channels. -/
inductive Channel where
  | spindle3PosSwNc1
  | spindle3PosSwNc2
  | xAxisMultiplierSwNc1
  | xAxisMultiplierSwNc2
  | yzAxisMultiplierSwNc1
  | yzAxisMultiplierSwNc2
  | yzSw
  | mpgBut
  | holdBut
  | cycleStartBut
  | floodSw
  | mistSw
  | lockXAxisSw
  | lockYzAxisSw
deriving DecidableEq, Repr

/-- The switch that locks the axis of a handwheel. -/
def Wheel.lockSw : Wheel → Channel
  | .x => .lockXAxisSw
  | .yz => .lockYzAxisSw

/-- The inputs that act after a delay only. -/
inductive DelayChannel where
  | yOrZBut
  | mpgBut
  | floodBut
  | mistBut
deriving DecidableEq, Repr

inductive Led where
  | flood
  | mist
  | cycleStart
  | hold
  | mpgOn
  | yzSwY
  | yzSwZ
  | spindleCw
  | spindleCcw
  | xAxisMultiplier (position : Fin 3)
  | yzAxisMultiplier (position : Fin 3)
deriving DecidableEq, Repr

/-- `button_delay_action_cnt`. -/
abbrev buttonDelayActionCnt : BitVec 8 := 200 / 50

structure Pendant where
  /-- `pendant_status`. -/
  status : Bool := false
  /-- `pendant_mpg_status`. -/
  mpgStatus : MpgStatus := .disabled
  /-- `pendant_data`. -/
  data : SystemData := {}
  /-- The counters of the encoder timers. -/
  cnt : Wheel → BitVec 16 := fun _ => 0
  /-- `but_stat_channels`. -/
  buttonStates : Channel → PinState := fun _ => .reset
  /-- `button_action_delay_cnt_ch`. -/
  delayCnts : DelayChannel → BitVec 8 := fun _ => 0
  yOrZLastState : Bool := false
  leds : Led → Bool := fun _ => false

namespace Pendant

variable (p : Pendant)

/-- `get_button_state(channel) == GPIO_PIN_RESET`. -/
def pressed (channel : Channel) : Bool := p.buttonStates channel == .reset

/-- The axis of the handwheel is not locked. -/
abbrev unlocked (w : Wheel) : Bool := p.pressed w.lockSw

/-- The common body of `get_spindle_mode` and its two siblings: the position of a three-way switch,
read from its two contacts. -/
def getPosition (nc1 nc2 : Channel) : BitVec 8 :=
  if p.pressed nc1 && p.pressed nc2 then 0
  else if p.pressed nc1 then 1
  else if p.pressed nc2 then 2
  else 0

/-- `get_spindle_mode`. -/
def getSpindleMode : BitVec 8 := p.getPosition .spindle3PosSwNc1 .spindle3PosSwNc2

/-- `get_x_axis_multiplier`. -/
def getXAxisMultiplier : BitVec 8 := p.getPosition .xAxisMultiplierSwNc1 .xAxisMultiplierSwNc2

/-- `get_yz_axis_multiplier`. -/
def getYzAxisMultiplier : BitVec 8 := p.getPosition .yzAxisMultiplierSwNc1 .yzAxisMultiplierSwNc2

end Pendant

end Cnc
