import Mathlib.Data.Fin.VecNotation
import CncMachine.Data

/-!
# State of the control panel

One record for each global structure of the panel's firmware, and `Panel` for all of them
together with the `static` data of `process_pendant_data_to_action` and the two serial lines
the panel writes to. A line holds what has been handed to the UART and not yet been taken by
the board at its other end.
-/

namespace Cnc

/-- The panel's buttons, in the order of their channels. -/
inductive Button where
  | up
  | down
  | left
  | right
  | enter
  | back
deriving DecidableEq, Repr

/-- `menu_controller_t`. The entry points for touches keep the first point only: no function
reads another one. `level_indexes` and `button_delay_cnts` are tables. -/
structure MenuController where
  level : Nat := 0
  levelIndexes : Nat → BitVec 16 := fun _ => 0
  menuCnt : BitVec 8 := 0
  enterMenu : Bool := false
  buttonDelay : BitVec 8 := 0
  buttonDelayCnts : Button → BitVec 8 := fun _ => 0
  touchPointCnt : BitVec 8 := 0
  touchPoint : BitVec 16 × BitVec 16 := (0, 0)
  brightnessValue : Int := 0
  enteredManualMode : Bool := false

/-- `pendant_control_t`. -/
structure PendantControl where
  counter : BitVec 8 := 0
  commCnt : BitVec 8 := 0
  mpgStatus : MpgStatus := .disabled
  status : Bool := false
  turnOffMpg : Bool := false
  requestAnswered : Bool := false
  jogMode : BitVec 8 := 1
deriving DecidableEq, Repr

/-- The fields of `grbl_data_t` that reports set and the panel's logic reads: the machine state
`grbl`, `spindle.state`, `coolant` and the three MPG flags. -/
structure GrblData where
  state : GrblState := .unknown
  substate : BitVec 8 := 0
  stateText : List Char := []
  spindleOn : Bool := false
  spindleCcw : Bool := false
  flood : Bool := false
  mist : Bool := false
  mpgMode : Bool := false
  mpgEnableOngoing : Bool := false
  mpgDisableOngoing : Bool := false
deriving DecidableEq, Repr

/-- The tables of `mpg_settings`, of three entries each. -/
inductive Table where
  | xAxisMultiplicity
  | yzAxisMultiplicity
  | jogSpeeds
deriving DecidableEq, Repr

/-- `mpg_settings_t`. Distances are in hundredths of a millimetre. -/
structure MpgSettings where
  xAxisEntries : Fin 3 → Int
  yzAxisEntries : Fin 3 → Int
  jogSpeedEntries : Fin 3 → Int
  spindleSpeed : Int
  /-- What is found beyond the tables, where bytes of another type or other memory lie; as a whole
  number of hundredths again. -/
  memory : Table → Nat → Int

namespace MpgSettings

variable (m : MpgSettings) (index : Nat)

/-- `x_axis_multiplicity[index]`. Nothing checks the index, and `yz_axis_multiplicity` is what
follows in memory. -/
def xAxisMultiplicity : Int :=
  if own : index < 3 then m.xAxisEntries ⟨index, own⟩
  else if next : index - 3 < 3 then m.yzAxisEntries ⟨index - 3, next⟩
  else m.memory .xAxisMultiplicity index

/-- `yz_axis_multiplicity[index]`. -/
def yzAxisMultiplicity : Int :=
  if own : index < 3 then m.yzAxisEntries ⟨index, own⟩
  else m.memory .yzAxisMultiplicity index

/-- `jog_speeds[index]`; the spindle speed follows. -/
def jogSpeeds : Int :=
  if own : index < 3 then m.jogSpeedEntries ⟨index, own⟩
  else if index = 3 then m.spindleSpeed
  else m.memory .jogSpeeds index

/-- The distance that the indexes of a frame select for the axis of a wheel. -/
def axisStep (data : PendantData) : Wheel → Int
  | .x => m.xAxisMultiplicity data.xAxisMultiplicity.toNat
  | .yz => m.yzAxisMultiplicity data.yzAxisMultiplicity.toNat

/-- The initialiser of `mpg_settings`. -/
def default (memory : Table → Nat → Int) : MpgSettings where
  xAxisEntries := ![1, 10, 100]
  yzAxisEntries := ![1, 10, 100]
  jogSpeedEntries := ![500, 750, 1000]
  spindleSpeed := 1000
  memory := memory

end MpgSettings

structure Panel where
  menu : MenuController := {}
  pendantControl : PendantControl := {}
  pendantData : PendantData := {}
  /-- The `static pendant_data_t data` of `process_pendant_data_to_action`. -/
  lastData : PendantData := {}
  grblData : GrblData := {}
  mpgSettings : MpgSettings := .default fun _ _ => 0
  /-- Packets on the controller's line. -/
  controllerLine : List Packet := []
  /-- Requests on the pendant's line. -/
  pendantLine : List (List Char) := []

/-- Everything the panel decides about the MPG handshake with the controller. -/
abbrev GrblData.mpgFlags (g : GrblData) : Bool × Bool × Bool :=
  (g.mpgMode, g.mpgEnableOngoing, g.mpgDisableOngoing)

end Cnc
