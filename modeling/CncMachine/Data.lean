import Mathlib.Logic.Function.Basic

/-!
# Data shared by the boards

The control panel polls the pendant with a text request and is answered with a raw copy of the
pendant's data record; it drives the grblHAL controller with short packets on another serial
line. This module has the records and constants both ends of these lines use. C integers keep
their width (`BitVec 8`, `BitVec 16`, `BitVec 32`), `bool` is `Bool` and enumerations are
inductive types with the value the source gives them as `code`.
-/

namespace Cnc

/-- `mpg_status` of the panel and `pendant_mpg_status` of the pendant. -/
inductive MpgStatus where
  | disabled
  | enabled
  | enableOngoing
deriving DecidableEq, Repr

/-- `MPG_STATUS_DISABLED`, `MPG_STATUS_ENABLED` and `MPG_STATUS_ENABLE_ONGOING`. -/
def MpgStatus.code : MpgStatus → Nat
  | disabled => 0
  | enabled => 1
  | enableOngoing => 2

/-- `grbl_state_t`, declared alike on both boards. -/
inductive GrblState where
  | unknown
  | idle
  | run
  | jog
  | hold
  | alarm
  | check
  | door
  | tool
  | home
  | sleep
deriving DecidableEq, Repr

/-- The value of the enumerator, as stored in the byte `system_status`. -/
def GrblState.code : GrblState → BitVec 8
  | unknown => 0
  | idle => 1
  | run => 2
  | jog => 3
  | hold => 4
  | alarm => 5
  | check => 6
  | door => 7
  | tool => 8
  | home => 9
  | sleep => 10

/-- `GPIO_PinState`. All buttons and switches are active low: pressed is `reset`. -/
inductive PinState where
  | reset
  | set
deriving DecidableEq, Repr

abbrev spindleModeOff : BitVec 8 := 0
abbrev spindleModeCw : BitVec 8 := 1
abbrev spindleModeCcw : BitVec 8 := 2

abbrev yzMovementY : Bool := false
abbrev yzMovementZ : Bool := true

/-- `pendant_data_t` as the panel declares it. -/
structure PendantData where
  encoder1Val : BitVec 32 := 0
  encoder2Val : BitVec 32 := 0
  xAxisMultiplicity : BitVec 8 := 0
  yzAxisMultiplicity : BitVec 8 := 0
  yOrZ : Bool := false
  jogMode : BitVec 8 := 0
  spindleMode : BitVec 8 := 0
  systemStatus : BitVec 8 := 0
  mpg : Bool := false
  flood : Bool := false
  mist : Bool := false
deriving DecidableEq, Repr

/-- `pendant_data_t` as the pendant declares it: the same fields and one more at the end. -/
structure SystemData extends PendantData where
  signals : BitVec 8 := 0
deriving DecidableEq, Repr

/-- The two handwheels. `pendant_data_t` numbers them: encoder 1 moves X, encoder 2 moves Y or Z. -/
inductive Wheel where
  | x
  | yz
deriving DecidableEq, Repr

instance Wheel.decidableForall (P : Wheel → Prop) [DecidablePred P] : Decidable (∀ w, P w) :=
  decidable_of_iff (P .x ∧ P .yz) ⟨fun h w => by cases w <;> simp [h], fun h => ⟨h _, h _⟩⟩

/-- `encoder1_val` or `encoder2_val`. -/
def PendantData.encoderVal (data : PendantData) : Wheel → BitVec 32
  | .x => data.encoder1Val
  | .yz => data.encoder2Val

@[simp] theorem PendantData.encoderVal_x (data : PendantData) :
    data.encoderVal .x = data.encoder1Val := rfl

@[simp] theorem PendantData.encoderVal_yz (data : PendantData) :
    data.encoderVal .yz = data.encoder2Val := rfl

/-- An assignment to `encoder1_val` or `encoder2_val`. -/
def PendantData.setEncoderVal (data : PendantData) (w : Wheel) (val : BitVec 32) : PendantData :=
  match w with
  | .x => { data with encoder1Val := val }
  | .yz => { data with encoder2Val := val }

theorem PendantData.encoderVal_setEncoderVal (data : PendantData) (w v : Wheel) (val : BitVec 32) :
    (data.setEncoderVal w val).encoderVal v = if v = w then val else data.encoderVal v := by
  cases w <;> cases v <;> rfl

@[simp] theorem PendantData.mpg_setEncoderVal (data : PendantData) (w : Wheel) (val : BitVec 32) :
    (data.setEncoderVal w val).mpg = data.mpg := by
  cases w <;> rfl

@[simp] theorem PendantData.spindleMode_setEncoderVal (data : PendantData) (w : Wheel)
    (val : BitVec 32) : (data.setEncoderVal w val).spindleMode = data.spindleMode := by
  cases w <;> rfl

@[simp] theorem PendantData.systemStatus_setEncoderVal (data : PendantData) (w : Wheel)
    (val : BitVec 32) : (data.setEncoderVal w val).systemStatus = data.systemStatus := by
  cases w <;> rfl

/-- What the panel writes on the controller's line, one constructor for each format string or
command byte. Distances are exact decimals in hundredths of a millimetre. -/
inductive Packet where
  /-- `"$J=G91G21X%f%c%fF%d\n"`, a handwheel jog. -/
  | jog (x : Int) (yOrZ : Char) (yz : Int) (feed : Int)
  /-- `"$J=G91G21X%fF%d\n"` and its three siblings, a jog by a panel button. -/
  | buttonJog (axis : Char) (distance : Int) (feed : Int)
  /-- `"M%dS%d\n"`. -/
  | spindle (mode : Nat) (speed : Int)
  /-- `CMD_OVERRIDE_COOLANT_FLOOD_TOGGLE`. -/
  | coolantFloodToggle
  /-- `CMD_OVERRIDE_COOLANT_MIST_TOGGLE`. -/
  | coolantMistToggle
  /-- `CMD_CYCLE_START`. -/
  | cycleStart
  /-- `CMD_FEED_HOLD`. -/
  | feedHold
  /-- `CMD_MPG_MODE_TOGGLE`. -/
  | mpgModeToggle
  /-- `"?\n"`. -/
  | statusRequest
deriving DecidableEq, Repr

/-- `sprintf("%d", n)` for a single digit. -/
def digit (n : Nat) : Char := Char.ofNat (48 + n)

/-- `sprintf(request_body, "GET_DATA|%d|%d|%d", status, mpg_status, 5000)`. -/
def requestBody (status : Bool) (mpgStatus : MpgStatus) : List Char :=
  "GET_DATA|".toList ++ [digit status.toNat, '|', digit mpgStatus.code] ++ "|5000".toList

end Cnc
