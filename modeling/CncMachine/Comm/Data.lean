import CncMachine.Panel.State
import CncMachine.Text.Number

/-!
# The parser's data

All of `grbl_data` that the parser of the controller's lines reads or sets, `settings` and
`grbl_info`. Decimal numbers are exact. `pins` is the text that starts at the array of ten
characters: a longer one runs on into the unused `block` behind it, which `overrun` marks.
-/

namespace Cnc.Comm

/-- `machine_coords_t`. -/
structure Coords where
  x : ℚ := 0
  y : ℚ := 0
  z : ℚ := 0
deriving DecidableEq

/-- `leds_t`, without the unused bit. -/
structure Leds where
  mode : Bool := false
  run : Bool := false
  hold : Bool := false
  spindle : Bool := false
  flood : Bool := false
  mist : Bool := false
  tloRefd : Bool := false
deriving DecidableEq

/-- The bits of `changes_t` that the parser sets, which start as `(uint32_t)-1`. -/
structure Changes where
  xpos : Bool := true
  ypos : Bool := true
  zpos : Bool := true
  mpg : Bool := true
  state : Bool := true
  offset : Bool := true
  awaitAck : Bool := true
  awaitWcoOk : Bool := true
  leds : Bool := true
  dist : Bool := true
  message : Bool := true
  feed : Bool := true
  rpm : Bool := true
  alarm : Bool := true
  error : Bool := true
  xmode : Bool := true
  pins : Bool := true
  reset : Bool := true
  feedOverride : Bool := true
  rapidOverride : Bool := true
  rpmOverride : Bool := true
  tloReference : Bool := true
deriving DecidableEq

/-- `grbl_data_t`. -/
structure Data extends GrblData where
  position : Coords := {}
  offset : Coords := {}
  feedRate : ℚ := 0
  rpmProgrammed : ℚ := 0
  rpmActual : ℚ := 0
  feedOverride : BitVec 32 := 100
  rapidOverride : BitVec 32 := 100
  rpmOverride : BitVec 32 := 100
  useWPos : Bool := false
  awaitWCO : Bool := true
  absDistance : Bool := true
  xModeDiameter : Bool := false
  tloReferenced : Bool := false
  alarm : BitVec 8 := 0
  error : BitVec 8 := 0
  leds : Leds := {}
  pins : List Char := []
  message : List Char := []
  changed : Changes := {}
  /-- A text too long for `pins` was copied there during the last callback. -/
  overrun : Bool := false
deriving DecidableEq

/-- `settings_t`, the fields a settings line can set. -/
structure Settings where
  isLoaded : Bool := false
  homingEnabled : Bool := false
  mode : BitVec 8 := 0
  rpmMin : ℚ := 0
  rpmMax : ℚ := 1000
  stepSpeed : ℚ := 100
  slowSpeed : ℚ := 600
  fastSpeed : ℚ := 3000
  stepDistance : ℚ := 1 / 10
  slowDistance : ℚ := 500
  fastDistance : ℚ := 500
deriving DecidableEq

/-- `grbl_info_t`. -/
structure Info where
  isLoaded : Bool := false
  sdCard : Bool := false
  toolChange : Bool := false
  device : List Char := "grblHAL MPG & DRO".toList
deriving DecidableEq

/-- What the three parsers share. -/
structure State where
  data : Data := {}
  settings : Settings := {}
  /-- The `static` number of the last settings line. -/
  setting : BitVec 32 := 0
  legacyRtCommands : Bool := true
  info : Info := {}
deriving DecidableEq

end Cnc.Comm
