import Mathlib.Data.Fin.Basic
import Mathlib.Data.Fintype.Basic
import CncMachine.Data
import CncMachine.Display.Watch
import CncMachine.Numeric.Double
import CncMachine.Transition.Run

/-!
# The screens of Auto mode and Manual mode

`auto_mode_update_screen` and `manual_mode_update_screen` draw a field only if its value differs
from a copy kept from the last drawing. `draw_menu` puts the labels on the empty screen and calls
them once, leaving a menu sets the copies to sentinels. An area keeps the text and the colours
written last. The rectangles cleared before a text is written, the fixed headings and the steps of
the axes, which are drawn on every call, are left out.
-/

namespace Cnc

open Display

inductive Colour where
  | white
  | black
  | red
  | green
  | blue
  | cyan
  | magenta
  | yellow
  | orange
  | purple
  | gray
deriving DecidableEq, Repr

/-- One call of `R61529_WriteString`. -/
structure Written where
  text : List Char
  colour : Colour
  background : Colour := .black
deriving DecidableEq, Repr

/-- `none` where nothing is written. -/
abbrev Area := Option Written

inductive ModeMenu where
  | auto
  | manual
deriving DecidableEq, Repr

/-- What is read of `grbl_data`, of `pendant_control` (`mpg_status` and `status`) and of
`pendant_data` (`jog_mode`). `state_text` has eight bytes. -/
structure ScreenData where
  position : Fin 3 → Double := fun _ => .value 0
  offset : Fin 3 → Double := fun _ => .value 0
  mist : Bool := false
  flood : Bool := false
  state : GrblState := .unknown
  stateText : { text : List Char // text.length < 8 } := ⟨[], by decide⟩
  spindleOn : Bool := false
  spindleCcw : Bool := false
  rpmProgrammed : Double := .value 0
  mpgMode : Bool := false
  mpgStatus : MpgStatus := .disabled
  pendantStatus : Bool := false
  jogMode : BitVec 8 := 0

/-- `(uint8_t)b`. -/
def boolByte (b : Bool) : BitVec 8 := if b then 1 else 0

namespace ScreenData

variable (d : ScreenData)

/-- The word for the state; an empty `state_text` is replaced. -/
def stateWord : List Char := if d.stateText.1 = [] then "Unknown".toList else d.stateText.1

def stateColour : GrblState → Colour
  | .idle => .cyan
  | .run => .green
  | .jog => .green
  | .hold => .yellow
  | .tool => .yellow
  | .alarm => .red
  | .check => .gray
  | .door => .orange
  | .home => .magenta
  | .sleep => .blue
  | .unknown => .white

/-- The local variable `rpm`. -/
def rpm : Double := if d.spindleOn then d.rpmProgrammed else .value 0

/-- The local array `ccw`. -/
def direction : List Char :=
  if d.spindleOn = false then " OFF".toList
  else if d.spindleCcw then " CCW".toList
  else " CW".toList

def pendantEnabled : Bool := d.pendantStatus && d.mpgStatus == .enabled

end ScreenData

/-- The text `"RPM:"`, the number and the direction, which are drawn together. -/
structure SpindleArea where
  label : Area := none
  rpm : Area := none
  direction : Area := none
deriving DecidableEq, Repr

/-- `grbl_position[i]` or `grbl_offset[i]`. -/
def coordinateWatch (coordinate : ScreenData → Double) : Watch ScreenData Double Area where
  key := coordinate
  content d := some { text := (coordinate d).printed, colour := .purple }
  changed cached d := !cached.eq (coordinate d)
  interchangeable := by
    intro k d same d'
    rw [Double.eq_congr (by simpa using same)]

/-- `grbl_coolant_status[0]` or `grbl_coolant_status[1]`. -/
def coolantWatch (label : List Char) (on : ScreenData → Bool) : Watch ScreenData Bool Area where
  key := on
  content d :=
    some (if on d then { text := label, colour := .green, background := .black }
      else { text := label, colour := .red, background := .gray })
  changed cached d := on d != cached
  interchangeable := by
    intro k d same d'
    rw [show on d = k by simpa using same]

/-- `grbl_state`. -/
def stateWatch : Watch ScreenData (BitVec 8) Area where
  key d := d.state.code
  content d := some { text := d.stateWord, colour := ScreenData.stateColour d.state }
  changed cached d := cached != d.state.code
  interchangeable := by
    intro k d same d'
    rw [show k = d.state.code by simpa using same]

/-- `grbl_spindle_state`, which as an unsigned byte is never `-1`, and `grbl_rpm`. -/
def spindleWatch : Watch ScreenData (BitVec 8 × Double) SpindleArea where
  key d := (boolByte d.spindleOn, d.rpmProgrammed)
  content d :=
    { label := some { text := "RPM:".toList, colour := if d.spindleOn then .orange else .white }
      rpm := some
        { text := d.rpm.printed
          colour := if d.rpm.eq (.value 0) then .green else .orange }
      direction := some { text := d.direction, colour := .white } }
  changed cached d :=
    (cached.1.toNat : Int) == -1 || cached.1 != boolByte d.spindleOn ||
      (cached.2.eq (.value (-1)) || !cached.2.eq d.rpmProgrammed)
  interchangeable := by
    intro k d same d'
    simp only [Bool.or_eq_false_iff, bne_eq_false_iff_eq, Bool.not_eq_false'] at same
    obtain ⟨⟨-, on⟩, -, rpm⟩ := same
    simp only [on, Double.eq_congr rpm]

/-- `mpg_state`, of which one bit is compared. -/
def mpgWatch : Watch ScreenData (BitVec 8) Area where
  key d := boolByte d.mpgMode
  content d :=
    some (if d.mpgMode then { text := "MPG mode ON".toList, colour := .green }
      else { text := "MPG mode OFF".toList, colour := .red })
  changed cached d := cached &&& 1 != boolByte d.mpgMode
  interchangeable := by
    intro k d same d'
    have bit : boolByte d.mpgMode &&& 1 = boolByte d.mpgMode := by cases d.mpgMode <;> rfl
    rw [show k &&& 1 = boolByte d.mpgMode by simpa using same, bit]

/-- `pendant_mpg_status`. The text depends on `pendant_control.status` as well. -/
def pendantWatch : Watch ScreenData (BitVec 8) Area where
  key d := BitVec.ofNat 8 d.mpgStatus.code
  content d :=
    some (if d.pendantEnabled then { text := "Pendant ENABLED".toList, colour := .green }
      else { text := "Pendant DISABLED".toList, colour := .red })
  changed cached d := cached != BitVec.ofNat 8 d.mpgStatus.code
  interchangeable := by
    intro k d same d'
    rw [show k = BitVec.ofNat 8 d.mpgStatus.code by simpa using same]

/-- `pendant_jog_mode`. For a mode without a name the area is only cleared. -/
def jogWatch : Watch ScreenData (BitVec 8) Area where
  key d := d.jogMode
  content d :=
    match d.jogMode.toNat with
    | 0 => some { text := "Slow".toList, colour := .green }
    | 1 => some { text := "Normal".toList, colour := .orange }
    | 2 => some { text := "Fast".toList, colour := .red }
    | _ => none
  changed cached d := cached != d.jogMode
  interchangeable := by
    intro k d same d'
    rw [show k = d.jogMode by simpa using same]

def positionWatch (i : Fin 3) : Watch ScreenData Double Area := coordinateWatch (·.position i)

def offsetWatch (i : Fin 3) : Watch ScreenData Double Area := coordinateWatch (·.offset i)

def mistWatch : Watch ScreenData Bool Area := coolantWatch "MIST".toList (·.mist)

def floodWatch : Watch ScreenData Bool Area := coolantWatch "FLOOD".toList (·.flood)

/-- The file's `static` copies with the areas they belong to, and the data. `last` is not in the
source: it is the data at the last call of one of the two functions, kept to speak about it. -/
structure Screen where
  menu : Option ModeMenu := none
  data : ScreenData := {}
  position : Fin 3 → Tile Double Area := fun _ => ⟨.value (-1), none⟩
  offset : Fin 3 → Tile Double Area := fun _ => ⟨.value (-1), none⟩
  mist : Tile Bool Area := ⟨false, none⟩
  flood : Tile Bool Area := ⟨false, none⟩
  state : Tile (BitVec 8) Area := ⟨-1, none⟩
  spindle : Tile (BitVec 8 × Double) SpindleArea := ⟨(-1, .value (-1)), {}⟩
  mpg : Tile (BitVec 8) Area := ⟨-1, none⟩
  pendant : Tile (BitVec 8) Area := ⟨-1, none⟩
  jog : Tile (BitVec 8) Area := ⟨-1, none⟩
  /-- A text was longer than the local array it was printed to. -/
  overrun : Bool := false
  last : ScreenData := {}

namespace Screen

variable (all : Bool) (s : Screen)

/-- `pos_str[10]` and `prev_pos_str[10]`, or their siblings for the offset. -/
def coordinateOverruns (watch : Watch ScreenData Double Area) (tile : Tile Double Area) : Bool :=
  (all || watch.changed tile.cached s.data) &&
    (decide (10 ≤ (watch.key s.data).printed.length) ||
      decide (10 ≤ tile.cached.printed.length))

/-- `rpm_str[20]`. -/
def rpmOverruns : Bool :=
  (all || spindleWatch.changed s.spindle.cached s.data) && decide (20 ≤ s.data.rpm.printed.length)

def overruns : Bool :=
  decide (∃ i, s.coordinateOverruns all (positionWatch i) (s.position i)) ||
    decide (∃ i, s.coordinateOverruns all (offsetWatch i) (s.offset i)) || s.rpmOverruns all

/-- `state_text` after the call: an empty one is replaced when the state is drawn. -/
def namedData : ScreenData :=
  if all || stateWatch.changed s.state.cached s.data then
    { s.data with
      stateText := if s.data.stateText.1 = [] then ⟨"Unknown".toList, by decide⟩
        else s.data.stateText }
  else s.data

/-- `auto_mode_update_screen`; with `all` every value counts as changed. -/
def autoModeUpdateScreen : Screen :=
  { s with
    position := fun i => (positionWatch i).refresh all s.data (s.position i)
    offset := fun i => (offsetWatch i).refresh all s.data (s.offset i)
    mist := mistWatch.refresh all s.data s.mist
    flood := floodWatch.refresh all s.data s.flood
    state := stateWatch.refresh all s.data s.state
    spindle := spindleWatch.refresh all s.data s.spindle
    overrun := s.overrun || s.overruns all
    data := s.namedData all
    last := s.data }

/-- `manual_mode_update_screen`: the same fields and three more. -/
def manualModeUpdateScreen : Screen :=
  { s.autoModeUpdateScreen all with
    mpg := mpgWatch.refresh all s.data s.mpg
    pendant := pendantWatch.refresh all s.data s.pendant
    jog := jogWatch.refresh all s.data s.jog }

def updateScreen : ModeMenu → Screen
  | .auto => s.autoModeUpdateScreen all
  | .manual => s.manualModeUpdateScreen all

/-- `delete_menu`. -/
def deleteMenu : Screen :=
  { s with
    position := fun i => { s.position i with shown := none }
    offset := fun i => { s.offset i with shown := none }
    mist := { s.mist with shown := none }
    flood := { s.flood with shown := none }
    state := { s.state with shown := none }
    spindle := { s.spindle with shown := {} }
    mpg := { s.mpg with shown := none }
    pendant := { s.pendant with shown := none }
    jog := { s.jog with shown := none } }

/-- The labels `draw_menu` writes into the areas. -/
def drawLabels : Screen :=
  { s with
    mist := { s.mist with
      shown := some { text := "MIST".toList, colour := .red, background := .gray } }
    flood := { s.flood with
      shown := some { text := "FLOOD".toList, colour := .red, background := .gray } }
    spindle := { s.spindle with
      shown := { s.spindle.shown with
        label := some { text := "RPM:".toList, colour := .white } } } }

/-- `draw_menu` of a mode, on the empty screen. -/
def drawMenu (menu : ModeMenu) : Screen :=
  { s.deleteMenu with menu := some menu }.drawLabels.updateScreen all menu

/-- "Reset flags and variables" and what follows when a mode is left. Assigned to a `bool`,
`-1` is `true`. -/
def leaveMenu : Screen :=
  { s.deleteMenu with
    menu := none
    position := fun _ => ⟨.value (-1), none⟩
    offset := fun _ => ⟨.value (-1), none⟩
    mist := ⟨true, none⟩
    flood := ⟨true, none⟩
    state := ⟨-1, none⟩
    spindle := ⟨(-1, .value (-1)), {}⟩
    mpg := ⟨-1, none⟩
    pendant := ⟨-1, none⟩
    jog := ⟨-1, none⟩ }

end Screen

inductive ScreenEvent where
  /-- Anything may happen to `grbl_data`, `pendant_data` and `pendant_control`. -/
  | change (data : ScreenData)
  | enter (menu : ModeMenu)
  /-- The call in `r61529_screen_menu` while a mode is on the screen. -/
  | update
  | leave

/-- A mode is entered only from outside and drawn and left only from inside. -/
def Screen.step (s : Screen) : ScreenEvent → Screen
  | .change data => { s with data := data }
  | .enter menu => if s.menu = none then s.drawMenu false menu else s
  | .update =>
      match s.menu with
      | some menu => s.updateScreen false menu
      | none => s
  | .leave => if s.menu = none then s else s.leaveMenu

/-- The same areas are shown, whatever is kept of the values. -/
structure Screen.SameAreas (s t : Screen) : Prop where
  position : ∀ i, (s.position i).shown = (t.position i).shown
  offset : ∀ i, (s.offset i).shown = (t.offset i).shown
  mist : s.mist.shown = t.mist.shown
  flood : s.flood.shown = t.flood.shown
  state : s.state.shown = t.state.shown
  spindle : s.spindle.shown = t.spindle.shown
  mpg : s.mpg.shown = t.mpg.shown
  pendant : s.pendant.shown = t.pendant.shown
  jog : s.jog.shown = t.jog.shown

/-- The screen is the one drawn from nothing with every value changed, and every text had room. -/
def Screen.Agrees (s : Screen) : Prop :=
  ∀ menu, s.menu = some menu → s.SameAreas (s.drawMenu true menu) ∧ s.overrun = false

/-- The event calls one of the two functions. -/
def Screen.Calls (s : Screen) : ScreenEvent → Prop
  | .enter _ => s.menu = none
  | .update => s.menu ≠ none
  | _ => False

end Cnc
