import CncMachine.Panel.Sender
import CncMachine.Panel.Settings
import CncMachine.Transition.Run

/-!
# The menu of the control panel

`r61529_screen_menu` runs one cycle of the menu logic whenever the TIM1 handler has set the entry
flag. Drawing, sounds and LEDs are left out; every condition on buttons, touches and menu indexes
is kept, and so is everything the menu sends.
-/

namespace Cnc

open Transition

/-- What one cycle of the menu reads from outside, with the outcomes of its transmissions. Of the
touch points only the first is ever used. -/
structure MenuInput where
  /-- `get_button_state`. -/
  buttonState : Button → PinState := fun _ => .set
  touchDetected : BitVec 8 := 0
  touchX : BitVec 16 := 0
  touchY : BitVec 16 := 0
  /-- `wait_ms_ch(4, 100)`. -/
  reportDue : Bool := false
  tx : Tx := fun _ => true
  /-- Whether the request to the pendant is accepted. -/
  accepted : Bool := true

abbrev MenuInput.pressed (input : MenuInput) (button : Button) : Bool :=
  input.buttonState button == .reset

def lowByte (index : BitVec 16) : BitVec 8 := (index &&& 0x00FF).setWidth 8

def highByte (index : BitVec 16) : BitVec 8 := ((index &&& 0xFF00) >>> 8).setWidth 8

/-- `index | (index << 8)`: the selected entry is also the entered one. -/
def enteredIndex (index : BitVec 16) : BitVec 16 :=
  (index &&& 0x00FF) ||| ((index &&& 0x00FF) <<< 8)

/-- `if(++index >= count) index = 0`, in 8 bits with a sign. -/
def nextIndex (count index : BitVec 8) : BitVec 8 :=
  if (index + 1).toInt ≥ count.toInt then 0 else index + 1

/-- `if(--index < 0) index = count - 1`. -/
def previousIndex (count index : BitVec 8) : BitVec 8 :=
  if (index - 1).toInt < 0 then count - 1 else index - 1

/-- `if(++index == SETTINGS_SUBMENUS) index = 0`. -/
def nextSettingIndex (count index : BitVec 8) : BitVec 8 :=
  if index + 1 = count then 0 else index + 1

/-- A rectangle of the screen, without its border. -/
structure Block where
  baseX : Nat
  baseY : Nat
  width : Nat
  height : Nat

def Block.contains (block : Block) (point : BitVec 16 × BitVec 16) : Bool :=
  block.baseX < point.1.toNat && point.1.toNat < block.baseX + block.width &&
    (block.baseY < point.2.toNat && point.2.toNat < block.baseY + block.height)

/-- `GET_SUBMENU_BLOCK_BASE_X` expands to divisions that truncate separately. -/
def submenuBlock (i : Nat) : Block := ⟨30 / 4 + i * 30 / 4 + i * 150, 30, 150, 60⟩
def settingBlock (i : Nat) : Block := ⟨20, 60 + i * 20 + i * 40, 300, 40⟩
def mpgAxesSettingBlock (i : Nat) : Block := ⟨20, 80 + i * 20 + i * 30, 300, 30⟩
def mpgSpindleSettingBlock (i : Nat) : Block := ⟨20, 80 + i * 20 + i * 40, 250, 40⟩

def touchedBlock (blocks : Nat → Block) (count : Nat) (point : BitVec 16 × BitVec 16) :
    Option Nat :=
  (List.range count).find? fun i => (blocks i).contains point

namespace MenuController

variable (m : MenuController)

def setIndex (level : Nat) (index : BitVec 16) : MenuController :=
  { m with levelIndexes := Function.update m.levelIndexes level index }

def setDelayCnt (button : Button) (cnt : BitVec 8) : MenuController :=
  { m with buttonDelayCnts := Function.update m.buttonDelayCnts button cnt }

/-- `clear_button_channel_cnts`. -/
def clearButtonChannelCnts (input : MenuInput) : MenuController :=
  { m with
    buttonDelayCnts := fun button => if input.pressed button then m.buttonDelayCnts button else 0 }

/-- Entry of a cycle: reset the flag, take over the touch data, clear the counters of buttons
that are not pressed. -/
def enterCycle (input : MenuInput) : MenuController :=
  { m with
    enterMenu := false
    touchPointCnt := input.touchDetected
    touchPoint :=
      if input.touchDetected ≠ 0 then (input.touchY, 320 - input.touchX)
      else m.touchPoint }.clearButtonChannelCnts input

/-- `touch_select_submenu`, `none` for -1. -/
def touchSelectSubmenu : Option Nat :=
  if m.touchPointCnt = 0 then none
  else
    match m.level with
    | 0 => touchedBlock submenuBlock 3 m.touchPoint
    | 1 =>
        if highByte (m.levelIndexes 0) = 2 then touchedBlock settingBlock 3 m.touchPoint else none
    | 2 =>
        if highByte (m.levelIndexes 0) = 2 then
          if highByte (m.levelIndexes 1) = 1 then touchedBlock mpgAxesSettingBlock 3 m.touchPoint
          else if highByte (m.levelIndexes 1) = 2 then
            touchedBlock mpgSpindleSettingBlock 1 m.touchPoint
          else none
        else none
    | _ => none

/-- `touch_exit_submenu`. -/
def touchExitSubmenu (level : Nat) : Bool :=
  m.touchPointCnt != 0 && (1 ≤ level && level ≤ 3) &&
    (410 < m.touchPoint.1.toNat && m.touchPoint.2.toNat < 40)

/-- The submenu a touch has selected is entered. -/
def enterSubmenu (submenu : Nat) : MenuController :=
  { m.setIndex m.level (BitVec.ofNat 16 submenu ||| (BitVec.ofNat 16 submenu <<< 8)) with
    level := m.level + 1 }

/-- The repeat idiom of every button: count, act on the first cycle and whenever the delay has
passed. The results are the new counter, whether to act and whether this is the first cycle. -/
def countPress (button : Button) (due : BitVec 8 → Bool) : MenuController × Bool × Bool :=
  let cnt := m.buttonDelayCnts button + 1
  if due cnt || cnt == 1 then
    (m.setDelayCnt button (if cnt ≠ 1 then 0 else cnt + 1), true, cnt == 1)
  else (m.setDelayCnt button cnt, false, false)

/-- `++cnt >= button_delay || cnt == 1`. -/
def press (button : Button) : MenuController × Bool × Bool :=
  m.countPress button (m.buttonDelay ≤ ·)

/-- `++cnt == button_delay || cnt == 1`, in the main menu only. -/
def pressMain (button : Button) : MenuController × Bool × Bool :=
  m.countPress button (· == m.buttonDelay)

/-- Save an index that has changed: the entered entry is forgotten. -/
def saveIndex (level : Nat) (index : BitVec 8) : MenuController :=
  if index.toInt ≠ (lowByte (m.levelIndexes level)).toNat then
    m.setIndex level (index.signExtend 16)
  else m

/-- The selected entry of the current level is entered. -/
def enterLevel (level : Nat) : MenuController :=
  { m.setIndex level (enteredIndex (m.levelIndexes level)) with level := level + 1 }

/-- One of two buttons moves the selection. -/
def moveSelection (input : MenuInput)
    (press : MenuController → Button → MenuController × Bool × Bool)
    (next previous : Button) (onNext onPrevious : BitVec 8 → BitVec 8) (index : BitVec 8) :
    MenuController × BitVec 8 :=
  if input.pressed next then
    let (m, acts, _) := press m next
    (m, if acts then onNext index else index)
  else if input.pressed previous then
    let (m, acts, _) := press m previous
    (m, if acts then onPrevious index else index)
  else (m, index)

/-- `case 0`, the main menu. -/
def mainMenu (input : MenuInput) : MenuController :=
  let index := lowByte (m.levelIndexes 0)
  if !input.pressed .right && !input.pressed .left && input.pressed .enter then m.enterLevel 0
  else
    let (m, index) :=
      m.moveSelection input pressMain .right .left (nextIndex 3) (previousIndex 3) index
    m.saveIndex 0 index

/-- The settings selector of `case 1`. -/
def settingsMenu (input : MenuInput) : MenuController :=
  let index := lowByte (m.levelIndexes 1)
  if !input.pressed .down && !input.pressed .up && input.pressed .enter then m.enterLevel 1
  else
    let (m, index) :=
      m.moveSelection input press .down .up (nextSettingIndex 3) (previousIndex 3) index
    m.saveIndex 1 index

/-- Back from a deeper level. -/
def leaveLevel (level : Nat) : MenuController :=
  { (m.setIndex level 0).setIndex (level - 1) (m.levelIndexes (level - 1) &&& 0x00FF) with
    level := level - 1 }

/-- The brightness setting of `case 2`. -/
def brightnessMenu (input : MenuInput) : MenuController :=
  if input.pressed .right then
    let (m, acts, _) := m.press .right
    if acts then { m with brightnessValue := min (m.brightnessValue + 1) 100 } else m
  else if input.pressed .left then
    let (m, acts, _) := m.press .left
    if acts then { m with brightnessValue := max (m.brightnessValue - 1) 10 } else m
  else m

/-- The selectors of axes and spindle settings in `case 2`. -/
def mpgSettingsMenu (input : MenuInput) : MenuController :=
  let count : BitVec 8 := if highByte (m.levelIndexes 1) = 1 then 3 else 1
  let index := lowByte (m.levelIndexes 2)
  if !input.pressed .down && !input.pressed .up && input.pressed .enter then m.enterLevel 2
  else
    let (m, index) :=
      m.moveSelection input press .down .up (nextIndex count) (previousIndex count) index
    m.saveIndex 2 index

/-- `case 2`. -/
def levelTwo (input : MenuInput) : MenuController :=
  if m.touchExitSubmenu 2 || input.pressed .back then m.leaveLevel 2
  else if highByte (m.levelIndexes 0) = 2 then
    if highByte (m.levelIndexes 1) = 0 then m.brightnessMenu input
    else if highByte (m.levelIndexes 1) = 1 ∨ highByte (m.levelIndexes 1) = 2 then
      m.mpgSettingsMenu input
    else m
  else m

/-- The axes settings of `case 3`: two buttons move the selection, the other two change the
selected value. -/
def axesSettingsMenu (input : MenuInput) (settings : MpgSettings) : MenuController × MpgSettings :=
  let menu := (highByte (m.levelIndexes 2)).toNat
  let entry := (lowByte (m.levelIndexes 3)).toNat
  let index := lowByte (m.levelIndexes 3)
  let known (f : BitVec 8 → BitVec 8) (index : BitVec 8) : BitVec 8 :=
    if menu ≤ 2 then f index else index
  if input.pressed .down || input.pressed .up then
    let (m, index) := m.moveSelection input press .down .up
      (known (nextIndex 3)) (known (previousIndex 3)) index
    (m.saveIndex 3 index, settings)
  else if input.pressed .right then
    let (m, acts, _) := m.press .right
    (m.saveIndex 3 index, if acts then settings.adjustAxes true menu entry else settings)
  else if input.pressed .left then
    let (m, acts, _) := m.press .left
    (m.saveIndex 3 index, if acts then settings.adjustAxes false menu entry else settings)
  else (m.saveIndex 3 index, settings)

/-- The spindle setting of `case 3`. -/
def spindleSettingMenu (input : MenuInput) (settings : MpgSettings) :
    MenuController × MpgSettings :=
  let selected := lowByte (m.levelIndexes 2) = 0
  if input.pressed .right then
    let (m, acts, _) := m.press .right
    (m, if acts ∧ selected then settings.adjustSpindle true else settings)
  else if input.pressed .left then
    let (m, acts, _) := m.press .left
    (m, if acts ∧ selected then settings.adjustSpindle false else settings)
  else (m, settings)

/-- `case 3`. -/
def levelThree (input : MenuInput) (settings : MpgSettings) : MenuController × MpgSettings :=
  if m.touchExitSubmenu 3 || input.pressed .back then (m.leaveLevel 3, settings)
  else if lowByte (m.levelIndexes 0) = 2 then
    if lowByte (m.levelIndexes 1) = 1 then m.axesSettingsMenu input settings
    else if lowByte (m.levelIndexes 1) = 2 then m.spindleSettingMenu input settings
    else (m, settings)
  else (m, settings)

end MenuController

namespace Panel

/-- The body of `while(pendant_control.status)` on the way out of the manual mode. -/
def sleepPendant (accepted : Bool) (s : Panel) : Panel :=
  { s with
    menu.enteredManualMode := false
    pendantControl.mpgStatus := .disabled
    pendantControl.status := false }.requestPendantData accepted

/-- Both copies of the exit from a first-level menu, by touch and by BACK. -/
def leaveFirstLevel (input : MenuInput) (s : Panel) : Panel :=
  let s := (s.disableMpg input.tx).1
  let s :=
    if highByte (s.menu.levelIndexes 0) = 1 then
      whileUpTo (·.pendantControl.status) (sleepPendant input.accepted) 1 s
    else s
  { s with menu := s.menu.leaveLevel 1 }

/-- ENTER in the manual mode switches the MPG mode, on the first cycle of a press only. -/
def switchMpg (input : MenuInput) (s : Panel) : Panel :=
  if input.pressed .enter then
    let (m, acts, first) := s.menu.press .enter
    let s := { s with menu := m }
    if acts && first then
      if !s.grblData.mpgMode && !s.grblData.mpgEnableOngoing then (s.enableMpg input.tx).1
      else if s.grblData.mpgMode && !s.grblData.mpgDisableOngoing then
        let s := (s.disableMpg input.tx).1
        if s.pendantControl.mpgStatus = .enabled then { s with pendantControl.turnOffMpg := true }
        else s
      else s
    else s
  else s

/-- A jog by one of the panel's buttons. Both axes use the distances of the X axis. -/
def jogByButton (button : Button) (axis : Char) (sign : Int) (input : MenuInput) (s : Panel) :
    Panel :=
  let (m, acts, _) := s.menu.press button
  let s := { s with menu := m }
  if acts then
    s.transmit input.tx (.buttonJog axis
      (sign * s.mpgSettings.xAxisMultiplicity s.pendantData.xAxisMultiplicity.toNat)
      (s.mpgSettings.jogSpeeds s.pendantData.jogMode.toNat))
  else s

/-- The jogs of the manual mode: one of four buttons. -/
def jogByButtons (input : MenuInput) (s : Panel) : Panel :=
  if input.pressed .right then s.jogByButton .right 'X' 1 input
  else if input.pressed .left then s.jogByButton .left 'X' (-1) input
  else if input.pressed .up then s.jogByButton .up 'Y' 1 input
  else if input.pressed .down then s.jogByButton .down 'Y' (-1) input
  else s

/-- `request_report`, every 100 ms. -/
def requestReport (input : MenuInput) (s : Panel) : Panel :=
  if input.reportDue then s.transmit input.tx .statusRequest else s

/-- "Logical manual mode enter", on both sides. -/
def enterManual (s : Panel) : Panel :=
  { s with menu.enteredManualMode := true, pendantControl.status := true }

/-- The manual mode of `case 1`. -/
def manualMode (input : MenuInput) (s : Panel) : Panel :=
  let s := s.enterManual.switchMpg input
  if s.grblData.mpgMode then (s.requestReport input).jogByButtons input else s

/-- `case 1`. -/
def levelOne (input : MenuInput) (s : Panel) : Panel :=
  if s.menu.touchExitSubmenu 1 || input.pressed .back then s.leaveFirstLevel input
  else if highByte (s.menu.levelIndexes 0) = 1 then s.manualMode input
  else if highByte (s.menu.levelIndexes 0) = 2 then
    { s with menu := s.menu.settingsMenu input }
  else s

/-- One cycle of the menu logic, after the entry flag was found set. -/
def menuCycle (input : MenuInput) (s : Panel) : Panel :=
  match s.menu.touchSelectSubmenu with
  | some submenu => { s with menu := s.menu.enterSubmenu submenu }
  | none =>
      match s.menu.level with
      | 0 => { s with menu := s.menu.mainMenu input }
      | 1 => s.levelOne input
      | 2 => { s with menu := s.menu.levelTwo input }
      | 3 =>
          { s with
            menu := (s.menu.levelThree input s.mpgSettings).1
            mpgSettings := (s.menu.levelThree input s.mpgSettings).2 }
      | _ => s

/-- `r61529_screen_menu`. -/
def screenMenu (input : MenuInput) (s : Panel) : Panel :=
  if s.menu.enterMenu then { s with menu := s.menu.enterCycle input }.menuCycle input else s

/-- The menu index says that the Manual menu is open. -/
def InManualMenu (s : Panel) : Prop :=
  s.menu.level = 1 ∧ highByte (s.menu.levelIndexes 0) = 1

instance (s : Panel) : Decidable s.InManualMenu := inferInstanceAs (Decidable (_ ∧ _))

end Panel

end Cnc
