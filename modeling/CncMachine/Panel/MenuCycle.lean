import CncMachine.Panel.Menu

/-!
# What a cycle of the menu can do

`screenMenu_cases` says it once: a cycle stays in the menus and touches nothing else, or it
leaves a menu of the first level, or it runs the manual mode. `screenMenu_eq` puts the three
together for the parts of the panel that do not belong to the menu.
-/

namespace Cnc

open Transition

namespace MenuController

-- Nothing in the menus outside the manual mode touches its flag.

variable (m : MenuController) (input : MenuInput)

@[simp] theorem setIndex_entered (level : Nat) (index : BitVec 16) :
    (m.setIndex level index).enteredManualMode = m.enteredManualMode := rfl

@[simp] theorem enterCycle_entered :
    (m.enterCycle input).enteredManualMode = m.enteredManualMode := rfl

@[simp] theorem enterCycle_level : (m.enterCycle input).level = m.level := rfl

@[simp] theorem enterCycle_levelIndexes :
    (m.enterCycle input).levelIndexes = m.levelIndexes := rfl

@[simp] theorem enterSubmenu_entered (submenu : Nat) :
    (m.enterSubmenu submenu).enteredManualMode = m.enteredManualMode := rfl

@[simp] theorem enterLevel_entered (level : Nat) :
    (m.enterLevel level).enteredManualMode = m.enteredManualMode := rfl

@[simp] theorem leaveLevel_entered (level : Nat) :
    (m.leaveLevel level).enteredManualMode = m.enteredManualMode := rfl

theorem countPress_eq (button : Button) (due : BitVec 8 → Bool) :
    ∃ cnt, (m.countPress button due).1 = m.setDelayCnt button cnt := by
  simp only [countPress]
  split <;> exact ⟨_, rfl⟩

@[simp] theorem countPress_entered (button : Button) (due : BitVec 8 → Bool) :
    (m.countPress button due).1.enteredManualMode = m.enteredManualMode := by
  obtain ⟨cnt, eq⟩ := m.countPress_eq button due
  rw [eq]
  rfl

@[simp] theorem press_entered (button : Button) :
    (m.press button).1.enteredManualMode = m.enteredManualMode := m.countPress_entered _ _

@[simp] theorem pressMain_entered (button : Button) :
    (m.pressMain button).1.enteredManualMode = m.enteredManualMode := m.countPress_entered _ _

@[simp] theorem saveIndex_entered (level : Nat) (index : BitVec 8) :
    (m.saveIndex level index).enteredManualMode = m.enteredManualMode := by
  simp only [saveIndex]
  split <;> rfl

theorem moveSelection_entered
    {press : MenuController → Button → MenuController × Bool × Bool}
    (keeps : ∀ m button, (press m button).1.enteredManualMode = m.enteredManualMode)
    (next previous : Button) (onNext onPrevious : BitVec 8 → BitVec 8) (index : BitVec 8) :
    (m.moveSelection input press next previous onNext onPrevious index).1.enteredManualMode =
      m.enteredManualMode := by
  simp only [moveSelection]
  split
  · exact keeps m next
  · split
    · exact keeps m previous
    · rfl

/-- A menu that enters the selected entry or moves the selection. -/
theorem selector_entered {press : MenuController → Button → MenuController × Bool × Bool}
    (keeps : ∀ m button, (press m button).1.enteredManualMode = m.enteredManualMode)
    (enters : Bool) (level : Nat) (next previous : Button) (onNext onPrevious : BitVec 8 → BitVec 8)
    (index : BitVec 8) :
    (if enters then m.enterLevel level
      else
        (m.moveSelection input press next previous onNext onPrevious index).1.saveIndex level
          (m.moveSelection input press next previous onNext onPrevious index).2).enteredManualMode =
      m.enteredManualMode := by
  split
  · exact m.enterLevel_entered level
  · rw [saveIndex_entered, moveSelection_entered m input keeps]

@[simp] theorem mainMenu_entered : (m.mainMenu input).enteredManualMode = m.enteredManualMode :=
  m.selector_entered input pressMain_entered _ _ _ _ _ _ _

@[simp] theorem settingsMenu_entered :
    (m.settingsMenu input).enteredManualMode = m.enteredManualMode :=
  m.selector_entered input press_entered _ _ _ _ _ _ _

@[simp] theorem brightnessMenu_entered :
    (m.brightnessMenu input).enteredManualMode = m.enteredManualMode := by
  simp only [brightnessMenu]
  repeat' split
  all_goals simp

@[simp] theorem mpgSettingsMenu_entered :
    (m.mpgSettingsMenu input).enteredManualMode = m.enteredManualMode :=
  m.selector_entered input press_entered _ _ _ _ _ _ _

@[simp] theorem levelTwo_entered : (m.levelTwo input).enteredManualMode = m.enteredManualMode := by
  simp only [levelTwo]
  repeat' split
  all_goals simp

theorem axesSettingsMenu_entered (settings : MpgSettings) :
    (m.axesSettingsMenu input settings).1.enteredManualMode = m.enteredManualMode := by
  simp only [axesSettingsMenu]
  split
  · rw [saveIndex_entered, moveSelection_entered m input press_entered]
  · repeat' split
    all_goals simp

theorem spindleSettingMenu_entered (settings : MpgSettings) :
    (m.spindleSettingMenu input settings).1.enteredManualMode = m.enteredManualMode := by
  simp only [spindleSettingMenu]
  repeat' split
  all_goals simp

@[simp] theorem levelThree_entered (settings : MpgSettings) :
    (m.levelThree input settings).1.enteredManualMode = m.enteredManualMode := by
  simp only [levelThree]
  split
  · exact leaveLevel_entered m 3
  · split
    · split
      · exact axesSettingsMenu_entered m input settings
      · split
        · exact spindleSettingMenu_entered m input settings
        · rfl
    · rfl

end MenuController

namespace Panel

variable (input : MenuInput) (s : Panel)

/-- The first level is left in this cycle. -/
def LeavesFirstLevel : Prop :=
  s.menu.enterMenu = true ∧ s.menu.level = 1 ∧
    (s.menu.enterCycle input).touchSelectSubmenu = none ∧
    ((s.menu.enterCycle input).touchExitSubmenu 1 || input.pressed .back) = true

instance : Decidable (s.LeavesFirstLevel input) := inferInstanceAs (Decidable (_ ∧ _))

/-- The panel when a cycle of its menu begins. -/
def enterCycle : Panel := { s with menu := s.menu.enterCycle input }

/-- A cycle that stays out of the manual mode and leaves nothing: only menu and settings change. -/
structure StaysInMenus : Prop where
  stays : ¬ s.LeavesFirstLevel input
  manual : s.InManualMenu → s.menu.enterMenu = false
  frame : s.screenMenu input =
    { s with menu := (s.screenMenu input).menu, mpgSettings := (s.screenMenu input).mpgSettings }
  entered : (s.screenMenu input).menu.enteredManualMode = s.menu.enteredManualMode

theorem screenMenu_idle (idle : s.menu.enterMenu = false) : s.screenMenu input = s := by
  simp [screenMenu, idle]

theorem screenMenu_entered (enters : s.menu.enterMenu = true) :
    s.screenMenu input = (s.enterCycle input).menuCycle input := if_pos enters

/-- Nothing is selected by touch in the Manual menu. -/
theorem touchSelect_manual (manual : s.InManualMenu) :
    (s.menu.enterCycle input).touchSelectSubmenu = none := by
  simp only [MenuController.touchSelectSubmenu]
  rw [MenuController.enterCycle_level, MenuController.enterCycle_levelIndexes, manual.1, manual.2]
  split <;> rfl

/-- The cycles away from the first level, and those in its menus that have no action. -/
theorem StaysInMenus.of_cycle (menu : MenuController) (settings : MpgSettings)
    (stays : ¬ s.LeavesFirstLevel input) (manual : ¬ s.InManualMenu)
    (cycle : s.screenMenu input = { s with menu := menu, mpgSettings := settings })
    (entered : menu.enteredManualMode = s.menu.enteredManualMode) : s.StaysInMenus input where
  stays := stays
  manual h := absurd h manual
  frame := by rw [cycle]
  entered := by rw [cycle]; exact entered

theorem screenMenu_cases :
    s.StaysInMenus input ∨
    (s.LeavesFirstLevel input ∧
      s.screenMenu input = (s.enterCycle input).leaveFirstLevel input) ∨
    (s.menu.enterMenu = true ∧ s.InManualMenu ∧ ¬ s.LeavesFirstLevel input ∧
      s.screenMenu input = (s.enterCycle input).manualMode input) := by
  cases enters : s.menu.enterMenu with
  | false =>
      have idle := s.screenMenu_idle input enters
      exact .inl ⟨fun leaves => absurd leaves.1 (by simp [enters]), fun _ => enters, by rw [idle],
        by rw [idle]⟩
  | true =>
      have cycle := s.screenMenu_entered input enters
      by_cases leaves : s.LeavesFirstLevel input
      · refine .inr (.inl ⟨leaves, ?_⟩)
        rw [cycle, menuCycle, show (s.enterCycle input).menu = s.menu.enterCycle input from rfl,
          leaves.2.2.1, MenuController.enterCycle_level, leaves.2.1]
        exact if_pos leaves.2.2.2
      by_cases manual : s.InManualMenu
      · refine .inr (.inr ⟨rfl, manual, leaves, ?_⟩)
        have untouched := touchSelect_manual input s manual
        have stays :
            ¬ ((s.menu.enterCycle input).touchExitSubmenu 1 || input.pressed .back) = true :=
          fun exits => leaves ⟨enters, manual.1, untouched, exits⟩
        rw [cycle, menuCycle, show (s.enterCycle input).menu = s.menu.enterCycle input from rfl,
          untouched, MenuController.enterCycle_level, manual.1]
        exact (if_neg stays).trans (if_pos manual.2)
      · refine .inl ?_
        have stay (menu : MenuController) (settings : MpgSettings) :=
          StaysInMenus.of_cycle input s menu settings leaves manual
        rw [cycle] at stay
        revert stay
        simp only [menuCycle]
        split
        next submenu touched => exact fun stay => stay _ _ rfl rfl
        next untouched =>
          split
          next => exact fun stay => stay _ _ rfl (by simp [enterCycle])
          next level =>
            have back : ¬ ((s.enterCycle input).menu.touchExitSubmenu 1 || input.pressed .back) =
                true := fun exits => leaves ⟨enters, level, untouched, exits⟩
            have other : ¬ highByte ((s.enterCycle input).menu.levelIndexes 0) = 1 :=
              fun high => manual ⟨level, high⟩
            simp only [levelOne]
            rw [if_neg back, if_neg other]
            split
            · exact fun stay => stay _ _ rfl (by simp [enterCycle])
            · exact fun stay => stay _ _ rfl rfl
          next => exact fun stay => stay _ _ rfl (by simp [enterCycle])
          next => exact fun stay => stay _ _ rfl (by simp [enterCycle])
          next => exact fun stay => stay _ _ rfl rfl

/-- The exit loop of the manual mode ends after its first iteration. -/
theorem sleepPendant_stops (accepted : Bool) :
    Stops (fun s : Panel => s.pendantControl.status) (sleepPendant accepted) 1 s := by
  refine stops_one (fun s _ => ?_) s
  rw [sleepPendant, requestPendantData_eq]

/-- The pendant is put to sleep on this exit. -/
def Sleeps : Prop := highByte (s.menu.levelIndexes 0) = 1 ∧ s.pendantControl.status = true

instance : Decidable s.Sleeps := inferInstanceAs (Decidable (_ ∧ _))

theorem leaveFirstLevel_eq :
    s.leaveFirstLevel input = { (s.disableMpg input.tx).1 with
      menu := { s.menu.leaveLevel 1 with
        enteredManualMode := s.menu.enteredManualMode && !decide s.Sleeps }
      pendantControl :=
        if s.Sleeps then { s.pendantControl with mpgStatus := .disabled, status := false }
        else s.pendantControl
      pendantLine := s.pendantLine ++
        if s.Sleeps ∧ input.accepted = true then [requestBody false .disabled] else [] } := by
  simp only [leaveFirstLevel]
  rw [disableMpg_eq]
  dsimp only
  by_cases manual : highByte (s.menu.levelIndexes 0) = 1
  · by_cases awake : s.pendantControl.status = true
    · have sleeps : s.Sleeps := ⟨manual, awake⟩
      simp [manual, sleeps, whileUpTo, awake, sleepPendant, requestPendantData_eq]
      rfl
    · have stays : ¬ s.Sleeps := fun h => awake h.2
      simp [manual, stays, whileUpTo, awake]
      rfl
  · have stays : ¬ s.Sleeps := fun h => manual h.1
    rw [if_neg manual]
    simp [stays]
    rfl

/-- The menu has not moved and the manual mode is still on or off. -/
structure SamePlace (m m' : MenuController) : Prop where
  entered : m'.enteredManualMode = m.enteredManualMode
  level : m'.level = m.level
  levelIndexes : m'.levelIndexes = m.levelIndexes

theorem SamePlace.press (m : MenuController) (button : Button) :
    SamePlace m (m.press button).1 := by
  obtain ⟨cnt, eq⟩ := m.countPress_eq button (m.buttonDelay ≤ ·)
  rw [MenuController.press, eq]
  exact ⟨rfl, rfl, rfl⟩

/-- The call of `enable_mpg` (`true`) or `disable_mpg` (`false`) that ENTER makes. -/
def switchCall : Option Bool :=
  if input.pressed .enter && (s.menu.press .enter).2.1 && (s.menu.press .enter).2.2 then
    if !s.grblData.mpgMode && !s.grblData.mpgEnableOngoing then some true
    else if s.grblData.mpgMode && !s.grblData.mpgDisableOngoing then some false
    else none
  else none

theorem switchMpg_eq :
    ∃ menu turnOffMpg, SamePlace s.menu menu ∧
      s.switchMpg input = { s.afterCall input.tx (s.switchCall input) with
        menu := menu
        pendantControl := { s.pendantControl with turnOffMpg := turnOffMpg } } := by
  have place := SamePlace.press s.menu .enter
  simp only [switchMpg, switchCall]
  by_cases pressed : input.pressed .enter = true
  · rw [if_pos pressed]
    by_cases acts : ((s.menu.press .enter).2.1 && (s.menu.press .enter).2.2) = true
    · refine ⟨(s.menu.press .enter).1, s.pendantControl.turnOffMpg ||
        (s.switchCall input == some false && s.pendantControl.mpgStatus == .enabled), place, ?_⟩
      obtain ⟨menu, ⟨_, _, mpgStatus, _, _, _, _⟩, _, _,
        ⟨_, _, _, _, _, _, _, mode, enabling, disabling⟩, _, _, _⟩ := s
      cases mode <;> cases enabling <;> cases disabling <;> cases mpgStatus <;>
        simp_all [switchCall, afterCall, enableMpg_eq, disableMpg_eq]
    · refine ⟨(s.menu.press .enter).1, s.pendantControl.turnOffMpg, place, ?_⟩
      simp [acts, pressed, afterCall]
  · rw [if_neg pressed]
    refine ⟨s.menu, s.pendantControl.turnOffMpg, ⟨rfl, rfl, rfl⟩, ?_⟩
    simp [pressed, afterCall]

/-- Packets that only the buttons and the display of the manual mode send. -/
def ManualPackets (packets : List Packet) : Prop :=
  ∀ p ∈ packets, p = .statusRequest ∨ ∃ axis distance feed, p = .buttonJog axis distance feed

theorem ManualPackets.nil : ManualPackets [] := by simp [ManualPackets]

theorem ManualPackets.filter {packets : List Packet} (manual : ManualPackets packets) (tx : Tx) :
    ManualPackets (packets.filter tx) := fun p member => manual p (List.mem_filter.mp member).1

theorem ManualPackets.append {packets others : List Packet} (manual : ManualPackets packets)
    (rest : ManualPackets others) : ManualPackets (packets ++ others) := fun p member =>
  (List.mem_append.mp member).elim (manual p) (rest p)

theorem jogByButton_eq (button : Button) (axis : Char) (sign : Int) :
    ∃ menu packets, SamePlace s.menu menu ∧ ManualPackets packets ∧
      s.jogByButton button axis sign input =
        { s with menu := menu, controllerLine := s.controllerLine ++ packets } := by
  have place := SamePlace.press s.menu button
  simp only [jogByButton]
  split
  · rw [transmit_eq]
    exact ⟨_, _, place, ManualPackets.filter (by simp [ManualPackets]) input.tx, rfl⟩
  · exact ⟨_, [], place, .nil, by simp⟩

theorem jogByButtons_eq :
    ∃ menu packets, SamePlace s.menu menu ∧ ManualPackets packets ∧
      s.jogByButtons input =
        { s with menu := menu, controllerLine := s.controllerLine ++ packets } := by
  simp only [jogByButtons]
  repeat' split
  · exact s.jogByButton_eq input _ _ _
  · exact s.jogByButton_eq input _ _ _
  · exact s.jogByButton_eq input _ _ _
  · exact s.jogByButton_eq input _ _ _
  · exact ⟨s.menu, [], ⟨rfl, rfl, rfl⟩, .nil, by simp⟩

theorem requestReport_eq :
    ∃ packets, ManualPackets packets ∧
      s.requestReport input = { s with controllerLine := s.controllerLine ++ packets } := by
  simp only [requestReport]
  split
  · exact ⟨_, ManualPackets.filter (by simp [ManualPackets]) input.tx, s.transmit_eq input.tx _⟩
  · exact ⟨[], .nil, by simp⟩

/-- A cycle in the Manual menu: both flags of the manual mode are set, at most one call is made
and the other packets are those of its buttons. -/
theorem manualMode_eq :
    ∃ menu turnOffMpg packets, SamePlace s.enterManual.menu menu ∧ ManualPackets packets ∧
      s.manualMode input = { s.enterManual.afterCall input.tx (s.enterManual.switchCall input) with
        menu := menu
        pendantControl := { s.enterManual.pendantControl with turnOffMpg := turnOffMpg }
        controllerLine := (s.enterManual.afterCall input.tx
          (s.enterManual.switchCall input)).controllerLine ++ packets } := by
  obtain ⟨menu, turnOffMpg, place, switched⟩ := s.enterManual.switchMpg_eq input
  simp only [manualMode]
  rw [switched]
  split
  · obtain ⟨request, reports, requested⟩ := requestReport_eq input
      { s.enterManual.afterCall input.tx (s.enterManual.switchCall input) with
        menu := menu
        pendantControl := { s.enterManual.pendantControl with turnOffMpg := turnOffMpg } }
    rw [requested]
    obtain ⟨moved, jogs, stays, jogs', jogged⟩ := jogByButtons_eq input
      { s.enterManual.afterCall input.tx (s.enterManual.switchCall input) with
        menu := menu
        pendantControl := { s.enterManual.pendantControl with turnOffMpg := turnOffMpg }
        controllerLine := (s.enterManual.afterCall input.tx
          (s.enterManual.switchCall input)).controllerLine ++ request }
    refine ⟨moved, turnOffMpg, request ++ jogs, ?_, reports.append jogs', ?_⟩
    · exact ⟨stays.entered.trans place.entered, stays.level.trans place.level,
        stays.levelIndexes.trans place.levelIndexes⟩
    · rw [jogged]
      simp
  · exact ⟨menu, turnOffMpg, [], place, .nil, by simp⟩

/-- The call of `enable_mpg` or `disable_mpg` that a cycle makes. -/
def menuCall : Option Bool :=
  if s.LeavesFirstLevel input then some false
  else if s.menu.enterMenu = true ∧ s.InManualMenu then
    (s.enterCycle input).enterManual.switchCall input
  else none

/-- Everything a cycle does outside menu and settings. -/
theorem screenMenu_eq :
    ∃ menu control settings requests packets, ManualPackets packets ∧
      (control.mpgStatus = s.pendantControl.mpgStatus ∨ control.mpgStatus = .disabled) ∧
      s.screenMenu input = { s with
        menu := menu
        pendantControl := control
        mpgSettings := settings
        grblData := s.grblData.afterCall (s.menuCall input)
        controllerLine :=
          s.controllerLine ++ s.grblData.callPackets input.tx (s.menuCall input) ++ packets
        pendantLine := s.pendantLine ++ requests } := by
  obtain stays | ⟨leaves, eq⟩ | ⟨enters, manual, stays, eq⟩ := s.screenMenu_cases input
  · have none : s.menuCall input = none := by
      rw [menuCall, if_neg stays.stays, if_neg]
      rintro ⟨enters, manual⟩
      rw [stays.manual manual] at enters
      cases enters
    rw [stays.frame, none]
    refine ⟨(s.screenMenu input).menu, s.pendantControl, (s.screenMenu input).mpgSettings, [], [],
      .nil, .inl rfl, ?_⟩
    simp [GrblData.afterCall, GrblData.callPackets, GrblData.attempts]
  · have call : s.menuCall input = some false := if_pos leaves
    have disabled : ((s.enterCycle input).disableMpg input.tx).1 = _ :=
      afterCall_eq input.tx (s.enterCycle input) (some false)
    have status : ∀ control : PendantControl, control =
        (if (s.enterCycle input).Sleeps then
          { s.pendantControl with mpgStatus := .disabled, status := false }
        else s.pendantControl) →
        control.mpgStatus = s.pendantControl.mpgStatus ∨ control.mpgStatus = .disabled := by
      rintro _ rfl
      split
      · exact .inr rfl
      · exact .inl rfl
    rw [eq, leaveFirstLevel_eq, call, disabled]
    exact ⟨_, _, s.mpgSettings, _, [], .nil, status _ rfl, by rw [List.append_nil]; rfl⟩
  · have call : s.menuCall input = (s.enterCycle input).enterManual.switchCall input := by
      rw [menuCall, if_neg stays, if_pos ⟨enters, manual⟩]
    obtain ⟨menu, turnOffMpg, packets, place, manualOnly, cycle⟩ :=
      (s.enterCycle input).manualMode_eq input
    rw [eq, cycle, call, afterCall_eq]
    refine ⟨menu, { s.pendantControl with status := true, turnOffMpg := turnOffMpg },
      s.mpgSettings, [], packets, manualOnly, .inl rfl, ?_⟩
    simp [enterManual, enterCycle]

/-- A cycle leaves the counters of the polls and the jog mode of `pendant_control` alone. -/
theorem screenMenu_control :
    ∃ status mpgStatus turnOffMpg, (s.screenMenu input).pendantControl =
      { s.pendantControl with
        status := status, mpgStatus := mpgStatus, turnOffMpg := turnOffMpg } := by
  obtain stays | ⟨-, eq⟩ | ⟨-, -, -, eq⟩ := s.screenMenu_cases input
  · rw [stays.frame]
    exact ⟨_, _, _, rfl⟩
  · rw [eq, leaveFirstLevel_eq]
    dsimp only
    split <;> exact ⟨_, _, _, rfl⟩
  · obtain ⟨_, turnOffMpg, _, -, -, cycle⟩ := (s.enterCycle input).manualMode_eq input
    rw [eq, cycle]
    exact ⟨true, s.pendantControl.mpgStatus, turnOffMpg, rfl⟩

end Panel

end Cnc
