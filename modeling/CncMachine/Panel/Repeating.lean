import CncMachine.Panel.Interrupts
import CncMachine.Transition.Holds

/-!
# Buttons held down on the panel

Every menu counts the cycles in which it finds a button pressed and lets the first of them through,
and those in which `button_delay` is reached. The count of the first one goes up twice and the one
that reaches the delay is set to zero, so a held button counts 0, 2, 3 and again, and acts in two of
every three cycles. ENTER in the manual mode acts only where the count starts.
-/

namespace Cnc

open Transition

/-- The count of a pressed button after a cycle that processes it. -/
def nextDelayCnt (cnt : BitVec 8) : BitVec 8 :=
  if cnt = 0 then 2 else if cnt = 3 then 0 else cnt + 1

namespace Button

/-- The button acts in a cycle that finds this count. -/
def firesAt (button : Button) (cnt : BitVec 8) : Bool :=
  if button = enter then cnt == 0 else cnt != 2

/-- The second cycle of a hold that acts. -/
def secondAction (button : Button) : Nat := if button = enter then 3 else 2

end Button

namespace MenuController

variable (m : MenuController) (input : MenuInput)

/-- The rows of buttons that the menu shown counts. -/
def rows (mpgMode : Bool) : List (List Button) :=
  match m.level with
  | 0 => [[.right, .left]]
  | 1 =>
      if highByte (m.levelIndexes 0) = 1 then
        [.enter] :: if mpgMode then [[.right, .left, .up, .down]] else []
      else if highByte (m.levelIndexes 0) = 2 then [[.down, .up]]
      else []
  | 2 =>
      if highByte (m.levelIndexes 0) = 2 then
        if highByte (m.levelIndexes 1) = 0 then [[.right, .left]]
        else if highByte (m.levelIndexes 1) = 1 ∨ highByte (m.levelIndexes 1) = 2 then
          [[.down, .up]]
        else []
      else []
  | 3 =>
      if lowByte (m.levelIndexes 0) = 2 then
        if lowByte (m.levelIndexes 1) = 1 then [[.down, .up, .right, .left]]
        else if lowByte (m.levelIndexes 1) = 2 then [[.right, .left]]
        else []
      else []
  | _ => []

/-- Of a row, only the first pressed button is processed. -/
def firstPressed (row : List Button) : List Button := (row.find? input.pressed).toList

/-- The cycle enters what is touched, or it leaves the menu. -/
def movesOn : Bool :=
  m.touchSelectSubmenu.isSome || m.level != 0 && (m.touchExitSubmenu m.level || input.pressed .back)

/-- The buttons that a cycle processes. -/
def processed (mpgMode : Bool) : List Button :=
  if m.movesOn input then [] else (m.rows mpgMode).flatMap (firstPressed input)

/-- The main menu has a variant of its own. -/
def pressAt (button : Button) : MenuController × Bool × Bool :=
  if m.level = 0 then m.pressMain button else m.press button

/-- A processed button acts. ENTER is counted in the manual mode only, where later actions are
empty. -/
def actsOn (button : Button) : Bool :=
  (m.pressAt button).2.1 && (button != .enter || (m.pressAt button).2.2)

/-- The counts that occur with a delay of four. -/
structure Ready : Prop where
  delay : m.buttonDelay = 4
  cnts : ∀ button, m.buttonDelayCnts button = 0 ∨ m.buttonDelayCnts button = 2 ∨
    m.buttonDelayCnts button = 3

/-- From one state of the menu to another these buttons have been counted. -/
structure Counts (m' : MenuController) (buttons : List Button) : Prop where
  delay : m'.buttonDelay = m.buttonDelay
  cnts : ∀ button, m'.buttonDelayCnts button =
    if button ∈ buttons then nextDelayCnt (m.buttonDelayCnts button)
    else m.buttonDelayCnts button

variable {m input} {m' m'' : MenuController} {buttons : List Button}

theorem pressed_of_mem_processed {mpgMode : Bool} {button : Button}
    (member : button ∈ m.processed input mpgMode) : input.pressed button = true := by
  simp only [processed] at member
  split at member
  · cases member
  · obtain ⟨row, -, first⟩ := List.mem_flatMap.mp member
    exact List.find?_some (Option.mem_toList.mp first)

@[simp] theorem firstPressed_nil : firstPressed input [] = [] := rfl

theorem firstPressed_cons (button : Button) (row : List Button) :
    firstPressed input (button :: row) =
      if input.pressed button then [button] else firstPressed input row := by
  cases pressed : input.pressed button <;> simp [firstPressed, pressed]

/-- Both variants of the idiom agree on the counts that occur. -/
theorem countPress_ready (ready : m.Ready) (button : Button) {due : BitVec 8 → Bool}
    (four : due 4 = true) (three : due 3 = false) :
    m.countPress button due =
      (m.setDelayCnt button (nextDelayCnt (m.buttonDelayCnts button)),
        m.buttonDelayCnts button != 2, m.buttonDelayCnts button == 0) := by
  obtain zero | two | three' := ready.cnts button
  · simp [countPress, nextDelayCnt, zero]
  · simpa [countPress, nextDelayCnt, two] using three
  · simpa [countPress, nextDelayCnt, three'] using four

theorem press_ready (ready : m.Ready) (button : Button) :
    m.press button =
      (m.setDelayCnt button (nextDelayCnt (m.buttonDelayCnts button)),
        m.buttonDelayCnts button != 2, m.buttonDelayCnts button == 0) := by
  apply countPress_ready ready <;> simp [ready.delay]

theorem pressMain_ready (ready : m.Ready) (button : Button) :
    m.pressMain button =
      (m.setDelayCnt button (nextDelayCnt (m.buttonDelayCnts button)),
        m.buttonDelayCnts button != 2, m.buttonDelayCnts button == 0) := by
  apply countPress_ready ready <;> simp [ready.delay]

theorem actsOn_ready (ready : m.Ready) (button : Button) :
    m.actsOn button = button.firesAt (m.buttonDelayCnts button) := by
  have pressAt : m.pressAt button = (m.setDelayCnt button (nextDelayCnt (m.buttonDelayCnts button)),
      m.buttonDelayCnts button != 2, m.buttonDelayCnts button == 0) := by
    simp only [MenuController.pressAt]
    split
    · exact pressMain_ready ready button
    · exact press_ready ready button
  rw [actsOn, pressAt]
  obtain zero | two | three := ready.cnts button
  · simp [Button.firesAt, zero]
  · simp [Button.firesAt, two]
  · cases button <;> simp [Button.firesAt, three]

theorem counts_press (ready : m.Ready) (button : Button) :
    m.Counts (m.press button).1 [button] := by
  rw [press_ready ready]
  refine ⟨rfl, fun other => ?_⟩
  simp only [setDelayCnt, Function.update_apply, List.mem_singleton]
  split
  next same => rw [same]
  next => rfl

theorem counts_pressMain (ready : m.Ready) (button : Button) :
    m.Counts (m.pressMain button).1 [button] := by
  rw [pressMain_ready ready, ← press_ready ready]
  exact counts_press ready button

namespace Counts

/-- Whatever leaves the counts alone. -/
theorem of_same (delay : m'.buttonDelay = m.buttonDelay)
    (cnts : m'.buttonDelayCnts = m.buttonDelayCnts) : m.Counts m' [] :=
  ⟨delay, fun button => by rw [cnts]; rfl⟩

theorem then_same (counts : m.Counts m' buttons) (delay : m''.buttonDelay = m'.buttonDelay)
    (cnts : m''.buttonDelayCnts = m'.buttonDelayCnts) : m.Counts m'' buttons :=
  ⟨delay.trans counts.delay, fun button => by rw [cnts]; exact counts.cnts button⟩

/-- Different buttons one after the other. -/
theorem append {others : List Button} (first : m.Counts m' buttons) (second : m'.Counts m'' others)
    (apart : ∀ button ∈ buttons, button ∉ others) : m.Counts m'' (buttons ++ others) := by
  refine ⟨second.delay.trans first.delay, fun button => ?_⟩
  rw [second.cnts, first.cnts]
  by_cases early : button ∈ buttons
  · simp [early, apart button early]
  · simp [early]

/-- The counts that occur are closed under counting. -/
theorem ready (counts : m.Counts m' buttons) (ready : m.Ready) : m'.Ready := by
  refine ⟨counts.delay.trans ready.delay, fun button => ?_⟩
  rw [counts.cnts]
  split
  · obtain zero | two | three := ready.cnts button
    · simp [nextDelayCnt, zero]
    · simp [nextDelayCnt, two]
    · simp [nextDelayCnt, three]
  · exact ready.cnts button

end Counts

theorem counts_saveIndex (counts : m.Counts m' buttons) (level : Nat) (index : BitVec 8) :
    m.Counts (m'.saveIndex level index) buttons := by
  simp only [saveIndex]
  split
  · exact counts.then_same rfl rfl
  · exact counts

theorem counts_moveSelection {press : MenuController → Button → MenuController × Bool × Bool}
    (counts : ∀ button, m.Counts (press m button).1 [button]) (next previous : Button)
    (onNext onPrevious : BitVec 8 → BitVec 8) (index : BitVec 8) :
    m.Counts (m.moveSelection input press next previous onNext onPrevious index).1
      (firstPressed input [next, previous]) := by
  simp only [moveSelection, firstPressed_cons, firstPressed_nil]
  split
  · exact counts next
  · split
    · exact counts previous
    · exact .of_same rfl rfl

/-- A selector: ENTER enters the selected entry, and two buttons move the selection. -/
theorem counts_selector {press : MenuController → Button → MenuController × Bool × Bool}
    (counts : ∀ button, m.Counts (press m button).1 [button]) (next previous : Button)
    (onNext onPrevious : BitVec 8 → BitVec 8) (level : Nat) (index : BitVec 8) :
    m.Counts (if !input.pressed next && !input.pressed previous && input.pressed .enter then
        m.enterLevel level
      else
        (m.moveSelection input press next previous onNext onPrevious index).1.saveIndex level
          (m.moveSelection input press next previous onNext onPrevious index).2)
      (firstPressed input [next, previous]) := by
  split
  next enters =>
    simp only [Bool.and_eq_true, Bool.not_eq_true'] at enters
    rw [firstPressed_cons, firstPressed_cons, if_neg (by simp [enters]), if_neg (by simp [enters])]
    exact .of_same rfl rfl
  next => exact counts_saveIndex (counts_moveSelection counts _ _ _ _ _) _ _

theorem counts_mainMenu (ready : m.Ready) :
    m.Counts (m.mainMenu input) (firstPressed input [.right, .left]) :=
  counts_selector (counts_pressMain ready) _ _ _ _ _ _

theorem counts_settingsMenu (ready : m.Ready) :
    m.Counts (m.settingsMenu input) (firstPressed input [.down, .up]) :=
  counts_selector (counts_press ready) _ _ _ _ _ _

theorem counts_mpgSettingsMenu (ready : m.Ready) :
    m.Counts (m.mpgSettingsMenu input) (firstPressed input [.down, .up]) :=
  counts_selector (counts_press ready) _ _ _ _ _ _

theorem counts_brightnessMenu (ready : m.Ready) :
    m.Counts (m.brightnessMenu input) (firstPressed input [.right, .left]) := by
  have right := counts_press ready .right
  have left := counts_press ready .left
  simp only [brightnessMenu, firstPressed_cons, firstPressed_nil]
  repeat' split
  · exact right.then_same rfl rfl
  · exact right
  · exact left.then_same rfl rfl
  · exact left
  · exact .of_same rfl rfl

theorem counts_spindleSettingMenu (ready : m.Ready) (settings : MpgSettings) :
    m.Counts (m.spindleSettingMenu input settings).1 (firstPressed input [.right, .left]) := by
  simp only [spindleSettingMenu, firstPressed_cons, firstPressed_nil]
  split
  · exact counts_press ready .right
  · split
    · exact counts_press ready .left
    · exact .of_same rfl rfl

theorem counts_axesSettingsMenu (ready : m.Ready) (settings : MpgSettings) :
    m.Counts (m.axesSettingsMenu input settings).1
      (firstPressed input [.down, .up, .right, .left]) := by
  simp only [axesSettingsMenu]
  split
  next moves =>
    have row : firstPressed input [.down, .up, .right, .left] =
        firstPressed input [.down, .up] := by
      simp only [firstPressed_cons]
      split
      · rfl
      · simp_all
    rw [row]
    exact counts_saveIndex (counts_moveSelection (counts_press ready) _ _ _ _ _) _ _
  next stays =>
    have row : firstPressed input [.down, .up, .right, .left] =
        firstPressed input [.right, .left] := by
      simp only [Bool.or_eq_true, not_or, Bool.not_eq_true] at stays
      simp [firstPressed_cons, stays]
    rw [row]
    simp only [firstPressed_cons, firstPressed_nil]
    split
    · exact counts_saveIndex (counts_press ready .right) _ _
    · split
      · exact counts_saveIndex (counts_press ready .left) _ _
      · exact counts_saveIndex (.of_same rfl rfl) _ _

/-- Below the main menu, a cycle that does not leave processes the rows. -/
theorem processed_below {mpgMode : Bool} (untouched : m.touchSelectSubmenu = none)
    (below : m.level ≠ 0) :
    m.processed input mpgMode =
      if m.touchExitSubmenu m.level || input.pressed .back then []
      else (m.rows mpgMode).flatMap (firstPressed input) := by
  simp [processed, movesOn, untouched, below]

theorem counts_levelTwo (ready : m.Ready) (untouched : m.touchSelectSubmenu = none)
    (level : m.level = 2) (mpgMode : Bool) :
    m.Counts (m.levelTwo input) (m.processed input mpgMode) := by
  rw [processed_below untouched (by omega), level]
  simp only [levelTwo, rows, level]
  repeat' split
  · exact .of_same rfl rfl
  · rw [List.flatMap_singleton]
    exact counts_brightnessMenu ready
  · rw [List.flatMap_singleton]
    exact counts_mpgSettingsMenu ready
  · exact .of_same rfl rfl
  · exact .of_same rfl rfl

theorem counts_levelThree (ready : m.Ready) (untouched : m.touchSelectSubmenu = none)
    (level : m.level = 3) (settings : MpgSettings) (mpgMode : Bool) :
    m.Counts (m.levelThree input settings).1 (m.processed input mpgMode) := by
  rw [processed_below untouched (by omega), level]
  simp only [levelThree, rows, level]
  repeat' split
  · exact .of_same rfl rfl
  · rw [List.flatMap_singleton]
    exact counts_axesSettingsMenu ready settings
  · rw [List.flatMap_singleton]
    exact counts_spindleSettingMenu ready settings
  · exact .of_same rfl rfl
  · exact .of_same rfl rfl

end MenuController

namespace Panel

variable {s : Panel} {input : MenuInput}

theorem counts_switchMpg (ready : s.menu.Ready) :
    s.menu.Counts (s.switchMpg input).menu (MenuController.firstPressed input [.enter]) ∧
      (s.switchMpg input).grblData.mpgMode = s.grblData.mpgMode := by
  have press := MenuController.counts_press ready .enter
  simp only [switchMpg, enableMpg_eq, disableMpg_eq, MenuController.firstPressed_cons,
    MenuController.firstPressed_nil]
  repeat' split
  all_goals
    first
    | exact ⟨press, rfl⟩
    | exact ⟨.of_same rfl rfl, rfl⟩

theorem counts_jogByButtons (ready : s.menu.Ready) :
    s.menu.Counts (s.jogByButtons input).menu
      (MenuController.firstPressed input [.right, .left, .up, .down]) := by
  have jog (button : Button) (axis : Char) (sign : Int) :
      s.menu.Counts (s.jogByButton button axis sign input).menu [button] := by
    have press := MenuController.counts_press ready button
    simp only [jogByButton, transmit_eq]
    split <;> exact press
  simp only [jogByButtons, MenuController.firstPressed_cons, MenuController.firstPressed_nil]
  repeat' split
  · exact jog _ _ _
  · exact jog _ _ _
  · exact jog _ _ _
  · exact jog _ _ _
  · exact .of_same rfl rfl

theorem requestReport_menu (s : Panel) : (s.requestReport input).menu = s.menu := by
  simp only [requestReport, transmit_eq]
  split <;> rfl

/-- ENTER first, then one of the four that move the machine. -/
theorem counts_manualMode (ready : s.menu.Ready) :
    s.menu.Counts (s.manualMode input).menu
      (([.enter] :: if s.grblData.mpgMode then [[.right, .left, .up, .down]] else []).flatMap
        (MenuController.firstPressed input)) := by
  have entered : s.menu.Counts s.enterManual.menu [] := .of_same rfl rfl
  obtain ⟨first, mode⟩ : s.enterManual.menu.Counts (s.enterManual.switchMpg input).menu
      (MenuController.firstPressed input [.enter]) ∧ _ := counts_switchMpg (entered.ready ready)
  have switched : s.menu.Counts (s.enterManual.switchMpg input).menu
      (MenuController.firstPressed input [.enter]) := ⟨first.delay, first.cnts⟩
  simp only [manualMode]
  rw [mode, show s.enterManual.grblData.mpgMode = s.grblData.mpgMode from rfl]
  split
  · have reported : s.menu.Counts ((s.enterManual.switchMpg input).requestReport input).menu
        (MenuController.firstPressed input [.enter]) := by
      rw [requestReport_menu]
      exact switched
    rw [List.flatMap_cons, List.flatMap_singleton]
    refine reported.append (counts_jogByButtons (reported.ready ready)) fun button enter jogs => ?_
    simp only [MenuController.firstPressed_cons, MenuController.firstPressed_nil] at enter jogs
    repeat' split at jogs
    all_goals (split at enter <;> simp_all)
  · rw [List.flatMap_singleton]
    exact switched

theorem counts_levelOne (ready : s.menu.Ready) (untouched : s.menu.touchSelectSubmenu = none)
    (level : s.menu.level = 1) :
    s.menu.Counts (s.levelOne input).menu (s.menu.processed input s.grblData.mpgMode) := by
  rw [MenuController.processed_below untouched (by omega), level]
  simp only [levelOne, MenuController.rows, level]
  split
  · rw [leaveFirstLevel_eq]
    exact .of_same rfl rfl
  · split
    · exact counts_manualMode ready
    · split
      · rw [List.flatMap_singleton]
        exact MenuController.counts_settingsMenu ready
      · exact .of_same rfl rfl

theorem counts_menuCycle (ready : s.menu.Ready) :
    s.menu.Counts (s.menuCycle input).menu (s.menu.processed input s.grblData.mpgMode) := by
  simp only [menuCycle]
  split
  next submenu touched =>
    simp only [MenuController.processed, MenuController.movesOn, touched]
    exact .of_same rfl rfl
  next untouched =>
    split
    next level =>
      have processed : s.menu.processed input s.grblData.mpgMode =
          MenuController.firstPressed input [.right, .left] := by
        simp [MenuController.processed, MenuController.movesOn, MenuController.rows, untouched,
          level]
      rw [processed]
      exact MenuController.counts_mainMenu ready
    next level => exact counts_levelOne ready untouched level
    next level => exact MenuController.counts_levelTwo ready untouched level _
    next level => exact MenuController.counts_levelThree ready untouched level _ _
    next main first second third =>
      have processed : s.menu.processed input s.grblData.mpgMode = [] := by
        simp only [MenuController.processed, MenuController.rows]
        split <;> rfl
      rw [processed]
      exact .of_same rfl rfl

/-- What an event is to a button. Only a cycle of the menu looks at buttons. -/
def contact (button : Button) (s : Panel) : PanelEvent → Contact
  | .menu input =>
      let m := s.menu.enterCycle input
      if s.menu.enterMenu = false then .idle
      else if input.pressed button = false then .release
      else if button ∈ m.processed input s.grblData.mpgMode then .tick (m.actsOn button)
      else .idle
  | _ => .idle

theorem ready_enterCycle (ready : s.menu.Ready) : (s.menu.enterCycle input).Ready := by
  refine ⟨ready.delay, fun button => ?_⟩
  simp only [MenuController.enterCycle, MenuController.clearButtonChannelCnts]
  split
  · exact ready.cnts button
  · exact .inl rfl

/-- Between cycles the counts stay. -/
theorem counts_step {e : PanelEvent} (other : ∀ input, e ≠ .menu input) :
    s.menu.Counts (s.step e).menu [] := by
  cases e with
  | menu input => exact absurd rfl (other input)
  | tim1 accepted =>
      obtain ⟨control, requests, -, -, polled⟩ := s.countMenu.pollPendant_eq accepted
      rw [step, tim1, polled]
      simp only [countMenu]
      split <;> exact .of_same rfl rfl
  | frame frame tx =>
      obtain ⟨_, _, _, -, eq⟩ := uart4Callback_eq tx frame s
      rw [step, eq]
      exact .of_same rfl rfl
  | grbl chunk => exact .of_same rfl rfl

theorem counts_screenMenu (ready : s.menu.Ready) (enters : s.menu.enterMenu = true) :
    (s.menu.enterCycle input).Counts (s.screenMenu input).menu
      ((s.menu.enterCycle input).processed input s.grblData.mpgMode) := by
  rw [s.screenMenu_entered input enters]
  exact counts_menuCycle (s := s.enterCycle input) (ready_enterCycle ready)

theorem ready_step (e : PanelEvent) (ready : s.menu.Ready) : (s.step e).menu.Ready := by
  cases e with
  | menu input =>
      cases enters : s.menu.enterMenu with
      | false =>
          rw [step, s.screenMenu_idle input enters]
          exact ready
      | true => exact (counts_screenMenu ready enters).ready (ready_enterCycle ready)
  | tim1 accepted => exact (counts_step (e := .tim1 accepted) (by simp)).ready ready
  | frame frame tx => exact (counts_step (e := .frame frame tx) (by simp)).ready ready
  | grbl chunk => exact (counts_step (e := .grbl chunk) (by simp)).ready ready

theorem ready_initial (startup : Startup) : (initial startup).menu.Ready :=
  ⟨rfl, fun _ => .inl rfl⟩

/-- The count of a button follows its contacts. -/
theorem cnt_step (button : Button) (e : PanelEvent) (ready : s.menu.Ready) :
    (s.step e).menu.buttonDelayCnts button =
      (contact button s e).count nextDelayCnt 0 (s.menu.buttonDelayCnts button) := by
  have between (other : ∀ input, e ≠ .menu input) :
      (s.step e).menu.buttonDelayCnts button = s.menu.buttonDelayCnts button :=
    (counts_step other).cnts button
  cases e with
  | menu input =>
      cases enters : s.menu.enterMenu with
      | false => simp [step, s.screenMenu_idle input enters, contact, enters, Contact.count]
      | true =>
          rw [step, (counts_screenMenu ready enters).cnts button]
          cases pressed : input.pressed button with
          | false =>
              have zero : (s.menu.enterCycle input).buttonDelayCnts button = 0 :=
                if_neg (by simp [pressed])
              have left :
                  button ∉ (s.menu.enterCycle input).processed input s.grblData.mpgMode := by
                intro member
                simp [MenuController.pressed_of_mem_processed member] at pressed
              simp [contact, enters, pressed, left, zero, Contact.count]
          | true =>
              have kept : (s.menu.enterCycle input).buttonDelayCnts button =
                  s.menu.buttonDelayCnts button := if_pos pressed
              simp only [contact, enters, pressed, kept]
              split <;> simp [Contact.count, *]
  | tim1 accepted => exact between (by simp)
  | frame frame tx => exact between (by simp)
  | grbl chunk => exact between (by simp)

theorem acts_step {button : Button} {e : PanelEvent} {acts : Bool} (ready : s.menu.Ready)
    (tick : contact button s e = .tick acts) :
    acts = button.firesAt (s.menu.buttonDelayCnts button) := by
  cases e with
  | menu input =>
      simp only [contact] at tick
      split at tick
      · cases tick
      · split at tick
        next => cases tick
        next pressed =>
          split at tick
          next =>
            have kept : (s.menu.enterCycle input).buttonDelayCnts button =
                s.menu.buttonDelayCnts button := if_pos (by simpa using pressed)
            cases tick
            rw [MenuController.actsOn_ready (ready_enterCycle ready), kept]
          next => cases tick
  | tim1 accepted => cases tick
  | frame frame tx => cases tick
  | grbl chunk => cases tick

/-- The holds of a button in a run from power-up. -/
abbrev buttonHolds (button : Button) (startup : Startup) (es : List PanelEvent) : List (List Bool) :=
  holds (contacts step (contact button) (initial startup) es)

/-- The first cycle of a hold acts, and the cycles after it do not before the second that does. -/
theorem spaced_buttonHolds (button : Button) (startup : Startup) (es : List PanelEvent) :
    (∀ hold ∈ buttonHolds button startup es, Spaced 4 hold) ↔
      ∀ hold ∈ buttonHolds button startup es, hold.length ≤ button.secondAction := by
  have counts : CountsBy nextDelayCnt button.firesAt 0 0
      (contacts step (contact button) (initial startup) es) :=
    countsBy_contacts (I := fun s : Panel => s.menu.Ready) (fun _ e ready => ready_step e ready)
      (fun _ e ready => cnt_step button e ready) (fun _ _ _ ready tick => acts_step ready tick)
      (ready_initial startup) es
  apply counts.spaced_iff
  · cases button <;> decide
  · cases button <;> decide
  · cases button <;> decide
  · intro i positive early
    have small : i = 1 ∨ i = 2 := by
      simp only [Button.secondAction] at early
      split at early <;> omega
    obtain rfl | rfl := small <;> revert early <;> cases button <;> decide
  · cases button <;> decide

end Panel

end Cnc
