import Mathlib.Algebra.Order.Group.Int
import CncMachine.Numeric.Saturate
import CncMachine.Panel.Interrupts
import CncMachine.Transition.Run

/-!
# Presses in the settings menus

On the third level RIGHT and LEFT change the selected value of `mpg_settings`, and nothing else
does. Every value has a step and two limits and moves on the grid that these make, but for the slow
jogging feed: past the limit that it is compared with, it jumps to its largest value.
-/

namespace Cnc

open Transition

/-- The ten adjustable values of `mpg_settings`. -/
inductive Setting where
  | xAxisMultiplicity (entry : Fin 3)
  | yzAxisMultiplicity (entry : Fin 3)
  | jogSpeed (entry : Fin 3)
  | spindleSpeed
deriving DecidableEq, Repr

namespace MpgSettings

def value (m : MpgSettings) : Setting → Int
  | .xAxisMultiplicity entry => m.xAxisEntries entry
  | .yzAxisMultiplicity entry => m.yzAxisEntries entry
  | .jogSpeed entry => m.jogSpeedEntries entry
  | .spindleSpeed => m.spindleSpeed

/-- What an accepted press does. -/
def adjust (up : Bool) (m : MpgSettings) : Setting → MpgSettings
  | .xAxisMultiplicity entry => m.adjustAxes up 0 entry
  | .yzAxisMultiplicity entry => m.adjustAxes up 1 entry
  | .jogSpeed entry => m.adjustAxes up 2 entry
  | .spindleSpeed => m.adjustSpindle up

end MpgSettings

theorem multiplicityAdjustment_isSome (entry : Fin 3) :
    (multiplicityAdjustment entry).isSome = true := by
  revert entry
  decide

theorem jogSpeedAdjustment_isSome (entry : Fin 3) :
    (jogSpeedAdjustment entry).isSome = true := by
  revert entry
  decide

/-- The numbers in the source are those of a grid, up to the limit that a raise is compared with. -/
def Adjustment.Follows (a : Adjustment) (grid : Grid Int) : Prop :=
  a.step = grid.step ∧ a.floor = grid.low ∧ a.cap = grid.high ∧ a.limit ≤ a.cap

instance (a : Adjustment) (grid : Grid Int) : Decidable (a.Follows grid) :=
  inferInstanceAs (Decidable (_ ∧ _))

namespace Adjustment

variable {a : Adjustment} {grid : Grid Int}

theorem Follows.lower (follows : a.Follows grid) (v : Int) : a.lower v = grid.lower v := by
  obtain ⟨step, floor, -, -⟩ := follows
  simp only [Adjustment.lower, Grid.lower, step, floor]
  omega

/-- A raise leaves the grid if it comes past the limit, but not to the end. -/
theorem Follows.raise_iff (follows : a.Follows grid) (v : Int) :
    a.raise v = grid.raise v ↔ ¬ (a.limit < v + a.step ∧ v + a.step < a.cap) := by
  obtain ⟨step, -, cap, limit⟩ := follows
  simp only [Adjustment.raise, Grid.raise, ← step, ← cap]
  omega

theorem Follows.apply_iff (follows : a.Follows grid) (up : Bool) (v : Int) :
    a.apply up v = grid.move up v ↔
      ¬ (up = true ∧ a.limit < v + a.step ∧ v + a.step < a.cap) := by
  cases up with
  | true =>
      rw [Adjustment.apply, Grid.move, if_pos rfl, if_pos rfl, follows.raise_iff]
      simp
  | false =>
      rw [Adjustment.apply, Grid.move, if_neg Bool.false_ne_true, if_neg Bool.false_ne_true]
      exact iff_of_true (follows.lower v) fun up => Bool.false_ne_true up.1

/-- A press never leaves the limits. -/
theorem Follows.apply_mem (follows : a.Follows grid) (up : Bool) {v : Int} (mem : grid.Mem v) :
    grid.Mem (a.apply up v) := by
  obtain ⟨step, floor, cap, limit⟩ := follows
  refine Inside.apply ⟨?_, ?_, ?_, ?_⟩ up mem
  · rw [step]
    exact grid.forward
  · rw [← cap]
    exact limit
  · rw [cap]
    exact ⟨grid.order, le_rfl⟩
  · rw [floor]
    exact ⟨le_rfl, grid.order⟩

end Adjustment

namespace Setting

/-- The numbers that the source gives a value. -/
def adjustment : Setting → Adjustment
  | xAxisMultiplicity entry | yzAxisMultiplicity entry =>
      (multiplicityAdjustment entry).get (multiplicityAdjustment_isSome entry)
  | jogSpeed entry => (jogSpeedAdjustment entry).get (jogSpeedAdjustment_isSome entry)
  | spindleSpeed => spindleSpeedAdjustment

/-- The step and the limits of a value. -/
def grid : Setting → Grid Int
  | xAxisMultiplicity 0 | yzAxisMultiplicity 0 => ⟨1, 1, 10, by decide, by decide⟩
  | xAxisMultiplicity 1 | yzAxisMultiplicity 1 => ⟨10, 10, 100, by decide, by decide⟩
  | xAxisMultiplicity 2 | yzAxisMultiplicity 2 => ⟨10, 100, 150, by decide, by decide⟩
  | jogSpeed 0 => ⟨10, 500, 750, by decide, by decide⟩
  | jogSpeed 1 => ⟨50, 750, 1000, by decide, by decide⟩
  | jogSpeed 2 => ⟨100, 1000, 1500, by decide, by decide⟩
  | spindleSpeed => ⟨100, 800, 5000, by decide, by decide⟩

theorem follows (setting : Setting) : setting.adjustment.Follows setting.grid := by
  cases setting with
  | xAxisMultiplicity entry => revert entry; decide
  | yzAxisMultiplicity entry => revert entry; decide
  | jogSpeed entry => revert entry; decide
  | spindleSpeed => decide

/-- Only the slow jogging feed can come past its limit without coming to the end. -/
theorem limit_lt_cap {setting : Setting}
    (short : setting.adjustment.limit < setting.adjustment.cap) : setting = jogSpeed 0 := by
  cases setting with
  | xAxisMultiplicity entry => revert entry; decide
  | yzAxisMultiplicity entry => revert entry; decide
  | jogSpeed entry => revert entry; decide
  | spindleSpeed => revert short; decide

end Setting

namespace MpgSettings

variable (m : MpgSettings) (up : Bool)

/-- A press changes its value by the value's own numbers. -/
theorem value_adjust (setting : Setting) :
    (m.adjust up setting).value setting = setting.adjustment.apply up (m.value setting) := by
  have entry (adjustment : Nat → Option Adjustment) (table : Fin 3 → Int) (entry : Fin 3)
      (some : (adjustment entry).isSome = true) :
      adjustEntry adjustment up entry table entry =
        ((adjustment entry).get some).apply up (table entry) := by
    obtain ⟨a, eq⟩ := Option.isSome_iff_exists.mp some
    simp [adjustEntry, eq]
  cases setting with
  | xAxisMultiplicity index => exact entry _ _ index _
  | yzAxisMultiplicity index => exact entry _ _ index _
  | jogSpeed index => exact entry _ _ index _
  | spindleSpeed => rfl

/-- The other values stay. -/
theorem value_adjust_of_ne {setting other : Setting} (differs : other ≠ setting) :
    (m.adjust up setting).value other = m.value other := by
  have entry (adjustment : Nat → Option Adjustment) (table : Fin 3 → Int) {index i : Fin 3}
      (ne : i ≠ index) : adjustEntry adjustment up index table i = table i := by
    have ne : (i : Nat) ≠ index := Fin.val_ne_of_ne ne
    simp only [adjustEntry]
    cases adjustment index with
    | none => rfl
    | some a => exact if_neg ne
  cases setting <;> cases other <;> first
    | rfl
    | exact absurd rfl differs
    | exact entry _ _ fun same => differs (congrArg _ same)

/-- Every value is between its limits. -/
def InRange : Prop := ∀ setting : Setting, setting.grid.Mem (m.value setting)

variable {m}

theorem InRange.adjust (inRange : m.InRange) (setting : Setting) :
    (m.adjust up setting).InRange := by
  intro other
  by_cases same : other = setting
  · subst same
    rw [value_adjust]
    exact other.follows.apply_mem up (inRange other)
  · rw [m.value_adjust_of_ne up same]
    exact inRange other

theorem inRange_default (memory : Table → Nat → Int) : (MpgSettings.default memory).InRange := by
  intro setting
  cases setting with
  | xAxisMultiplicity entry | yzAxisMultiplicity entry | jogSpeed entry =>
      show Grid.Mem _ (![_, _, _] entry)
      revert entry
      unfold Grid.Mem
      decide
  | spindleSpeed => exact ⟨(by decide : (800 : Int) ≤ 1000), (by decide : (1000 : Int) ≤ 5000)⟩

end MpgSettings

namespace MenuController

variable (m : MenuController) (input : MenuInput)

/-- The value selected in one of the three menus of axes settings. -/
def axesSetting (menu entry : Nat) : Option Setting :=
  if inside : entry < 3 then
    match menu with
    | 0 => some (.xAxisMultiplicity ⟨entry, inside⟩)
    | 1 => some (.yzAxisMultiplicity ⟨entry, inside⟩)
    | 2 => some (.jogSpeed ⟨entry, inside⟩)
    | _ => none
  else none

theorem adjustAxes_eq (up : Bool) (menu entry : Nat) (settings : MpgSettings) :
    settings.adjustAxes up menu entry = (axesSetting menu entry).elim settings
      (settings.adjust up) := by
  by_cases inside : entry < 3
  · rw [axesSetting, dif_pos inside]
    match menu with
    | 0 | 1 | 2 | _ + 3 => rfl
  · rw [axesSetting, dif_neg inside]
    obtain ⟨rest, rfl⟩ := Nat.exists_eq_add_of_le' (not_lt.mp inside)
    have multiplicity : multiplicityAdjustment (rest + 3) = none := rfl
    have jogSpeed : jogSpeedAdjustment (rest + 3) = none := rfl
    match menu with
    | 0 => simp [MpgSettings.adjustAxes, adjustEntry, multiplicity]
    | 1 => simp [MpgSettings.adjustAxes, adjustEntry, multiplicity]
    | 2 => simp [MpgSettings.adjustAxes, adjustEntry, jogSpeed]
    | _ + 3 => rfl

/-- The direction of a press of RIGHT or LEFT that is accepted. -/
def acceptedPress : Option Bool :=
  if input.pressed .right then if (m.press .right).2.1 then some true else none
  else if input.pressed .left then if (m.press .left).2.1 then some false else none
  else none

/-- The direction and the value of a press in the axes settings. -/
def axesPress : Option (Bool × Setting) :=
  if input.pressed .down || input.pressed .up then none
  else (m.acceptedPress input).bind fun up =>
    (axesSetting (highByte (m.levelIndexes 2)).toNat (lowByte (m.levelIndexes 3)).toNat).map
      (up, ·)

/-- The direction and the value of a press on the third level. -/
def adjusted : Option (Bool × Setting) :=
  if m.touchExitSubmenu 3 || input.pressed .back then none
  else if lowByte (m.levelIndexes 0) = 2 then
    if lowByte (m.levelIndexes 1) = 1 then m.axesPress input
    else if lowByte (m.levelIndexes 1) = 2 then
      if lowByte (m.levelIndexes 2) = 0 then (m.acceptedPress input).map (·, .spindleSpeed)
      else none
    else none
  else none

/-- The settings after a press, if there is one. -/
def adjustBy (settings : MpgSettings) (press : Option (Bool × Setting)) : MpgSettings :=
  press.elim settings fun press => settings.adjust press.1 press.2

theorem axesSettingsMenu_settings (settings : MpgSettings) :
    (m.axesSettingsMenu input settings).2 = adjustBy settings (m.axesPress input) := by
  have press (up : Bool) (menu entry : Nat) :
      settings.adjustAxes up menu entry =
        adjustBy settings ((axesSetting menu entry).map (up, ·)) := by
    rw [adjustAxes_eq]
    cases axesSetting menu entry <;> rfl
  simp only [axesSettingsMenu, axesPress, acceptedPress, press]
  repeat' split
  all_goals rfl

theorem spindleSettingMenu_settings (settings : MpgSettings) :
    (m.spindleSettingMenu input settings).2 =
      adjustBy settings (if lowByte (m.levelIndexes 2) = 0 then
        (m.acceptedPress input).map (·, .spindleSpeed) else none) := by
  simp only [spindleSettingMenu, acceptedPress]
  repeat' split
  all_goals simp_all [adjustBy, MpgSettings.adjust]

theorem levelThree_settings (settings : MpgSettings) :
    (m.levelThree input settings).2 = adjustBy settings (m.adjusted input) := by
  simp only [levelThree, adjusted]
  split
  · rfl
  · split
    · split
      · exact m.axesSettingsMenu_settings input settings
      · split
        · exact m.spindleSettingMenu_settings input settings
        · rfl
    · rfl

end MenuController

namespace Panel

variable (s : Panel)

/-- The direction and the value of the press that an event is. -/
def adjusted : PanelEvent → Option (Bool × Setting)
  | .menu input =>
      let m := s.menu.enterCycle input
      if s.menu.enterMenu = true ∧ m.touchSelectSubmenu = none ∧ m.level = 3 then m.adjusted input
      else none
  | _ => none

theorem levelOne_mpgSettings (input : MenuInput) :
    (s.levelOne input).mpgSettings = s.mpgSettings := by
  simp only [levelOne]
  split
  · rw [leaveFirstLevel_eq, disableMpg_eq]
  · split
    · obtain ⟨_, _, _, -, -, cycle⟩ := s.manualMode_eq input
      rw [cycle, afterCall_eq]
      rfl
    · split <;> rfl

/-- Only the third level changes the settings. -/
theorem mpgSettings_menuCycle (input : MenuInput) :
    (s.menuCycle input).mpgSettings =
      if s.menu.touchSelectSubmenu = none ∧ s.menu.level = 3 then
        MenuController.adjustBy s.mpgSettings (s.menu.adjusted input)
      else s.mpgSettings := by
  simp only [menuCycle]
  split
  next submenu touched =>
    rw [if_neg]
    simp [touched]
  next untouched =>
    split
    next level => simp [level]
    next level => simp [level, levelOne_mpgSettings]
    next level => simp [level]
    next level =>
      rw [if_pos ⟨untouched, level⟩]
      exact MenuController.levelThree_settings _ input s.mpgSettings
    next other => exact (if_neg fun press => other press.2).symm

/-- Presses on the third level are all that changes the settings. -/
theorem mpgSettings_step (e : PanelEvent) :
    (s.step e).mpgSettings = MenuController.adjustBy s.mpgSettings (s.adjusted e) := by
  cases e with
  | menu input =>
      cases enters : s.menu.enterMenu with
      | false =>
          have none : s.adjusted (.menu input) = none := if_neg fun press => by simp_all
          rw [step, s.screenMenu_idle input enters, none]
          rfl
      | true =>
          rw [step, s.screenMenu_entered input enters, mpgSettings_menuCycle, adjusted]
          split
          next press =>
            rw [if_pos ⟨enters, press⟩]
            rfl
          next other =>
            rw [if_neg fun press => other press.2]
            rfl
  | tim1 accepted =>
      obtain ⟨_, _, _, -, -, -, eq⟩ := s.tim1_eq accepted
      rw [step, eq]
      rfl
  | frame frame tx =>
      obtain ⟨_, _, _, -, eq⟩ := uart4Callback_eq tx frame s
      rw [step, eq]
      rfl
  | grbl chunk => rfl

theorem inRange_step (e : PanelEvent) (inRange : s.mpgSettings.InRange) :
    (s.step e).mpgSettings.InRange := by
  rw [s.mpgSettings_step e]
  cases s.adjusted e with
  | none => exact inRange
  | some press => exact inRange.adjust press.1 press.2

theorem inRange_run (startup : Startup) (es : List PanelEvent) :
    (run step (initial startup) es).mpgSettings.InRange :=
  invariant_run (I := fun s : Panel => s.mpgSettings.InRange)
    (fun s e inRange => s.inRange_step e inRange)
    (MpgSettings.inRange_default startup.memory) es

/-- A press moves its value on the grid: by the step at most, and back with the next press of LEFT
if it was not cut short. -/
structure MovesOnGrid (e : PanelEvent) (up : Bool) (setting : Setting) : Prop where
  moves : (s.step e).mpgSettings.value setting =
    setting.grid.move up (s.mpgSettings.value setting)
  others : ∀ other ≠ setting, (s.step e).mpgSettings.value other = s.mpgSettings.value other
  within : |(s.step e).mpgSettings.value setting - s.mpgSettings.value setting| ≤
    setting.grid.step
  undone : up = true → s.mpgSettings.value setting + setting.grid.step ≤ setting.grid.high →
    ∀ (t : Panel) (back : PanelEvent), t.mpgSettings = (s.step e).mpgSettings →
      t.adjusted back = some (false, setting) →
        (t.step back).mpgSettings.value setting = s.mpgSettings.value setting

variable {s} {e : PanelEvent} {up : Bool} {setting : Setting}

theorem value_step (press : s.adjusted e = some (up, setting)) :
    (s.step e).mpgSettings.value setting =
      setting.adjustment.apply up (s.mpgSettings.value setting) := by
  rw [s.mpgSettings_step e, press]
  exact s.mpgSettings.value_adjust up setting

theorem MovesOnGrid.of_moves (inRange : s.mpgSettings.InRange)
    (press : s.adjusted e = some (up, setting))
    (moves : (s.step e).mpgSettings.value setting =
      setting.grid.move up (s.mpgSettings.value setting)) : s.MovesOnGrid e up setting where
  moves := moves
  others other differs := by
    rw [s.mpgSettings_step e, press]
    exact s.mpgSettings.value_adjust_of_ne up differs
  within := by
    rw [moves]
    exact (inRange setting).abs_move_sub_le up
  undone := by
    rintro rfl room t back same pressed
    rw [value_step pressed, same, moves, setting.follows.apply_iff false _ |>.mpr]
    · exact (inRange setting).lower_raise room
    · exact fun raises => Bool.false_ne_true raises.1

/-- After any run, a press moves its value on the grid, unless it raises the slow jogging feed from
more than 580 and less than 740. -/
theorem moves_on_grid_iff (startup : Startup) (es : List PanelEvent) (e : PanelEvent) (up : Bool)
    (setting : Setting)
    (press : (run step (initial startup) es).adjusted e = some (up, setting)) :
    (run step (initial startup) es).MovesOnGrid e up setting ↔
      ¬ (up = true ∧ setting = .jogSpeed 0 ∧
        580 < (run step (initial startup) es).mpgSettings.jogSpeeds 0 ∧
        (run step (initial startup) es).mpgSettings.jogSpeeds 0 < 740) := by
  have inRange := inRange_run startup es
  generalize run step (initial startup) es = s at press inRange ⊢
  have applied : s.MovesOnGrid e up setting ↔
      setting.adjustment.apply up (s.mpgSettings.value setting) =
        setting.grid.move up (s.mpgSettings.value setting) := by
    rw [← value_step press]
    exact ⟨MovesOnGrid.moves, .of_moves inRange press⟩
  rw [applied, setting.follows.apply_iff up]
  apply not_congr
  constructor
  · rintro ⟨raises, past, short⟩
    obtain rfl := Setting.limit_lt_cap (past.trans short)
    have past : (590 : Int) < s.mpgSettings.jogSpeeds 0 + 10 := past
    have short : s.mpgSettings.jogSpeeds 0 + 10 < 750 := short
    exact ⟨raises, rfl, by omega, by omega⟩
  · rintro ⟨raises, rfl, past, short⟩
    have past' : (590 : Int) < s.mpgSettings.jogSpeeds 0 + 10 := by omega
    have short' : s.mpgSettings.jogSpeeds 0 + 10 < 750 := by omega
    exact ⟨raises, past', short'⟩

/-- The first point is on the screen's long side, `320 - touchX` on its short one. -/
def touchedAt (touchX touchY : BitVec 16) : MenuInput := { touchDetected := 1, touchX, touchY }

def rightPressed : MenuInput :=
  { buttonState := fun button => if button = .right then .reset else .set }

/-- Cycles with the same input, and the ticks up to the next one. -/
def cycles (input : MenuInput) (count : Nat) : List PanelEvent :=
  (List.replicate count (.menu input :: List.replicate 6 (.tim1 true))).flatten

/-- A run into one of the menus behind "MPG axes settings", by touches. -/
def openAxesSetting (touchX : BitVec 16) : List PanelEvent :=
  cycles (touchedAt 270 400) 1 ++ cycles (touchedAt 180 100) 1 ++ cycles (touchedAt touchX 100) 1

/-- The precise distance of the X axis, from 0.01 to 0.02. -/
theorem moves_on_grid_distance :
    (run step (initial {}) (openAxesSetting 225)).MovesOnGrid (.menu rightPressed) true
      (.xAxisMultiplicity 0) :=
  (moves_on_grid_iff {} (openAxesSetting 225) (.menu rightPressed) true (.xAxisMultiplicity 0)
    (by decide +kernel)).mpr (by decide)

/-- Raised from 500 the slow jogging feed becomes 510, raised from 590 it becomes 750: no grid has
both moves. -/
theorem slow_feed_leaves_grid :
    ¬ ∃ grid : Grid Int, ∀ es e up,
      (run step (initial {}) es).adjusted e = some (up, .jogSpeed 0) →
        ((run step (initial {}) es).step e).mpgSettings.value (.jogSpeed 0) =
          grid.move up ((run step (initial {}) es).mpgSettings.value (.jogSpeed 0)) := by
  rintro ⟨grid, moves⟩
  have first : 510 = grid.raise 500 := by
    have before : (run step (initial {}) (openAxesSetting 125)).mpgSettings.value (.jogSpeed 0) =
        500 := by
      decide +kernel
    have after : ((run step (initial {}) (openAxesSetting 125)).step
        (.menu rightPressed)).mpgSettings.value (.jogSpeed 0) = 510 := by
      decide +kernel
    have raised := moves (openAxesSetting 125) (.menu rightPressed) true (by decide +kernel)
    rw [after, before] at raised
    exact raised
  have last : 750 = grid.raise 590 := by
    have before : (run step (initial {})
        (openAxesSetting 125 ++ cycles rightPressed 14)).mpgSettings.value (.jogSpeed 0) =
          590 := by
      decide +kernel
    have after : ((run step (initial {}) (openAxesSetting 125 ++ cycles rightPressed 14)).step
        (.menu rightPressed)).mpgSettings.value (.jogSpeed 0) = 750 := by
      decide +kernel
    have raised := moves (openAxesSetting 125 ++ cycles rightPressed 14) (.menu rightPressed) true
      (by decide +kernel)
    rw [after, before] at raised
    exact raised
  simp only [Grid.raise] at first last
  omega

end Panel

end Cnc
