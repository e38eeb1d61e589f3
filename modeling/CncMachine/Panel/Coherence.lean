import CncMachine.Panel.Drawing
import CncMachine.Panel.Gate

/-!
# Coherence of the menus

Whatever the operator presses and touches, the menu controller stands at a place of the tree of
menus: `screenMenu_shows` follows one cycle from place to place, along an edge of the tree or
within a menu, and `menu_coherent` puts together what that means for `level` and `level_indexes`.
The menu drawn and the menu deleted are then the menu whose logic runs.
-/

namespace Cnc

open Transition

namespace MenuController

/-- The menu on a level of the way to the current one. -/
def menuOn (m : MenuController) (k : Nat) : Option Menu :=
  Menu.ofPath ((List.range k).map fun i => lowByte (m.levelIndexes i))

/-- What the handlers of the menu rely on. -/
structure Coherent (m : MenuController) : Prop where
  level : m.level ≤ 3
  entered : ∀ k, k < m.level → highByte (m.levelIndexes k) = lowByte (m.levelIndexes k)
  notEntered : ∀ k, m.level ≤ k → highByte (m.levelIndexes k) = 0
  behind : ∀ k, m.level < k → m.levelIndexes k = 0
  settings : 2 ≤ m.level → lowByte (m.levelIndexes 0) = 2
  setting : m.level = 3 → lowByte (m.levelIndexes 1) = 1 ∨ lowByte (m.levelIndexes 1) = 2
  /-- On every level there is a menu, and its index is one of its entries. -/
  selects : ∀ k, k ≤ m.level →
    ∃ menu, m.menuOn k = some menu ∧ menu.Selects (lowByte (m.levelIndexes k))
  /-- Both ways of reading an entered index give the same entry. -/
  readings : ∀ k, k < m.level →
    maskedByte (m.levelIndexes k) = shiftedByte (m.levelIndexes k)

namespace Shows

variable {m : MenuController} {menu : Menu} {entry : BitVec 8}

theorem selected (shows : m.Shows menu entry) {level : Nat} (here : m.level = level) :
    lowByte (m.levelIndexes level) = entry := by
  rw [← here, shows.levelIndexes, shows.level, packed_length, lowByte_setWidth]

theorem menuOn_eq (shows : m.Shows menu entry) {k : Nat} (le : k ≤ m.level) :
    m.menuOn k = Menu.ofPath (menu.path.take k) := by
  rw [shows.level] at le
  rw [menuOn]
  congr 1
  apply List.ext_getElem
  · simp [le]
  · intro i lt _
    have inside : i < menu.path.length := by
      rw [List.length_map, List.length_range] at lt
      omega
    rw [List.getElem_map, List.getElem_range, shows.levelIndexes, packed_of_lt _ _ inside,
      lowByte_twice, List.getElem_take]

theorem coherent (shows : m.Shows menu entry) : m.Coherent := by
  have level := shows.level
  have indexes := shows.levelIndexes
  have inside (k : Nat) (lt : k < m.level) : ∃ e, m.levelIndexes k = twice e := by
    rw [indexes, packed_of_lt _ _ (by omega)]
    exact ⟨_, rfl⟩
  refine ⟨?_, ?_, ?_, ?_, ?_, ?_, ?_, ?_⟩
  · rw [level]
    exact menu.length_path_le
  · intro k lt
    obtain ⟨e, word⟩ := inside k lt
    rw [word, highByte_twice, lowByte_twice]
  · intro k le
    rw [indexes]
    obtain here | behind := Nat.eq_or_lt_of_le le
    · rw [← here, level, packed_length, highByte_setWidth]
    · rw [packed_of_gt _ _ (by omega)]
      rfl
  · intro k lt
    rw [indexes, packed_of_gt _ _ (by omega)]
  · intro deep
    rw [level] at deep
    rw [indexes]
    cases menu <;> simp_all [Menu.path, packed]
  · intro deep
    rw [level] at deep
    rw [indexes]
    cases menu <;> simp_all [Menu.path, packed]
  · intro k le
    rw [shows.menuOn_eq le]
    obtain here | above := Nat.eq_or_lt_of_le le
    · rw [here, level, List.take_length, ← level, shows.selected rfl]
      exact ⟨menu, menu.ofPath_path, shows.selects⟩
    · rw [level] at above
      rw [indexes, packed_of_lt _ _ above, lowByte_twice]
      exact menu.exists_above above
  · intro k lt
    obtain ⟨e, word⟩ := inside k lt
    rw [word, maskedByte_twice, shiftedByte_twice]

theorem countPress (shows : m.Shows menu entry) (button : Button) (due : BitVec 8 → Bool) :
    (m.countPress button due).1.Shows menu entry := by
  obtain ⟨cnt, eq⟩ := m.countPress_eq button due
  rw [eq]
  exact shows.of_eq rfl rfl

theorem press (shows : m.Shows menu entry) (button : Button) :
    (m.press button).1.Shows menu entry := shows.countPress _ _

theorem pressMain (shows : m.Shows menu entry) (button : Button) :
    (m.pressMain button).1.Shows menu entry := shows.countPress _ _

/-- Two buttons move the selection within the row. -/
theorem moveSelection (shows : m.Shows menu entry) (input : MenuInput)
    {press : MenuController → Button → MenuController × Bool × Bool}
    (keeps : ∀ button, (press m button).1.Shows menu entry) {next previous : Button}
    {onNext onPrevious : BitVec 8 → BitVec 8} (up : menu.Selects (onNext entry))
    (down : menu.Selects (onPrevious entry)) :
    (m.moveSelection input press next previous onNext onPrevious entry).1.Shows menu entry ∧
      menu.Selects (m.moveSelection input press next previous onNext onPrevious entry).2 := by
  simp only [MenuController.moveSelection]
  split
  · refine ⟨keeps next, ?_⟩
    dsimp only
    split
    · exact up
    · exact shows.selects
  · split
    · refine ⟨keeps previous, ?_⟩
      dsimp only
      split
      · exact down
      · exact shows.selects
    · exact ⟨shows, shows.selects⟩

/-- A row of which an entry is selected and saved, or entered. -/
theorem select (shows : m.Shows menu entry) {moved : MenuController × BitVec 8} {level : Nat}
    (here : m.level = level) (moves : moved.1.Shows menu entry) (selects : menu.Selects moved.2) :
    (moved.1.saveIndex level moved.2).Shows menu moved.2 := by
  have same : moved.1.level = level := by rw [moves.level, ← shows.level, here]
  rw [← same]
  exact moves.saveIndex selects

end Shows

end MenuController

section

variable {entry : BitVec 8}

theorem nextIndex_three : entry.toNat < 3 → (nextIndex 3 entry).toNat < 3 := by decide +revert

theorem previousIndex_three : entry.toNat < 3 → (previousIndex 3 entry).toNat < 3 := by
  decide +revert

theorem nextSettingIndex_three : entry.toNat < 3 → (nextSettingIndex 3 entry).toNat < 3 := by
  decide +revert

theorem nextIndex_one : entry.toNat < 1 → (nextIndex 1 entry).toNat < 1 := by decide +revert

theorem previousIndex_one : entry.toNat < 1 → (previousIndex 1 entry).toNat < 1 := by
  decide +revert

end

/-- The logic of a menu, chosen by the menu and not by the indexes. -/
def Panel.menuLogic (menu : Menu) (input : MenuInput) (s : Panel) : Panel :=
  let exits := s.menu.touchExitSubmenu s.menu.level || input.pressed .back
  match menu with
  | .main => { s with menu := s.menu.mainMenu input }
  | .auto => if exits then s.leaveFirstLevel input else s
  | .manual => if exits then s.leaveFirstLevel input else s.manualMode input
  | .settings =>
      if exits then s.leaveFirstLevel input else { s with menu := s.menu.settingsMenu input }
  | .brightness =>
      { s with menu := if exits then s.menu.leaveLevel 2 else s.menu.brightnessMenu input }
  | .mpgAxes | .mpgSpindle =>
      { s with menu := if exits then s.menu.leaveLevel 2 else s.menu.mpgSettingsMenu input }
  | .xAxisDist | .yzAxisDist | .jogFeed =>
      let next :=
        if exits then (s.menu.leaveLevel 3, s.mpgSettings)
        else s.menu.axesSettingsMenu input s.mpgSettings
      { s with menu := next.1, mpgSettings := next.2 }
  | .spindleSpeed =>
      let next :=
        if exits then (s.menu.leaveLevel 3, s.mpgSettings)
        else s.menu.spindleSettingMenu input s.mpgSettings
      { s with menu := next.1, mpgSettings := next.2 }

/-- The rows of the first three levels lead to a submenu by each entry. -/
theorem Menu.exists_child {menu : Menu} {entry : BitVec 8} (selects : menu.Selects entry)
    (row : menu = main ∨ menu = settings ∨ menu = mpgAxes ∨ menu = mpgSpindle) :
    ∃ submenu, menu.child entry = some submenu := by
  apply Option.isSome_iff_exists.mp
  obtain rfl | rfl | rfl | rfl := row
  · decide +revert
  · decide +revert
  · decide +revert
  · decide +revert

section

variable {s : Panel} {menu : Menu} {entry : BitVec 8} (input : MenuInput)

/-- Without a touch on an entry, a cycle runs the logic of the menu shown. -/
theorem menuCycle_eq (shows : s.menu.Shows menu entry)
    (untouched : s.menu.touchSelectSubmenu = none) :
    s.menuCycle input = s.menuLogic menu input := by
  simp only [Panel.menuCycle, untouched, Panel.menuLogic, shows.level]
  cases menu <;>
    simp [Menu.path, Panel.levelOne, MenuController.levelTwo, MenuController.levelThree,
      shows.levelIndexes, packed]

theorem lt_of_touchedBlock {blocks : Nat → Block} {count : Nat}
    {point : BitVec 16 × BitVec 16} {touched : Nat}
    (selected : touchedBlock blocks count point = some touched) : touched < count :=
  List.mem_range.mp (List.mem_of_find?_eq_some selected)

/-- A touch selects an entry that leads somewhere. -/
theorem touchSelectSubmenu_child {m : MenuController} (shows : m.Shows menu entry) {touched : Nat}
    (selected : m.touchSelectSubmenu = some touched) :
    touched < 256 ∧ ∃ submenu, menu.child (BitVec.ofNat 8 touched) = some submenu := by
  have child {blocks : Nat → Block} {count : Nat} (few : count ≤ 3)
      (row : menu = .main ∨ menu = .settings ∨ menu = .mpgAxes ∨ menu = .mpgSpindle)
      (entries : ∀ e : BitVec 8, e.toNat < count → menu.Selects e)
      (selected : touchedBlock blocks count m.touchPoint = some touched) :
      touched < 256 ∧ ∃ submenu, menu.child (BitVec.ofNat 8 touched) = some submenu := by
    have inside := lt_of_touchedBlock selected
    refine ⟨by omega, Menu.exists_child (entries _ ?_) row⟩
    rw [BitVec.toNat_ofNat]
    omega
  simp only [MenuController.touchSelectSubmenu] at selected
  rw [shows.level, shows.levelIndexes] at selected
  split at selected
  · cases selected
  · cases menu <;> simp [Menu.path, packed] at selected
    · exact child (by decide) (by simp) (fun _ inside => inside) selected
    · exact child (by decide) (by simp) (fun _ inside => inside) selected
    · exact child (by decide) (by simp) (fun _ inside => inside) selected
    · exact child (by decide) (by simp) (fun _ inside => inside) selected

end

/-- From one cycle to the next: the same menu, a submenu or the menu above. -/
inductive Menu.Adjacent (menu : Menu) : Menu → Prop where
  | same : Adjacent menu menu
  | enter {submenu : Menu} {entry : BitVec 8} (leads : menu.child entry = some submenu) :
      Adjacent menu submenu
  | leave {parent : Menu} {entry : BitVec 8} (leads : parent.child entry = some menu) :
      Adjacent menu parent

/-- The controller has moved along an edge of the tree, or not at all. -/
def MenuController.Moves (menu : Menu) (m' : MenuController) : Prop :=
  ∃ menu' entry', m'.Shows menu' entry' ∧ menu.Adjacent menu'

namespace MenuController.Shows

variable {m : MenuController} {menu : Menu} {entry : BitVec 8} (input : MenuInput)

theorem moves (shows : m.Shows menu entry) : MenuController.Moves menu m :=
  ⟨menu, entry, shows, .same⟩

theorem leaveLevel_moves (shows : m.Shows menu entry) (inner : menu ≠ .main) {level : Nat}
    (here : m.level = level) : MenuController.Moves menu (m.leaveLevel level) := by
  obtain ⟨parent, entry', leads, left⟩ := shows.leaveLevel inner
  rw [here] at left
  exact ⟨parent, entry', left, .leave leads⟩

theorem enterLevel_moves (shows : m.Shows menu entry) {submenu : Menu} {level : Nat}
    (here : m.level = level) (leads : menu.child entry = some submenu) :
    MenuController.Moves menu (m.enterLevel level) := by
  have entered := shows.enterLevel leads
  rw [here] at entered
  exact ⟨submenu, 0, entered, .enter leads⟩

/-- The selection of a row has been moved and saved. -/
theorem saveIndex_moves (shows : m.Shows menu entry) {level : Nat} (here : m.level = level)
    {moved : MenuController × BitVec 8}
    (moves : moved.1.Shows menu entry ∧ menu.Selects moved.2) :
    MenuController.Moves menu (moved.1.saveIndex level moved.2) :=
  ⟨menu, moved.2, shows.select here moves.1 moves.2, .same⟩

theorem mainMenu (shows : m.Shows .main entry) :
    MenuController.Moves .main (m.mainMenu input) := by
  have level : m.level = 0 := shows.level
  have small : entry.toNat < 3 := shows.selects
  simp only [MenuController.mainMenu]
  rw [shows.selected level]
  split
  · obtain ⟨submenu, leads⟩ := Menu.exists_child shows.selects (.inl rfl)
    exact shows.enterLevel_moves level leads
  · apply shows.saveIndex_moves level
    apply shows.moveSelection input shows.pressMain
    · exact nextIndex_three small
    · exact previousIndex_three small

theorem settingsMenu (shows : m.Shows .settings entry) :
    MenuController.Moves .settings (m.settingsMenu input) := by
  have level : m.level = 1 := shows.level
  have small : entry.toNat < 3 := shows.selects
  simp only [MenuController.settingsMenu]
  rw [shows.selected level]
  split
  · obtain ⟨submenu, leads⟩ := Menu.exists_child shows.selects (.inr (.inl rfl))
    exact shows.enterLevel_moves level leads
  · apply shows.saveIndex_moves level
    apply shows.moveSelection input shows.press
    · exact nextSettingIndex_three small
    · exact previousIndex_three small

theorem mpgSettingsMenu (shows : m.Shows menu entry) (row : menu = .mpgAxes ∨ menu = .mpgSpindle) :
    MenuController.Moves menu (m.mpgSettingsMenu input) := by
  have level : m.level = 2 := by
    rw [shows.level]
    obtain rfl | rfl := row <;> rfl
  simp only [MenuController.mpgSettingsMenu]
  rw [shows.selected level]
  split
  · obtain ⟨submenu, leads⟩ := Menu.exists_child shows.selects (.inr (.inr row))
    exact shows.enterLevel_moves level leads
  · apply shows.saveIndex_moves level
    obtain rfl | rfl := row
    · have axes : highByte (m.levelIndexes 1) = 1 := by simp [shows.levelIndexes, packed, Menu.path]
      have small : entry.toNat < 3 := shows.selects
      rw [axes]
      apply shows.moveSelection input shows.press
      · exact nextIndex_three small
      · exact previousIndex_three small
    · have spindle : highByte (m.levelIndexes 1) = 2 := by
        simp [shows.levelIndexes, packed, Menu.path]
      have small : entry.toNat < 1 := shows.selects
      rw [spindle]
      apply shows.moveSelection input shows.press
      · exact nextIndex_one small
      · exact previousIndex_one small

theorem brightnessMenu (shows : m.Shows menu entry) :
    MenuController.Moves menu (m.brightnessMenu input) := by
  have keeps (button : Button) (m' : MenuController) (eq : m'.level = (m.press button).1.level)
      (eq' : m'.levelIndexes = (m.press button).1.levelIndexes) :
      MenuController.Moves menu m' := ((shows.press button).of_eq eq eq').moves
  simp only [MenuController.brightnessMenu]
  repeat' split
  · exact keeps .right _ rfl rfl
  · exact keeps .right _ rfl rfl
  · exact keeps .left _ rfl rfl
  · exact keeps .left _ rfl rfl
  · exact shows.moves

theorem axesSettingsMenu (shows : m.Shows menu entry) (settings : MpgSettings)
    (row : menu = .xAxisDist ∨ menu = .yzAxisDist ∨ menu = .jogFeed) :
    MenuController.Moves menu (m.axesSettingsMenu input settings).1 := by
  have level : m.level = 3 := by
    rw [shows.level]
    obtain rfl | rfl | rfl := row <;> rfl
  have selects (e : BitVec 8) : menu.Selects e ↔ e.toNat < 3 := by
    obtain rfl | rfl | rfl := row <;> rfl
  have small := (selects entry).mp shows.selects
  have known : (highByte (m.levelIndexes 2)).toNat ≤ 2 := by
    rw [shows.levelIndexes]
    obtain rfl | rfl | rfl := row <;> simp [Menu.path, packed]
  have saved {moved : MenuController} (moves : moved.Shows menu entry) :
      MenuController.Moves menu (moved.saveIndex 3 entry) := by
    let selected : MenuController × BitVec 8 := (moved, entry)
    have moves : selected.1.Shows menu entry ∧ menu.Selects selected.2 := ⟨moves, shows.selects⟩
    exact shows.saveIndex_moves level moves
  have pressed (button : Button) :
      MenuController.Moves menu ((m.press button).1.saveIndex 3 entry) :=
    saved (shows.press button)
  simp only [MenuController.axesSettingsMenu]
  rw [shows.selected level]
  simp only [if_pos known]
  repeat' split
  · apply shows.saveIndex_moves level
    apply shows.moveSelection input shows.press
    · exact (selects _).mpr (nextIndex_three small)
    · exact (selects _).mpr (previousIndex_three small)
  · exact pressed .right
  · exact pressed .right
  · exact pressed .left
  · exact pressed .left
  · exact saved shows

theorem spindleSettingMenu (shows : m.Shows menu entry) (settings : MpgSettings) :
    MenuController.Moves menu (m.spindleSettingMenu input settings).1 := by
  simp only [MenuController.spindleSettingMenu]
  repeat' split
  · exact (shows.press .right).moves
  · exact (shows.press .right).moves
  · exact (shows.press .left).moves
  · exact (shows.press .left).moves
  · exact shows.moves

end MenuController.Shows

namespace Panel

variable {s : Panel} {menu : Menu} {entry : BitVec 8} (input : MenuInput)

theorem leaveFirstLevel_moves (shows : s.menu.Shows menu entry) (first : s.menu.level = 1) :
    MenuController.Moves menu (s.leaveFirstLevel input).menu := by
  have inner : menu ≠ .main := by
    rintro rfl
    have level := shows.level
    rw [first] at level
    cases level
  obtain ⟨menu', entry', left, adjacent⟩ := shows.leaveLevel_moves inner first
  refine ⟨menu', entry', ?_, adjacent⟩
  rw [leaveFirstLevel_eq]
  exact left.of_eq rfl rfl

theorem manualMode_moves (shows : s.menu.Shows menu entry) :
    MenuController.Moves menu (s.manualMode input).menu := by
  obtain ⟨menu', _, _, place, -, eq⟩ := s.manualMode_eq input
  rw [eq]
  exact (shows.of_eq place.level place.levelIndexes).moves

theorem menuLogic_moves (shows : s.menu.Shows menu entry) :
    MenuController.Moves menu (s.menuLogic menu input).menu := by
  have level := shows.level
  simp only [menuLogic]
  cases menu with
  | main => exact shows.mainMenu input
  | auto =>
      dsimp only
      split
      · exact leaveFirstLevel_moves input shows level
      · exact shows.moves
  | manual =>
      dsimp only
      split
      · exact leaveFirstLevel_moves input shows level
      · exact manualMode_moves input shows
  | settings =>
      dsimp only
      split
      · exact leaveFirstLevel_moves input shows level
      · exact shows.settingsMenu input
  | brightness =>
      dsimp only
      split
      · exact shows.leaveLevel_moves (by decide) level
      · exact shows.brightnessMenu input
  | mpgAxes =>
      dsimp only
      split
      · exact shows.leaveLevel_moves (by decide) level
      · exact shows.mpgSettingsMenu input (.inl rfl)
  | mpgSpindle =>
      dsimp only
      split
      · exact shows.leaveLevel_moves (by decide) level
      · exact shows.mpgSettingsMenu input (.inr rfl)
  | xAxisDist =>
      dsimp only
      split
      · exact shows.leaveLevel_moves (by decide) level
      · exact shows.axesSettingsMenu input s.mpgSettings (.inl rfl)
  | yzAxisDist =>
      dsimp only
      split
      · exact shows.leaveLevel_moves (by decide) level
      · exact shows.axesSettingsMenu input s.mpgSettings (.inr (.inl rfl))
  | jogFeed =>
      dsimp only
      split
      · exact shows.leaveLevel_moves (by decide) level
      · exact shows.axesSettingsMenu input s.mpgSettings (.inr (.inr rfl))
  | spindleSpeed =>
      dsimp only
      split
      · exact shows.leaveLevel_moves (by decide) level
      · exact shows.spindleSettingMenu input s.mpgSettings

/-- One cycle of the menu moves along an edge of the tree, or not at all. -/
theorem menuCycle_moves (shows : s.menu.Shows menu entry) :
    MenuController.Moves menu (s.menuCycle input).menu := by
  cases touched : s.menu.touchSelectSubmenu with
  | none =>
      rw [menuCycle_eq input shows touched]
      exact menuLogic_moves input shows
  | some i =>
      obtain ⟨small, submenu, leads⟩ := touchSelectSubmenu_child shows touched
      simp only [menuCycle, touched]
      exact ⟨submenu, 0, shows.enterSubmenu leads small, .enter leads⟩

theorem enterCycle_shows (shows : s.menu.Shows menu entry) :
    (s.enterCycle input).menu.Shows menu entry := shows.of_eq rfl rfl

theorem screenMenu_moves (shows : s.menu.Shows menu entry) :
    MenuController.Moves menu (s.screenMenu input).menu := by
  cases enters : s.menu.enterMenu with
  | false =>
      rw [s.screenMenu_idle input enters]
      exact shows.moves
  | true =>
      rw [s.screenMenu_entered input enters]
      exact menuCycle_moves input (enterCycle_shows input shows)

/-- The menu controller is somewhere in the tree. -/
def Placed (s : Panel) : Prop := ∃ menu entry, s.menu.Shows menu entry

theorem Placed.step (placed : s.Placed) (e : PanelEvent) : (s.step e).Placed := by
  obtain ⟨menu, entry, shows⟩ := placed
  cases e with
  | menu input =>
      obtain ⟨menu', entry', shows', -⟩ := screenMenu_moves input shows
      exact ⟨menu', entry', shows'⟩
  | tim1 accepted =>
      obtain ⟨_, _, _, place, -, -, eq⟩ := s.tim1_eq accepted
      refine ⟨menu, entry, ?_⟩
      rw [Panel.step, eq]
      exact shows.of_eq place.level place.levelIndexes
  | frame frame tx =>
      obtain ⟨_, _, _, -, eq⟩ := uart4Callback_eq tx frame s
      refine ⟨menu, entry, ?_⟩
      rw [Panel.step, eq]
      exact shows
  | grbl chunk => exact ⟨menu, entry, shows⟩

theorem placed_initial (startup : Startup) : (Panel.initial startup).Placed :=
  ⟨.main, 0, by decide, rfl, by funext k; simp [initial, Menu.path, packed]⟩

/-- Everything a move draws is found in its table. -/
theorem redraw_moves {m m' : MenuController} (shows : m.Shows menu entry)
    (moves : MenuController.Moves menu m') : ∃ drawings, m.redraw m' = some drawings := by
  obtain ⟨menu', entry', shows', adjacent⟩ := moves
  cases adjacent with
  | same => exact ⟨_, shows.redraw_entry shows'⟩
  | enter leads =>
      refine ⟨_, shows.redraw_level shows' ?_⟩
      rw [Menu.path_child leads, List.length_append, List.length_singleton]
      omega
  | leave leads =>
      refine ⟨_, shows.redraw_level shows' ?_⟩
      rw [Menu.path_child leads, List.length_append, List.length_singleton]
      omega

/-- The menu logic runs in the menu that is drawn. -/
structure InStep (s : Panel) (menu : Menu) (entry : BitVec 8) : Prop where
  logic : ∀ input, s.menu.enterMenu = true →
    (s.menu.enterCycle input).touchSelectSubmenu = none →
      s.screenMenu input = (s.enterCycle input).menuLogic menu input
  drawn : s.menu.drawMenu = some (menu.shown entry)
  deleted : s.menu.deleteMenu = some menu.erased
  moved : s.menu.movedTable = menu.entries
  value : s.menu.level = 3 → s.menu.mpgAxesUpdateSettings = menu.shownValue entry
  /-- No cycle looks a text up outside its table. -/
  redrawn : ∀ input, ∃ drawings, s.menu.redraw (s.screenMenu input).menu = some drawings

theorem InStep.of_shows (shows : s.menu.Shows menu entry) : s.InStep menu entry where
  logic input enters untouched := by
    rw [s.screenMenu_entered input enters]
    exact menuCycle_eq input (enterCycle_shows input shows) untouched
  drawn := shows.drawMenu
  deleted := shows.deleteMenu
  moved := shows.movedTable
  value := shows.mpgAxesUpdateSettings
  redrawn input := redraw_moves shows (screenMenu_moves input shows)

/-- In every run the indexes of the menus are coherent, and the menu drawn or deleted is the menu
whose logic runs. -/
theorem menu_coherent (startup : Startup) (events : List PanelEvent) :
    (run step (Panel.initial startup) events).menu.Coherent ∧
      ∃ menu entry, (run step (Panel.initial startup) events).InStep menu entry := by
  obtain ⟨menu, entry, shows⟩ :=
    invariant_run (fun _ e placed => placed.step e) (placed_initial startup) events
  exact ⟨shows.coherent, menu, entry, .of_shows shows⟩

end Panel

end Cnc
