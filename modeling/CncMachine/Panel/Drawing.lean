import CncMachine.Panel.MenuTree

/-!
# Drawing and deleting menus

`draw_menu` and `delete_menu` choose the menu themselves, by the level and the bytes of
`level_indexes`, and look texts up in the tables of options. Both read some of the bytes with the
mask `0xFF00 >> 8`, which is `0x00FF`, and some with `(x & 0xFF00) >> 8`. A lookup outside its
table is `none`. Coordinates, fonts, colours and the labels inside a menu are left out.
-/

namespace Cnc

inductive EntryLook where
  | selected
  | unselected
  | deleted
deriving DecidableEq, Repr

/-- What appears on the screen or is wiped off it. -/
inductive Drawing where
  /-- The heading of a menu. -/
  | heading (text : String)
  /-- The heading written over in black. -/
  | wipe (text : String)
  /-- `select_…`, `unselect_…` or `delete_…` of an entry of a row. -/
  | entry (table : EntryTable) (look : EntryLook) (index : Nat)
  | autoModeUpdateScreen
  | manualModeUpdateScreen
  | screenBrightnessSetting
  | spindleSpeedSlider
  | spindleSpeedSetting
  /-- The value of an entry of the third level. -/
  | value (table : EntryTable) (index : Nat)
  /-- The areas of a menu filled with black. -/
  | fill (menu : Menu)
deriving DecidableEq, Repr

/-- `x & 0xFF00 >> 8`. The shift binds tighter than the mask. -/
def maskedByte (index : BitVec 16) : BitVec 16 := index &&& (0xFF00 >>> 8)

/-- `(x & 0xFF00) >> 8`. -/
def shiftedByte (index : BitVec 16) : BitVec 16 := (index &&& 0xFF00) >>> 8

namespace EntryTable

/-- The text of an entry, `none` outside the table. -/
def option? (table : EntryTable) (index : BitVec 16) : Option String :=
  table.options[index.toNat]?

/-- The functions of the first three levels compute the position of the text, and read its length
for that, before they compare the index with the count. -/
def readsFirst : EntryTable → Bool
  | submenu => true
  | setting => true
  | mpgAxes => true
  | mpgSpindle => true
  | _ => false

/-- `select_submenu`, `unselect_submenu`, `delete_submenu` and their siblings. -/
def drawEntry (table : EntryTable) (look : EntryLook) (index : BitVec 8) :
    Option (List Drawing) :=
  if table.count ≤ index.toNat then
    if look ≠ .deleted ∧ table.readsFirst then none else some []
  else some [.entry table look index.toNat]

/-- All entries of a row, one of them selected. -/
def drawAll (table : EntryTable) (selected : Nat → Bool) : List Drawing :=
  (List.range table.count).map fun i =>
    .entry table (if selected i then .selected else .unselected) i

def deleteAll (table : EntryTable) : List Drawing :=
  (List.range table.count).map fun i => .entry table .deleted i

end EntryTable

namespace MenuController

variable (m : MenuController)

/-- `i == (level_indexes[level] & 0x00FF)`. -/
def selectedAt (level : Nat) (i : Nat) : Bool := i == (lowByte (m.levelIndexes level)).toNat

/-- `mpg_spindle_update_setting`. -/
def mpgSpindleUpdateSetting : List Drawing :=
  if maskedByte (m.levelIndexes 0) = 2 ∧ maskedByte (m.levelIndexes 1) = 2 ∧
      maskedByte (m.levelIndexes 2) = 0 then [.spindleSpeedSetting]
  else []

/-- `mpg_axes_update_settings`, which a cycle on the third level calls. -/
def mpgAxesUpdateSettings : List Drawing :=
  let value (table : EntryTable) : List Drawing :=
    if maskedByte (m.levelIndexes 3) ≤ 2 then [.value table (maskedByte (m.levelIndexes 3)).toNat]
    else []
  if maskedByte (m.levelIndexes 0) = 2 ∧ maskedByte (m.levelIndexes 1) = 1 then
    match (maskedByte (m.levelIndexes 2)).toNat with
    | 0 => value .xAxisDist
    | 1 => value .yzAxisDist
    | 2 => value .jogFeed
    | _ => []
  else []

/-- `draw_menu`. -/
def drawMenu : Option (List Drawing) :=
  match m.level with
  -- the comparison is with the whole word: `i == level_indexes[0] && 0x00FF`
  | 0 => some (EntryTable.submenu.drawAll fun i => i == (m.levelIndexes 0).toNat)
  | 1 =>
      let shown : List Drawing :=
        match (maskedByte (m.levelIndexes 0)).toNat with
        | 0 => [.heading "Auto mode engaged", .autoModeUpdateScreen]
        | 1 => [.heading "Manual mode engaged", .manualModeUpdateScreen]
        | 2 => .heading "Settings" :: EntryTable.setting.drawAll (m.selectedAt 1)
        | _ => []
      some (shown ++ [.heading "Back"])
  | 2 =>
      let shown : Option (List Drawing) :=
        match (maskedByte (m.levelIndexes 0)).toNat with
        | 2 => do
            let title ← EntryTable.setting.option? (shiftedByte (m.levelIndexes 1))
            let content :=
              if shiftedByte (m.levelIndexes 1) = 0 then [.screenBrightnessSetting]
              else if shiftedByte (m.levelIndexes 1) = 1 then
                EntryTable.mpgAxes.drawAll (m.selectedAt 2)
              else if shiftedByte (m.levelIndexes 1) = 2 then
                EntryTable.mpgSpindle.drawAll (m.selectedAt 2)
              else []
            return .heading title :: content
        | _ => some []
      shown.map (· ++ [.heading "Back"])
  | 3 =>
      let shown : Option (List Drawing) :=
        if maskedByte (m.levelIndexes 0) = 2 then
          if maskedByte (m.levelIndexes 1) = 1 then do
            let title ← EntryTable.mpgAxes.option? (shiftedByte (m.levelIndexes 2))
            let content :=
              match (maskedByte (m.levelIndexes 2)).toNat with
              | 0 => EntryTable.xAxisDist.drawAll (m.selectedAt 3)
              | 1 => EntryTable.yzAxisDist.drawAll (m.selectedAt 3)
              | 2 => EntryTable.jogFeed.drawAll (m.selectedAt 3)
              | _ => []
            return .heading title :: content
          else if maskedByte (m.levelIndexes 1) = 2 then do
            let title ← EntryTable.mpgSpindle.option? (shiftedByte (m.levelIndexes 2))
            let content : List Drawing :=
              match (shiftedByte (m.levelIndexes 2)).toNat with
              | 0 => [.spindleSpeedSlider]
              | _ => []
            return .heading title :: content ++ m.mpgSpindleUpdateSetting
          else some []
        else some []
      shown.map (· ++ [.heading "Back"])
  | _ => some []

/-- `delete_menu`. -/
def deleteMenu : Option (List Drawing) :=
  match m.level with
  | 0 => some EntryTable.submenu.deleteAll
  | 1 =>
      let wiped : List Drawing :=
        match (maskedByte (m.levelIndexes 0)).toNat with
        | 0 => [.fill .auto]
        | 1 => [.fill .manual]
        | 2 => .wipe "Settings" :: EntryTable.setting.deleteAll
        | _ => []
      some (.wipe "Back" :: wiped)
  | 2 =>
      let wiped : Option (List Drawing) :=
        match (maskedByte (m.levelIndexes 0)).toNat with
        | 2 => do
            let title ← EntryTable.setting.option? (shiftedByte (m.levelIndexes 1))
            let content :=
              if maskedByte (m.levelIndexes 1) = 0 then [.fill .brightness]
              else if maskedByte (m.levelIndexes 1) = 1 then EntryTable.mpgAxes.deleteAll
              else if maskedByte (m.levelIndexes 1) = 2 then EntryTable.mpgSpindle.deleteAll
              else []
            return .wipe title :: content
        | _ => some []
      wiped.map (.wipe "Back" :: ·)
  | 3 =>
      let wiped : Option (List Drawing) :=
        if maskedByte (m.levelIndexes 0) = 2 then
          if maskedByte (m.levelIndexes 1) = 1 then do
            let title ← EntryTable.mpgAxes.option? (shiftedByte (m.levelIndexes 2))
            let content :=
              match (maskedByte (m.levelIndexes 2)).toNat with
              | 0 => EntryTable.xAxisDist.deleteAll
              | 1 => EntryTable.yzAxisDist.deleteAll
              | 2 => EntryTable.jogFeed.deleteAll
              | _ => []
            return .wipe title :: content
          else if maskedByte (m.levelIndexes 1) = 2 then do
            let title ← EntryTable.mpgSpindle.option? (shiftedByte (m.levelIndexes 2))
            let content : List Drawing :=
              match (maskedByte (m.levelIndexes 2)).toNat with
              | 0 => [.fill .spindleSpeed]
              | _ => []
            return .wipe title :: content
          else some []
        else some []
      wiped.map (.wipe "Back" :: ·)
  | _ => some []

/-- The row in which a cycle that stays on its level moves the selection. -/
def movedTable : Option EntryTable :=
  match m.level with
  | 0 => some .submenu
  | 1 => if shiftedByte (m.levelIndexes 0) = 2 then some .setting else none
  | 2 =>
      if shiftedByte (m.levelIndexes 0) = 2 then
        if shiftedByte (m.levelIndexes 1) = 1 then some .mpgAxes
        else if shiftedByte (m.levelIndexes 1) = 2 then some .mpgSpindle
        else none
      else none
  | 3 =>
      if lowByte (m.levelIndexes 0) = 2 ∧ lowByte (m.levelIndexes 1) = 1 then
        if shiftedByte (m.levelIndexes 2) = 0 then some .xAxisDist
        else if shiftedByte (m.levelIndexes 2) = 1 then some .yzAxisDist
        else if shiftedByte (m.levelIndexes 2) = 2 then some .jogFeed
        else none
      else none
  | _ => none

/-- What a cycle that leads from `m` to `m'` draws with these functions: every change of level
deletes the menu before and draws the new one after it, every other change of the index shows the
old entry unselected and the new one selected. -/
def redraw (m' : MenuController) : Option (List Drawing) :=
  if m'.level ≠ m.level then do return (← m.deleteMenu) ++ (← m'.drawMenu)
  else if m'.levelIndexes m.level ≠ m.levelIndexes m.level then
    match m.movedTable with
    | some table => do
        return (← table.drawEntry .unselected (lowByte (m.levelIndexes m.level))) ++
          (← table.drawEntry .selected (lowByte (m'.levelIndexes m.level)))
    | none => some []
  else some []

end MenuController

namespace Menu

/-- A menu on the screen, with an entry selected. -/
def shown (menu : Menu) (entry : BitVec 8) : List Drawing :=
  let row (table : EntryTable) := table.drawAll fun i => i == entry.toNat
  match menu with
  | main => row .submenu
  | auto => [.heading "Auto mode engaged", .autoModeUpdateScreen, .heading "Back"]
  | manual => [.heading "Manual mode engaged", .manualModeUpdateScreen, .heading "Back"]
  | settings => .heading "Settings" :: row .setting ++ [.heading "Back"]
  | brightness => [.heading "Screen brightness", .screenBrightnessSetting, .heading "Back"]
  | mpgAxes => .heading "MPG axes settings" :: row .mpgAxes ++ [.heading "Back"]
  | mpgSpindle => .heading "MPG spindle settings" :: row .mpgSpindle ++ [.heading "Back"]
  | xAxisDist => .heading "X axis jogging distances" :: row .xAxisDist ++ [.heading "Back"]
  | yzAxisDist => .heading "Y/Z axes jogging distances" :: row .yzAxisDist ++ [.heading "Back"]
  | jogFeed => .heading "Jogging feed rates" :: row .jogFeed ++ [.heading "Back"]
  | spindleSpeed =>
      [.heading "Jogging spindle speed", .spindleSpeedSlider, .spindleSpeedSetting,
        .heading "Back"]

/-- The value of the selected entry, on the third level. -/
def shownValue (menu : Menu) (entry : BitVec 8) : List Drawing :=
  match menu with
  | xAxisDist => [.value .xAxisDist entry.toNat]
  | yzAxisDist => [.value .yzAxisDist entry.toNat]
  | jogFeed => [.value .jogFeed entry.toNat]
  | _ => []

/-- A menu wiped off the screen. -/
def erased : Menu → List Drawing
  | main => EntryTable.submenu.deleteAll
  | auto => [.wipe "Back", .fill auto]
  | manual => [.wipe "Back", .fill manual]
  | settings => .wipe "Back" :: .wipe "Settings" :: EntryTable.setting.deleteAll
  | brightness => [.wipe "Back", .wipe "Screen brightness", .fill brightness]
  | mpgAxes => .wipe "Back" :: .wipe "MPG axes settings" :: EntryTable.mpgAxes.deleteAll
  | mpgSpindle => .wipe "Back" :: .wipe "MPG spindle settings" :: EntryTable.mpgSpindle.deleteAll
  | xAxisDist =>
      .wipe "Back" :: .wipe "X axis jogging distances" :: EntryTable.xAxisDist.deleteAll
  | yzAxisDist =>
      .wipe "Back" :: .wipe "Y/Z axes jogging distances" :: EntryTable.yzAxisDist.deleteAll
  | jogFeed => .wipe "Back" :: .wipe "Jogging feed rates" :: EntryTable.jogFeed.deleteAll
  | spindleSpeed => [.wipe "Back", .wipe "Jogging spindle speed", .fill spindleSpeed]

end Menu

@[simp] theorem maskedByte_setWidth (entry : BitVec 8) :
    maskedByte (entry.setWidth 16) = entry.setWidth 16 := by
  decide +revert

@[simp] theorem maskedByte_twice (entry : BitVec 8) :
    maskedByte (twice entry) = entry.setWidth 16 := by
  decide +revert

@[simp] theorem shiftedByte_twice (entry : BitVec 8) :
    shiftedByte (twice entry) = entry.setWidth 16 := by
  decide +revert

namespace MenuController.Shows

variable {m : MenuController} {menu : Menu} {entry : BitVec 8}

theorem selectedAt_level (shows : m.Shows menu entry) :
    m.selectedAt menu.path.length = fun i => i == entry.toNat := by
  funext i
  simp only [selectedAt]
  rw [shows.levelIndexes, packed_length, lowByte_setWidth]

/-- `draw_menu` draws the menu shown. -/
theorem drawMenu (shows : m.Shows menu entry) : m.drawMenu = some (menu.shown entry) := by
  have selected := shows.selectedAt_level
  have word : entry.toNat % 65536 = entry.toNat := Nat.mod_eq_of_lt (by omega)
  simp only [MenuController.drawMenu, mpgSpindleUpdateSetting]
  rw [shows.level, shows.levelIndexes]
  cases menu <;> simp [Menu.path, packed, EntryTable.option?, EntryTable.options] at selected ⊢ <;>
    simp [selected, word, Menu.shown]

/-- `delete_menu` wipes the menu shown. -/
theorem deleteMenu (shows : m.Shows menu entry) : m.deleteMenu = some menu.erased := by
  simp only [MenuController.deleteMenu]
  rw [shows.level, shows.levelIndexes]
  cases menu <;> simp [Menu.path, packed, EntryTable.option?, EntryTable.options, Menu.erased]

/-- The selection moves in the row of the menu shown. -/
theorem movedTable (shows : m.Shows menu entry) : m.movedTable = menu.entries := by
  simp only [MenuController.movedTable]
  rw [shows.level, shows.levelIndexes]
  cases menu <;> simp [Menu.path, packed, Menu.entries]

/-- On the third level the value of the selected entry is drawn. -/
theorem mpgAxesUpdateSettings (shows : m.Shows menu entry) (third : m.level = 3) :
    m.mpgAxesUpdateSettings = menu.shownValue entry := by
  have small : entry.setWidth 16 ≤ (2 : BitVec 16) := by
    apply BitVec.le_def.mpr
    have lt := shows.selects.lt
    simp
    omega
  have word : entry.toNat % 65536 = entry.toNat := Nat.mod_eq_of_lt (by omega)
  have level := shows.level
  rw [third] at level
  simp only [MenuController.mpgAxesUpdateSettings]
  rw [shows.levelIndexes]
  cases menu <;> simp [Menu.path] at level <;> simp [Menu.path, packed, Menu.shownValue, word] <;>
    exact small

/-- A selected entry can be drawn. -/
theorem drawEntry (shows : m.Shows menu entry) {table : EntryTable}
    (row : menu.entries = some table) (look : EntryLook) :
    table.drawEntry look entry = some [.entry table look entry.toNat] := by
  have selects := shows.selects
  simp only [Menu.Selects, row] at selects
  exact if_neg (by omega)

/-- A change of level wipes the one menu and draws the other. -/
theorem redraw_level {m' : MenuController} {menu' : Menu} {entry' : BitVec 8}
    (shows : m.Shows menu entry) (shows' : m'.Shows menu' entry')
    (changes : menu'.path.length ≠ menu.path.length) :
    m.redraw m' = some (menu.erased ++ menu'.shown entry') := by
  have levels : m'.level ≠ m.level := by
    rw [shows.level, shows'.level]
    exact changes
  simp only [redraw]
  rw [if_pos levels, shows.deleteMenu, shows'.drawMenu]
  rfl

/-- Within a menu the old and the new entry are drawn. -/
theorem redraw_entry {m' : MenuController} {entry' : BitVec 8} (shows : m.Shows menu entry)
    (shows' : m'.Shows menu entry') :
    m.redraw m' = some (match menu.entries with
      | some table =>
          if entry' ≠ entry then
            [.entry table .unselected entry.toNat, .entry table .selected entry'.toNat]
          else []
      | none => []) := by
  have levels : m'.level = m.level := by rw [shows.level, shows'.level]
  have index : m.levelIndexes m.level = entry.setWidth 16 := by
    rw [shows.levelIndexes, shows.level, packed_length]
  have index' : m'.levelIndexes m.level = entry'.setWidth 16 := by
    rw [← levels, shows'.levelIndexes, shows'.level, packed_length]
  have words : entry'.setWidth 16 = entry.setWidth 16 ↔ entry' = entry := by
    constructor
    · intro same
      rw [← lowByte_setWidth entry', same, lowByte_setWidth]
    · intro same
      rw [same]
  simp only [redraw]
  rw [if_neg (fun changes => changes levels), index, index', shows.movedTable, lowByte_setWidth,
    lowByte_setWidth]
  cases row : menu.entries with
  | none => simp
  | some table =>
      dsimp only
      rw [shows.drawEntry row, shows'.drawEntry row]
      by_cases same : entry' = entry
      · simp [same]
      · rw [if_pos (fun eq => same (words.mp eq)), if_pos same]
        rfl

end MenuController.Shows

end Cnc
