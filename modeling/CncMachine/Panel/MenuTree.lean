import CncMachine.Panel.Menu

/-!
# The tree of menus

The panel's menus form a tree of four levels. `Menu` names them and `packed` is the content of
`level_indexes` while a menu is shown: every entry entered on the way to it stands in both bytes
of its word, the entry selected in it stands in the low byte of the next one, and the words
behind are zero. Entering, leaving and selecting rewrite one or two words; the three lemmas on
`packed` say that each of them leads from one place of the tree to another.
-/

namespace Cnc

/-- The rows of entries the menus select from. -/
inductive EntryTable where
  | submenu
  | setting
  | mpgAxes
  | mpgSpindle
  | xAxisDist
  | yzAxisDist
  | jogFeed
deriving DecidableEq, Repr

/-- `main_menu_options`, `settings_options`, `mpg_axes_settings`, `mpg_spindle_settings`,
`x_axis_dist_settings`, `yz_axis_dist_settings` and `jog_feed_settings`. -/
def EntryTable.options : EntryTable → List String
  | submenu => ["Auto mode", "Manual mode", "Settings"]
  | setting => ["Screen brightness", "MPG axes settings", "MPG spindle settings"]
  | mpgAxes => ["X axis jogging distances", "Y/Z axes jogging distances", "Jogging feed rates"]
  | mpgSpindle => ["Jogging spindle speed"]
  | xAxisDist => ["Precise", "Normal", "Coarse"]
  | yzAxisDist => ["Precise", "Normal", "Coarse"]
  | jogFeed => ["Slow", "Normal", "Fast"]

/-- `SUBMENUS`, `SETTINGS_SUBMENUS` and their siblings. -/
def EntryTable.count : EntryTable → Nat
  | mpgSpindle => 1
  | _ => 3

inductive Menu where
  | main
  | auto
  | manual
  | settings
  | brightness
  | mpgAxes
  | mpgSpindle
  | xAxisDist
  | yzAxisDist
  | jogFeed
  | spindleSpeed
deriving DecidableEq, Repr

namespace Menu

/-- The entries entered on the way from the main menu. -/
def path : Menu → List (BitVec 8)
  | main => []
  | auto => [0]
  | manual => [1]
  | settings => [2]
  | brightness => [2, 0]
  | mpgAxes => [2, 1]
  | mpgSpindle => [2, 2]
  | xAxisDist => [2, 1, 0]
  | yzAxisDist => [2, 1, 1]
  | jogFeed => [2, 1, 2]
  | spindleSpeed => [2, 2, 0]

/-- The row of entries a menu selects from, if it has one. -/
def entries : Menu → Option EntryTable
  | main => some .submenu
  | settings => some .setting
  | mpgAxes => some .mpgAxes
  | mpgSpindle => some .mpgSpindle
  | xAxisDist => some .xAxisDist
  | yzAxisDist => some .yzAxisDist
  | jogFeed => some .jogFeed
  | _ => none

/-- The menu behind an entry. The entries on the third level are values and lead nowhere. -/
def child : Menu → BitVec 8 → Option Menu
  | main, 0 => some auto
  | main, 1 => some manual
  | main, 2 => some settings
  | settings, 0 => some brightness
  | settings, 1 => some mpgAxes
  | settings, 2 => some mpgSpindle
  | mpgAxes, 0 => some xAxisDist
  | mpgAxes, 1 => some yzAxisDist
  | mpgAxes, 2 => some jogFeed
  | mpgSpindle, 0 => some spindleSpeed
  | _, _ => none

/-- The menu at the end of a path of entries. -/
def ofPath (path : List (BitVec 8)) : Option Menu := path.foldlM child main

theorem ofPath_path (menu : Menu) : ofPath menu.path = some menu := by
  cases menu <;> rfl

theorem length_path_le (menu : Menu) : menu.path.length ≤ 3 := by
  cases menu <;> decide

/-- The entry can be the selected one: it is in the row, or there is no row and it is 0. -/
def Selects (menu : Menu) (entry : BitVec 8) : Prop :=
  match menu.entries with
  | some table => entry.toNat < table.count
  | none => entry = 0

instance (menu : Menu) (entry : BitVec 8) : Decidable (menu.Selects entry) := by
  unfold Selects
  split <;> infer_instance

theorem selects_zero (menu : Menu) : menu.Selects 0 := by
  cases menu <;> decide

theorem Selects.lt {menu : Menu} {entry : BitVec 8} (selects : menu.Selects entry) :
    entry.toNat < 3 := by
  cases menu <;> simp_all [Selects, entries, EntryTable.count]

/-- Entering an entry makes the path longer by it. -/
theorem path_child {menu submenu : Menu} {entry : BitVec 8}
    (leads : menu.child entry = some submenu) : submenu.path = menu.path ++ [entry] := by
  simp only [child] at leads
  split at leads <;> cases leads <;> rfl

/-- Every menu but the main one is entered from another one. -/
theorem exists_parent {menu : Menu} (inner : menu ≠ main) :
    ∃ (parent : Menu) (entry : BitVec 8),
      parent.child entry = some menu ∧ parent.Selects entry := by
  cases menu with
  | main => exact absurd rfl inner
  | auto => exact ⟨main, 0, rfl, by decide⟩
  | manual => exact ⟨main, 1, rfl, by decide⟩
  | settings => exact ⟨main, 2, rfl, by decide⟩
  | brightness => exact ⟨settings, 0, rfl, by decide⟩
  | mpgAxes => exact ⟨settings, 1, rfl, by decide⟩
  | mpgSpindle => exact ⟨settings, 2, rfl, by decide⟩
  | xAxisDist => exact ⟨mpgAxes, 0, rfl, by decide⟩
  | yzAxisDist => exact ⟨mpgAxes, 1, rfl, by decide⟩
  | jogFeed => exact ⟨mpgAxes, 2, rfl, by decide⟩
  | spindleSpeed => exact ⟨mpgSpindle, 0, rfl, by decide⟩

/-- On the way to a menu, every entry is one of the menu it is entered from. -/
theorem exists_above (menu : Menu) {k : Nat} (inside : k < menu.path.length) :
    ∃ above, ofPath (menu.path.take k) = some above ∧ above.Selects menu.path[k] := by
  obtain ⟨parent, entry, leads, selects⟩ : ∃ (parent : Menu) (entry : BitVec 8),
      parent.child entry = some menu ∧ parent.Selects entry := by
    apply exists_parent
    rintro rfl
    exact absurd inside (Nat.not_lt_zero k)
  have path := path_child leads
  have longer : parent.path.length < menu.path.length := by simp [path]
  obtain before | last := Nat.lt_or_ge k parent.path.length
  · obtain ⟨above, eq, among⟩ := exists_above parent before
    refine ⟨above, ?_, ?_⟩
    · rw [path, List.take_append_of_le_length (by omega)]
      exact eq
    · simpa only [path, List.getElem_append_left before] using among
  · have here : k = parent.path.length := by
      rw [path, List.length_append, List.length_singleton] at inside
      omega
    subst here
    refine ⟨parent, ?_, ?_⟩
    · rw [path, List.take_left]
      exact ofPath_path parent
    · simpa only [path, List.getElem_concat_length] using selects
termination_by menu.path.length

end Menu

/-- An entry in both bytes of a word. -/
def twice (entry : BitVec 8) : BitVec 16 := entry.setWidth 16 ||| (entry.setWidth 16 <<< 8)

/-- `level_indexes` behind the entries of a path, with an entry selected. -/
def packed (path : List (BitVec 8)) (entry : BitVec 8) (k : Nat) : BitVec 16 :=
  match path[k]? with
  | some entered => twice entered
  | none => if k = path.length then entry.setWidth 16 else 0

section

-- The words that occur, byte by byte: 256 values each.

variable (entry : BitVec 8)

@[simp] theorem lowByte_setWidth : lowByte (entry.setWidth 16) = entry := by decide +revert

@[simp] theorem highByte_setWidth : highByte (entry.setWidth 16) = 0 := by decide +revert

@[simp] theorem lowByte_twice : lowByte (twice entry) = entry := by decide +revert

@[simp] theorem highByte_twice : highByte (twice entry) = entry := by decide +revert

theorem enteredIndex_setWidth : enteredIndex (entry.setWidth 16) = twice entry := by
  decide +revert

theorem twice_and : twice entry &&& 0x00FF = entry.setWidth 16 := by decide +revert

end

section

variable (path : List (BitVec 8)) (entry : BitVec 8)

@[simp] theorem packed_length : packed path entry path.length = entry.setWidth 16 := by
  simp [packed]

theorem packed_of_lt {k : Nat} (inside : k < path.length) :
    packed path entry k = twice path[k] := by
  simp [packed, inside]

theorem packed_of_gt {k : Nat} (behind : path.length < k) : packed path entry k = 0 := by
  have outside : path[k]? = none := List.getElem?_eq_none (by omega)
  simp [packed, outside, show k ≠ path.length by omega]

/-- Selecting another entry. -/
theorem packed_select (other : BitVec 8) :
    Function.update (packed path entry) path.length (other.setWidth 16) = packed path other := by
  funext k
  by_cases here : k = path.length
  · subst here
    simp
  · rw [Function.update_of_ne here]
    simp [packed, here]

/-- Entering an entry. -/
theorem packed_enter (other : BitVec 8) :
    Function.update (packed path entry) path.length (twice other) =
      packed (path ++ [other]) 0 := by
  funext k
  obtain inside | rfl | behind := Nat.lt_trichotomy k path.length
  · rw [Function.update_of_ne (by omega), packed_of_lt _ _ inside,
      packed_of_lt _ _ (by simp; omega), List.getElem_append_left inside]
  · simp [packed]
  · rw [Function.update_of_ne (by omega), packed_of_gt _ _ behind]
    by_cases next : k = path.length + 1
    · subst next
      simpa using (packed_length (path ++ [other]) 0).symm
    · rw [packed_of_gt _ _ (by simp; omega)]

/-- Leaving a menu: the word of its entries is cleared, and the entry that led to it is the
selected one. -/
theorem packed_leave (other : BitVec 8) :
    Function.update (Function.update (packed (path ++ [other]) entry) (path.length + 1) 0)
      path.length (packed (path ++ [other]) entry path.length &&& 0x00FF) =
        packed path other := by
  have entered : packed (path ++ [other]) entry path.length = twice other := by simp [packed]
  rw [entered, twice_and]
  funext k
  obtain inside | rfl | behind := Nat.lt_trichotomy k path.length
  · rw [Function.update_of_ne (by omega), Function.update_of_ne (by omega),
      packed_of_lt _ _ inside, packed_of_lt _ _ (by simp; omega),
      List.getElem_append_left inside]
  · simp
  · rw [Function.update_of_ne (by omega), packed_of_gt _ _ behind]
    by_cases next : k = path.length + 1
    · rw [next, Function.update_self]
    · rw [Function.update_of_ne next, packed_of_gt _ _ (by simp; omega)]

end

/-- The controller shows a menu, with an entry selected in it. -/
structure MenuController.Shows (m : MenuController) (menu : Menu) (entry : BitVec 8) : Prop where
  selects : menu.Selects entry
  level : m.level = menu.path.length
  levelIndexes : m.levelIndexes = packed menu.path entry

namespace MenuController.Shows

variable {m : MenuController} {menu : Menu} {entry : BitVec 8}

/-- Whatever does not touch the place keeps it. -/
theorem of_eq {m' : MenuController} (shows : m.Shows menu entry) (level : m'.level = m.level)
    (levelIndexes : m'.levelIndexes = m.levelIndexes) : m'.Shows menu entry where
  selects := shows.selects
  level := level.trans shows.level
  levelIndexes := levelIndexes.trans shows.levelIndexes

theorem saveIndex {index : BitVec 8} (shows : m.Shows menu entry) (selects : menu.Selects index) :
    (m.saveIndex m.level index).Shows menu index := by
  have small := selects.lt
  have positive : index.toInt = index.toNat := BitVec.toInt_eq_toNat_of_lt (by omega)
  have extended : index.signExtend 16 = index.setWidth 16 := by
    apply BitVec.signExtend_eq_setWidth_of_msb_false
    exact BitVec.msb_eq_false_iff_two_mul_lt.mpr (by omega)
  have current : lowByte (m.levelIndexes m.level) = entry := by
    rw [shows.levelIndexes, shows.level, packed_length, lowByte_setWidth]
  simp only [MenuController.saveIndex]
  rw [positive, current]
  split
  next changed =>
    refine ⟨selects, shows.level, ?_⟩
    show Function.update m.levelIndexes m.level (index.signExtend 16) = packed menu.path index
    rw [extended, shows.levelIndexes, shows.level, packed_select]
  next same =>
    have eq : index = entry := BitVec.eq_of_toNat_eq (by omega)
    rw [eq]
    exact shows

theorem enterLevel {submenu : Menu} (shows : m.Shows menu entry)
    (leads : menu.child entry = some submenu) : (m.enterLevel m.level).Shows submenu 0 := by
  have path := Menu.path_child leads
  refine ⟨submenu.selects_zero, ?_, ?_⟩
  · show m.level + 1 = submenu.path.length
    rw [shows.level, path, List.length_append, List.length_singleton]
  · show Function.update m.levelIndexes m.level (enteredIndex (m.levelIndexes m.level)) = _
    rw [shows.levelIndexes, shows.level, packed_length, enteredIndex_setWidth, packed_enter, path]

theorem enterSubmenu {touched : Nat} {submenu : Menu} (shows : m.Shows menu entry)
    (leads : menu.child (BitVec.ofNat 8 touched) = some submenu) (small : touched < 256) :
    (m.enterSubmenu touched).Shows submenu 0 := by
  have path := Menu.path_child leads
  have word : BitVec.ofNat 16 touched = (BitVec.ofNat 8 touched).setWidth 16 :=
    BitVec.eq_of_toNat_eq (by simp; omega)
  refine ⟨submenu.selects_zero, ?_, ?_⟩
  · show m.level + 1 = submenu.path.length
    rw [shows.level, path, List.length_append, List.length_singleton]
  · show Function.update m.levelIndexes m.level
      (BitVec.ofNat 16 touched ||| (BitVec.ofNat 16 touched <<< 8)) = _
    rw [word, shows.levelIndexes, shows.level, ← twice, packed_enter, path]

theorem leaveLevel (shows : m.Shows menu entry) (inner : menu ≠ .main) :
    ∃ parent entry', parent.child entry' = some menu ∧
      (m.leaveLevel m.level).Shows parent entry' := by
  obtain ⟨parent, entry', leads, selects⟩ := Menu.exists_parent inner
  have path := Menu.path_child leads
  have level : m.level = parent.path.length + 1 := by
    rw [shows.level, path, List.length_append, List.length_singleton]
  refine ⟨parent, entry', leads, selects, ?_, ?_⟩
  · show m.level - 1 = parent.path.length
    omega
  · show Function.update (Function.update m.levelIndexes m.level 0) (m.level - 1)
      (m.levelIndexes (m.level - 1) &&& 0x00FF) = _
    rw [level, Nat.add_sub_cancel, shows.levelIndexes, path, packed_leave]

end MenuController.Shows

end Cnc
