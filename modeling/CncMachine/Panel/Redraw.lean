import CncMachine.Panel.Screen

/-!
# Drawing what has changed against drawing everything

Outside the two modes the kept values are the sentinels (`Reset`). Inside, every area is current
with respect to the data of the last call (`UpToDate`). From there each watch says on its own when
its area goes wrong: on entering, if the data equals the sentinel or the label is already the
text; on an update, if the data compares equal with the last data and looks different.
-/

namespace Cnc

open Display Transition

/-- The texts of the coordinates and of the spindle speed have room in the local arrays. -/
structure ScreenData.TextsFit (d : ScreenData) : Prop where
  position : ∀ i, (d.position i).printed.length < 10
  offset : ∀ i, (d.offset i).printed.length < 10
  rpm : d.rpm.printed.length < 20

namespace Screen

/-- On entering a mode nothing equals its sentinel, except the spindle speed and the jogging
mode: no coordinate and no offset is -1, the coolant is off if the copy of its state is `true`,
which it is from the first leaving on, and the MPG mode is off where it is shown. -/
structure EnterOk (menu : ModeMenu) (s : Screen) : Prop where
  position : ∀ i, Double.eq (.value (-1)) (s.data.position i) = false
  offset : ∀ i, Double.eq (.value (-1)) (s.data.offset i) = false
  mist : s.mist.cached = true → s.data.mist = false
  flood : s.flood.cached = true → s.data.flood = false
  mpg : menu = .manual → s.data.mpgMode = false
  fits : s.data.TextsFit

/-- From the last call to this one nothing that is shown has changed without what is compared: a
zero keeps its sign, a state its text, a spindle that turns on at the same speed its direction,
an enabled pendant its own status. -/
structure UpdateOk (menu : ModeMenu) (last data : ScreenData) : Prop where
  position : ∀ i, (last.position i).eq (data.position i) = true →
    last.position i = data.position i
  offset : ∀ i, (last.offset i).eq (data.offset i) = true → last.offset i = data.offset i
  word : last.state = data.state → last.stateWord = data.stateWord
  spindle : last.spindleOn = true → data.spindleOn = true →
    last.rpmProgrammed.eq data.rpmProgrammed = true →
    last.rpmProgrammed.eq (.value (-1)) = false →
    last.spindleCcw = data.spindleCcw ∧ last.rpmProgrammed = data.rpmProgrammed
  pendant : menu = .manual → last.mpgStatus = .enabled → data.mpgStatus = .enabled →
    last.pendantStatus = data.pendantStatus
  fits : data.TextsFit

/-- The condition at one event. -/
def CallOk (s : Screen) : ScreenEvent → Prop
  | .enter menu => s.menu = none → s.EnterOk menu
  | .update => ∀ menu, s.menu = some menu → UpdateOk menu s.last s.data
  | _ => True

/-- What is kept outside the two modes. -/
structure Reset (s : Screen) : Prop where
  position : ∀ i, (s.position i).cached = .value (-1)
  offset : ∀ i, (s.offset i).cached = .value (-1)
  state : s.state.cached = -1
  spindle : s.spindle.cached.2 = .value (-1)
  mpg : s.mpg.cached = -1
  pendant : s.pendant.cached = -1
  jog : s.jog.cached = -1
  overrun : s.overrun = false

/-- All areas of the menu are current. Auto mode leaves three of them empty. -/
structure UpToDate (menu : ModeMenu) (s : Screen) : Prop where
  position : ∀ i, (s.position i).Current (positionWatch i) s.last
  offset : ∀ i, (s.offset i).Current (offsetWatch i) s.last
  mist : s.mist.Current mistWatch s.last
  flood : s.flood.Current floodWatch s.last
  state : s.state.Current stateWatch s.last
  spindle : s.spindle.Current spindleWatch s.last
  manual : menu = .manual → s.mpg.Current mpgWatch s.last ∧
    s.pendant.Current pendantWatch s.last ∧ s.jog.Current jogWatch s.last
  auto : menu = .auto → s.mpg.shown = none ∧ s.pendant.shown = none ∧ s.jog.shown = none
  positionFits : ∀ i, (s.position i).cached.printed.length < 10
  offsetFits : ∀ i, (s.offset i).cached.printed.length < 10
  rpmFits : s.last.rpm.printed.length < 20
  overrun : s.overrun = false

def Inv (s : Screen) : Prop :=
  (s.menu = none → s.Reset) ∧ ∀ menu, s.menu = some menu → s.UpToDate menu

/-- The areas of the menu show the data. -/
structure Shows (menu : ModeMenu) (d : ScreenData) (s : Screen) : Prop where
  position : ∀ i, (s.position i).shown = (positionWatch i).content d
  offset : ∀ i, (s.offset i).shown = (offsetWatch i).content d
  mist : s.mist.shown = mistWatch.content d
  flood : s.flood.shown = floodWatch.content d
  state : s.state.shown = stateWatch.content d
  spindle : s.spindle.shown = spindleWatch.content d
  manual : menu = .manual → s.mpg.shown = mpgWatch.content d ∧
    s.pendant.shown = pendantWatch.content d ∧ s.jog.shown = jogWatch.content d
  auto : menu = .auto → s.mpg.shown = none ∧ s.pendant.shown = none ∧ s.jog.shown = none

section

variable (s : Screen) (all : Bool)

theorem stateWord_namedData : (s.namedData all).stateWord = s.data.stateWord := by
  simp only [namedData]
  split
  · simp only [ScreenData.stateWord]
    split <;> simp_all
  · rfl

/-- Replacing an empty text by the word that is shown for it changes no area. -/
theorem content_namedData :
    (∀ i, (positionWatch i).content (s.namedData all) = (positionWatch i).content s.data) ∧
    (∀ i, (offsetWatch i).content (s.namedData all) = (offsetWatch i).content s.data) ∧
    mistWatch.content (s.namedData all) = mistWatch.content s.data ∧
    floodWatch.content (s.namedData all) = floodWatch.content s.data ∧
    stateWatch.content (s.namedData all) = stateWatch.content s.data ∧
    spindleWatch.content (s.namedData all) = spindleWatch.content s.data ∧
    mpgWatch.content (s.namedData all) = mpgWatch.content s.data ∧
    pendantWatch.content (s.namedData all) = pendantWatch.content s.data ∧
    jogWatch.content (s.namedData all) = jogWatch.content s.data := by
  have word := stateWord_namedData s all
  simp only [stateWatch, word]
  simp only [namedData]
  split <;> exact ⟨fun _ => rfl, fun _ => rfl, rfl, rfl, rfl, rfl, rfl, rfl, rfl⟩

theorem shows_namedData_iff {menu : ModeMenu} {t : Screen} :
    t.Shows menu (s.namedData all) ↔ t.Shows menu s.data := by
  obtain ⟨position, offset, mist, flood, state, spindle, mpg, pendant, jog⟩ :=
    content_namedData s all
  constructor
  · intro h
    exact ⟨fun i => (h.position i).trans (position i), fun i => (h.offset i).trans (offset i),
      h.mist.trans mist, h.flood.trans flood, h.state.trans state, h.spindle.trans spindle,
      fun manual => (by simpa only [mpg, pendant, jog] using h.manual manual), h.auto⟩
  · intro h
    exact ⟨fun i => (h.position i).trans (position i).symm,
      fun i => (h.offset i).trans (offset i).symm, h.mist.trans mist.symm,
      h.flood.trans flood.symm, h.state.trans state.symm, h.spindle.trans spindle.symm,
      fun manual => (by simpa only [mpg, pendant, jog] using h.manual manual), h.auto⟩

end

/-- Drawn from nothing, a menu shows its data. -/
theorem shows_drawMenu (s : Screen) (menu : ModeMenu) :
    (s.drawMenu true menu).Shows menu s.data := by
  cases menu with
  | auto => exact ⟨fun _ => rfl, fun _ => rfl, rfl, rfl, rfl, rfl, nofun, fun _ => ⟨rfl, rfl, rfl⟩⟩
  | manual =>
      exact ⟨fun _ => rfl, fun _ => rfl, rfl, rfl, rfl, rfl, fun _ => ⟨rfl, rfl, rfl⟩, nofun⟩

theorem Shows.sameAreas_iff {s t : Screen} {menu : ModeMenu} {d : ScreenData}
    (shows : t.Shows menu d) : s.SameAreas t ↔ s.Shows menu d := by
  constructor
  · intro same
    refine ⟨fun i => (same.position i).trans (shows.position i),
      fun i => (same.offset i).trans (shows.offset i), same.mist.trans shows.mist,
      same.flood.trans shows.flood, same.state.trans shows.state,
      same.spindle.trans shows.spindle, ?_, ?_⟩
    · intro manual
      rw [same.mpg, same.pendant, same.jog]
      exact shows.manual manual
    · intro auto
      rw [same.mpg, same.pendant, same.jog]
      exact shows.auto auto
  · intro h
    have rest : s.mpg.shown = t.mpg.shown ∧ s.pendant.shown = t.pendant.shown ∧
        s.jog.shown = t.jog.shown := by
      cases menu with
      | auto =>
          obtain ⟨mpg, pendant, jog⟩ := h.auto rfl
          obtain ⟨mpg', pendant', jog'⟩ := shows.auto rfl
          exact ⟨mpg.trans mpg'.symm, pendant.trans pendant'.symm, jog.trans jog'.symm⟩
      | manual =>
          obtain ⟨mpg, pendant, jog⟩ := h.manual rfl
          obtain ⟨mpg', pendant', jog'⟩ := shows.manual rfl
          exact ⟨mpg.trans mpg'.symm, pendant.trans pendant'.symm, jog.trans jog'.symm⟩
    exact ⟨fun i => (h.position i).trans (shows.position i).symm,
      fun i => (h.offset i).trans (shows.offset i).symm, h.mist.trans shows.mist.symm,
      h.flood.trans shows.flood.symm, h.state.trans shows.state.symm,
      h.spindle.trans shows.spindle.symm, rest.1, rest.2.1, rest.2.2⟩

section

variable (s : Screen) (menu : ModeMenu)

@[simp] theorem menu_updateScreen : (s.updateScreen false menu).menu = s.menu := by
  cases menu <;> rfl

@[simp] theorem data_updateScreen : (s.updateScreen false menu).data = s.namedData false := by
  cases menu <;> rfl

@[simp] theorem overrun_updateScreen :
    (s.updateScreen false menu).overrun = (s.overrun || s.overruns false) := by
  cases menu <;> rfl

theorem agrees_updateScreen_iff (inside : s.menu = some menu) :
    (s.updateScreen false menu).Agrees ↔
      (s.updateScreen false menu).Shows menu s.data ∧ s.overrun = false ∧
        s.overruns false = false := by
  have full := shows_drawMenu (s.updateScreen false menu) menu
  rw [data_updateScreen, shows_namedData_iff] at full
  have same := full.sameAreas_iff (s := s.updateScreen false menu)
  simp only [Agrees, menu_updateScreen, inside, Option.some.injEq, forall_eq', same,
    overrun_updateScreen, Bool.or_eq_false_iff]

/-- The areas go wrong one by one, by being passed over. -/
theorem shows_updateScreen_iff : (s.updateScreen false menu).Shows menu s.data ↔
    (∀ i, (positionWatch i).Kept s.data (s.position i)) ∧
    (∀ i, (offsetWatch i).Kept s.data (s.offset i)) ∧
    mistWatch.Kept s.data s.mist ∧ floodWatch.Kept s.data s.flood ∧
    stateWatch.Kept s.data s.state ∧ spindleWatch.Kept s.data s.spindle ∧
    (menu = .manual → mpgWatch.Kept s.data s.mpg ∧ pendantWatch.Kept s.data s.pendant ∧
      jogWatch.Kept s.data s.jog) ∧
    (menu = .auto → s.mpg.shown = none ∧ s.pendant.shown = none ∧ s.jog.shown = none) := by
  simp only [← Watch.shown_refresh_iff]
  cases menu with
  | auto =>
      constructor
      · rintro ⟨position, offset, mist, flood, state, spindle, -, rest⟩
        exact ⟨position, offset, mist, flood, state, spindle, nofun, rest⟩
      · rintro ⟨position, offset, mist, flood, state, spindle, -, rest⟩
        exact ⟨position, offset, mist, flood, state, spindle, nofun, rest⟩
  | manual =>
      constructor
      · rintro ⟨position, offset, mist, flood, state, spindle, rest, -⟩
        exact ⟨position, offset, mist, flood, state, spindle, rest, nofun⟩
      · rintro ⟨position, offset, mist, flood, state, spindle, rest, -⟩
        exact ⟨position, offset, mist, flood, state, spindle, rest, nofun⟩

end

section

variable {d : ScreenData}

theorem kept_coordinate_reset (coordinate : ScreenData → Double) {cached : Double}
    (reset : cached = .value (-1)) : (coordinateWatch coordinate).Kept d ⟨cached, none⟩ ↔
      Double.eq (.value (-1)) (coordinate d) = false := by
  simp [Watch.Kept, coordinateWatch, reset]

theorem kept_coolant_label (label : List Char) (on : ScreenData → Bool) (cached : Bool) :
    (coolantWatch label on).Kept d
        ⟨cached, some { text := label, colour := .red, background := .gray }⟩ ↔
      (cached = true → on d = false) := by
  simp only [Watch.Kept, coolantWatch]
  cases on d <;> cases cached <;> simp

theorem GrblState.code_ne (state : GrblState) : -1 ≠ state.code := by
  cases state <;> decide

theorem kept_state_reset {cached : BitVec 8} (reset : cached = -1) :
    stateWatch.Kept d ⟨cached, none⟩ := by
  intro same
  rw [stateWatch, bne_eq_false_iff_eq, reset] at same
  exact absurd same (GrblState.code_ne d.state)

theorem kept_spindle_reset {cached : BitVec 8 × Double} (reset : cached.2 = .value (-1))
    (shown : SpindleArea) : spindleWatch.Kept d ⟨cached, shown⟩ := by
  intro same
  simp [spindleWatch, reset, Double.eq] at same

theorem kept_mpg_reset {cached : BitVec 8} (reset : cached = -1) :
    mpgWatch.Kept d ⟨cached, none⟩ ↔ d.mpgMode = false := by
  simp only [Watch.Kept, mpgWatch, reset]
  cases d.mpgMode <;> decide

theorem MpgStatus.code_ne (status : MpgStatus) : -1 ≠ BitVec.ofNat 8 status.code := by
  cases status <;> decide

theorem kept_pendant_reset {cached : BitVec 8} (reset : cached = -1) :
    pendantWatch.Kept d ⟨cached, none⟩ := by
  intro same
  rw [pendantWatch, bne_eq_false_iff_eq, reset] at same
  exact absurd same (MpgStatus.code_ne d.mpgStatus)

/-- The sentinel of the jogging mode is itself a mode without a name. -/
theorem kept_jog_reset {cached : BitVec 8} (reset : cached = -1) :
    jogWatch.Kept d ⟨cached, none⟩ := by
  intro same
  rw [jogWatch, bne_eq_false_iff_eq, reset] at same
  have unnamed : d.jogMode.toNat = 255 := by rw [← same]; rfl
  simp only [jogWatch, unnamed]

end

variable {last d : ScreenData}

theorem kept_coordinate (coordinate : ScreenData → Double) {tile : Tile Double Area}
    (current : tile.Current (coordinateWatch coordinate) last) :
    (coordinateWatch coordinate).Kept d tile ↔
      ((coordinate last).eq (coordinate d) = true → coordinate last = coordinate d) := by
  rw [current.kept_iff]
  simp only [coordinateWatch, Bool.not_eq_false', Option.some.injEq, Written.mk.injEq, and_true]
  exact forall_congr' fun same => Double.printed_eq_iff same

theorem kept_coolant (label : List Char) (on : ScreenData → Bool) {tile : Tile Bool Area}
    (current : tile.Current (coolantWatch label on) last) :
    (coolantWatch label on).Kept d tile := by
  rw [current.kept_iff]
  intro same
  have alike : on d = on last := by simpa [coolantWatch] using same
  simp only [coolantWatch, alike]

theorem GrblState.code_inj {a b : GrblState} : a.code = b.code ↔ a = b := by
  cases a <;> cases b <;> decide

theorem MpgStatus.code_inj {a b : MpgStatus} :
    BitVec.ofNat 8 a.code = BitVec.ofNat 8 b.code ↔ a = b := by
  cases a <;> cases b <;> decide

theorem kept_state {tile : Tile (BitVec 8) Area} (current : tile.Current stateWatch last) :
    stateWatch.Kept d tile ↔ (last.state = d.state → last.stateWord = d.stateWord) := by
  rw [current.kept_iff]
  simp only [stateWatch, bne_eq_false_iff_eq, GrblState.code_inj, Option.some.injEq,
    Written.mk.injEq, and_true]
  exact forall_congr' fun same => by rw [same, and_iff_left rfl]

theorem kept_mpg {tile : Tile (BitVec 8) Area} (current : tile.Current mpgWatch last) :
    mpgWatch.Kept d tile := by
  rw [current.kept_iff]
  simp only [mpgWatch]
  cases last.mpgMode <;> cases d.mpgMode <;> decide

theorem content_pendant_iff :
    pendantWatch.content last = pendantWatch.content d ↔
      last.pendantEnabled = d.pendantEnabled := by
  simp only [pendantWatch]
  cases last.pendantEnabled <;> cases d.pendantEnabled <;> decide

theorem kept_pendant {tile : Tile (BitVec 8) Area} (current : tile.Current pendantWatch last) :
    pendantWatch.Kept d tile ↔ (last.mpgStatus = .enabled → d.mpgStatus = .enabled →
      last.pendantStatus = d.pendantStatus) := by
  have unchanged : pendantWatch.changed (pendantWatch.key last) d = false ↔
      last.mpgStatus = d.mpgStatus := by
    simp only [pendantWatch, bne_eq_false_iff_eq, MpgStatus.code_inj]
  rw [current.kept_iff, unchanged, content_pendant_iff]
  simp only [ScreenData.pendantEnabled]
  constructor
  · intro same on on'
    simpa [on, on'] using same (on.trans on'.symm)
  · intro same alike
    by_cases on : d.mpgStatus = .enabled
    · rw [same (alike.trans on) on, alike]
    · rw [alike, beq_eq_false_iff_ne.mpr on, Bool.and_false, Bool.and_false]

theorem kept_jog {tile : Tile (BitVec 8) Area} (current : tile.Current jogWatch last) :
    jogWatch.Kept d tile := by
  rw [current.kept_iff]
  intro same
  have mode : last.jogMode = d.jogMode := by simpa [jogWatch] using same
  simp only [jogWatch, mode]

theorem boolByte_inj {a b : Bool} : boolByte a = boolByte b ↔ a = b := by
  cases a <;> cases b <;> decide

/-- The spindle is passed over exactly when these compare equal. -/
theorem spindle_unchanged_iff : spindleWatch.changed (spindleWatch.key last) d = false ↔
    last.spindleOn = d.spindleOn ∧ last.rpmProgrammed.eq (.value (-1)) = false ∧
      last.rpmProgrammed.eq d.rpmProgrammed = true := by
  have byte : ((boolByte last.spindleOn).toNat : Int) ≠ -1 := by omega
  simp only [spindleWatch, Bool.or_eq_false_iff, bne_eq_false_iff_eq, boolByte_inj,
    Bool.not_eq_false', beq_eq_false_iff_ne, ne_eq, byte, not_false_eq_true, true_and]

theorem direction_iff (on : last.spindleOn = true) (on' : d.spindleOn = true) :
    last.direction = d.direction ↔ last.spindleCcw = d.spindleCcw := by
  simp only [ScreenData.direction, on, on']
  cases last.spindleCcw <;> cases d.spindleCcw <;> decide

theorem content_spindle_congr (on : last.spindleOn = d.spindleOn) (rpm : last.rpm = d.rpm)
    (direction : last.direction = d.direction) :
    spindleWatch.content last = spindleWatch.content d := by
  simp only [spindleWatch]
  rw [on, rpm, direction]

theorem kept_spindle {tile : Tile (BitVec 8 × Double) SpindleArea}
    (current : tile.Current spindleWatch last) :
    spindleWatch.Kept d tile ↔ (last.spindleOn = true → d.spindleOn = true →
      last.rpmProgrammed.eq d.rpmProgrammed = true →
      last.rpmProgrammed.eq (.value (-1)) = false →
      last.spindleCcw = d.spindleCcw ∧ last.rpmProgrammed = d.rpmProgrammed) := by
  rw [current.kept_iff, spindle_unchanged_iff]
  constructor
  · intro same on on' rpm other
    have look := same ⟨on.trans on'.symm, other, rpm⟩
    simp only [spindleWatch, ScreenData.rpm, on, on', if_true, SpindleArea.mk.injEq,
      Option.some.injEq, Written.mk.injEq, and_true, true_and, Double.printed_eq_iff rpm,
      direction_iff on on'] at look
    exact ⟨look.2, look.1.1⟩
  · rintro same ⟨alike, other, rpm⟩
    by_cases on : d.spindleOn = true
    · obtain ⟨ccw, number⟩ := same (alike.trans on) on rpm other
      have sameRpm : last.rpm = d.rpm := by rw [ScreenData.rpm, alike, number, ScreenData.rpm]
      exact content_spindle_congr alike sameRpm ((direction_iff (alike.trans on) on).mpr ccw)
    · rw [Bool.not_eq_true] at on
      have off := alike.trans on
      exact content_spindle_congr alike (by simp [ScreenData.rpm, on, off])
        (by simp [ScreenData.direction, on, off])

section

variable {s : Screen} {coordinate : ScreenData → Double} {tile : Tile Double Area}

theorem coordinateOverruns_iff (cached : tile.cached.printed.length < 10) :
    s.coordinateOverruns false (coordinateWatch coordinate) tile = false ↔
      (coordinate s.data).printed.length < 10 := by
  simp only [coordinateOverruns, Bool.false_or, Bool.and_eq_false_iff, Bool.or_eq_false_iff,
    decide_eq_false_iff_not, Nat.not_le, cached, and_true]
  refine or_iff_right_of_imp fun unchanged => ?_
  have same : tile.cached.eq (coordinate s.data) = true := by
    simpa [coordinateWatch] using unchanged
  exact (Double.printed_fits_congr same (by decide)).mp cached

theorem rpmOverruns_iff
    (kept : spindleWatch.changed s.spindle.cached s.data = false → s.data.rpm.printed.length < 20) :
    s.rpmOverruns false = false ↔ s.data.rpm.printed.length < 20 := by
  simp only [rpmOverruns, Bool.false_or, Bool.and_eq_false_iff, decide_eq_false_iff_not, Nat.not_le]
  exact or_iff_right_of_imp kept

theorem overruns_iff (position : ∀ i, (s.position i).cached.printed.length < 10)
    (offset : ∀ i, (s.offset i).cached.printed.length < 10)
    (rpm : spindleWatch.changed s.spindle.cached s.data = false →
      s.data.rpm.printed.length < 20) :
    s.overruns false = false ↔ s.data.TextsFit := by
  simp only [overruns, Bool.or_eq_false_iff, decide_eq_false_iff_not, not_exists,
    Bool.not_eq_true, rpmOverruns_iff rpm]
  simp only [positionWatch, offsetWatch, coordinateOverruns_iff (position _),
    coordinateOverruns_iff (offset _)]
  constructor
  · rintro ⟨⟨position, offset⟩, rpm⟩
    exact ⟨position, offset, rpm⟩
  · rintro ⟨position, offset, rpm⟩
    exact ⟨⟨position, offset⟩, rpm⟩

theorem printed_refresh (cached : tile.cached.printed.length < 10)
    (fits : (coordinate s.data).printed.length < 10) :
    ((coordinateWatch coordinate).refresh false s.data tile).cached.printed.length < 10 := by
  simp only [Watch.refresh]
  split
  · exact fits
  · exact cached

end

section

variable {s : Screen} {menu : ModeMenu}

/-- A call that leaves all areas as they should be leaves them current. -/
theorem upToDate_updateScreen (shows : (s.updateScreen false menu).Shows menu s.data)
    (position : ∀ i, (s.position i).cached.printed.length < 10)
    (offset : ∀ i, (s.offset i).cached.printed.length < 10)
    (fits : s.data.TextsFit) (room : (s.updateScreen false menu).overrun = false) :
    (s.updateScreen false menu).UpToDate menu := by
  have common : ∀ i, (((positionWatch i).refresh false s.data (s.position i)).cached).printed.length
      < 10 := fun i => printed_refresh (position i) (fits.position i)
  have common' : ∀ i, (((offsetWatch i).refresh false s.data (s.offset i)).cached).printed.length
      < 10 := fun i => printed_refresh (offset i) (fits.offset i)
  cases menu with
  | auto =>
      exact ⟨fun i => Watch.current_refresh _ (shows.position i),
        fun i => Watch.current_refresh _ (shows.offset i), Watch.current_refresh _ shows.mist,
        Watch.current_refresh _ shows.flood, Watch.current_refresh _ shows.state,
        Watch.current_refresh _ shows.spindle, nofun, shows.auto, common, common', fits.rpm, room⟩
  | manual =>
      obtain ⟨mpg, pendant, jog⟩ := shows.manual rfl
      exact ⟨fun i => Watch.current_refresh _ (shows.position i),
        fun i => Watch.current_refresh _ (shows.offset i), Watch.current_refresh _ shows.mist,
        Watch.current_refresh _ shows.flood, Watch.current_refresh _ shows.state,
        Watch.current_refresh _ shows.spindle,
        fun _ => ⟨Watch.current_refresh _ mpg, Watch.current_refresh _ pendant,
          Watch.current_refresh _ jog⟩,
        nofun, common, common', fits.rpm, room⟩

theorem agrees_update_iff (inside : s.menu = some menu) (current : s.UpToDate menu) :
    (s.updateScreen false menu).Agrees ↔ UpdateOk menu s.last s.data := by
  have rpm (same : spindleWatch.changed s.spindle.cached s.data = false) :
      s.data.rpm.printed.length < 20 := by
    rw [current.spindle.cached, spindle_unchanged_iff] at same
    have alike : s.last.rpm.eq s.data.rpm = true := by
      simp only [ScreenData.rpm, same.1]
      split
      · exact same.2.2
      · rfl
    exact (Double.printed_fits_congr alike (by decide)).mp current.rpmFits
  rw [agrees_updateScreen_iff s menu inside, shows_updateScreen_iff,
    overruns_iff current.positionFits current.offsetFits rpm]
  simp only [positionWatch, offsetWatch, kept_coordinate _ (current.position _),
    kept_coordinate _ (current.offset _), kept_state current.state, kept_spindle current.spindle,
    current.overrun, true_and]
  constructor
  · rintro ⟨⟨position, offset, -, -, word, spindle, rest, -⟩, fits⟩
    refine ⟨position, offset, word, spindle, ?_, fits⟩
    intro manual
    exact (kept_pendant (current.manual manual).2.1).mp (rest manual).2.1
  · rintro ⟨position, offset, word, spindle, pendant, fits⟩
    refine ⟨⟨position, offset, kept_coolant _ _ current.mist, kept_coolant _ _ current.flood, word,
      spindle, ?_, current.auto⟩, fits⟩
    intro manual
    obtain ⟨mpgCurrent, pendantCurrent, jogCurrent⟩ := current.manual manual
    exact ⟨kept_mpg mpgCurrent, (kept_pendant pendantCurrent).mpr (pendant manual),
      kept_jog jogCurrent⟩

theorem agrees_enter_iff (reset : s.Reset) : (s.drawMenu false menu).Agrees ↔ s.EnterOk menu := by
  have sentinel : (Double.value (-1)).printed.length < 10 := by decide +kernel
  have rpm (same : spindleWatch.changed s.spindle.cached s.data = false) :
      s.data.rpm.printed.length < 20 := by
    simp [spindleWatch, reset.spindle, Double.eq] at same
  have room : ({ s.deleteMenu with menu := some menu }.drawLabels).overruns false = false ↔
      s.data.TextsFit :=
    overruns_iff (fun i => (congrArg (·.printed.length < 10) (reset.position i)).mpr sentinel)
      (fun i => (congrArg (·.printed.length < 10) (reset.offset i)).mpr sentinel) rpm
  rw [drawMenu, agrees_updateScreen_iff _ menu rfl, shows_updateScreen_iff, room]
  simp only [drawLabels, deleteMenu, positionWatch, offsetWatch, mistWatch, floodWatch,
    kept_coordinate_reset _ (reset.position _), kept_coordinate_reset _ (reset.offset _),
    kept_coolant_label, kept_state_reset reset.state, kept_spindle_reset reset.spindle,
    kept_mpg_reset reset.mpg, kept_pendant_reset reset.pendant, kept_jog_reset reset.jog,
    reset.overrun, and_self, implies_true, true_and, and_true]
  constructor
  · rintro ⟨⟨position, offset, mist, flood, mpg⟩, fits⟩
    exact ⟨position, offset, mist, flood, mpg, fits⟩
  · rintro ⟨position, offset, mist, flood, mpg, fits⟩
    exact ⟨⟨position, offset, mist, flood, mpg⟩, fits⟩

end

variable {s : Screen}

@[simp] theorem menu_drawMenu (all : Bool) (menu : ModeMenu) :
    (s.drawMenu all menu).menu = some menu := by
  cases menu <;> rfl

theorem inv_of_upToDate {menu : ModeMenu} (inside : s.menu = some menu)
    (current : s.UpToDate menu) : s.Inv := by
  refine ⟨fun outside => ?_, fun menu' inside' => ?_⟩
  · rw [outside] at inside
    cases inside
  · rw [inside] at inside'
    cases inside'
    exact current

theorem inv_enter {menu : ModeMenu} (reset : s.Reset) (ok : s.EnterOk menu) :
    (s.drawMenu false menu).Inv := by
  have agrees := (agrees_enter_iff reset).mpr ok
  obtain ⟨shows, room⟩ := (agrees_updateScreen_iff _ menu rfl).mp agrees
  have sentinel : (Double.value (-1)).printed.length < 10 := by decide +kernel
  refine inv_of_upToDate (menu_drawMenu false menu) (upToDate_updateScreen shows
    (fun i => (congrArg (·.printed.length < 10) (reset.position i)).mpr sentinel)
    (fun i => (congrArg (·.printed.length < 10) (reset.offset i)).mpr sentinel) ok.fits ?_)
  exact (agrees menu (menu_drawMenu false menu)).2

theorem inv_update {menu : ModeMenu} (inside : s.menu = some menu) (current : s.UpToDate menu)
    (ok : UpdateOk menu s.last s.data) : (s.updateScreen false menu).Inv := by
  have agrees := (agrees_update_iff inside current).mpr ok
  obtain ⟨shows, room⟩ := (agrees_updateScreen_iff _ menu inside).mp agrees
  have inside' : (s.updateScreen false menu).menu = some menu := by
    rw [menu_updateScreen, inside]
  exact inv_of_upToDate inside' (upToDate_updateScreen shows current.positionFits
    current.offsetFits ok.fits (agrees menu inside').2)

/-- One event. -/
theorem inv_step : Preserves Screen.step CallOk Inv := by
  intro s e inv ok
  cases e with
  | change data =>
      refine ⟨fun outside => ?_, fun menu inside => ?_⟩
      · obtain ⟨position, offset, state, spindle, mpg, pendant, jog, room⟩ := inv.1 outside
        exact ⟨position, offset, state, spindle, mpg, pendant, jog, room⟩
      · obtain ⟨position, offset, mist, flood, state, spindle, manual, auto, fits, fits', rpm,
          room⟩ := inv.2 menu inside
        exact ⟨position, offset, mist, flood, state, spindle, manual, auto, fits, fits', rpm, room⟩
  | enter menu =>
      simp only [Screen.step]
      split
      · next outside => exact inv_enter (inv.1 outside) (ok outside)
      · exact inv
  | update =>
      simp only [Screen.step]
      split
      · next menu inside => exact inv_update inside (inv.2 menu inside) (ok menu inside)
      · exact inv
  | leave =>
      simp only [Screen.step]
      split
      · exact inv
      · next inside =>
          obtain ⟨menu, inside⟩ := Option.ne_none_iff_exists'.mp inside
          refine ⟨fun _ => ?_, nofun⟩
          exact ⟨fun _ => rfl, fun _ => rfl, rfl, rfl, rfl, rfl, rfl, (inv.2 menu inside).overrun⟩

/-- At one event the screen comes out right exactly under the condition. -/
theorem agrees_step_iff {e : ScreenEvent} (inv : s.Inv) :
    (s.Calls e → (s.step e).Agrees) ↔ s.CallOk e := by
  cases e with
  | change data => exact ⟨fun _ => trivial, fun _ => nofun⟩
  | leave => exact ⟨fun _ => trivial, fun _ => nofun⟩
  | enter menu =>
      refine forall_congr' fun (outside : s.menu = none) => ?_
      rw [Screen.step, if_pos outside]
      exact agrees_enter_iff (inv.1 outside)
  | update =>
      cases inside : s.menu with
      | none => simp [Calls, CallOk, inside]
      | some menu =>
          simp only [Calls, CallOk, Screen.step, inside, ne_eq, reduceCtorEq, not_false_eq_true,
            forall_const, Option.some.injEq, forall_eq']
          exact agrees_update_iff inside (inv.2 menu inside)

theorem inv_initial : Inv {} :=
  ⟨fun _ => ⟨fun _ => rfl, fun _ => rfl, rfl, rfl, rfl, rfl, rfl, rfl⟩, nofun⟩

/-- After every call the screen is the one drawn from nothing, if and only if at every call no
value hides behind a sentinel or behind a copy that compares equal. -/
theorem redraw_agrees (es : List ScreenEvent) :
    Always Screen.step (fun s e => s.Calls e → (s.step e).Agrees) {} es ↔
      Always Screen.step CallOk {} es :=
  always_iff inv_step (fun _ _ inv => agrees_step_iff inv) inv_initial es

/-- The mist comes on between two visits to Auto mode: the label keeps the colours of mist off. -/
theorem redraw_differs_after_leaving :
    ¬ Always Screen.step (fun s e => s.Calls e → (s.step e).Agrees) {}
      [.enter .auto, .leave, .change { mist := true }, .enter .auto] := by
  intro agrees
  have second := agrees.2.2.2.1 rfl
  exact absurd (second .auto rfl).1.mist (by decide)

end Screen

end Cnc
