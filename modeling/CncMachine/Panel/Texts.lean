import CncMachine.Comm.StateField
import CncMachine.Numeric.Printed
import CncMachine.Panel.Redraw
import CncMachine.Panel.Settings

/-!
# The texts of the two screens in their arrays

`auto_mode_update_screen` and `manual_mode_update_screen` print every text to an array on the stack
first. The words are short and the distances of `mpg_settings` are a few millimetres, but a
coordinate or a spindle speed is printed with as many digits as the controller has sent.
`texts_fit_iff` says when every text has room.
-/

namespace Cnc

open Display Transition

/-- A text that `sprintf` or `strcpy` writes to an array of so many bytes. -/
structure TextWrite where
  size : Nat
  text : List Char
deriving DecidableEq

/-- The text and its terminator have room. -/
def TextWrite.Fits (w : TextWrite) : Prop := w.text.length < w.size

instance (w : TextWrite) : Decidable w.Fits := inferInstanceAs (Decidable (_ < _))

namespace Screen

variable (s : Screen)

/-- `pos_str` and `prev_pos_str`, or `offset_str` and `prev_offset_str`. -/
def coordinateWrites (watch : Watch ScreenData Double Area) (tile : Tile Double Area) :
    List TextWrite :=
  if watch.changed tile.cached s.data then
    [⟨10, (watch.key s.data).printed⟩, ⟨10, tile.cached.printed⟩]
  else []

/-- `state_text`, where it is empty, and `state_str`. -/
def stateWrites : List TextWrite :=
  if stateWatch.changed s.state.cached s.data then
    (if s.data.stateText.1 = [] then [⟨8, "Unknown".toList⟩] else []) ++ [⟨10, s.data.stateWord⟩]
  else []

/-- `mpg_state_str`. -/
def mpgWrites : List TextWrite :=
  if mpgWatch.changed s.mpg.cached s.data then
    [⟨15, if s.data.mpgMode then "MPG mode ON".toList else "MPG mode OFF".toList⟩]
  else []

/-- `pendant_status_str`. -/
def pendantWrites : List TextWrite :=
  if pendantWatch.changed s.pendant.cached s.data then
    [⟨30, if s.data.pendantEnabled then "Pendant ENABLED".toList else "Pendant DISABLED".toList⟩]
  else []

/-- `ccw` and `rpm_str`. -/
def spindleWrites : List TextWrite :=
  if spindleWatch.changed s.spindle.cached s.data then
    [⟨5, s.data.direction⟩, ⟨20, s.data.rpm.printed⟩]
  else []

/-- `multiplier`, once for each axis. -/
def multiplierWrites (steps : Wheel → Double) : List TextWrite :=
  [⟨5, (steps .x).printed2⟩, ⟨5, (steps .yz).printed2⟩, ⟨5, (steps .yz).printed2⟩]

def positionWrites : List TextWrite :=
  (List.finRange 3).flatMap fun i => s.coordinateWrites (positionWatch i) (s.position i)

def offsetWrites : List TextWrite :=
  (List.finRange 3).flatMap fun i => s.coordinateWrites (offsetWatch i) (s.offset i)

/-- All writes of `auto_mode_update_screen` or `manual_mode_update_screen`. -/
def writes (steps : Wheel → Double) : ModeMenu → List TextWrite
  | .auto => s.positionWrites ++ s.offsetWrites ++ s.stateWrites ++ s.spindleWrites
  | .manual =>
      s.positionWrites ++ multiplierWrites steps ++ s.offsetWrites ++ s.stateWrites ++
        s.mpgWrites ++ s.pendantWrites ++ s.spindleWrites

variable {s}

/-- All texts of a list have room. -/
def AllFit (writes : List TextWrite) : Prop := ∀ w ∈ writes, w.Fits

instance (writes : List TextWrite) : Decidable (AllFit writes) :=
  inferInstanceAs (Decidable (∀ w ∈ writes, w.Fits))

theorem allFit_append (first second : List TextWrite) :
    AllFit (first ++ second) ↔ AllFit first ∧ AllFit second := by
  simp only [AllFit, List.mem_append, or_imp, forall_and]

theorem allFit_stateWrites : AllFit s.stateWrites := by
  have word : s.data.stateWord.length < 10 := by
    simp only [ScreenData.stateWord]
    split
    · decide
    · exact s.data.stateText.2.trans (by decide)
  simp only [stateWrites]
  split
  · rw [allFit_append]
    constructor
    · split <;> simp [AllFit, TextWrite.Fits]
    · simpa [AllFit, TextWrite.Fits] using word
  · simp [AllFit]

theorem allFit_mpgWrites : AllFit s.mpgWrites := by
  simp only [mpgWrites]
  split
  · cases s.data.mpgMode <;> simp [AllFit, TextWrite.Fits]
  · simp [AllFit]

theorem allFit_pendantWrites : AllFit s.pendantWrites := by
  simp only [pendantWrites]
  split
  · cases s.data.pendantEnabled <;> simp [AllFit, TextWrite.Fits]
  · simp [AllFit]

theorem allFit_multiplierWrites_iff (steps : Wheel → Double) :
    AllFit (multiplierWrites steps) ↔ ∀ wheel, (steps wheel).printed2.length < 5 := by
  simp only [AllFit, multiplierWrites, List.forall_mem_cons, TextWrite.Fits]
  constructor
  · rintro ⟨x, yz, _⟩ wheel
    cases wheel with
    | x => exact x
    | yz => exact yz
  · intro fits
    exact ⟨fits .x, fits .yz, fits .yz, nofun⟩

theorem within_iff_printed (a : Double) : a.printed.length < 10 ↔ a.Within 5 :=
  Double.length_printed_lt_iff a (by decide)

/-- If the text kept before had room, the new one decides, drawn or not. -/
theorem allFit_coordinateWrites_iff {coordinate : ScreenData → Double} {tile : Tile Double Area}
    (kept : tile.cached.Within 5) :
    AllFit (s.coordinateWrites (coordinateWatch coordinate) tile) ↔
      (coordinate s.data).Within 5 := by
  rw [← within_iff_printed] at kept ⊢
  rw [← coordinateOverruns_iff (s := s) kept, coordinateWrites, coordinateOverruns, Bool.false_or]
  have key : (coordinateWatch coordinate).key s.data = coordinate s.data := rfl
  cases (coordinateWatch coordinate).changed tile.cached s.data with
  | true =>
      rw [if_pos rfl, Bool.true_and, Bool.or_eq_false_iff, decide_eq_false_iff_not,
        decide_eq_false_iff_not, not_le, not_le, key]
      simp [AllFit, TextWrite.Fits]
  | false => simp [AllFit]

theorem allFit_positionWrites_iff (kept : ∀ i, (s.position i).cached.Within 5) :
    AllFit s.positionWrites ↔ ∀ i, (s.data.position i).Within 5 := by
  simp only [positionWrites, AllFit, List.forall_mem_flatMap, List.mem_finRange, forall_const]
  exact forall_congr' fun i => allFit_coordinateWrites_iff (kept i)

theorem allFit_offsetWrites_iff (kept : ∀ i, (s.offset i).cached.Within 5) :
    AllFit s.offsetWrites ↔ ∀ i, (s.data.offset i).Within 5 := by
  simp only [offsetWrites, AllFit, List.forall_mem_flatMap, List.mem_finRange, forall_const]
  exact forall_congr' fun i => allFit_coordinateWrites_iff (kept i)

/-- A speed that is not drawn again is one that was drawn before, or the spindle is off. -/
theorem allFit_spindleWrites_iff
    (kept : s.spindle.cached.1 = boolByte true → s.spindle.cached.2.Within 15) :
    AllFit s.spindleWrites ↔ s.data.rpm.Within 15 := by
  have direction : s.data.direction.length < 5 := by
    simp only [ScreenData.direction]
    repeat' split
    all_goals decide
  have room : s.data.rpm.printed.length < 20 ↔ s.data.rpm.Within 15 :=
    Double.length_printed_lt_iff _ (by decide)
  simp only [spindleWrites]
  cases changed : spindleWatch.changed s.spindle.cached s.data with
  | true => simp [AllFit, TextWrite.Fits, direction, room]
  | false =>
      simp only [spindleWatch, Bool.or_eq_false_iff, bne_eq_false_iff_eq,
        Bool.not_eq_false'] at changed
      obtain ⟨⟨-, on⟩, -, same⟩ := changed
      refine iff_of_true (by simp [AllFit]) ?_
      rw [← room, ScreenData.rpm]
      split
      · next running =>
          rw [running] at on
          have drawn := (Double.length_printed_lt_iff _ (by decide)).mpr (kept on)
          exact (Double.printed_fits_congr same (by decide)).mp drawn
      · simp [Double.printed_zero]

/-- What is kept from the last drawing had room. -/
structure KeptFits (s : Screen) : Prop where
  position : ∀ i, (s.position i).cached.Within 5
  offset : ∀ i, (s.offset i).cached.Within 5
  spindle : s.spindle.cached.1 = boolByte true → s.spindle.cached.2.Within 15

/-- The numbers that a call shows have room, drawn again or not. -/
structure NumbersFit (menu : ModeMenu) (steps : Wheel → Double) (d : ScreenData) : Prop where
  position : ∀ i, (d.position i).Within 5
  offset : ∀ i, (d.offset i).Within 5
  rpm : d.rpm.Within 15
  steps : menu = .manual → ∀ wheel, (steps wheel).printed2.length < 5

theorem allFit_writes_iff (kept : s.KeptFits) (steps : Wheel → Double) (menu : ModeMenu) :
    AllFit (s.writes steps menu) ↔ NumbersFit menu steps s.data := by
  have position := allFit_positionWrites_iff kept.position
  have offset := allFit_offsetWrites_iff kept.offset
  have rpm := allFit_spindleWrites_iff kept.spindle
  cases menu with
  | auto =>
      simp only [writes, allFit_append, position, offset, rpm, allFit_stateWrites, and_true]
      constructor
      · rintro ⟨⟨position, offset⟩, rpm⟩
        exact ⟨position, offset, rpm, nofun⟩
      · intro fits
        exact ⟨⟨fits.position, fits.offset⟩, fits.rpm⟩
  | manual =>
      simp only [writes, allFit_append, position, offset, rpm, allFit_stateWrites,
        allFit_mpgWrites, allFit_pendantWrites, allFit_multiplierWrites_iff, and_true]
      constructor
      · rintro ⟨⟨⟨position, steps⟩, offset⟩, rpm⟩
        exact ⟨position, offset, rpm, fun _ => steps⟩
      · intro fits
        exact ⟨⟨⟨fits.position, fits.steps rfl⟩, fits.offset⟩, fits.rpm⟩

/-- Between entering and leaving a mode only a drawing changes what is kept. -/
theorem KeptFits.updateScreen {s : Screen} (kept : s.KeptFits) {menu : ModeMenu}
    {steps : Wheel → Double} (fits : NumbersFit menu steps s.data) :
    (s.updateScreen false menu).KeptFits := by
  have coordinate (coordinate : ScreenData → Double) (tile : Tile Double Area)
      (old : tile.cached.Within 5) (new : (coordinate s.data).Within 5) :
      ((coordinateWatch coordinate).refresh false s.data tile).cached.Within 5 := by
    simp only [Watch.refresh]
    split
    · exact new
    · exact old
  have spindle (on : (spindleWatch.refresh false s.data s.spindle).cached.1 = boolByte true) :
      (spindleWatch.refresh false s.data s.spindle).cached.2.Within 15 := by
    simp only [Watch.refresh] at on ⊢
    split at on
    · next changed =>
        rw [if_pos changed]
        have running : s.data.spindleOn = true := boolByte_inj.mp on
        have rpm := fits.rpm
        rw [ScreenData.rpm, if_pos running] at rpm
        exact rpm
    · next same =>
        rw [if_neg same]
        exact kept.spindle on
  cases menu with
  | auto =>
      constructor
      · exact fun i => coordinate _ _ (kept.position i) (fits.position i)
      · exact fun i => coordinate _ _ (kept.offset i) (fits.offset i)
      · exact spindle
  | manual =>
      constructor
      · exact fun i => coordinate _ _ (kept.position i) (fits.position i)
      · exact fun i => coordinate _ _ (kept.offset i) (fits.offset i)
      · exact spindle

theorem within_sentinel (digits : Nat) (some : 2 ≤ digits) : (Double.value (-1)).Within digits := by
  rw [← Double.length_printed_lt_iff _ some]
  have length : (Double.value (-1)).printed.length = 6 := by decide +kernel
  omega

theorem KeptFits.leaveMenu (s : Screen) : s.leaveMenu.KeptFits := by
  constructor
  · exact fun i => within_sentinel 5 (by decide)
  · exact fun i => within_sentinel 5 (by decide)
  · exact fun _ => within_sentinel 15 (by decide)

/-- What the menu does with the two modes. -/
inductive Call where
  | enter (menu : ModeMenu)
  | update
  | leave

def Call.event : Call → ScreenEvent
  | enter menu => .enter menu
  | update => .update
  | leave => .leave

/-- The screen on which one of the two functions is called, if one is. On entering, the labels are
there already. -/
def called (s : Screen) : Call → Option (Screen × ModeMenu)
  | .enter menu =>
      if s.menu = none then some ({ s.deleteMenu with menu := some menu }.drawLabels, menu)
      else none
  | .update => s.menu.map fun menu => (s, menu)
  | .leave => none

theorem step_of_called {s t : Screen} {call : Call} {menu : ModeMenu}
    (shown : s.called call = some (t, menu)) :
    s.step call.event = t.updateScreen false menu ∧ t.data = s.data ∧
      (s.KeptFits → t.KeptFits) := by
  cases call with
  | enter entered =>
      simp only [called] at shown
      split at shown
      · next outside =>
          simp only [Option.some.injEq, Prod.mk.injEq] at shown
          obtain ⟨rfl, rfl⟩ := shown
          rw [Call.event, step, if_pos outside]
          refine ⟨rfl, rfl, ?_⟩
          exact fun kept => ⟨kept.position, kept.offset, kept.spindle⟩
      · cases shown
  | update =>
      simp only [called, Option.map_eq_some_iff, Prod.mk.injEq] at shown
      obtain ⟨_, inside, rfl, rfl⟩ := shown
      simp only [Call.event, step, inside]
      exact ⟨trivial, trivial, id⟩
  | leave => cases shown

theorem step_of_not_called {s : Screen} {call : Call} (hidden : s.called call = none) :
    s.step call.event = s ∨ s.step call.event = s.leaveMenu := by
  cases call with
  | enter menu =>
      simp only [called] at hidden
      split at hidden
      · cases hidden
      · next inside => exact .inl (if_neg inside)
  | update =>
      simp only [called, Option.map_eq_none_iff] at hidden
      simp only [Call.event, step, hidden]
      exact .inl trivial
  | leave =>
      simp only [Call.event, step]
      split
      · exact .inl rfl
      · exact .inr rfl

/-- A name is filled in for the state at most. -/
theorem stateText_step (s : Screen) (call : Call) :
    (s.step call.event).data.stateText = s.data.stateText ∨
      s.data.stateText.1 = [] ∧ (s.step call.event).data.stateText.1 = "Unknown".toList := by
  cases shown : s.called call with
  | some drawn =>
      obtain ⟨t, menu⟩ := drawn
      obtain ⟨eq, data, -⟩ := step_of_called shown
      rw [eq, data_updateScreen, ← data, namedData]
      split
      · by_cases empty : t.data.stateText.1 = []
        · exact .inr ⟨empty, by rw [if_pos empty]⟩
        · exact .inl (if_neg empty)
      · exact .inl rfl
  | none =>
      obtain eq | eq := step_of_not_called shown
      · exact .inl (by rw [eq])
      · exact .inl (by rw [eq]; rfl)

theorem keptFits_step {s : Screen} (kept : s.KeptFits) {call : Call} (steps : Wheel → Double)
    (fits : ∀ t menu, s.called call = some (t, menu) → NumbersFit menu steps s.data) :
    (s.step call.event).KeptFits := by
  cases shown : s.called call with
  | some drawn =>
      obtain ⟨t, menu⟩ := drawn
      obtain ⟨eq, data, keeps⟩ := step_of_called shown
      have room := fits t menu shown
      rw [← data] at room
      rw [eq]
      exact (keeps kept).updateScreen room
  | none =>
      obtain eq | eq := step_of_not_called shown
      · rw [eq]
        exact kept
      · rw [eq]
        exact .leaveMenu s

end Screen

/-- What the two functions read, and what the screen keeps. The text of the machine state is always
its name, or still empty. -/
structure PanelScreen where
  grblData : Comm.Data := {}
  named : Comm.Named grblData.toGrblData
  pendantControl : PendantControl := {}
  pendantData : PendantData := {}
  mpgSettings : MpgSettings := .default fun _ _ => 0
  screen : Screen := {}

theorem Comm.Named.length {g : GrblData} (named : Comm.Named g) : g.stateText.length < 8 := by
  obtain text | ⟨text, -⟩ := named
  · rw [text]
    exact Comm.length_stateName g.state
  · simp [text]

theorem Comm.Named.parseData {g g' : Comm.Data} {block block' : List Char}
    (parsed : Comm.parseData block g = some (block', g')) (named : Comm.Named g.toGrblData) :
    Comm.Named g'.toGrblData := by
  have kept := Comm.keptByTokens_named.parseData block named
  rwa [Comm.parseData_core g parsed] at kept

def Comm.Coords.at (c : Comm.Coords) : Fin 3 → ℚ
  | 0 => c.x
  | 1 => c.y
  | 2 => c.z

inductive PanelScreenEvent where
  /-- `parseData` on a line of the controller. -/
  | line (block : List Char)
  | frame (data : PendantData)
  | control (control : PendantControl)
  /-- A press in a settings menu. -/
  | adjust (up : Bool) (menu entry : Nat)
  /-- `beyond` is what the memory behind the tables of `mpg_settings` holds then. -/
  | call (call : Screen.Call) (beyond : Wheel → Nat → Double)

namespace PanelScreen

-- `float` is the conversion of a decimal number.
variable (float : ℚ → Double) (s : PanelScreen)

def shownData : ScreenData where
  position i := float (s.grblData.position.at i)
  offset i := float (s.grblData.offset.at i)
  mist := s.grblData.mist
  flood := s.grblData.flood
  state := s.grblData.state
  stateText := ⟨s.grblData.stateText, s.named.length⟩
  spindleOn := s.grblData.spindleOn
  spindleCcw := s.grblData.spindleCcw
  rpmProgrammed := float s.grblData.rpmProgrammed
  mpgMode := s.grblData.mpgMode
  mpgStatus := s.pendantControl.mpgStatus
  pendantStatus := s.pendantControl.status
  jogMode := s.pendantData.jogMode

/-- The index of the last frame. -/
def index : Wheel → Nat
  | .x => s.pendantData.xAxisMultiplicity.toNat
  | .yz => s.pendantData.yzAxisMultiplicity.toNat

/-- What the lookup of an axis finds, in millimetres. -/
def steps (beyond : Wheel → Nat → Double) (wheel : Wheel) : Double :=
  if s.index wheel < 3 then .value (s.mpgSettings.axisStep s.pendantData wheel / 100)
  else beyond wheel (s.index wheel)

/-- The screen with the data as it is at a call. -/
def before : Screen := { s.screen with data := s.shownData float }

/-- A name that is filled in for the state goes to `grbl_data`, too. -/
def draw (call : Screen.Call) : PanelScreen :=
  { s with
    grblData := { s.grblData with
      stateText := ((s.before float).step call.event).data.stateText.1 }
    named := by
      obtain same | ⟨empty, name⟩ := Screen.stateText_step (s.before float) call
      · rw [same]
        exact s.named
      · have unknown : s.grblData.state = .unknown := by
          obtain text | ⟨-, unknown⟩ := s.named
          · exact absurd (text.symm.trans empty) (Comm.stateName_ne_nil _)
          · exact unknown
        refine .inl ?_
        rw [name, unknown]
        rfl
    screen := (s.before float).step call.event }

/-- A line is parsed; one on which `parseData` leaves its buffers is not accepted. -/
def receive (block : List Char) : PanelScreen :=
  match parsed : Comm.parseData block s.grblData with
  | some (_, g) => { s with grblData := g, named := s.named.parseData parsed }
  | none => s

def step : PanelScreenEvent → PanelScreen
  | .line block => s.receive block
  | .frame data => { s with pendantData := data }
  | .control control => { s with pendantControl := control }
  | .adjust up menu entry => { s with mpgSettings := s.mpgSettings.adjustAxes up menu entry }
  | .call call _ => s.draw float call

/-- After the start of the board. -/
def initial : PanelScreen := { named := .inr ⟨rfl, rfl⟩ }

/-- What an event writes to the arrays. -/
def writes : PanelScreenEvent → List TextWrite
  | .call call beyond =>
      match (s.before float).called call with
      | some (t, menu) => t.writes (s.steps beyond) menu
      | none => []
  | _ => []

/-- The coordinates, and the speed of a spindle that is on, are small enough, and the steps are
looked up in the tables or short by chance. -/
structure Printable (beyond : Wheel → Nat → Double) (menu : ModeMenu) : Prop where
  position : ∀ i, (float (s.grblData.position.at i)).Within 5
  offset : ∀ i, (float (s.grblData.offset.at i)).Within 5
  rpm : s.grblData.spindleOn = true → (float s.grblData.rpmProgrammed).Within 15
  steps : menu = .manual →
    ∀ wheel, s.index wheel < 3 ∨ (beyond wheel (s.index wheel)).printed2.length < 5

/-- The condition at an event that calls one of the two functions. -/
def CallPrintable : PanelScreenEvent → Prop
  | .call call beyond =>
      ∀ t menu, (s.before float).called call = some (t, menu) → s.Printable float beyond menu
  | _ => True

/-- Every distance takes one digit before the point. -/
structure TablesShort (m : MpgSettings) : Prop where
  x : ∀ entry, 0 ≤ m.xAxisEntries entry ∧ m.xAxisEntries entry ≤ 999
  yz : ∀ entry, 0 ≤ m.yzAxisEntries entry ∧ m.yzAxisEntries entry ≤ 999

theorem multiplicityAdjustment_inside {entry : Nat} {a : Adjustment}
    (some : multiplicityAdjustment entry = some a) : a.Inside 0 999 := by
  simp only [multiplicityAdjustment] at some
  split at some <;> cases some <;> constructor <;> decide

theorem adjustEntry_short {table : Fin 3 → Int} (up : Bool) (changed : Nat)
    (short : ∀ entry, 0 ≤ table entry ∧ table entry ≤ 999) (entry : Fin 3) :
    0 ≤ adjustEntry multiplicityAdjustment up changed table entry ∧
      adjustEntry multiplicityAdjustment up changed table entry ≤ 999 := by
  cases adjusts : multiplicityAdjustment changed with
  | none =>
      simp only [adjustEntry, adjusts]
      exact short entry
  | some a =>
      simp only [adjustEntry, adjusts]
      split
      · exact (multiplicityAdjustment_inside adjusts).apply up (short entry)
      · exact short entry

theorem TablesShort.adjustAxes {m : MpgSettings} (short : TablesShort m) (up : Bool)
    (menu entry : Nat) : TablesShort (m.adjustAxes up menu entry) := by
  simp only [MpgSettings.adjustAxes]
  split
  · exact ⟨adjustEntry_short up entry short.x, short.yz⟩
  · exact ⟨short.x, adjustEntry_short up entry short.yz⟩
  · exact ⟨short.x, short.yz⟩
  · exact short

theorem tablesShort_default (memory : Table → Nat → Int) : TablesShort (.default memory) := by
  constructor <;>
    · simp only [MpgSettings.default]
      decide

/-- A step from a table is short. -/
theorem TablesShort.axisStep {s : PanelScreen} (short : TablesShort s.mpgSettings) {wheel : Wheel}
    (inside : s.index wheel < 3) :
    0 ≤ s.mpgSettings.axisStep s.pendantData wheel ∧
      s.mpgSettings.axisStep s.pendantData wheel ≤ 999 := by
  cases wheel with
  | x =>
      have own : s.mpgSettings.axisStep s.pendantData .x = s.mpgSettings.xAxisEntries ⟨_, inside⟩ :=
        dif_pos inside
      rw [own]
      exact short.x _
  | yz =>
      have own : s.mpgSettings.axisStep s.pendantData .yz =
          s.mpgSettings.yzAxisEntries ⟨_, inside⟩ := dif_pos inside
      rw [own]
      exact short.yz _

variable {float s}

/-- What is kept from the last drawing has room, and so have the distances. -/
structure Inv (s : PanelScreen) : Prop where
  kept : s.screen.KeptFits
  tables : TablesShort s.mpgSettings

/-- A step from a table has room. -/
theorem length_steps_iff (tables : TablesShort s.mpgSettings) (beyond : Wheel → Nat → Double)
    (wheel : Wheel) :
    (s.steps beyond wheel).printed2.length < 5 ↔
      s.index wheel < 3 ∨ (beyond wheel (s.index wheel)).printed2.length < 5 := by
  simp only [steps]
  split
  · next inside =>
      obtain ⟨low, high⟩ := tables.axisStep inside
      rw [Double.length_printed2_hundredths low (by omega)]
      exact iff_of_true (by decide) (.inl inside)
  · next outside => rw [or_iff_right outside]

theorem numbersFit_iff (tables : TablesShort s.mpgSettings) (beyond : Wheel → Nat → Double)
    (menu : ModeMenu) :
    Screen.NumbersFit menu (s.steps beyond) (s.shownData float) ↔
      s.Printable float beyond menu := by
  have speed : (s.shownData float).rpm.Within 15 ↔
      (s.grblData.spindleOn = true → (float s.grblData.rpmProgrammed).Within 15) := by
    have rpm : (s.shownData float).rpm =
        if s.grblData.spindleOn then float s.grblData.rpmProgrammed else .value 0 := rfl
    rw [rpm]
    cases s.grblData.spindleOn with
    | true => simp
    | false =>
        refine iff_of_true ?_ nofun
        rw [if_neg Bool.false_ne_true, ← Double.length_printed_lt_iff _ (by decide)]
        simp [Double.printed_zero]
  constructor
  · intro fits
    refine ⟨fits.position, fits.offset, speed.mp fits.rpm, ?_⟩
    exact fun manual wheel => (length_steps_iff tables beyond wheel).mp (fits.steps manual wheel)
  · intro fits
    refine ⟨fits.position, fits.offset, speed.mpr fits.rpm, ?_⟩
    exact fun manual wheel => (length_steps_iff tables beyond wheel).mpr (fits.steps manual wheel)

/-- At one event. -/
theorem allFit_iff (inv : s.Inv) (e : PanelScreenEvent) :
    Screen.AllFit (s.writes float e) ↔ s.CallPrintable float e := by
  cases e with
  | call call beyond =>
      simp only [writes, CallPrintable]
      cases shown : (s.before float).called call with
      | none => simp [Screen.AllFit]
      | some drawn =>
          obtain ⟨t, menu⟩ := drawn
          obtain ⟨-, data, keeps⟩ := Screen.step_of_called shown
          have kept : t.KeptFits := keeps ⟨inv.kept.position, inv.kept.offset, inv.kept.spindle⟩
          have room : Screen.AllFit (t.writes (s.steps beyond) menu) ↔
              s.Printable float beyond menu := by
            rw [Screen.allFit_writes_iff kept, data]
            exact numbersFit_iff inv.tables beyond menu
          dsimp only
          rw [room]
          constructor
          · intro printable t' menu' same
            obtain ⟨rfl, rfl⟩ := Prod.mk.inj (Option.some.inj same)
            exact printable
          · exact fun printable => printable t menu rfl
  | _ => simp [writes, CallPrintable, Screen.AllFit]

theorem inv_step : Preserves (step float) (CallPrintable float) Inv := by
  intro s e inv printable
  cases e with
  | line block =>
      simp only [step, receive]
      split
      · exact ⟨inv.kept, inv.tables⟩
      · exact inv
  | frame data => exact ⟨inv.kept, inv.tables⟩
  | control control => exact ⟨inv.kept, inv.tables⟩
  | adjust up menu entry => exact ⟨inv.kept, inv.tables.adjustAxes up menu entry⟩
  | call call beyond =>
      refine ⟨?_, inv.tables⟩
      have kept : (s.before float).KeptFits :=
        ⟨inv.kept.position, inv.kept.offset, inv.kept.spindle⟩
      apply Screen.keptFits_step kept (s.steps beyond)
      intro t menu shown
      exact (numbersFit_iff inv.tables beyond menu).mpr (printable t menu shown)

theorem inv_initial : initial.Inv := by
  refine ⟨⟨?_, ?_, ?_⟩, tablesShort_default _⟩
  · exact fun i => Screen.within_sentinel 5 (by decide)
  · exact fun i => Screen.within_sentinel 5 (by decide)
  · exact fun _ => Screen.within_sentinel 15 (by decide)

/-- In every run each text has room exactly if at each call the numbers are small enough. -/
theorem texts_fit_iff (float : ℚ → Double) (es : List PanelScreenEvent) :
    Always (step float) (fun s e => Screen.AllFit (s.writes float e)) initial es ↔
      Always (step float) (CallPrintable float) initial es :=
  always_iff inv_step (fun _ e inv => allFit_iff inv e) inv_initial es

/-- A position of a hundred metres takes eleven bytes. -/
theorem position_overruns :
    ¬ Always (step Double.value) (fun s e => Screen.AllFit (s.writes Double.value e)) initial
      [.line "<Idle|MPos:100000.000,0.000,0.000|FS:0,0>".toList,
        .call (.enter .auto) fun _ _ => .value 0] := by
  decide +kernel

end PanelScreen

end Cnc
