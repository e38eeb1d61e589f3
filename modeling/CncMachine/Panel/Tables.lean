import CncMachine.Panel.Adjusting
import CncMachine.Panel.Drawing
import CncMachine.Panel.Encoder

/-!
# Lookups in the tables of distances and feeds

Three pieces of code take an index from a received frame: `pendant_data_to_action`, the jogs by the
panel's buttons and `manual_mode_update_screen`. None of them looks at the index, and neither does
the callback, which stores whatever bytes it has received. So whenever one of the three runs, it
stays inside the three entries of its tables exactly if the indexes it takes are below three.
Nothing else is looked up: with other settings that have the same values there, an event sends the
same packets and shows the same steps.
-/

namespace Cnc

open Transition

def MpgSettings.table (m : MpgSettings) : Table → Nat → Int
  | .xAxisMultiplicity => m.xAxisMultiplicity
  | .yzAxisMultiplicity => m.yzAxisMultiplicity
  | .jogSpeeds => m.jogSpeeds

/-- A table and the index that is looked up in it. -/
abbrev Lookup := Table × Nat

/-- All lookups are inside their tables. -/
def InTables (lookups : List Lookup) : Prop := ∀ lookup ∈ lookups, lookup.2 < 3

instance (lookups : List Lookup) : Decidable (InTables lookups) :=
  inferInstanceAs (Decidable (∀ lookup ∈ lookups, lookup.2 < 3))

theorem inTables_append {lookups others : List Lookup} :
    InTables (lookups ++ others) ↔ InTables lookups ∧ InTables others :=
  List.forall_mem_append

/-- Two settings have the same spindle speed, and the same values at these places. -/
structure MpgSettings.AgreeAt (lookups : List Lookup) (m m' : MpgSettings) : Prop where
  spindleSpeed : m.spindleSpeed = m'.spindleSpeed
  table : ∀ lookup ∈ lookups, m.table lookup.1 lookup.2 = m'.table lookup.1 lookup.2

theorem MpgSettings.AgreeAt.mono {lookups others : List Lookup} {m m' : MpgSettings}
    (agree : AgreeAt others m m') (subset : lookups ⊆ others) : AgreeAt lookups m m' :=
  ⟨agree.spindleSpeed, fun lookup member => agree.table lookup (subset member)⟩

/-- The three indexes of a frame are below three. -/
structure PendantData.IndexesFit (data : PendantData) : Prop where
  xAxisMultiplicity : data.xAxisMultiplicity.toNat < 3
  yzAxisMultiplicity : data.yzAxisMultiplicity.toNat < 3
  jogMode : data.jogMode.toNat < 3

instance (data : PendantData) : Decidable data.IndexesFit :=
  decidable_of_iff (data.xAxisMultiplicity.toNat < 3 ∧ data.yzAxisMultiplicity.toNat < 3 ∧
    data.jogMode.toNat < 3) ⟨fun h => ⟨h.1, h.2.1, h.2.2⟩, fun h => ⟨h.1, h.2, h.3⟩⟩

/-- The two records have the same indexes. -/
structure SameIndexes (data data' : PendantData) : Prop where
  xAxisMultiplicity : data'.xAxisMultiplicity = data.xAxisMultiplicity
  yzAxisMultiplicity : data'.yzAxisMultiplicity = data.yzAxisMultiplicity
  jogMode : data'.jogMode = data.jogMode

namespace Panel

variable (s : Panel)

/-- The lookups of `pendant_data_to_action`: two distances at its start, and a feed for a jog. -/
def actionLookups (data : PendantAction) : List Lookup :=
  [(.xAxisMultiplicity, data.xAxisMultiplicity.toNat),
    (.yzAxisMultiplicity, data.yzAxisMultiplicity.toNat)] ++
  if s.movementPackets data = [] then [] else [(.jogSpeeds, data.jogMode.toNat)]

/-- The lookups that a frame causes in the handler that receives it. -/
def frameLookups (frame : PendantData) : List Lookup :=
  if s.ActsOn frame then (s.received frame).actionLookups (s.received frame).actedAction else []

/-- A button acts in `jogByButtons`: the first of the four that is pressed, when it is due. -/
def ButtonJogs (input : MenuInput) : Prop :=
  ([.right, .left, .up, .down].find? input.pressed).any (s.menu.press · |>.2.1) = true

instance (input : MenuInput) : Decidable (s.ButtonJogs input) :=
  inferInstanceAs (Decidable (_ = true))

/-- The lookups of `jogByButtons`. -/
def buttonLookups (input : MenuInput) : List Lookup :=
  if s.ButtonJogs input then
    [(.xAxisMultiplicity, s.pendantData.xAxisMultiplicity.toNat),
      (.jogSpeeds, s.pendantData.jogMode.toNat)]
  else []

/-- The lookups of `manual_mode_update_screen`, for the steps of the three axes. -/
def screenLookups : List Lookup :=
  [(.xAxisMultiplicity, s.pendantData.xAxisMultiplicity.toNat),
    (.yzAxisMultiplicity, s.pendantData.yzAxisMultiplicity.toNat),
    (.yzAxisMultiplicity, s.pendantData.yzAxisMultiplicity.toNat)]

/-- The steps of the axes that `manual_mode_update_screen` shows. -/
def axisSteps : List Int := [.x, .yz, .yz].map (s.mpgSettings.axisStep s.pendantData)

/-- The cycle runs the logic of the manual mode, which calls `manual_mode_update_screen` first. -/
def RunsManual (input : MenuInput) : Prop :=
  s.menu.enterMenu = true ∧ s.InManualMenu ∧ ¬ s.LeavesFirstLevel input

instance (input : MenuInput) : Decidable (s.RunsManual input) :=
  inferInstanceAs (Decidable (_ ∧ _))

/-- `manual_mode_update_screen` is called, by the logic of the manual mode or by `draw_menu`. -/
def ShowsSteps (input : MenuInput) : Prop :=
  s.RunsManual input ∨
    .manualModeUpdateScreen ∈ (s.menu.redraw (s.screenMenu input).menu).getD []

instance (input : MenuInput) : Decidable (s.ShowsSteps input) :=
  inferInstanceAs (Decidable (_ ∨ _))

/-- The panel of a cycle in the manual mode when it comes to the buttons. -/
def atButtons (input : MenuInput) : Panel :=
  ((s.enterCycle input).enterManual.switchMpg input).requestReport input

/-- A jog by a button is sent in this cycle. -/
def JogsByButton (input : MenuInput) : Prop :=
  s.RunsManual input ∧ (s.atButtons input).grblData.mpgMode = true ∧
    (s.atButtons input).ButtonJogs input

instance (input : MenuInput) : Decidable (s.JogsByButton input) :=
  inferInstanceAs (Decidable (_ ∧ _))

/-- The lookups of an event. -/
def lookups : PanelEvent → List Lookup
  | .menu input =>
      (if s.ShowsSteps input then s.screenLookups else []) ++
      if s.RunsManual input ∧ (s.atButtons input).grblData.mpgMode = true then
        (s.atButtons input).buttonLookups input
      else []
  | .frame frame _ => s.frameLookups frame
  | .tim1 _ | .grbl _ => []

/-- The steps that an event puts on the screen. -/
def shownSteps : PanelEvent → List Int
  | .menu input => if s.ShowsSteps input then s.axisSteps else []
  | .frame _ _ | .tim1 _ | .grbl _ => []

section

variable {s} {settings : MpgSettings}

theorem movementPackets_congr {data : PendantAction}
    (agree : settings.AgreeAt (s.actionLookups data) s.mpgSettings) :
    { s with mpgSettings := settings }.movementPackets data = s.movementPackets data := by
  have x : settings.xAxisMultiplicity _ = s.mpgSettings.xAxisMultiplicity _ :=
    agree.table (.xAxisMultiplicity, data.xAxisMultiplicity.toNat) (by simp [actionLookups])
  have yz : settings.yzAxisMultiplicity _ = s.mpgSettings.yzAxisMultiplicity _ :=
    agree.table (.yzAxisMultiplicity, data.yzAxisMultiplicity.toNat) (by simp [actionLookups])
  simp only [movementPackets, x, yz]
  split
  next moves =>
    have some : s.movementPackets data ≠ [] := by
      rw [movementPackets, if_pos moves]
      exact List.cons_ne_nil _ _
    have feed : settings.jogSpeeds _ = s.mpgSettings.jogSpeeds _ :=
      agree.table (.jogSpeeds, data.jogMode.toNat) (by simp [actionLookups, some])
    rw [feed]
  next => rfl

theorem sentBy_frame_congr {frame : PendantData} {tx : Tx}
    (agree : settings.AgreeAt (s.frameLookups frame) s.mpgSettings) :
    { s with mpgSettings := settings }.sentBy (.frame frame tx) = s.sentBy (.frame frame tx) := by
  have packets :
      { s with mpgSettings := settings }.framePackets frame = s.framePackets frame := by
    by_cases acts : s.ActsOn frame
    · have acts' : { s with mpgSettings := settings }.ActsOn frame := acts
      rw [frameLookups, if_pos acts] at agree
      have movement := movementPackets_congr (s := s.received frame) agree
      rw [framePackets_of_actsOn acts, framePackets_of_actsOn acts', pendantDataToAction,
        pendantDataToAction, ← movement, spindlePackets, spindlePackets]
      have speed : settings.spindleSpeed = (s.received frame).mpgSettings.spindleSpeed :=
        agree.spindleSpeed
      rw [← speed]
      rfl
    · have silent : s.framePackets frame = [] := by
        rw [List.eq_nil_iff_forall_not_mem]
        exact fun packet member => acts (mem_framePackets member).1
      have silent' : { s with mpgSettings := settings }.framePackets frame = [] := by
        rw [List.eq_nil_iff_forall_not_mem]
        exact fun packet member => acts (mem_framePackets member).1
      rw [silent, silent']
  rw [sentBy_frame, sentBy_frame, packets]
  rfl

theorem jogByButtons_congr {input : MenuInput}
    (agree : settings.AgreeAt (s.buttonLookups input) s.mpgSettings) :
    ({ s with mpgSettings := settings }.jogByButtons input).controllerLine =
      (s.jogByButtons input).controllerLine := by
  have jog (button : Button) (axis : Char) (sign : Int)
      (first : [.right, .left, .up, .down].find? input.pressed = some button) :
      ({ s with mpgSettings := settings }.jogByButton button axis sign input).controllerLine =
        (s.jogByButton button axis sign input).controllerLine := by
    simp only [jogByButton]
    split
    next acts =>
      have jogs : s.ButtonJogs input := by
        rw [ButtonJogs, first]
        exact acts
      have x : settings.xAxisMultiplicity _ = s.mpgSettings.xAxisMultiplicity _ :=
        agree.table (.xAxisMultiplicity, s.pendantData.xAxisMultiplicity.toNat)
          (by simp [buttonLookups, jogs])
      have feed : settings.jogSpeeds _ = s.mpgSettings.jogSpeeds _ :=
        agree.table (.jogSpeeds, s.pendantData.jogMode.toNat) (by simp [buttonLookups, jogs])
      simp only [transmit_eq, x, feed]
    next => rfl
  simp only [jogByButtons]
  split
  next right => exact jog _ _ _ (by simp [right])
  next right =>
    split
    next left => exact jog _ _ _ (by simp [right, left])
    next left =>
      split
      next up => exact jog _ _ _ (by simp [right, left, up])
      next up =>
        split
        next down => exact jog _ _ _ (by simp [right, left, up, down])
        next => rfl

theorem switchMpg_settings (input : MenuInput) :
    { s with mpgSettings := settings }.switchMpg input =
      { s.switchMpg input with mpgSettings := settings } := by
  simp only [switchMpg, enableMpg_eq, disableMpg_eq]
  repeat' split
  all_goals rfl

theorem requestReport_settings (input : MenuInput) :
    { s with mpgSettings := settings }.requestReport input =
      { s.requestReport input with mpgSettings := settings } := by
  simp only [requestReport, transmit_eq]
  split <;> rfl

/-- The way to the buttons does not touch the settings. -/
theorem atButtons_settings (input : MenuInput) :
    { s with mpgSettings := settings }.atButtons input =
      { s.atButtons input with mpgSettings := settings } := by
  have switched :
      { (s.enterCycle input).enterManual with mpgSettings := settings }.switchMpg input = _ :=
    switchMpg_settings input
  exact (congrArg (requestReport input) switched).trans (requestReport_settings input)

theorem mpgSettings_atButtons (input : MenuInput) :
    (s.atButtons input).mpgSettings = s.mpgSettings := by
  have same : s.atButtons input = { s.atButtons input with mpgSettings := s.mpgSettings } :=
    atButtons_settings input
  rw [same]

theorem manualMode_controllerLine (input : MenuInput) :
    ((s.enterCycle input).manualMode input).controllerLine =
      if (s.atButtons input).grblData.mpgMode then
        ((s.atButtons input).jogByButtons input).controllerLine
      else ((s.enterCycle input).enterManual.switchMpg input).controllerLine := by
  have reported : (s.atButtons input).grblData.mpgMode =
      ((s.enterCycle input).enterManual.switchMpg input).grblData.mpgMode := by
    rw [atButtons]
    obtain ⟨_, -, eq⟩ := requestReport_eq input ((s.enterCycle input).enterManual.switchMpg input)
    rw [eq]
  rw [reported, manualMode]
  split <;> rfl

theorem sentBy_menu_congr {input : MenuInput}
    (agree : settings.AgreeAt (s.lookups (.menu input)) s.mpgSettings) :
    { s with mpgSettings := settings }.sentBy (.menu input) = s.sentBy (.menu input) := by
  suffices ({ s with mpgSettings := settings }.screenMenu input).controllerLine =
      (s.screenMenu input).controllerLine from congrArg (List.drop _) this
  have cases' := { s with mpgSettings := settings }.screenMenu_cases input
  obtain stays | ⟨leaves, eq⟩ | ⟨enters, manual, stays, eq⟩ := s.screenMenu_cases input
  · obtain stays' | ⟨leaves, -⟩ | ⟨enters, manual, -, -⟩ := cases'
    · rw [stays.frame, stays'.frame]
    · exact absurd leaves stays.stays
    · have idle : s.menu.enterMenu = false := stays.manual manual
      rw [idle] at enters
      cases enters
  · obtain stays' | ⟨-, eq'⟩ | ⟨-, -, stays', -⟩ := cases'
    · exact absurd leaves stays'.stays
    · rw [eq, eq', leaveFirstLevel_eq, leaveFirstLevel_eq, disableMpg_eq, disableMpg_eq]
      rfl
    · exact absurd leaves stays'
  · obtain stays' | ⟨leaves, -⟩ | ⟨-, -, -, eq'⟩ := cases'
    · have idle : s.menu.enterMenu = false := stays'.manual manual
      rw [idle] at enters
      cases enters
    · exact absurd leaves stays
    · rw [eq, eq', manualMode_controllerLine, manualMode_controllerLine, atButtons_settings]
      have runs : s.RunsManual input := ⟨enters, manual, stays⟩
      split
      next mode =>
        have subset : (s.atButtons input).buttonLookups input ⊆ s.lookups (.menu input) := by
          rw [lookups, if_pos (And.intro runs mode)]
          exact List.subset_append_right _ _
        rw [← s.mpgSettings_atButtons input] at agree
        exact jogByButtons_congr (agree.mono subset)
      next =>
        simp only [switchMpg, enableMpg_eq, disableMpg_eq, enterManual, enterCycle]
        repeat' split
        all_goals rfl

/-- The packets sent and the steps shown depend on the settings by the lookups only. -/
theorem sentBy_congr {e : PanelEvent} (agree : settings.AgreeAt (s.lookups e) s.mpgSettings) :
    { s with mpgSettings := settings }.sentBy e = s.sentBy e := by
  cases e with
  | menu input => exact sentBy_menu_congr agree
  | tim1 accepted => rw [sentBy_tim1, sentBy_tim1]
  | frame frame tx => exact sentBy_frame_congr agree
  | grbl chunk => rfl

theorem levelThree_settings (m : MenuController) (input : MenuInput)
    (settings settings' : MpgSettings) :
    (m.levelThree input settings).1 = (m.levelThree input settings').1 := by
  simp only [MenuController.levelThree, MenuController.axesSettingsMenu,
    MenuController.spindleSettingMenu]
  repeat' split
  all_goals rfl

theorem menu_manualMode_settings (input : MenuInput) :
    ({ s with mpgSettings := settings }.manualMode input).menu = (s.manualMode input).menu := by
  have jogged (t : Panel) : ({ t with mpgSettings := settings }.jogByButtons input).menu =
      (t.jogByButtons input).menu := by
    simp only [jogByButtons, jogByButton, transmit_eq]
    repeat' split
    all_goals rfl
  have switched : { s.enterManual with mpgSettings := settings }.switchMpg input = _ :=
    switchMpg_settings input
  have entered : { s with mpgSettings := settings }.enterManual =
      { s.enterManual with mpgSettings := settings } := rfl
  simp only [manualMode]
  rw [entered, switched]
  split
  · rw [requestReport_settings, jogged]
  · rfl

theorem menu_screenMenu_settings (input : MenuInput) :
    ({ s with mpgSettings := settings }.screenMenu input).menu = (s.screenMenu input).menu := by
  have manual : ({ s.enterCycle input with mpgSettings := settings }.manualMode input).menu = _ :=
    menu_manualMode_settings input
  have leaves : ({ s.enterCycle input with mpgSettings := settings }.leaveFirstLevel input).menu =
      ((s.enterCycle input).leaveFirstLevel input).menu := by
    rw [leaveFirstLevel_eq, leaveFirstLevel_eq]
    rfl
  simp only [screenMenu, menuCycle]
  repeat' split
  · rfl
  · rfl
  · simp only [levelOne]
    repeat' split
    · exact leaves
    · exact manual
    · rfl
    · rfl
  · rfl
  · exact levelThree_settings _ _ _ _
  · rfl
  · rfl

theorem shownSteps_congr {e : PanelEvent}
    (agree : settings.AgreeAt (s.lookups e) s.mpgSettings) :
    { s with mpgSettings := settings }.shownSteps e = s.shownSteps e := by
  cases e with
  | menu input =>
      have same : { s with mpgSettings := settings }.ShowsSteps input ↔ s.ShowsSteps input := by
        rw [ShowsSteps, ShowsSteps, menu_screenMenu_settings]
        rfl
      rw [shownSteps, shownSteps, if_congr same rfl rfl]
      by_cases shows : s.ShowsSteps input
      · have subset : s.screenLookups ⊆ s.lookups (.menu input) := by
          rw [lookups, if_pos shows]
          exact List.subset_append_left _ _
        have x : settings.xAxisMultiplicity _ = s.mpgSettings.xAxisMultiplicity _ :=
          agree.table (.xAxisMultiplicity, s.pendantData.xAxisMultiplicity.toNat)
            (subset (by simp [screenLookups]))
        have yz : settings.yzAxisMultiplicity _ = s.mpgSettings.yzAxisMultiplicity _ :=
          agree.table (.yzAxisMultiplicity, s.pendantData.yzAxisMultiplicity.toNat)
            (subset (by simp [screenLookups]))
        rw [if_pos shows, if_pos shows]
        simp only [axisSteps, MpgSettings.axisStep, List.map_cons, List.map_nil, x, yz]
      · rw [if_neg shows, if_neg shows]
  | _ => rfl

end

/-- `jog_mode` of `pendant_control` keeps its value. -/
theorem jogMode_step (e : PanelEvent) :
    (s.step e).pendantControl.jogMode = s.pendantControl.jogMode := by
  cases e with
  | menu input =>
      obtain ⟨_, _, _, eq⟩ := s.screenMenu_control input
      rw [step, eq]
  | tim1 accepted =>
      obtain ⟨menu, -, counted⟩ := s.countMenu_eq
      rw [step, tim1, counted]
      simp only [pollPendant, requestPendantData_eq]
      repeat' split
      all_goals rfl
  | frame frame tx =>
      rw [step]
      obtain ⟨-, eq⟩ | ⟨-, -, eq⟩ | ⟨-, eq⟩ := uart4Callback_cases tx frame s
      · rw [eq]
      · rw [eq]
        rfl
      · rw [eq, process_eq]
        rfl
  | grbl chunk => rfl

/-- The record of the last frame received, which is empty after the reset. -/
def receivedFrame (data : PendantData) : PanelEvent → PendantData
  | .frame frame _ => frame
  | _ => data

/-- A frame's indexes are stored whatever is made of the frame. -/
theorem pendantData_step (e : PanelEvent) :
    SameIndexes (receivedFrame s.pendantData e) (s.step e).pendantData := by
  cases e with
  | menu input =>
      obtain ⟨_, _, _, _, _, -, -, eq⟩ := s.screenMenu_eq input
      rw [step, eq]
      exact ⟨rfl, rfl, rfl⟩
  | tim1 accepted =>
      obtain ⟨_, _, _, -, -, -, eq⟩ := s.tim1_eq accepted
      rw [step, eq]
      exact ⟨rfl, rfl, rfl⟩
  | frame frame tx =>
      rw [step]
      obtain ⟨-, eq⟩ | ⟨-, -, eq⟩ | ⟨-, eq⟩ := uart4Callback_cases tx frame s
      · rw [eq]
        exact ⟨rfl, rfl, rfl⟩
      · rw [eq]
        exact ⟨rfl, rfl, rfl⟩
      · rw [eq, process_eq]
        simp only [savedData]
        split <;> exact ⟨rfl, rfl, rfl⟩
  | grbl chunk => exact ⟨rfl, rfl, rfl⟩

/-- The last frame of a run. -/
def lastFrame (data : PendantData) (es : List PanelEvent) : PendantData :=
  es.foldl receivedFrame data

theorem SameIndexes.received {data data' : PendantData} (same : SameIndexes data data')
    (e : PanelEvent) : SameIndexes (receivedFrame data e) (receivedFrame data' e) := by
  cases e with
  | frame frame tx => exact ⟨rfl, rfl, rfl⟩
  | _ => exact same

theorem indexes_run_from {s : Panel} {data : PendantData} {es : List PanelEvent}
    (same : SameIndexes data s.pendantData) :
    SameIndexes (lastFrame data es) (run step s es).pendantData ∧
      (run step s es).pendantControl.jogMode = s.pendantControl.jogMode := by
  induction es generalizing s data with
  | nil => exact ⟨same, rfl⟩
  | cons e es ih =>
      have stored := s.pendantData_step e
      have received := SameIndexes.received same e
      have next : SameIndexes (receivedFrame data e) (s.step e).pendantData :=
        ⟨stored.1.trans received.1, stored.2.trans received.2, stored.3.trans received.3⟩
      obtain ⟨later, mode⟩ := ih next
      exact ⟨later, mode.trans (s.jogMode_step e)⟩

theorem indexes_run (startup : Startup) (es : List PanelEvent) :
    SameIndexes (lastFrame {} es) (run step (initial startup) es).pendantData ∧
      (run step (initial startup) es).pendantControl.jogMode = 1 :=
  indexes_run_from ⟨rfl, rfl, rfl⟩

/-- The indexes that an event looks up are below three: those of the last frame for the screen and
for the buttons, those of the frame itself when it is acted on. -/
def LooksInside (s : Panel) (last : PendantData) : PanelEvent → Prop
  | .menu input =>
      (s.ShowsSteps input →
        last.xAxisMultiplicity.toNat < 3 ∧ last.yzAxisMultiplicity.toNat < 3) ∧
      (s.JogsByButton input → last.xAxisMultiplicity.toNat < 3 ∧ last.jogMode.toNat < 3)
  | .frame frame _ =>
      s.ActsOn frame → frame.xAxisMultiplicity.toNat < 3 ∧ frame.yzAxisMultiplicity.toNat < 3
  | .tim1 _ | .grbl _ => True

variable {s : Panel}

theorem inTables_screenLookups : InTables s.screenLookups ↔
    s.pendantData.xAxisMultiplicity.toNat < 3 ∧ s.pendantData.yzAxisMultiplicity.toNat < 3 := by
  simp [InTables, screenLookups]

theorem inTables_buttonLookups (input : MenuInput) : InTables (s.buttonLookups input) ↔
    (s.ButtonJogs input →
      s.pendantData.xAxisMultiplicity.toNat < 3 ∧ s.pendantData.jogMode.toNat < 3) := by
  by_cases jogs : s.ButtonJogs input <;> simp [InTables, buttonLookups, jogs]

/-- The feed of a frame's jog is that of the normal mode, whose index is 1. -/
theorem inTables_frameLookups {frame : PendantData} (mode : s.pendantControl.jogMode = 1) :
    InTables (s.frameLookups frame) ↔
      (s.ActsOn frame →
        frame.xAxisMultiplicity.toNat < 3 ∧ frame.yzAxisMultiplicity.toNat < 3) := by
  have normal : (s.received frame).actedAction.jogMode = 1 := mode
  have x : (s.received frame).actedAction.xAxisMultiplicity = frame.xAxisMultiplicity := rfl
  have yz : (s.received frame).actedAction.yzAxisMultiplicity = frame.yzAxisMultiplicity := rfl
  by_cases acts : s.ActsOn frame
  · rw [frameLookups, if_pos acts, actionLookups, inTables_append, normal, x, yz]
    split <;> simp [InTables, acts]
  · simp [InTables, frameLookups, acts]

theorem pendantData_atButtons (input : MenuInput) :
    (s.atButtons input).pendantData = s.pendantData := by
  obtain ⟨_, _, -, switched⟩ := (s.enterCycle input).enterManual.switchMpg_eq input
  obtain ⟨_, -, reported⟩ :=
    requestReport_eq input ((s.enterCycle input).enterManual.switchMpg input)
  rw [atButtons, reported, switched, afterCall_eq]
  rfl

theorem inTables_menu (input : MenuInput) : InTables (s.lookups (.menu input)) ↔
    s.LooksInside s.pendantData (.menu input) := by
  have buttons := inTables_buttonLookups (s := s.atButtons input) input
  rw [pendantData_atButtons] at buttons
  have none : InTables [] := nofun
  rw [lookups, inTables_append, LooksInside]
  refine and_congr ?_ ?_
  · by_cases shows : s.ShowsSteps input
    · rw [if_pos shows, inTables_screenLookups]
      exact ⟨fun inside _ => inside, fun inside => inside shows⟩
    · rw [if_neg shows]
      exact iff_of_true none fun shown => absurd shown shows
  · by_cases runs : s.RunsManual input ∧ (s.atButtons input).grblData.mpgMode = true
    · rw [if_pos runs, buttons]
      exact ⟨fun inside jogs => inside jogs.2.2, fun inside jogs => inside ⟨runs.1, runs.2, jogs⟩⟩
    · rw [if_neg runs]
      exact iff_of_true none fun jogs => absurd ⟨jogs.1, jogs.2.1⟩ runs

/-- After any run the lookups of an event are inside the tables exactly if the indexes they take are
below three; and they are all the lookups there are: the packets that the event sends and the steps
that it shows are the same with any settings that have the same values there. -/
theorem lookups_inTables_iff (startup : Startup) (es : List PanelEvent) (e : PanelEvent) :
    let s := run step (initial startup) es
    (InTables (s.lookups e) ↔ s.LooksInside (lastFrame {} es) e) ∧
    ∀ settings : MpgSettings, settings.AgreeAt (s.lookups e) s.mpgSettings →
      { s with mpgSettings := settings }.sentBy e = s.sentBy e ∧
        { s with mpgSettings := settings }.shownSteps e = s.shownSteps e := by
  intro s
  obtain ⟨same, mode⟩ := indexes_run startup es
  refine ⟨?_, fun settings agree => ⟨sentBy_congr agree, shownSteps_congr agree⟩⟩
  cases e with
  | menu input =>
      rw [inTables_menu, LooksInside, LooksInside, same.1, same.2, same.3]
  | tim1 accepted => simp [InTables, lookups, LooksInside]
  | frame frame tx => exact inTables_frameLookups mode
  | grbl chunk => simp [InTables, lookups, LooksInside]

set_option maxRecDepth 4000 in
/-- A frame with an index of four is acted on: the jog goes by the second distance of the other
table. The screen and a button look the same index up. -/
theorem frame_beyond_table :
    let s := run step (initial {}) openSession
    let frame : PendantData := { encoder1Val := 5, xAxisMultiplicity := 4, mpg := true }
    let later := run step s (.frame frame (fun _ => true) :: List.replicate 6 (.tim1 true))
    s.ActsOn frame ∧ (Table.xAxisMultiplicity, 4) ∈ s.lookups (.frame frame fun _ => true) ∧
      s.sentBy (.frame frame fun _ => true) = [.jog 50 'Y' 0 750] ∧
      later.lookups (.menu rightPressed) =
        [(.xAxisMultiplicity, 4), (.yzAxisMultiplicity, 0), (.yzAxisMultiplicity, 0),
          (.xAxisMultiplicity, 4), (.jogSpeeds, 0)] := by
  decide

end Panel

end Cnc
