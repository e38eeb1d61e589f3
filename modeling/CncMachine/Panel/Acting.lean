import CncMachine.Panel.Gate

/-!
# Acting on frames outside MPG mode

`pendant_control.mpg_status` is a second copy of the MPG mode: it becomes `ENABLED` with a frame
that finds the mode on, and it is not touched when a report takes the mode away. A frame that finds
the mode off either asks for it again or turns the copy off, unless the mode is already being
enabled: then the copy is left as it is. So the copy outlives the mode exactly when ENTER asks for
the mode before the next frame does.
-/

namespace Cnc.Panel

open Transition

/-- While the mode is being enabled it is off, and the pendant is not enabled. -/
structure CopyFollows (s : Panel) : Prop where
  modeOff : s.grblData.mpgEnableOngoing = true → s.grblData.mpgMode = false
  copyOff : s.pendantControl.mpgStatus = .enabled → s.grblData.mpgEnableOngoing = false

/-- ENTER calls `enable_mpg` while `mpg_status` is still `ENABLED`. -/
def ReenablesEarly (s : Panel) : PanelEvent → Prop
  | .menu input => s.menuCall input = some true ∧ s.pendantControl.mpgStatus = .enabled
  | _ => False

instance (s : Panel) : (e : PanelEvent) → Decidable (s.ReenablesEarly e)
  | .menu _ => inferInstanceAs (Decidable (_ ∧ _))
  | .tim1 _ | .frame _ _ | .grbl _ => inferInstanceAs (Decidable False)

/-- `pendant_data_to_action` is called with the mode on. -/
def InvokesInMode (s : Panel) (e : PanelEvent) : Prop :=
  s.invocation e ≠ none → s.grblData.mpgMode = true

instance (s : Panel) (e : PanelEvent) : Decidable (s.InvokesInMode e) :=
  inferInstanceAs (Decidable (_ → _))

theorem parseMpg_unmarked {g : GrblData} (field : List Char)
    (unmarked : g.mpgEnableOngoing = false) : (parseMpg g field).mpgEnableOngoing = false := by
  simp only [parseMpg]
  repeat' split
  all_goals simp_all

theorem parseMpg_modeOff {g : GrblData} (field : List Char)
    (off : g.mpgEnableOngoing = true → g.mpgMode = false) :
    (parseMpg g field).mpgEnableOngoing = true → (parseMpg g field).mpgMode = false := by
  simp only [parseMpg]
  repeat' split
  all_goals simp_all

/-- What a field does to the three flags. -/
theorem parseField_mpgFlags (g : GrblData) (field : List Char) :
    (parseField g field).mpgFlags = g.mpgFlags ∨
      (parseField g field).mpgFlags = (parseMpg g field).mpgFlags := by
  simp only [parseField]
  split
  · exact .inl (parseAccessories_mpgFlags g _)
  · split
    · exact .inr rfl
    · exact .inl rfl

/-- The other tokens leave the flags alone, so they keep every property of them. -/
theorem keptByTokens_flags {P : Bool × Bool × Bool → Prop}
    (mpg : ∀ field g, P g.mpgFlags → P (parseMpg g field).mpgFlags) :
    KeptByTokens fun g => P g.mpgFlags where
  state data g kept := by rwa [grblParseState_mpgFlags]
  field field g kept := by
    obtain same | same := parseField_mpgFlags g field
    · rwa [same]
    · rw [same]
      exact mpg field g kept
  word word g kept := by rwa [parseModalWord_mpgFlags]

theorem CopyFollows.usart2Callback {s : Panel} (follows : CopyFollows s) (chunk : List Char) :
    CopyFollows (s.usart2Callback chunk) where
  modeOff := (keptByTokens_flags (P := fun flags => flags.2.1 = true → flags.1 = false)
    fun field _ off => parseMpg_modeOff field off).grblCallback chunk follows.modeOff
  copyOff enabled := (keptByTokens_flags (P := fun flags => flags.2.1 = false)
    fun field _ unmarked => parseMpg_unmarked field unmarked).grblCallback chunk
      (follows.copyOff enabled)

theorem switchCall_enables {input : MenuInput} {s : Panel}
    (call : s.switchCall input = some true) :
    s.grblData.mpgMode = false ∧ s.grblData.mpgEnableOngoing = false := by
  simp only [switchCall] at call
  split at call
  · split at call
    · simp_all
    · split at call <;> cases call
  · cases call

theorem menuCall_enables {input : MenuInput} {s : Panel} (call : s.menuCall input = some true) :
    s.grblData.mpgMode = false ∧ s.grblData.mpgEnableOngoing = false := by
  simp only [menuCall] at call
  split at call
  · cases call
  · split at call
    · exact switchCall_enables (s := (s.enterCycle input).enterManual) call
    · cases call

/-- A call keeps the first half; it keeps the second one unless it enables. -/
theorem afterCall_modeOff {g : GrblData} (off : g.mpgEnableOngoing = true → g.mpgMode = false)
    (call : Option Bool) :
    (g.afterCall call).mpgEnableOngoing = true → (g.afterCall call).mpgMode = false := by
  obtain _ | _ | _ := call
  · exact off
  · exact off
  · intro mark
    simp only [GrblData.afterCall, Bool.or_eq_true, Bool.not_eq_true'] at mark ⊢
    exact mark.elim off id

theorem afterCall_mark {g : GrblData} {call : Option Bool} (other : call ≠ some true) :
    (g.afterCall call).mpgEnableOngoing = g.mpgEnableOngoing := by
  obtain _ | _ | _ := call
  · rfl
  · rfl
  · exact absurd rfl other

/-- After a frame the copy is on only if the mode is: the branch that leaves the copy alone finds
it off. -/
theorem nextMpgStatus_enabled {s : Panel} (follows : CopyFollows s)
    (enabled : s.nextMpgStatus = .enabled) :
    s.grblData.mpgMode = true ∧ s.grblData.mpgEnableOngoing = false := by
  simp only [nextMpgStatus] at enabled
  split at enabled
  · cases enabled
  · split at enabled
    next on => exact ⟨on, Bool.eq_false_iff.mpr fun mark => by simp [follows.modeOff mark] at on⟩
    next off =>
      split at enabled
      next mark => simp [follows.copyOff enabled] at mark
      next => cases enabled

theorem CopyFollows.frame {s : Panel} (follows : CopyFollows s) (frame : PendantData) (tx : Tx) :
    CopyFollows (s.uart4Callback tx frame).1 := by
  obtain ⟨-, eq⟩ | ⟨-, -, eq⟩ | ⟨-, eq⟩ := uart4Callback_cases tx frame s
  · rw [eq]
    exact ⟨follows.modeOff, follows.copyOff⟩
  · rw [eq]
    exact ⟨follows.modeOff, fun enabled => by cases enabled⟩
  · have received : CopyFollows (s.received frame) := ⟨follows.modeOff, follows.copyOff⟩
    rw [eq, process_eq]
    refine ⟨afterCall_modeOff received.modeOff _, ?_⟩
    intro enabled
    obtain ⟨on, mark⟩ := nextMpgStatus_enabled received enabled
    have noCall : (s.received frame).requestCall ≠ some true := by
      simp only [requestCall]
      rw [if_neg]
      · simp
      · exact fun requests => absurd on (by simp [requests.2.1])
    exact (afterCall_mark noCall).trans mark

theorem copyFollows_step : Preserves step (fun s e => ¬ s.ReenablesEarly e) CopyFollows := by
  intro s e follows onTime
  cases e with
  | menu input =>
      obtain ⟨menu, control, settings, requests, packets, -, status, eq⟩ := s.screenMenu_eq input
      rw [step, eq]
      refine ⟨afterCall_modeOff follows.modeOff _, ?_⟩
      intro enabled
      have before : s.pendantControl.mpgStatus = .enabled := by
        obtain same | disabled := status
        · exact same.symm.trans enabled
        · simp [disabled] at enabled
      have other : s.menuCall input ≠ some true := fun call => onTime ⟨call, before⟩
      exact (afterCall_mark other).trans (follows.copyOff before)
  | tim1 accepted =>
      obtain ⟨menu, control, requests, -, -, status, eq⟩ := s.tim1_eq accepted
      rw [step, eq]
      refine ⟨follows.modeOff, ?_⟩
      intro enabled
      obtain same | disabled := status
      · exact follows.copyOff (same.symm.trans enabled)
      · simp [disabled] at enabled
  | frame frame tx => exact follows.frame frame tx
  | grbl chunk => exact follows.usart2Callback chunk

theorem copyFollows_initial (startup : Startup) : CopyFollows (initial startup) :=
  ⟨nofun, nofun⟩

theorem CopyFollows.invokesInMode {s : Panel} (follows : CopyFollows s) (e : PanelEvent) :
    s.InvokesInMode e := by
  intro invokes
  cases e with
  | frame frame tx =>
      rw [invocation, uart4Callback_invokes] at invokes
      split at invokes
      next acts =>
        obtain ⟨-, -, -, on | ⟨mark, enabled⟩⟩ := acts
        · exact on
        · simp [received, follows.copyOff enabled] at mark
      next => exact absurd rfl invokes
  | menu _ => exact absurd rfl invokes
  | tim1 _ => exact absurd rfl invokes
  | grbl _ => exact absurd rfl invokes

/-- A call that enables is made in the Manual menu, whose cycle keeps the copy. -/
theorem screenMenu_enables {s : Panel} {input : MenuInput} (call : s.menuCall input = some true) :
    (s.screenMenu input).pendantControl.status = true ∧
      (s.screenMenu input).pendantControl.mpgStatus = s.pendantControl.mpgStatus := by
  obtain stays | ⟨leaves, -⟩ | ⟨-, -, -, eq⟩ := s.screenMenu_cases input
  · rw [menuCall, if_neg stays.stays] at call
    split at call
    next enters => simp [stays.manual enters.2] at enters
    next => cases call
  · rw [menuCall, if_pos leaves] at call
    cases call
  · obtain ⟨menu, turnOffMpg, packets, -, -, cycle⟩ := (s.enterCycle input).manualMode_eq input
    rw [eq, cycle]
    exact ⟨rfl, rfl⟩

/-- After an early ENTER every frame that is processed with the pendant's MPG flag set is acted
on with the mode off. -/
theorem ReenablesEarly.acts {s : Panel} {input : MenuInput}
    (early : s.ReenablesEarly (.menu input)) (processes : (s.screenMenu input).Processes)
    {frame : PendantData} (mpg : frame.mpg = true) (tx : Tx) :
    ¬ (s.screenMenu input).InvokesInMode (.frame frame tx) := by
  obtain ⟨off, unmarked⟩ := menuCall_enables early.1
  obtain ⟨awake, copy⟩ := screenMenu_enables early.1
  obtain ⟨_, _, _, _, _, _, _, eq⟩ := s.screenMenu_eq input
  have flags : (s.screenMenu input).grblData.mpgMode = false ∧
      (s.screenMenu input).grblData.mpgEnableOngoing = true := by
    rw [eq, early.1]
    exact ⟨off, by simp [GrblData.afterCall, off]⟩
  have acts : (s.screenMenu input).ActsOn frame :=
    ⟨processes, mpg, awake, .inr ⟨flags.2, copy.trans early.2⟩⟩
  intro inMode
  have on := inMode (by rw [invocation, uart4Callback_invokes, if_pos acts]; simp)
  simp [flags.1] at on

/-- In every run in which ENTER never calls `enable_mpg` while `mpg_status` is still `ENABLED`,
`pendant_data_to_action` is called in MPG mode only; and any such early ENTER is followed by a
call outside the mode as soon as a frame with the MPG flag is processed. -/
theorem invokes_in_mode_of_no_early_enter (startup : Startup) :
    (∀ es, Always step (fun s e => ¬ s.ReenablesEarly e) (initial startup) es →
      Always step (fun s e => s.invocation e ≠ none → s.grblData.mpgMode = true)
        (initial startup) es) ∧
    ∀ (s : Panel) (input : MenuInput), s.ReenablesEarly (.menu input) →
      (s.step (.menu input)).Processes → ∀ (frame : PendantData) (tx : Tx), frame.mpg = true →
        (s.step (.menu input)).invocation (.frame frame tx) ≠ none ∧
        (s.step (.menu input)).grblData.mpgMode = false := by
  refine ⟨fun es onTime => ?_, fun s input early processes frame tx mpg => ?_⟩
  · exact copyFollows_step.always (fun s e follows _ => follows.invokesInMode e)
      (copyFollows_initial startup) onTime
  · have outside := early.acts processes mpg tx
    rw [InvokesInMode, Classical.not_imp] at outside
    exact ⟨outside.1, Bool.eq_false_iff.mpr outside.2⟩

set_option maxRecDepth 4000 in
/-- A session in the usual order: the frame asks for the mode, a report confirms it, frames act,
ENTER ends the mode. -/
theorem invokes_in_mode_session :
    Always step (fun s e => s.invocation e ≠ none → s.grblData.mpgMode = true) (initial {})
      (openManual ++ [.frame { mpg := true } fun _ => true, .grbl "<Idle|MPG:1>\r\n".toList,
        .frame { mpg := true } fun _ => true, .menu enterPressed,
        .grbl "<Idle|MPG:0>\r\n".toList]) :=
  (invokes_in_mode_of_no_early_enter {}).1 _ (by decide)

set_option maxRecDepth 4000 in
/-- The controller leaves MPG mode by itself and the operator presses ENTER before the next
frame: that frame is acted on although the panel knows that the mode is off. -/
theorem invokes_outside_mode :
    ¬ Always step (fun s e => s.invocation e ≠ none → s.grblData.mpgMode = true) (initial {})
      (openManual ++ [.frame { mpg := true } fun _ => true, .grbl "<Idle|MPG:1>\r\n".toList,
        .frame { mpg := true } fun _ => true, .grbl "<Idle|MPG:0>\r\n".toList,
        .menu enterPressed, .frame { mpg := true } fun _ => true]) := by
  decide

end Cnc.Panel
