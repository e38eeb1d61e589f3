import CncMachine.Plant.Handshake

/-!
# The MPG mode of the controller

What the toggle protocol says about the panel and the controller: how many toggle bytes can be
unanswered at a time, and in which mode the controller is left when the Manual menu is closed.
-/

namespace Cnc.Plant

open Transition

/-- Toggle bytes on the line, and answers on their way back. -/
def unanswered (s : Plant) : Nat := s.handshake.outstanding

/-- No toggle byte and no report of the MPG mode is in flight. -/
def Quiet (s : Plant) : Prop :=
  Packet.mpgModeToggle ∉ s.panel.controllerLine ∧ ∀ line ∈ s.lines, line.modeReport = none

instance (s : Plant) : Decidable s.Quiet := inferInstanceAs (Decidable (_ ∧ ∀ line ∈ s.lines, _))

/-- A report of `MPG:0` that no toggle byte has caused reaches the panel only while no toggle byte
is unanswered. -/
def Timely (s : Plant) (e : PlantEvent) : Prop :=
  ∀ event ∈ s.handshakeEvent e, Toggle.Timely s.handshake event

instance (s : Plant) (e : PlantEvent) : Decidable (s.Timely e) :=
  inferInstanceAs (Decidable (∀ event ∈ s.handshakeEvent e, _))

/-- Every toggle byte that the panel tries to send is sent. -/
def Sends (s : Plant) (e : PlantEvent) : Prop :=
  ∀ event ∈ s.handshakeEvent e, Toggle.Sends s.handshake event

instance (s : Plant) (e : PlantEvent) : Decidable (s.Sends e) :=
  inferInstanceAs (Decidable (∀ event ∈ s.handshakeEvent e, _))

/-- While a toggle byte is unanswered, no call asks for the mode that the panel still knows. -/
def Decided (s : Plant) (e : PlantEvent) : Prop :=
  ∀ event ∈ s.handshakeEvent e, Toggle.Decided s.handshake event

instance (s : Plant) (e : PlantEvent) : Decidable (s.Decided e) :=
  inferInstanceAs (Decidable (∀ event ∈ s.handshakeEvent e, _))

variable {s : Plant} {es : List PlantEvent}

theorem Quiet.toggles (quiet : s.Quiet) : s.handshake.toggles = 0 :=
  List.count_eq_zero.mpr quiet.1

theorem Quiet.reports (quiet : s.Quiet) : s.handshake.reports = [] :=
  List.filterMap_eq_nil_iff.mpr quiet.2

/-- A condition on the events of the protocol holds along its trace. -/
theorem handshake_always {D : Toggle.State → Toggle.Event → Prop}
    (steps : Always step (fun s e => ∀ event ∈ s.handshakeEvent e, D s.handshake event) s es) :
    Always Toggle.State.step D s.handshake
      (trace step (fun s e => (s.handshakeEvent e).toList) s es) := by
  refine handshake_simulates.always (fun s e holds => ?_) steps
  cases event : s.handshakeEvent e with
  | none => exact trivial
  | some event' => exact ⟨holds event' event, trivial⟩

theorem orderly_initial (startup : Startup) (accessories : Accessories) :
    Toggle.Orderly (initial startup accessories).handshake :=
  ⟨rfl, Nat.zero_le 1, fun pending => absurd rfl pending⟩

theorem settled_initial (startup : Startup) (accessories : Accessories) :
    Toggle.Settled (initial startup accessories).handshake :=
  ⟨fun _ => rfl, nofun, fun _ => rfl⟩

/-- In every run in which no unasked `MPG:0` overtakes an answer, at most one toggle byte is
unanswered, and when nothing is in flight the panel knows the controller's mode. That mode is the
one last requested if every toggle byte is sent and no call asks for the mode that a toggle byte
is to end. -/
theorem one_toggle_unanswered (startup : Startup) (accessories : Accessories)
    (es : List PlantEvent) (timely : Always step Timely (initial startup accessories) es) :
    let s := run step (initial startup accessories) es
    s.unanswered ≤ 1 ∧ (s.Quiet → s.panel.grblData.mpgMode = s.mode) ∧
      (Always step (fun s e => s.Sends e ∧ s.Decided e) (initial startup accessories) es →
        s.Quiet → s.mode = s.requested) := by
  intro s
  have start := orderly_initial startup accessories
  have orderly : Toggle.Orderly s.handshake := by
    rw [handshake_simulates.run]
    exact Toggle.orderly_step.run start (handshake_always timely)
  refine ⟨orderly.one, fun quiet => orderly.known_eq quiet.reports, ?_⟩
  intro calls quiet
  have asked : Toggle.Asked s.handshake := by
    rw [handshake_simulates.run]
    refine (Toggle.asked_step.run
      (I := fun s => (Toggle.Orderly s ∧ Toggle.Settled s) ∧ Toggle.Asked s)
      ⟨⟨start, settled_initial startup accessories⟩, rfl⟩ ?_).2
    exact (handshake_always timely).and ((handshake_always (calls.mono fun _ _ both => both.1)).and
      (handshake_always (calls.mono fun _ _ both => both.2)))
  have known := orderly.known_eq quiet.reports
  have none : s.handshake.outstanding = 0 := by
    simp [Toggle.State.outstanding, quiet.toggles, quiet.reports]
  have wanted : s.requested = (s.handshake.known ^^ decide (s.handshake.outstanding = 1)) := asked
  rw [wanted, none, known]
  simp [handshake]

/-- A status report with a state and at most one of the two special fields. -/
def statusOf (accessories mpg : Bool) : StatusReport where
  state := "Idle".toList
  accessories := accessories
  mpg := mpg
  stateToken := by decide
  plain := by simp
  fits := by decide

/-- The Manual menu is opened, and ENTER asks for the MPG mode. -/
def askForMpg : List PlantEvent :=
  .menu Panel.manualTouched :: List.replicate 6 (.tim1 true) ++ .menu {} ::
    List.replicate 6 (.tim1 true) ++ [.menu Panel.enterPressed]

/-- ENTER is released. -/
def releaseEnter : List PlantEvent :=
  List.replicate 6 (.tim1 true) ++ [.menu {}] ++ List.replicate 6 (.tim1 true)

set_option maxRecDepth 4000 in
/-- The mode is requested, answered and confirmed once more. -/
theorem one_toggle_unanswered_session :
    let s := run step (initial {} {}) (askForMpg ++
      [.handle (statusOf false true), .deliver, .status (statusOf false true), .deliver])
    s.unanswered ≤ 1 ∧ (s.Quiet → s.panel.grblData.mpgMode = s.mode) ∧
      (Always step (fun s e => s.Sends e ∧ s.Decided e) (initial {} {}) (askForMpg ++
        [.handle (statusOf false true), .deliver, .status (statusOf false true), .deliver]) →
        s.Quiet → s.mode = s.requested) :=
  one_toggle_unanswered {} {} _ (by decide)

set_option maxRecDepth 4000 in
/-- A report of `MPG:0` from before the toggle byte clears the mark, and ENTER sends another one
while the first is unanswered. The controller goes into MPG mode and leaves it again. -/
theorem two_toggles_unanswered :
    let s := run step (initial {} {}) (askForMpg ++
      [.status (statusOf false true), .deliver] ++ releaseEnter ++ [.menu Panel.enterPressed])
    let s' := run step s
      [.handle (statusOf false true), .handle (statusOf false true), .deliver, .deliver]
    s.unanswered = 2 ∧ s'.Quiet ∧ s'.requested = true ∧ s'.mode = false := by
  decide

/-- Reports carry the MPG mode only as answers. -/
def AnswersOnly (_ : Plant) : PlantEvent → Prop
  | .status report => report.mpg = false
  | _ => True

instance (s : Plant) : (e : PlantEvent) → Decidable (s.AnswersOnly e)
  | .status _ => inferInstanceAs (Decidable (_ = _))
  | .menu _ | .tim1 _ | .frame _ _ | .handle _ | .line _ | .deliver =>
      inferInstanceAs (Decidable True)

theorem AnswersOnly.handshake {s : Plant} {e : PlantEvent} (answers : s.AnswersOnly e) :
    ∀ event ∈ s.handshakeEvent e, event ≠ .report := by
  intro event this
  rintro rfl
  simp only [handshakeEvent] at this
  cases e with
  | status report =>
      have none : report.mpg = false := answers
      simp [none] at this
  | handle report =>
      dsimp only at this
      split at this <;> simp at this
  | deliver =>
      obtain ⟨_, _, eq⟩ := Option.map_eq_some_iff.mp this
      cases eq
  | _ => simp at this

/-- The panel's part of the plant keeps the gate of the manual mode. -/
theorem gate_step {s : Plant} (gate : Panel.Gate s.panel) (e : PlantEvent) :
    Panel.Gate (s.step e).panel := by
  cases e with
  | menu input => exact gate.step (.menu input)
  | tim1 accepted => exact gate.step (.tim1 accepted)
  | frame frame tx => exact gate.step (.frame frame tx)
  | handle report =>
      show Panel.Gate (s.handle report).panel
      simp only [handle]
      split
      · exact gate
      · exact ⟨gate.agree, gate.place⟩
      · exact ⟨gate.agree, gate.place⟩
  | deliver =>
      show Panel.Gate s.deliver.panel
      simp only [deliver]
      split
      · exact gate
      · exact gate.step (.grbl _)
  | status report => exact gate
  | line line => exact gate

/-- Outside the menus nothing asks for another mode. -/
theorem call_of_home {s : Plant} (gate : Panel.Gate s.panel) (home : s.panel.menu.level = 0)
    (e : PlantEvent) : s.call e = none := by
  have outside : ¬ s.panel.InManualMenu := fun manual =>
    absurd (home.symm.trans manual.1) (by decide)
  cases e with
  | menu input =>
      have stays : ¬ s.panel.LeavesFirstLevel input := fun leaves =>
        absurd (home.symm.trans leaves.2.1) (by decide)
      show s.panel.menuCall input = none
      rw [Panel.menuCall, if_neg stays, if_neg fun both => outside both.2]
  | frame frame tx =>
      have asleep : s.panel.menu.enteredManualMode = false := by
        by_contra entered
        exact outside (gate.place (by simpa using entered))
      exact if_neg (Panel.not_processes_of_asleep asleep)
  | _ => rfl

theorem handshakeEvent_of_call_none {s : Plant} {e : PlantEvent} (none : s.call e = none) :
    ∀ event ∈ s.handshakeEvent e, ∀ wanted sent, event ≠ .call wanted sent := by
  rintro event this wanted sent rfl
  simp only [handshakeEvent] at this
  cases e with
  | status report =>
      dsimp only at this
      split at this <;> simp at this
  | handle report =>
      dsimp only at this
      split at this <;> simp at this
  | deliver =>
      obtain ⟨_, _, eq⟩ := Option.map_eq_some_iff.mp this
      cases eq
  | _ => simp [none] at this

/-- After a run without calls, with nothing left in flight, the controller is in the mode that it
was heading for. -/
theorem mode_of_quiet {s : Plant} {es : List PlantEvent} (gate : Panel.Gate s.panel)
    (home : Always step (fun s _ => s.panel.menu.level = 0) s es) (quiet : (run step s es).Quiet) :
    (run step s es).mode = s.handshake.heading := by
  have none : Always step (fun s e => s.call e = none) s es :=
    Preserves.always (I := fun s => Panel.Gate s.panel) (fun _ e gate _ => gate_step gate e)
      (fun _ e gate home => call_of_home gate home e) gate home
  have same := Toggle.heading_run (handshake_always
    (D := fun _ event => ∀ wanted sent, event ≠ .call wanted sent)
    (none.mono fun _ _ none => handshakeEvent_of_call_none none))
  rw [← handshake_simulates.run, Toggle.State.heading, quiet.toggles] at same
  simpa [handshake] using same

/-- The exit from a menu of the first level, such as the Manual menu, after which no menu is entered
and everything in flight arrives: the controller is left in MPG mode if and only if the mode was
just being enabled. -/
theorem manual_exit_releases (startup : Startup) (accessories : Accessories)
    (past after : List PlantEvent) (input : MenuInput)
    (answers : Always step AnswersOnly (initial startup accessories)
      (past ++ .menu input :: after))
    (sends : Always step Sends (initial startup accessories) (past ++ .menu input :: after))
    (leaves : (run step (initial startup accessories) past).panel.LeavesFirstLevel input)
    (home : Always step (fun s _ => s.panel.menu.level = 0)
      ((run step (initial startup accessories) past).step (.menu input)) after)
    (quiet : (run step (initial startup accessories) (past ++ .menu input :: after)).Quiet) :
    (run step (initial startup accessories) (past ++ .menu input :: after)).mode = false ↔
      (run step (initial startup accessories) past).panel.grblData.mpgEnableOngoing = false := by
  have gate : Panel.Gate (run step (initial startup accessories) past).panel :=
    invariant_run (I := fun s : Plant => Panel.Gate s.panel) (fun _ e gate => gate_step gate e)
      (Panel.gate_initial startup) past
  obtain ⟨answersPast, -⟩ := (always_append ..).mp answers
  obtain ⟨sendsPast, sendsExit, -⟩ := (always_append ..).mp sends
  obtain ⟨orderly, settled⟩ : Toggle.Orderly
        (run step (initial startup accessories) past).handshake ∧
      Toggle.Settled (run step (initial startup accessories) past).handshake := by
    have timely := Toggle.timely_of_answers (s := (initial startup accessories).handshake) nofun
      (handshake_always (answersPast.mono fun _ _ answers => answers.handshake))
    rw [handshake_simulates.run]
    exact Toggle.settled_step.run (I := fun s => Toggle.Orderly s ∧ Toggle.Settled s)
      ⟨orderly_initial startup accessories, settled_initial startup accessories⟩
      (timely.and (handshake_always sendsPast))
  rw [run_append, run_cons] at quiet ⊢
  generalize run step (initial startup accessories) past = s at *
  have exit : s.handshakeEvent (.menu input) = some (.call false (input.tx .mpgModeToggle)) := by
    have call : s.panel.menuCall input = some false := if_pos leaves
    simp [handshakeEvent, Plant.call, call, outcomes]
  have left : (s.step (.menu input)).handshake =
      s.handshake.call false (input.tx .mpgModeToggle) := by
    refine (handshake_simulates s (.menu input)).trans ?_
    dsimp only
    rw [exit]
    rfl
  rw [mode_of_quiet (gate_step gate (.menu input)) home quiet, left,
    Toggle.heading_call_false orderly settled (sendsExit _ exit)]
  rfl

set_option maxRecDepth 4000 in
/-- The mode is requested and answered, BACK is pressed and the second toggle byte answered. -/
theorem manual_exit_releases_session :
    let es := askForMpg ++ [.handle (statusOf false true), .deliver] ++ releaseEnter
    (run step (initial {} {}) (es ++ .menu Panel.backPressed ::
        [.handle (statusOf false true), .deliver])).mode = false ↔
      (run step (initial {} {}) es).panel.grblData.mpgEnableOngoing = false := by
  intro es
  apply manual_exit_releases {} {} es [.handle (statusOf false true), .deliver] Panel.backPressed
  all_goals decide

set_option maxRecDepth 4000 in
/-- BACK is pressed before the toggle byte of ENTER is answered: the controller goes into MPG mode
and stays in it. -/
theorem manual_exit_keeps_mode :
    let s := run step (initial {} {}) (askForMpg ++ List.replicate 6 (.tim1 true))
    let s' := run step (s.step (.menu Panel.backPressed)) [.handle (statusOf false true), .deliver]
    s.mode = false ∧ s.panel.LeavesFirstLevel Panel.backPressed ∧ s.panel.InManualMenu ∧
      s'.panel.menu.level = 0 ∧ s'.Quiet ∧ s'.mode = true := by
  decide

end Cnc.Plant
