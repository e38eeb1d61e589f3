import CncMachine.Controller.Limits
import CncMachine.Controller.Reading

/-!
# What the panel has been told

Spindle, coolant and mode change in many places of the controller. Where they change, a flag of
`sys.report` is set (`Tells`), and the flags are cleared by the report that has them. So in every
run the panel, once it has received what was sent, agrees with the controller on everything for
which no flag is set (`Informed`). Some places change the accessories without a flag: those that call
the driver of the spindle directly, the retraction for parking, and the reset, which also clears the
flags.
-/

namespace Cnc

open Transition Text

/-- The flags that make a report tell of the accessories. -/
def ReportFlags.tellsAccessories (report : ReportFlags) : Bool :=
  report.spindle || report.coolant || report.tool

/-- A report is about to be written. -/
def Phase.isReport : Phase → Bool
  | .report _ | .reporting _ _ => true
  | _ => false

/-- Nothing is on. -/
def Accessories.off (a : Accessories) : Prop :=
  a.spindleOn = false ∧ a.flood = false ∧ a.mist = false

theorem Accessories.withDirection_of_off {a : Accessories} (off : a.off) :
    a.withDirection = {} := by
  obtain ⟨spindle, flood, mist⟩ := off
  simp [Accessories.withDirection, spindle, flood, mist]

namespace Controller

/-- The flags of the next report. While a report is written these are its copy. -/
def pending (s : Controller) : ReportFlags :=
  match s.phase with
  | .reporting report _ => report
  | _ => s.report

/-- What a step changes outside the writing of reports, it flags, and for a new mode it also
requests a report, unless there are automatic ones. -/
structure Tells (s s' : Controller) : Prop where
  settings : s'.settings = s.settings
  phase : s'.phase = s.phase
  accessories : s'.accessories = s.accessories ∨
    s.phase.isReport = false ∧ s'.report.tellsAccessories = true
  mode : s'.mpgMode = s.mpgMode ∨ s.phase.isReport = false ∧ s'.report.mpgMode = true ∧
    (s.settings.reportInterval = 0 → s.autoReporting = false → s'.statusReport = true)
  accessoriesFlag : s.report.tellsAccessories = true → s'.report.tellsAccessories = true
  modeFlag : s.report.mpgMode = true → s'.report.mpgMode = true
  request : s.statusReport = true → s'.statusReport = true
  auto : s.settings.reportInterval = 0 → s'.autoReporting = s.autoReporting

variable {s s' s'' : Controller}

/-- A step that changes nothing of this. -/
theorem tells_of_eq (settings : s'.settings = s.settings) (phase : s'.phase = s.phase)
    (accessories : s'.accessories = s.accessories) (mode : s'.mpgMode = s.mpgMode)
    (report : s'.report = s.report) (request : s'.statusReport = s.statusReport)
    (auto : s'.autoReporting = s.autoReporting) : Tells s s' where
  settings := settings
  phase := phase
  accessories := .inl accessories
  mode := .inl mode
  accessoriesFlag := by rw [report]; exact id
  modeFlag := by rw [report]; exact id
  request := by rw [request]; exact id
  auto _ := auto

theorem Tells.trans (first : Tells s s') (second : Tells s' s'') : Tells s s'' where
  settings := second.settings.trans first.settings
  phase := second.phase.trans first.phase
  accessories := by
    obtain same | ⟨outside, flag⟩ := second.accessories
    · obtain same' | ⟨outside, flag⟩ := first.accessories
      · exact .inl (same.trans same')
      · exact .inr ⟨outside, second.accessoriesFlag flag⟩
    · rw [first.phase] at outside
      exact .inr ⟨outside, flag⟩
  mode := by
    obtain same | ⟨outside, flag, request⟩ := second.mode
    · obtain same' | ⟨outside, flag, request⟩ := first.mode
      · exact .inl (same.trans same')
      · exact .inr ⟨outside, second.modeFlag flag,
          fun interval auto => second.request (request interval auto)⟩
    · rw [first.phase] at outside
      rw [first.settings] at request
      exact .inr ⟨outside, flag, fun interval auto =>
        request interval ((first.auto interval).trans auto)⟩
  accessoriesFlag flag := second.accessoriesFlag (first.accessoriesFlag flag)
  modeFlag flag := second.modeFlag (first.modeFlag flag)
  request requested := second.request (first.request requested)
  auto interval := (second.auto (by rw [first.settings, interval])).trans (first.auto interval)

theorem tells_enqueueTask (s : Controller) (task : Task) : Tells s (s.enqueueTask task) := by
  unfold enqueueTask
  split <;> exact tells_of_eq rfl rfl rfl rfl rfl rfl rfl

/-- More flags and requests. -/
theorem tells_of_more (settings : s'.settings = s.settings) (phase : s'.phase = s.phase)
    (accessories : s'.accessories = s.accessories) (mode : s'.mpgMode = s.mpgMode)
    (accessoriesFlag : s.report.tellsAccessories = true → s'.report.tellsAccessories = true)
    (modeFlag : s.report.mpgMode = true → s'.report.mpgMode = true)
    (request : s.statusReport = true → s'.statusReport = true)
    (auto : s.settings.reportInterval = 0 → s'.autoReporting = s.autoReporting) : Tells s s' :=
  ⟨settings, phase, .inl accessories, .inl mode, accessoriesFlag, modeFlag, request, auto⟩

theorem tells_enqueueRealtimeCommand (s : Controller) (command : RealtimeCommand) :
    Tells s (s.enqueueRealtimeCommand command) := by
  have same : Tells s s := tells_of_eq rfl rfl rfl rfl rfl rfl rfl
  cases command with
  | statusReportAll =>
      exact tells_of_more rfl rfl rfl rfl (fun _ => rfl) (fun _ => rfl) (fun _ => rfl) fun _ => rfl
  | statusReport =>
      unfold enqueueRealtimeCommand
      dsimp only
      split
      · exact same
      · exact tells_of_more rfl rfl rfl rfl id id (fun _ => rfl) fun _ => rfl
  | statusReportLegacy =>
      unfold enqueueRealtimeCommand
      dsimp only
      split
      · exact tells_of_more rfl rfl rfl rfl id id (fun _ => rfl) fun _ => rfl
      · exact same
  | mpgModeToggle =>
      unfold enqueueRealtimeCommand
      dsimp only
      split
      · exact tells_enqueueTask s _
      · exact same
  | autoReportingToggle =>
      unfold enqueueRealtimeCommand
      dsimp only
      split
      · next interval =>
          exact tells_of_more rfl rfl rfl rfl id id id fun none => absurd none interval
      · exact same
  | _ => exact tells_of_eq rfl rfl rfl rfl rfl rfl rfl

theorem tells_byte (s : Controller) (port : Port) (c : Char) : Tells s (s.byte port c) := by
  have same : Tells s s := tells_of_eq rfl rfl rfl rfl rfl rfl rfl
  unfold byte enqueueKeycode
  repeat' split
  all_goals first
    | exact same
    | exact tells_enqueueRealtimeCommand s _
    | exact tells_of_eq rfl rfl rfl rfl rfl rfl rfl
    | refine Tells.trans ?_ (tells_enqueueTask _ _)
      exact tells_of_eq rfl rfl rfl rfl rfl rfl rfl

/-- A new mode is flagged and a report is requested. -/
theorem tells_mpgEnable (outside : s.phase.isReport = false) (on : Bool) :
    Tells s (s.mpgEnable on) := by
  unfold mpgEnable
  dsimp only
  split
  · exact tells_enqueueRealtimeCommand s _
  · let s₁ := if on then s.switchOn else s.switchOff
    have switched : Tells s s₁ := by
      unfold s₁ switchOn switchOff
      repeat' split
      all_goals exact tells_of_eq rfl rfl rfl rfl rfl rfl rfl
    let s₂ : Controller := { s₁ with mpgMode := on, report.mpgMode := true }
    let command : RealtimeCommand := if on then .statusReportAll else .statusReport
    have more := tells_enqueueRealtimeCommand s₂ command
    have requested : s₁.autoReporting = false →
        (s₂.enqueueRealtimeCommand command).statusReport = true := by
      intro auto
      cases on with
      | true => rfl
      | false =>
          have auto : s₂.autoReporting = false := auto
          simp only [command, enqueueRealtimeCommand, auto]
          rfl
    refine switched.trans ?_
    exact {
      settings := more.settings
      phase := more.phase
      accessories := more.accessories
      mode := .inr ⟨by rw [switched.phase]; exact outside, more.modeFlag rfl,
        fun _ auto => requested auto⟩
      accessoriesFlag := more.accessoriesFlag
      modeFlag := fun _ => more.modeFlag rfl
      request := more.request
      auto := more.auto }

theorem tells_planFeedOverride (s : Controller) (feed rapid : Nat) :
    Tells s (s.planFeedOverride feed rapid) := by
  unfold planFeedOverride
  dsimp only
  repeat' split
  · exact tells_of_eq rfl rfl rfl rfl rfl rfl rfl
  · exact tells_of_more rfl rfl rfl rfl id id id fun _ => rfl
  · exact tells_of_eq rfl rfl rfl rfl rfl rfl rfl

/-- New accessories with a flag. -/
theorem tells_of_flagged (outside : s.phase.isReport = false)
    (settings : s'.settings = s.settings) (phase : s'.phase = s.phase)
    (mode : s'.mpgMode = s.mpgMode) (flag : s'.report.tellsAccessories = true)
    (modeFlag : s'.report.mpgMode = s.report.mpgMode)
    (request : s'.statusReport = s.statusReport)
    (auto : s'.autoReporting = s.autoReporting) : Tells s s' where
  settings := settings
  phase := phase
  accessories := .inr ⟨outside, flag⟩
  mode := .inl mode
  accessoriesFlag _ := flag
  modeFlag := by rw [modeFlag]; exact id
  request := by rw [request]; exact id
  auto _ := auto

theorem tells_spindleSetState (outside : s.phase.isReport = false) (on ccw : Bool) :
    Tells s (s.spindleSetState on ccw) := by
  unfold spindleSetState
  split
  · exact tells_of_eq rfl rfl rfl rfl rfl rfl rfl
  · exact tells_of_flagged outside rfl rfl rfl rfl rfl rfl rfl

theorem tells_spindleSetOverride (outside : s.phase.isReport = false) (percent : Nat) :
    Tells s (s.spindleSetOverride percent) := by
  have same : Tells s s := tells_of_eq rfl rfl rfl rfl rfl rfl rfl
  unfold spindleSetOverride
  dsimp only
  split
  · exact same
  · split
    · let s₁ : Controller := { s with
        overrides.spindle := constrain percent minOverride maxOverride }
      have first : Tells s s₁ := tells_of_eq rfl rfl rfl rfl rfl rfl rfl
      let s₂ := if s₁.machine.state = .idle then
        s₁.spindleSetState s₁.modal.spindleOn s₁.modal.spindleCcw else s₁
      have second : Tells s s₂ := by
        unfold s₂
        split
        · exact first.trans (tells_spindleSetState (s := s₁) outside _ _)
        · exact first
      exact second.trans (tells_of_more rfl rfl rfl rfl id id id fun _ => rfl)
    · exact same

theorem tells_coolantSetState (outside : s.phase.isReport = false) (flood mist : Bool) :
    Tells s (s.coolantSetState flood mist) := by
  unfold coolantSetState
  split
  · exact tells_of_eq rfl rfl rfl rfl rfl rfl rfl
  · refine tells_of_flagged outside rfl rfl rfl ?_ rfl rfl rfl
    simp [ReportFlags.tellsAccessories]

theorem tells_applyCoolant (outside : s.phase.isReport = false) (coolant : Accessories) :
    Tells s (s.applyCoolant coolant) := by
  unfold applyCoolant
  split
  · exact (tells_coolantSetState outside _ _).trans (tells_of_eq rfl rfl rfl rfl rfl rfl rfl)
  · exact tells_of_eq rfl rfl rfl rfl rfl rfl rfl

theorem tells_overrideControl (outside : s.phase.isReport = false)
    (feedRateDisable rpmDisable : Bool) :
    Tells s (s.overrideControl feedRateDisable rpmDisable) := by
  let s₁ : Controller := { s with overrideDisable := rpmDisable }
  have first : Tells s s₁ := tells_of_eq rfl rfl rfl rfl rfl rfl rfl
  let s₂ := if feedRateDisable then s₁.planFeedOverride 0 0 else s₁
  have second : Tells s s₂ := by
    unfold s₂
    split
    · exact first.trans (tells_planFeedOverride s₁ 0 0)
    · exact first
  have whole : s.overrideControl feedRateDisable rpmDisable =
      if rpmDisable then s₂.spindleSetOverride 100 else s₂ := rfl
  rw [whole]
  split
  · exact second.trans (tells_spindleSetOverride (by rw [second.phase]; exact outside) 100)
  · exact second

theorem tells_programEnd (outside : s.phase.isReport = false)
    (restoreOverrides checkMode : Bool) : Tells s (s.programEnd restoreOverrides checkMode) := by
  cases checkMode with
  | true => exact tells_of_eq rfl rfl rfl rfl rfl rfl rfl
  | false => exact tells_of_flagged outside rfl rfl rfl rfl rfl rfl rfl

/-- The lines that a step sends to the panel. -/
def lines (s : Controller) : ExecEvent → List (List Char)
  | .foreground =>
      match s.phase with
      | .reporting report _ => [s.statusLine report]
      | _ => []
  | _ => []

/-- A report can be read. -/
def Legible (s : Controller) (e : ExecEvent) : Prop :=
  ∀ line ∈ s.lines e, Readable s.settings s.machine s.report.cycleStart ∧
    line.length < maxBlockLength

/-- A direct call of the spindle's driver leaves the spindle as it is. What the retraction for
parking switches off has been off, and so has, outside the MPG mode, what a reset switches off. Flags
that such a reset clears have not been set. -/
def Announced (s : Controller) : ExecEvent → Prop
  | .spindleDirect on ccw =>
      on = s.accessories.spindleOn ∧ (on = true → ccw = s.accessories.spindleCcw)
  | .parkingRetract keepCoolantOn =>
      s.accessories.spindleOn = false ∧
        (keepCoolantOn = true ∨ s.accessories.flood = false ∧ s.accessories.mist = false)
  | .reset =>
      s.mpgMode = true ∨ s.accessories.off ∧ s.report.tellsAccessories = false ∧
        s.report.mpgMode = false
  | _ => True

/-- The panel agrees with the controller on what is not flagged. Without automatic reports it
agrees on the mode unless a report is on its way. -/
structure Informed (s : Controller) (panel : Comm.State) : Prop where
  named : Comm.Named panel.data.toGrblData
  accessories : s.pending.tellsAccessories = false →
    panel.data.accessories = s.accessories.withDirection
  mode : s.pending.mpgMode = false → panel.data.mpgMode = s.mpgMode
  manual : s.settings.reportInterval = 0 → s.autoReporting = false ∧
    (panel.data.mpgMode = s.mpgMode ∨ s.statusReport = true ∨ s.phase.isReport = true)

variable {panel : Comm.State}

theorem pending_eq (outside : s.phase.isReport = false) : s.pending = s.report := by
  unfold pending
  split
  · next phase =>
      rw [phase] at outside
      cases outside
  · rfl

/-- The flags of the next report are only added to. -/
theorem Tells.pending (tells : Tells s s') {f : ReportFlags → Bool}
    (more : f s.report = true → f s'.report = true) (none : f s'.pending = false) :
    f s.pending = false := by
  unfold Controller.pending at none ⊢
  rw [tells.phase] at none
  split at none
  · exact none
  · rw [Bool.eq_false_iff] at none ⊢
    exact fun set => none (more set)

theorem Informed.tells (informed : Informed s panel) (tells : Tells s s') :
    Informed s' panel where
  named := informed.named
  accessories none := by
    obtain same | ⟨outside, flag⟩ := tells.accessories
    · rw [same]
      exact informed.accessories (tells.pending tells.accessoriesFlag none)
    · rw [pending_eq (by rw [tells.phase]; exact outside), flag] at none
      cases none
  mode none := by
    obtain same | ⟨outside, flag, -⟩ := tells.mode
    · rw [same]
      exact informed.mode (tells.pending (f := ReportFlags.mpgMode) tells.modeFlag none)
    · rw [pending_eq (by rw [tells.phase]; exact outside), flag] at none
      cases none
  manual interval := by
    rw [tells.settings] at interval
    obtain ⟨auto, told⟩ := informed.manual interval
    refine ⟨(tells.auto interval).trans auto, ?_⟩
    rw [tells.phase]
    obtain same | ⟨-, -, request⟩ := tells.mode
    · rw [same]
      exact told.imp_right (Or.imp_left tells.request)
    · exact .inr (.inl (request interval auto))

/-- Another phase that has nothing to do with reports, and other buffers. -/
theorem Informed.goes (informed : Informed s panel) (outside : s.phase.isReport = false)
    (outside' : s'.phase.isReport = false) (settings : s'.settings = s.settings)
    (accessories : s'.accessories = s.accessories) (mode : s'.mpgMode = s.mpgMode)
    (report : s'.report = s.report) (request : s'.statusReport = s.statusReport)
    (auto : s'.autoReporting = s.autoReporting) : Informed s' panel where
  named := informed.named
  accessories := by
    rw [pending_eq outside', report, ← pending_eq outside, accessories]
    exact informed.accessories
  mode := by
    rw [pending_eq outside', report, ← pending_eq outside, mode]
    exact informed.mode
  manual := by
    rw [settings, mode, request, auto, outside'.trans outside.symm]
    exact informed.manual

/-- An operation and then another phase. -/
theorem Informed.does (informed : Informed s panel) (tells : Tells s s')
    (outside : s.phase.isReport = false) {next : Phase} (outside' : next.isReport = false) :
    Informed { s' with phase := next } panel :=
  (informed.tells tells).goes (by rw [tells.phase]; exact outside) outside' rfl rfl rfl rfl rfl rfl

theorem Informed.processKeypress (informed : Informed s panel) (outside : s.phase.isReport = false)
    (c : Char) : Informed (s.processKeypress c) panel := by
  unfold Controller.processKeypress
  split
  · exact informed.goes outside rfl rfl rfl rfl rfl rfl rfl
  · split
    · exact informed.does (tells_mpgEnable outside _) outside rfl
    all_goals exact informed.goes outside rfl rfl rfl rfl rfl rfl rfl

theorem Informed.execute (informed : Informed s panel) (outside : s.phase.isReport = false)
    (task : Task) : Informed (s.execute task) panel := by
  cases task with
  | processKeypress =>
      refine informed.goes outside ?_ rfl rfl rfl rfl rfl rfl
      simp only [Controller.execute, getKeycode]
      split <;> rfl
  | setMode on => exact informed.does (tells_mpgEnable outside on) outside rfl
  | plugin => exact informed.goes outside rfl rfl rfl rfl rfl rfl rfl

theorem Informed.accessOverrides (informed : Informed s panel) (outside : s.phase.isReport = false)
    (command : RealtimeCommand) (access : Ring.Access overrideBufsize) (caller : Caller) :
    Informed (s.accessOverrides command access caller) panel := by
  have goesOn (after : Option (Ring.Access overrideBufsize)) :
      (after.elim caller.phase fun access => Phase.enqueue command access caller).isReport =
        false := by
    cases after with
    | none => cases caller <;> rfl
    | some access => rfl
  cases command with
  | feed | spindle | coolant => exact informed.goes outside (goesOn _) rfl rfl rfl rfl rfl rfl
  | _ => exact informed.goes outside (goesOn none) rfl rfl rfl rfl rfl rfl

/-- The flags that the report is written with. -/
def written (s : Controller) (report : ReportFlags) : ReportFlags :=
  (s.reporter.refresh s.settings s.machine report s.accessories).1

/-- The report tells of everything that is flagged. -/
theorem hasAccessories_written (s : Controller) (report : ReportFlags)
    (flag : report.tellsAccessories = true) :
    hasAccessories s.machine (s.written report) = true := by
  simp only [ReportFlags.tellsAccessories, Bool.or_eq_true] at flag
  simp only [written, Reporter.refresh, hasAccessories]
  repeat' split
  all_goals
    simp only [Bool.or_eq_true]
    tauto

theorem mpgMode_written (s : Controller) (report : ReportFlags) :
    (s.written report).mpgMode = report.mpgMode := by
  simp only [written, Reporter.refresh]
  repeat' split
  all_goals rfl

/-- The limits at power-up. -/
theorem limited_initial {settings : ReportSettings} {canDisableRx mistControl legacy : Bool}
    {machine : Machine} :
    (initial settings canDisableRx mistControl legacy machine).commanding.Limited
      [0, 25, 50, 100] :=
  ⟨withinLimits_hundred, .tail _ (.tail _ (.tail _ (.head _))), withinLimits_hundred, nofun⟩

theorem limited_kept (limited : s.commanding.Limited [0, 25, 50, 100]) (e : ExecEvent) :
    (s.step e).commanding.Limited [0, 25, 50, 100] :=
  limited_step (List.subset_cons_self 0 _) (fun _ => .head _) limited

/-- The overrides have few digits. -/
theorem small_of_limited (limited : s.commanding.Limited [0, 25, 50, 100]) :
    s.overrides.Small := by
  have feed : WithinLimits s.overrides.feedRate := limited.feed
  have rapid : s.overrides.rapidRate ∈ [0, 25, 50, 100] := limited.rapid
  have spindle : WithinLimits s.overrides.spindle := limited.spindle
  simp only [List.mem_cons, List.not_mem_nil, or_false] at rapid
  refine ⟨?_, ?_, ?_⟩
  · exact feed.2.trans_lt (by decide)
  · omega
  · exact spindle.2.trans_lt (by decide)

/-- The panel holds what the controller has written. -/
def Reads (s : Controller) (report : ReportFlags) (old new : Comm.Data) : Prop :=
  Shown s.settings s.machine (s.written report)
    (s.reporter.refresh s.settings s.machine report s.accessories).2.probing s.accessories
    s.overrides s.mpgMode s.report.cycleStart old new

theorem lines_reporting {report : ReportFlags} {tasks : Bool}
    (phase : s.phase = .reporting report tasks) :
    s.lines .foreground = [s.statusLine report] := by
  unfold lines
  rw [phase]

theorem callback_statusLine {report : ReportFlags} {tasks : Bool}
    (phase : s.phase = .reporting report tasks) (small : s.overrides.Small)
    (legible : Legible s .foreground) (named : Comm.Named panel.data.toGrblData) :
    ∃ panel', Comm.callback (s.statusLine report) panel = some panel' ∧
      Comm.Named panel'.data.toGrblData ∧ Reads s report panel.data panel'.data := by
  obtain ⟨readable, fits⟩ := legible (s.statusLine report) (by simp [lines_reporting phase])
  exact callback_statusText (s.written report) _ _ _ _ readable small fits named

/-- A report is read, and from it the panel learns all that has been flagged. -/
theorem Informed.reported (informed : Informed s panel) {report : ReportFlags} {tasks : Bool}
    (phase : s.phase = .reporting report tasks) (small : s.overrides.Small)
    (legible : Legible s .foreground) :
    ∃ panel', Comm.callback (s.statusLine report) panel = some panel' ∧
      Informed s.foreground panel' := by
  have pending : s.pending = report := by
    unfold Controller.pending
    rw [phase]
  obtain ⟨panel', read, named, shown⟩ :=
    callback_statusLine phase small legible informed.named
  have accessories : panel'.data.accessories = s.accessories.withDirection := by
    refine shown.accessories.trans (ite_eq_left_iff.mpr fun absent => ?_)
    apply informed.accessories
    rw [pending, Bool.eq_false_iff]
    exact fun flag => absent (s.hasAccessories_written report flag)
  have mode : panel'.data.mpgMode = s.mpgMode := by
    refine shown.mode.trans (ite_eq_left_iff.mpr fun absent => ?_)
    rw [mpgMode_written, Bool.not_eq_true] at absent
    apply informed.mode
    rw [pending, absent]
  have after : s.foreground =
      { s.afterReport report with phase := if tasks then .tasks else .feedOverride } := by
    unfold foreground
    rw [phase]
  refine ⟨panel', read, ?_⟩
  rw [after]
  exact {
    named := named
    accessories := fun _ => accessories
    mode := fun _ => mode
    manual := fun interval => ⟨(informed.manual interval).1, .inl mode⟩ }

/-- A report begins, and the request has been taken. -/
theorem Informed.begins (informed : Informed s panel) (outside : s.phase.isReport = false)
    (tasks rtCommand : Bool) :
    Informed { s with
      statusReport := false
      rtCommand := rtCommand
      phase := .report tasks } panel where
  named := informed.named
  accessories := by
    have accessories := informed.accessories
    rw [pending_eq outside] at accessories
    exact accessories
  mode := by
    have mode := informed.mode
    rw [pending_eq outside] at mode
    exact mode
  manual interval := ⟨(informed.manual interval).1, .inr (.inr rfl)⟩

/-- In the other phases nothing is sent. -/
theorem Informed.foreground (informed : Informed s panel)
    (silent : ∀ report tasks, s.phase ≠ .reporting report tasks) :
    Informed s.foreground panel := by
  cases phase : s.phase with
  | reporting report tasks => exact absurd phase (silent report tasks)
  | report tasks =>
      unfold Controller.foreground
      rw [phase]
      have pending : s.pending = s.report := by
        unfold Controller.pending
        rw [phase]
      exact {
        named := informed.named
        accessories := pending ▸ informed.accessories
        mode := pending ▸ informed.mode
        manual := fun interval => ⟨(informed.manual interval).1, .inr (.inr rfl)⟩ }
  | rest =>
      have outside : s.phase.isReport = false := by rw [phase]; rfl
      unfold Controller.foreground
      rw [phase]
      dsimp only
      split
      · cases requested : s.statusReport with
        | true => exact informed.begins outside _ _
        | false => exact informed.goes outside rfl rfl rfl rfl rfl requested.symm rfl
      · exact informed.goes outside rfl rfl rfl rfl rfl rfl rfl
  | tasks =>
      have outside : s.phase.isReport = false := by rw [phase]; rfl
      unfold Controller.foreground
      rw [phase]
      dsimp only
      split
      · exact informed.goes outside rfl rfl rfl rfl rfl rfl rfl
      · exact informed.execute outside _
  | keycode c bptr =>
      have outside : s.phase.isReport = false := by rw [phase]; rfl
      let s' : Controller := { s with keybuf.tail := bptr }
      have informed' : Informed s' panel := informed.goes outside outside rfl rfl rfl rfl rfl rfl
      rw [foreground_keycode phase]
      exact informed'.processKeypress outside c
  | enqueue command access caller =>
      have outside : s.phase.isReport = false := by rw [phase]; rfl
      rw [foreground_enqueue phase]
      exact informed.accessOverrides outside command access caller
  | feedLoop command feed rapid =>
      have outside : s.phase.isReport = false := by rw [phase]; rfl
      unfold Controller.foreground
      rw [phase]
      dsimp only
      split
      · exact informed.does (s.tells_planFeedOverride _ _) outside rfl
      · exact informed.goes outside rfl rfl rfl rfl rfl rfl rfl
  | spindleLoop command percent =>
      have outside : s.phase.isReport = false := by rw [phase]; rfl
      unfold Controller.foreground
      rw [phase]
      dsimp only
      split
      · exact informed.does (tells_spindleSetOverride outside _) outside rfl
      · exact informed.goes outside rfl rfl rfl rfl rfl rfl rfl
  | coolantLoop command coolant =>
      have outside : s.phase.isReport = false := by rw [phase]; rfl
      unfold Controller.foreground
      rw [phase]
      dsimp only
      split
      · exact informed.does (tells_applyCoolant outside _) outside rfl
      · exact informed.goes outside rfl rfl rfl rfl rfl rfl rfl
  | release | feedOverride | spindleOverride | coolantOverride =>
      have outside : s.phase.isReport = false := by rw [phase]; rfl
      unfold Controller.foreground
      rw [phase]
      dsimp only
      repeat' split
      all_goals exact informed.goes outside rfl rfl rfl rfl rfl rfl rfl

/-- What a reset clears before it requests a report. -/
theorem reset_eq (s : Controller) : ∃ s' : Controller,
    s.reset = s'.enqueueRealtimeCommand
      (if s'.mpgMode then .statusReportAll else .statusReport) ∧
    s'.settings = s.settings ∧ s'.phase = s.phase ∧ s'.mpgMode = s.mpgMode ∧
    s'.accessories = {} ∧ s'.report = {} ∧
    s'.autoReporting = (s'.settings.reportInterval != 0) :=
  ⟨_, rfl, rfl, rfl, rfl, rfl, rfl, rfl⟩

/-- Either the report that a reset requests tells of everything, or there is nothing to tell. -/
theorem Informed.reset (informed : Informed s panel) (outside : s.phase.isReport = false)
    (announced : Announced s .reset) : Informed s.reset panel := by
  obtain ⟨s', eq, settings, phase, mode, accessories, report, auto⟩ := s.reset_eq
  have manual (interval : s'.settings.reportInterval = 0) : s'.autoReporting = false := by
    rw [auto, interval]
    rfl
  rw [eq]
  rw [← phase] at outside
  cases on : s'.mpgMode with
  | true =>
      let all : Controller :=
        { s' with report := s'.report.addAll s'.machine.var5399, statusReport := true }
      have pending : all.pending = s'.report.addAll s'.machine.var5399 := pending_eq outside
      show Informed all panel
      exact {
        named := informed.named
        accessories := by rw [pending]; nofun
        mode := by rw [pending]; nofun
        manual := fun interval => ⟨manual interval, .inr (.inl rfl)⟩ }
  | false =>
      rw [mode] at on
      obtain mpg | ⟨off, accessoriesFlag, modeFlag⟩ := announced
      · rw [on] at mpg
        cases mpg
      · rw [phase] at outside
        rw [← pending_eq outside] at accessoriesFlag modeFlag
        have knows : panel.data.accessories = s'.accessories.withDirection := by
          rw [informed.accessories accessoriesFlag, Accessories.withDirection_of_off off,
            accessories]
          rfl
        have agrees : panel.data.mpgMode = s'.mpgMode := by
          rw [informed.mode modeFlag, mode]
        have clear : Informed s' panel :=
          ⟨informed.named, fun _ => knows, fun _ => agrees,
            fun interval => ⟨manual interval, .inl agrees⟩⟩
        exact clear.tells (s'.tells_enqueueRealtimeCommand .statusReport)

theorem Informed.step (informed : Informed s panel) {e : ExecEvent} (other : e ≠ .foreground)
    (announced : Announced s e) : Informed (s.step e) panel := by
  have otherwise {s' : Controller} (outcome : s.phase.isReport = false → Informed s' panel) :
      Informed (s.otherwise s') panel := by
    obtain ⟨phase, eq⟩ | eq := s.otherwise_cases s'
    · rw [eq]
      apply outcome
      obtain phase | phase := phase <;> rw [phase] <;> rfl
    · rw [eq]
      exact informed
  cases e with
  | foreground => exact absurd rfl other
  | byte port c => exact informed.tells (s.tells_byte port c)
  | task => exact informed.tells (s.tells_enqueueTask _)
  | machine => exact informed.tells (tells_of_eq rfl rfl rfl rfl rfl rfl rfl)
  | requestReport =>
      exact informed.tells (tells_of_more rfl rfl rfl rfl id id (fun _ => rfl) fun _ => rfl)
  | interpreter | control | syncMotion | overrideDelay =>
      exact otherwise fun _ => informed.tells (tells_of_eq rfl rfl rfl rfl rfl rfl rfl)
  | flag flags =>
      refine otherwise fun _ => informed.tells (tells_of_more rfl rfl rfl rfl ?_ ?_ id fun _ => rfl)
      · simp only [ReportFlags.tellsAccessories, ReportFlags.add, Bool.or_eq_true]
        tauto
      · intro set
        simp only [ReportFlags.add, set, Bool.true_or]
  | spindleSetState on ccw =>
      exact otherwise fun outside => informed.tells (tells_spindleSetState outside on ccw)
  | coolantSetState flood mist =>
      exact otherwise fun outside => informed.tells (tells_coolantSetState outside flood mist)
  | allOff coolant =>
      exact otherwise fun outside =>
        informed.tells (tells_of_flagged outside rfl rfl rfl rfl rfl rfl rfl)
  | programEnd restore checkMode =>
      exact otherwise fun outside => informed.tells (tells_programEnd outside restore checkMode)
  | overrideControl feedRateDisable rpmDisable =>
      exact otherwise fun outside =>
        informed.tells (tells_overrideControl outside feedRateDisable rpmDisable)
  | stop =>
      exact otherwise fun outside =>
        informed.tells (tells_of_flagged outside rfl rfl rfl rfl rfl rfl rfl)
  | enqueueOverride command =>
      exact otherwise fun outside => informed.goes outside rfl rfl rfl rfl rfl rfl rfl
  | spindleDirect on ccw =>
      refine otherwise fun outside => ?_
      have same : ({ s.accessories with
          spindleOn := on
          spindleCcw := on && ccw } : Accessories).withDirection =
            s.accessories.withDirection := by
        obtain ⟨rfl, direction⟩ := announced
        cases spindle : s.accessories.spindleOn with
        | false => simp [Accessories.withDirection, spindle]
        | true => simp [Accessories.withDirection, spindle, direction spindle]
      exact {
        named := informed.named
        accessories := fun none => (informed.accessories none).trans same.symm
        mode := informed.mode
        manual := informed.manual }
  | parkingRetract keepCoolantOn =>
      refine otherwise fun outside => ?_
      have same : ({
          flood := s.accessories.flood && keepCoolantOn
          mist := s.accessories.mist && keepCoolantOn } : Accessories).withDirection =
            s.accessories.withDirection := by
        obtain ⟨spindle, rfl | ⟨flood, mist⟩⟩ := announced
        · simp [Accessories.withDirection, spindle]
        · simp [Accessories.withDirection, spindle, flood, mist]
      exact {
        named := informed.named
        accessories := fun none => (informed.accessories none).trans same.symm
        mode := informed.mode
        manual := informed.manual }
  | reset => exact otherwise fun outside => informed.reset outside announced

/-- The panel receives a line after the other. -/
def receive (panel : Comm.State) (line : List Char) : Option Comm.State := Comm.callback line panel

theorem lines_eq_nil {e : ExecEvent}
    (silent : e = .foreground → ∀ report tasks, s.phase ≠ .reporting report tasks) :
    s.lines e = [] := by
  cases e with
  | foreground =>
      unfold lines
      dsimp only
      split
      · next report tasks phase => exact absurd phase (silent rfl report tasks)
      · rfl
  | _ => rfl

/-- The pendant's key for the MPG mode, and the main program until it has been reported. -/
def toggled : List ExecEvent := .byte .mpg '\x8b' :: List.replicate 14 .foreground

/-- Reports of a controller without plugins that are short enough. -/
theorem legible_of_none {start : Controller} {es : List ExecEvent}
    (short : Always step (fun s e => s.machine.plugins = [] ∧
      (pinLetters s.settings s.machine s.report.cycleStart).length ≤ 9 ∧
        ∀ line ∈ s.lines e, line.length < maxBlockLength) start es) :
    Always step Legible start es := by
  apply short.mono
  rintro s e ⟨empty, room, fits⟩ line member
  refine ⟨⟨room, ?_⟩, fits line member⟩
  rw [empty]
  nofun

/-- The panel reads every report of every run: afterwards it holds what the controller has
written. -/
theorem reports_read (settings : ReportSettings)
    (canDisableRx mistControl legacyRtCommands : Bool) (machine : Machine) (es : List ExecEvent)
    (report : ReportFlags) (tasks : Bool) :
    let start := initial settings canDisableRx mistControl legacyRtCommands machine
    let s := run step start es
    Always step Legible start (es ++ [.foreground]) → s.phase = .reporting report tasks →
      ∃ old new, (trace step lines start es).foldlM receive {} = some old ∧
        receive old (s.statusLine report) = some new ∧ Reads s report old.data new.data := by
  intro start s steps phase
  obtain ⟨before, last⟩ := (always_append _ _ _ _).mp steps
  let I (s : Controller) (panel : Comm.State) : Prop :=
    s.commanding.Limited [0, 25, 50, 100] ∧ Comm.Named panel.data.toGrblData
  have kept ⦃s : Controller⦄ ⦃e : ExecEvent⦄ ⦃panel : Comm.State⦄ (before : I s panel)
      (legible : Legible s e) :
      ∃ panel', (s.lines e).foldlM receive panel = some panel' ∧ I (s.step e) panel' := by
    obtain ⟨limited, named⟩ := before
    have limited' := limited_kept limited e
    by_cases report : e = .foreground ∧ ∃ report tasks, s.phase = .reporting report tasks
    · obtain ⟨rfl, report, tasks, phase⟩ := report
      obtain ⟨panel', read, named, -⟩ :=
        callback_statusLine phase (small_of_limited limited) legible named
      refine ⟨panel', ?_, limited', named⟩
      rw [lines_reporting phase, List.foldlM_cons, receive, read]
      rfl
    · refine ⟨panel, ?_, limited', named⟩
      rw [lines_eq_nil fun is flags tasks phase => report ⟨is, flags, tasks, phase⟩]
      rfl
  have first : I start {} := ⟨limited_initial, .inr ⟨rfl, rfl⟩⟩
  obtain ⟨old, received, limited, named⟩ := trace_foldlM kept first before
  obtain ⟨new, read, -, reads⟩ :=
    callback_statusLine phase (small_of_limited limited) last.1 named
  exact ⟨old, new, received, read, reads⟩

theorem reports_read_toggled :
    let s := run step (initial {} true true true standing) (toggled.take 11)
    let report := ReportFlags.addAll { mpgMode := true } (-2)
    ∃ old new, (trace step lines (initial {} true true true standing)
        (toggled.take 11)).foldlM receive {} = some old ∧
      receive old (s.statusLine report) = some new ∧ Reads s report old.data new.data := by
  refine reports_read {} true true true standing (toggled.take 11) _ false ?_ (by decide +kernel)
  exact legible_of_none (by decide +kernel)

end Controller

end Cnc
