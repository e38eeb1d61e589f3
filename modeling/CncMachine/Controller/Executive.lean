import CncMachine.Controller.Overrides
import CncMachine.Queue.Ring

/-!
# The realtime executive

Bytes arrive by interrupt on two ports, that of the host and that of the pendant. In MPG mode the
controller reads its commands from the pendant's port, which at other times is a keypad. The
interrupt handlers put override commands, keycodes and tasks into ring buffers and set flags;
`protocol_exec_rt_system` takes them out again and writes the status reports. It can be
interrupted between any two of its accesses to these buffers and flags, so it is a machine of
several phases. The main program, too, puts override commands into their buffers: for a key, to
stop a laser in a hold, and in plugins. It can be interrupted there by the handler of the other port
that writes to the same buffer.

Motion, the state machine and the g-code interpreter are not modelled: they change the machine, the
accessories and the settings of the overrides in any order and at any time that the source allows.
A change of the MPG mode is one step. Tool changes are left out: they suspend the stream and replace
the handler of its bytes (`stream_rx_suspend`, `await_toolchange_ack`).
-/

namespace Cnc

/-- `OVERRIDE_BUFSIZE`. -/
abbrev overrideBufsize : Nat := 16

/-- `KEYBUF_SIZE`. -/
abbrev keybufSize : Nat := 8

/-- `RT_QUEUE_SIZE`. -/
abbrev rtQueueSize : Nat := 16

/-- The host's serial port and the one that pendant and keypad share. -/
inductive Port where
  | main
  | mpg
deriving DecidableEq, Repr

/-- `stream_type_t`, as far as it is told apart. -/
inductive StreamType where
  | serial
  | mpg
  | redirected
deriving DecidableEq, Repr

/-- The part of `io_stream_t` that is switched. A function is given by the port it belongs to. -/
structure IoStream where
  type : StreamType
  read : Port
  write : Port
  getRxBufferFree : Port
  cancelReadBuffer : Port
  resetReadBuffer : Port
deriving DecidableEq, Repr

/-- The handlers of received bytes: `keypad_enqueue_keycode` and
`protocol_enqueue_realtime_command`. -/
inductive RtHandler where
  | keypad
  | realtime
deriving DecidableEq, Repr

/-- The tasks of `realtime_queue`: `keypad_process_keypress`, `stream_mpg_set_mode` and those of
plugins. -/
inductive Task where
  | processKeypress
  | setMode (on : Bool)
  | plugin
deriving DecidableEq, Repr

/-- What calls `enqueue_feed_override` or one of its siblings in the main program. -/
inductive Caller where
  /-- `keypad_process_keypress`. -/
  | keypress
  /-- `initiate_hold` or a plugin, between the tasks and the overrides. -/
  | stateMachine
  /-- Elsewhere. -/
  | main
deriving DecidableEq

/-- Where `protocol_exec_rt_system` is. -/
inductive Phase where
  /-- Elsewhere in the main program. -/
  | rest
  /-- Before `report_realtime_status`; `tasks` if tasks are to be executed after it. -/
  | report (tasks : Bool)
  /-- In `report_realtime_status`, with its copy of the flags. -/
  | reporting (report : ReportFlags) (tasks : Bool)
  /-- At the test of the loop over the tasks. -/
  | tasks
  /-- `keypad_get_keycode` has read a key, but not yet moved the tail of the buffer. -/
  | keycode (c : Char) (bptr : Fin keybufSize)
  /-- Before an access of `enqueue_feed_override` or one of its siblings. -/
  | enqueue (command : RealtimeCommand) (access : Ring.Access overrideBufsize) (caller : Caller)
  /-- A task has been called and still takes its place in the queue. -/
  | release
  | feedOverride
  | feedLoop (command : FeedCommand) (feed rapid : Nat)
  | spindleOverride
  | spindleLoop (command : SpindleCommand) (percent : Nat)
  | coolantOverride
  | coolantLoop (command : CoolantCommand) (coolant : Accessories)
deriving DecidableEq

/-- Where the main program goes on. -/
def Caller.phase : Caller → Phase
  | .keypress => .release
  | .stateMachine => .feedOverride
  | .main => .rest

/-- `sys.override_delay`. -/
structure OverrideDelay where
  feedrate : Bool := false
  spindle : Bool := false
  coolant : Bool := false
deriving DecidableEq

structure Controller where
  settings : ReportSettings := {}
  legacyRtCommands : Bool := true
  /-- The host's port has a function `disable_rx`. -/
  canDisableRx : Bool := true
  mistControl : Bool := true
  machine : Machine
  keepRtCommands : Bool := false
  /-- `gc_state.file_run`. -/
  fileRun : Bool := false
  /-- `ABORTED`. -/
  aborted : Bool := false
  /-- `hal.stream`. -/
  stream : IoStream
  orgStream : IoStream
  mpgHandler : RtHandler := .keypad
  receives : Port → Bool := fun _ => true
  /-- `sys.mpg_mode`. -/
  mpgMode : Bool := false
  autoReporting : Bool := false
  keybuf : Ring.Buffer keybufSize Char
  realtimeQueue : Ring.Buffer rtQueueSize Task
  feed : Ring.Buffer overrideBufsize FeedCommand
  spindle : Ring.Buffer overrideBufsize SpindleCommand
  coolant : Ring.Buffer overrideBufsize CoolantCommand
  overrides : Overrides := {}
  /-- `sys.override.control.feed_rate_disable`. -/
  feedRateDisable : Bool := false
  /-- `spindle->param->state.override_disable`. -/
  overrideDisable : Bool := false
  overrideDelay : OverrideDelay := {}
  /-- What the driver has been told about spindle and coolant. -/
  accessories : Accessories := {}
  /-- `gc_state.modal.spindle.state` and `gc_state.modal.coolant`. -/
  modal : Accessories := {}
  /-- `sys.report`. -/
  report : ReportFlags := {}
  reporter : Reporter := {}
  /-- `EXEC_STATUS_REPORT` in `sys.rt_exec_state`. -/
  statusReport : Bool := false
  /-- `EXEC_RT_COMMAND` in `sys.rt_exec_state`. -/
  rtCommand : Bool := false
  phase : Phase := .rest

namespace Controller

variable (s : Controller)

/-- `protocol_enqueue_foreground_task`. -/
def enqueueTask (task : Task) : Controller :=
  if Ring.next s.realtimeQueue.head = s.realtimeQueue.tail then s
  else { s with realtimeQueue := s.realtimeQueue.push task, rtCommand := true }

/-- `protocol_enqueue_realtime_command`, without what it returns. -/
def enqueueRealtimeCommand : RealtimeCommand → Controller
  | .statusReportAll =>
      { s with report := s.report.addAll s.machine.var5399, statusReport := true }
  | .statusReport => if s.autoReporting then s else { s with statusReport := true }
  | .statusReportLegacy =>
      if !s.keepRtCommands || s.legacyRtCommands then { s with statusReport := true } else s
  | .mpgModeToggle => if s.stream.type = .mpg then s.enqueueTask (.setMode false) else s
  | .autoReportingToggle =>
      if s.settings.reportInterval ≠ 0 then { s with autoReporting := !s.autoReporting } else s
  | .feed command => { s with feed := s.feed.enqueue command }
  | .spindle command => { s with spindle := s.spindle.enqueue command }
  | .coolant command => { s with coolant := s.coolant.enqueue command }
  | .other => s

/-- `keypad_enqueue_keycode`; `CMD_JOG_CANCEL` and `ASCII_CAN` drop what is in the buffer. -/
def enqueueKeycode (c : Char) : Controller :=
  if c = '\x85' ∨ c = '\x18' then { s with keybuf := s.keybuf.flush }
  else if Ring.next s.keybuf.head = s.keybuf.tail then s
  else ({ s with keybuf := s.keybuf.push c } : Controller).enqueueTask .processKeypress

/-- The receive interrupt of a port. -/
def byte (port : Port) (c : Char) : Controller :=
  if s.receives port then
    match port, s.mpgHandler with
    | .mpg, .keypad => s.enqueueKeycode c
    | _, _ => s.enqueueRealtimeCommand (.ofChar c)
  else s

/-- Commands come from the pendant from now on. The handler of the host's port is copied. -/
def switchOn : Controller :=
  if s.orgStream.type = .redirected then
    { s with
      orgStream := s.stream
      receives := fun
        | .main => if s.canDisableRx then false else s.receives .main
        | .mpg => true
      mpgHandler := .realtime
      stream := {
        type := .mpg
        read := .mpg
        write := .mpg
        getRxBufferFree := .mpg
        cancelReadBuffer := .mpg
        resetReadBuffer := .mpg } }
  else s

/-- Commands come from the host again. -/
def switchOff : Controller :=
  if s.orgStream.type ≠ .redirected then
    { s with
      mpgHandler := .keypad
      stream := s.orgStream
      orgStream := { s.orgStream with type := .redirected }
      receives := fun
        | .main => if s.canDisableRx then true else s.receives .main
        | .mpg => s.receives .mpg }
  else s

/-- The request is denied. -/
def denies (on : Bool) : Bool :=
  on == s.mpgMode || (on && (s.fileRun || !s.machine.state.free))

/-- `stream_mpg_enable`. -/
def mpgEnable (on : Bool) : Controller :=
  if s.denies on then s.enqueueRealtimeCommand .statusReportAll
  else
    let s := if on then s.switchOn else s.switchOff
    let s := { s with mpgMode := on, report.mpgMode := true }
    s.enqueueRealtimeCommand (if on then .statusReportAll else .statusReport)

/-- `keypad_get_keycode`, as far as it reads. -/
def getKeycode : Controller :=
  { s with phase :=
      if s.keybuf.tail = s.keybuf.head then .release
      else .keycode (s.keybuf.slots s.keybuf.tail) (Ring.next s.keybuf.tail) }

/-- `keypad_process_keypress` with a key, without jogging and what the state machine handles. -/
def processKeypress (c : Char) : Controller :=
  if s.machine.state = .estop then { s with phase := .release }
  else
    match Keycode.ofChar c with
    | .mpgModeToggle => { s.mpgEnable (s.stream.type != .mpg) with phase := .release }
    | .feed command => { s with phase := .enqueue (.feed command) .test .keypress }
    | .spindle command => { s with phase := .enqueue (.spindle command) .test .keypress }
    | .coolant command => { s with phase := .enqueue (.coolant command) .test .keypress }
    | .other => { s with phase := .release }

def execute : Task → Controller
  | .processKeypress => s.getKeycode
  | .setMode on => { s.mpgEnable on with phase := .release }
  | .plugin => { s with phase := .release }

/-- One access of `enqueue_feed_override`, `enqueue_spindle_override` or
`enqueue_coolant_override`. -/
def accessOverrides (command : RealtimeCommand) (access : Ring.Access overrideBufsize)
    (caller : Caller) : Controller :=
  let goesOn (after : Option (Ring.Access overrideBufsize)) : Phase :=
    after.elim caller.phase fun access => .enqueue command access caller
  match command with
  | .feed c =>
      { s with feed := (s.feed.access c access).1, phase := goesOn (s.feed.access c access).2 }
  | .spindle c =>
      { s with
        spindle := (s.spindle.access c access).1
        phase := goesOn (s.spindle.access c access).2 }
  | .coolant c =>
      { s with
        coolant := (s.coolant.access c access).1
        phase := goesOn (s.coolant.access c access).2 }
  | _ => { s with phase := caller.phase }

/-- `plan_feed_override`. -/
def planFeedOverride (feed rapid : Nat) : Controller :=
  if s.feedRateDisable then s
  else
    let feed := constrain feed minOverride maxOverride
    if feed ≠ s.overrides.feedRate ∨ rapid ≠ s.overrides.rapidRate then
      { s with
        overrides.feedRate := feed
        overrides.rapidRate := rapid
        report.overrides := true }
    else s

/-- `spindle_set_state`. -/
def spindleSetState (on ccw : Bool) : Controller :=
  if s.aborted then s
  else
    { s with
      accessories.spindleOn := on
      accessories.spindleCcw := on && ccw
      report.spindle := true }

/-- `spindle_set_override`. -/
def spindleSetOverride (percent : Nat) : Controller :=
  if percent ≠ 100 ∧ s.overrideDisable = true then s
  else
    let percent := constrain percent minOverride maxOverride
    if percent % 256 ≠ s.overrides.spindle then
      let s := { s with overrides.spindle := percent }
      let s :=
        if s.machine.state = .idle then s.spindleSetState s.modal.spindleOn s.modal.spindleCcw
        else s
      { s with report.overrides := true }
    else s

/-- `coolant_set_state`. -/
def coolantSetState (flood mist : Bool) : Controller :=
  if s.aborted then s
  else
    { s with
      accessories.flood := flood
      accessories.mist := mist
      report.coolant := true }

/-- What follows the loop over the coolant commands. -/
def applyCoolant (coolant : Accessories) : Controller :=
  if coolant.flood ≠ s.modal.flood ∨ coolant.mist ≠ s.modal.mist then
    { s.coolantSetState coolant.flood coolant.mist with
      modal.flood := coolant.flood
      modal.mist := coolant.mist }
  else s

/-- The text that `report_realtime_status` writes with this copy of the flags. -/
def statusLine (report : ReportFlags) : List Char :=
  let (shown, reporter) := s.reporter.refresh s.settings s.machine report s.accessories
  statusText s.settings s.machine shown reporter.probing s.accessories s.overrides s.mpgMode
    s.autoReporting s.report.cycleStart

/-- The counters and the flags after the report. All flags are cleared, also those that have been
set since they were copied. -/
def afterReport (report : ReportFlags) : Controller :=
  let reporter := (s.reporter.refresh s.settings s.machine report s.accessories).2
  { s with
    reporter := reporter
    report := { wco := s.settings.workCoordOffset && reporter.wcoCounter == 0 } }

/-- One phase of `protocol_exec_rt_system`. -/
def foreground : Controller :=
  match s.phase with
  | .rest =>
      if s.statusReport || s.rtCommand then
        { s with
          statusReport := false
          rtCommand := false
          phase := if s.statusReport then .report s.rtCommand else .tasks }
      else { s with phase := .feedOverride }
  | .report tasks => { s with phase := .reporting s.report tasks }
  | .reporting report tasks =>
      { s.afterReport report with phase := if tasks then .tasks else .feedOverride }
  | .tasks =>
      if s.realtimeQueue.tail = s.realtimeQueue.head then { s with phase := .feedOverride }
      else s.execute (s.realtimeQueue.slots s.realtimeQueue.tail)
  | .keycode c bptr => ({ s with keybuf.tail := bptr } : Controller).processKeypress c
  | .enqueue command access caller => s.accessOverrides command access caller
  | .release => { s with realtimeQueue := s.realtimeQueue.pop, phase := .tasks }
  | .feedOverride =>
      if s.overrideDelay.feedrate then { s with phase := .spindleOverride }
      else
        match s.feed.dequeue with
        | (none, _) => { s with phase := .spindleOverride }
        | (some command, feed) =>
            { s with
              feed := feed
              phase := .feedLoop command s.overrides.feedRate s.overrides.rapidRate }
  | .feedLoop command feedRate rapidRate =>
      let next := command.apply feedRate rapidRate
      match s.feed.dequeue with
      | (none, _) => { s.planFeedOverride next.1 next.2 with phase := .spindleOverride }
      | (some command, feed) =>
          { s with feed := feed, phase := .feedLoop command next.1 next.2 }
  | .spindleOverride =>
      if s.overrideDelay.spindle then { s with phase := .coolantOverride }
      else
        match s.spindle.dequeue with
        | (none, _) => { s with phase := .coolantOverride }
        | (some command, spindle) =>
            { s with spindle := spindle, phase := .spindleLoop command s.overrides.spindle }
  | .spindleLoop command percent =>
      match s.spindle.dequeue with
      | (none, _) =>
          { s.spindleSetOverride (command.apply percent) with phase := .coolantOverride }
      | (some command', spindle) =>
          { s with spindle := spindle, phase := .spindleLoop command' (command.apply percent) }
  | .coolantOverride =>
      if s.overrideDelay.coolant then { s with phase := .rest }
      else
        match s.coolant.dequeue with
        | (none, _) => { s with phase := .rest }
        | (some command, coolant) =>
            { s with coolant := coolant, phase := .coolantLoop command s.modal }
  | .coolantLoop command coolantState =>
      let next := command.apply s.machine.state s.mistControl coolantState
      match s.coolant.dequeue with
      | (none, _) => { s.applyCoolant next with phase := .rest }
      | (some command, coolant) =>
          { s with coolant := coolant, phase := .coolantLoop command next }

variable {s}

theorem foreground_keycode {c : Char} {bptr : Fin keybufSize} (phase : s.phase = .keycode c bptr) :
    s.foreground = ({ s with keybuf.tail := bptr } : Controller).processKeypress c := by
  cases s
  cases phase
  rfl

theorem foreground_enqueue {command : RealtimeCommand} {access : Ring.Access overrideBufsize}
    {caller : Caller} (phase : s.phase = .enqueue command access caller) :
    s.foreground = s.accessOverrides command access caller := by
  unfold foreground
  rw [phase]

variable (s)

/-- `gc_execute_block` before it calls `mc_override_ctrl_update` (M48 to M53). -/
def overrideControl (feedRateDisable rpmDisable : Bool) : Controller :=
  let s := { s with overrideDisable := rpmDisable }
  let s := if feedRateDisable then s.planFeedOverride 0 0 else s
  if rpmDisable then s.spindleSetOverride 100 else s

/-- `spindle_all_off`, and `hal.coolant.set_state` if the coolant is switched off with it. -/
def allOff (coolant : Bool) : Controller :=
  { s with
    accessories := {
      flood := s.accessories.flood && !coolant
      mist := s.accessories.mist && !coolant }
    report.spindle := true }

/-- The end of a program (M2, M30). -/
def programEnd (restoreOverrides checkMode : Bool) : Controller :=
  let s := { s with
    modal := {}
    feedRateDisable := false
    overrideDisable := false
    overrides := if restoreOverrides then {} else s.overrides }
  if checkMode then s
  else
    { s with
      accessories := {}
      report.spindle := true
      report.coolant := true }

/-- `flush_override_buffers`. -/
def flushOverrideBuffers : Controller :=
  { s with
    feed := { s.feed with head := 0, tail := 0 }
    spindle := { s.spindle with head := 0, tail := 0 }
    coolant := { s.coolant with head := 0, tail := 0 } }

/-- `EXEC_STOP`. -/
def stop : Controller :=
  { s.flushOverrideBuffers with
    overrideDelay := {}
    modal := {}
    accessories := {}
    report.spindle := true
    report.coolant := true }

/-- A soft reset: `sys` is cleared, the stream stays as it is. -/
def reset : Controller :=
  let s := { s.flushOverrideBuffers with
    aborted := false
    autoReporting := s.settings.reportInterval != 0
    realtimeQueue := { s.realtimeQueue with head := 0, tail := 0 }
    overrides := {}
    feedRateDisable := false
    overrideDisable := false
    overrideDelay := {}
    accessories := {}
    modal := {}
    report := {}
    reporter := { s.reporter with wcoCounter := 0, overrideCounter := 0 }
    statusReport := false
    rtCommand := false }
  s.enqueueRealtimeCommand (if s.mpgMode then .statusReportAll else .statusReport)

end Controller

inductive ExecEvent where
  /-- A byte arrives. -/
  | byte (port : Port) (c : Char)
  /-- The main program goes on in `protocol_exec_rt_system`. -/
  | foreground
  /-- Motion, switches, sensors and the state machine. -/
  | machine (machine : Machine)
  /-- The interpreter and the state machine, as far as they are read here. -/
  | interpreter (keepRtCommands fileRun aborted : Bool) (modal : Accessories)
  /-- A plugin enqueues a task in an interrupt. -/
  | task
  /-- `initiate_hold` or a plugin enqueues an override command in the main program. -/
  | enqueueOverride (command : RealtimeCommand)
  /-- `system_set_exec_state_flag(EXEC_STATUS_REPORT)`. -/
  | requestReport
  /-- `system_add_rt_report` for something that this model does not change. -/
  | flag (flags : ReportFlags)
  | spindleSetState (on ccw : Bool)
  | coolantSetState (flood mist : Bool)
  | allOff (coolant : Bool)
  | programEnd (restoreOverrides checkMode : Bool)
  | overrideControl (feedRateDisable rpmDisable : Bool)
  /-- An assignment to `sys.override.control`. -/
  | control (feedRateDisable : Bool)
  /-- `init_sync_motion`. -/
  | syncMotion
  | overrideDelay (delay : OverrideDelay)
  /-- The spindle is switched without a flag: by a canned cycle that drills with the spindle off in
  the retraction (G86), for a laser that stays where it is, with new settings, by plugins. -/
  | spindleDirect (on ccw : Bool)
  /-- `state_await_waypoint_retract` switches off without a flag. -/
  | parkingRetract (keepCoolantOn : Bool)
  | stop
  | reset

namespace Controller

/-- The rest of the main program runs outside `protocol_exec_rt_system` and, as state machine and
plugins, between the tasks and the overrides. -/
def otherwise (s s' : Controller) : Controller :=
  match s.phase with
  | .rest | .feedOverride => s'
  | _ => s

def step (s : Controller) : ExecEvent → Controller
  | .byte port c => s.byte port c
  | .foreground => s.foreground
  | .machine machine => { s with machine := machine }
  | .interpreter keepRtCommands fileRun aborted modal =>
      s.otherwise { s with
        keepRtCommands := keepRtCommands
        fileRun := fileRun
        aborted := aborted
        modal := modal }
  | .task => s.enqueueTask .plugin
  | .enqueueOverride command =>
      s.otherwise { s with
        phase := .enqueue command .test (if s.phase = .rest then .main else .stateMachine) }
  | .requestReport => { s with statusReport := true }
  | .flag flags => s.otherwise { s with report := s.report.add flags }
  | .spindleSetState on ccw => s.otherwise (s.spindleSetState on ccw)
  | .coolantSetState flood mist => s.otherwise (s.coolantSetState flood mist)
  | .allOff coolant => s.otherwise (s.allOff coolant)
  | .programEnd restoreOverrides checkMode =>
      s.otherwise (s.programEnd restoreOverrides checkMode)
  | .overrideControl feedRateDisable rpmDisable =>
      s.otherwise (s.overrideControl feedRateDisable rpmDisable)
  | .control feedRateDisable => s.otherwise { s with feedRateDisable := feedRateDisable }
  | .syncMotion => s.otherwise { s with feedRateDisable := true, overrides.spindle := 100 }
  | .overrideDelay delay => s.otherwise { s with overrideDelay := delay }
  | .spindleDirect on ccw =>
      s.otherwise { s with accessories.spindleOn := on, accessories.spindleCcw := on && ccw }
  | .parkingRetract keepCoolantOn =>
      s.otherwise { s with
        accessories := {
          flood := s.accessories.flood && keepCoolantOn
          mist := s.accessories.mist && keepCoolantOn } }
  | .stop => s.otherwise s.stop
  | .reset => s.otherwise s.reset

/-- After power-up, with everything off and the host's port in use. -/
def initial (settings : ReportSettings) (canDisableRx mistControl legacyRtCommands : Bool)
    (machine : Machine) : Controller where
  settings := settings
  legacyRtCommands := legacyRtCommands
  canDisableRx := canDisableRx
  mistControl := mistControl
  machine := machine
  stream := ⟨.serial, .main, .main, .main, .main, .main⟩
  orgStream := ⟨.redirected, .main, .main, .main, .main, .main⟩
  autoReporting := settings.reportInterval != 0
  keybuf := ⟨fun _ => '\x00', 0, 0⟩
  realtimeQueue := ⟨fun _ => .plugin, 0, 0⟩
  feed := ⟨fun _ => .feedReset, 0, 0⟩
  spindle := ⟨fun _ => .reset, 0, 0⟩
  coolant := ⟨fun _ => .floodToggle, 0, 0⟩

/-- What the rest of the controller gives the executive to read. -/
structure Given where
  settings : ReportSettings
  mistControl : Bool
  machine : Machine
  feedRateDisable : Bool
  overrideDisable : Bool

variable (s : Controller)

def given : Given where
  settings := s.settings
  mistControl := s.mistControl
  machine := s.machine
  feedRateDisable := s.feedRateDisable
  overrideDisable := s.overrideDisable

@[simp] theorem given_enqueueTask (task : Task) : (s.enqueueTask task).given = s.given := by
  unfold enqueueTask
  split <;> rfl

@[simp] theorem given_enqueueRealtimeCommand (command : RealtimeCommand) :
    (s.enqueueRealtimeCommand command).given = s.given := by
  cases command <;> unfold enqueueRealtimeCommand <;> dsimp only <;> repeat' split
  all_goals first | rfl | exact s.given_enqueueTask _

@[simp] theorem given_byte (port : Port) (c : Char) : (s.byte port c).given = s.given := by
  unfold byte enqueueKeycode
  repeat' split
  all_goals first
    | rfl
    | exact given_enqueueTask _ _
    | exact s.given_enqueueRealtimeCommand _

theorem given_mpgEnable (on : Bool) : (s.mpgEnable on).given = s.given := by
  have switched : (if on then s.switchOn else s.switchOff).given = s.given := by
    unfold switchOn switchOff
    repeat' split
    all_goals rfl
  unfold mpgEnable
  dsimp only
  split
  · exact s.given_enqueueRealtimeCommand _
  · refine (given_enqueueRealtimeCommand _ _).trans ?_
    cases on <;> exact switched

theorem given_processKeypress (c : Char) : (s.processKeypress c).given = s.given := by
  unfold processKeypress
  repeat' split
  all_goals first | rfl | exact (s.given_mpgEnable _).trans rfl

theorem given_execute (task : Task) : (s.execute task).given = s.given := by
  cases task with
  | processKeypress => rfl
  | setMode on => exact (s.given_mpgEnable on).trans rfl
  | plugin => rfl

theorem given_accessOverrides (command : RealtimeCommand) (access : Ring.Access overrideBufsize)
    (caller : Caller) : (s.accessOverrides command access caller).given = s.given := by
  cases command <;> rfl

theorem given_spindleSetState (on ccw : Bool) : (s.spindleSetState on ccw).given = s.given := by
  unfold spindleSetState
  split <;> rfl

theorem given_planFeedOverride (feed rapid : Nat) :
    (s.planFeedOverride feed rapid).given = s.given := by
  unfold planFeedOverride
  dsimp only
  repeat' split
  all_goals rfl

theorem given_spindleSetOverride (percent : Nat) :
    (s.spindleSetOverride percent).given = s.given := by
  unfold spindleSetOverride
  dsimp only
  repeat' split
  all_goals first | rfl | exact (given_spindleSetState _ _ _).trans rfl

theorem given_coolantSetState (flood mist : Bool) :
    (s.coolantSetState flood mist).given = s.given := by
  unfold coolantSetState
  split <;> rfl

theorem given_applyCoolant (coolant : Accessories) : (s.applyCoolant coolant).given = s.given := by
  unfold applyCoolant
  split
  · exact (s.given_coolantSetState _ _).trans rfl
  · rfl

theorem given_foreground : s.foreground.given = s.given := by
  unfold foreground
  dsimp only
  repeat' split
  all_goals first
    | rfl
    | exact s.given_execute _
    | exact given_processKeypress _ _
    | exact s.given_accessOverrides _ _ _
    | exact (s.given_planFeedOverride _ _).trans rfl
    | exact (s.given_spindleSetOverride _).trans rfl
    | exact (s.given_applyCoolant _).trans rfl

theorem otherwise_cases (s' : Controller) :
    (s.phase = .rest ∨ s.phase = .feedOverride) ∧ s.otherwise s' = s' ∨ s.otherwise s' = s := by
  unfold otherwise
  split
  · next rest => exact .inl ⟨.inl rest, rfl⟩
  · next between => exact .inl ⟨.inr between, rfl⟩
  · exact .inr rfl

end Controller

end Cnc
