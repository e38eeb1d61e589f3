import CncMachine.Controller.Executive
import CncMachine.Transition.Run

/-!
# Who commands the controller

Entering the MPG mode hands the controller's stream over to the pendant, leaving it gives the stream
back to the host. What is switched (`Connection`) changes with the mode and with nothing else
(`connection_step`), so in every run all of it agrees with the mode.
-/

namespace Cnc

open Transition

/-- What the MPG mode switches, and the mode. -/
structure Connection where
  canDisableRx : Bool
  stream : IoStream
  orgStream : IoStream
  mpgHandler : RtHandler
  host : Bool
  pendant : Bool
  mpgMode : Bool
deriving DecidableEq

/-- A task is called, or one that handles a key goes on. -/
def Phase.inTask : Phase → Bool
  | .tasks | .keycode _ _ => true
  | _ => false

/-- The stream of the host. -/
def hostStream : IoStream := ⟨.serial, .main, .main, .main, .main, .main⟩

/-- The stream of the pendant. -/
def pendantStream : IoStream := ⟨.mpg, .mpg, .mpg, .mpg, .mpg, .mpg⟩

/-- The connection that belongs to a mode. -/
def Connection.ofMode (canDisableRx mpgMode : Bool) : Connection where
  canDisableRx := canDisableRx
  stream := if mpgMode then pendantStream else hostStream
  orgStream := if mpgMode then hostStream else { hostStream with type := .redirected }
  mpgHandler := if mpgMode then .realtime else .keypad
  host := !(canDisableRx && mpgMode)
  pendant := true
  mpgMode := mpgMode

namespace Controller

variable (s : Controller)

def connection : Connection where
  canDisableRx := s.canDisableRx
  stream := s.stream
  orgStream := s.orgStream
  mpgHandler := s.mpgHandler
  host := s.receives .main
  pendant := s.receives .mpg
  mpgMode := s.mpgMode

@[simp] theorem connection_enqueueTask (task : Task) :
    (s.enqueueTask task).connection = s.connection := by
  unfold enqueueTask
  split <;> rfl

@[simp] theorem connection_enqueueRealtimeCommand (command : RealtimeCommand) :
    (s.enqueueRealtimeCommand command).connection = s.connection := by
  cases command <;> simp only [enqueueRealtimeCommand] <;> repeat' split
  all_goals first | rfl | exact s.connection_enqueueTask _

@[simp] theorem connection_enqueueKeycode (c : Char) :
    (s.enqueueKeycode c).connection = s.connection := by
  unfold enqueueKeycode
  repeat' split
  all_goals first | rfl | exact connection_enqueueTask _ _

@[simp] theorem connection_byte (port : Port) (c : Char) :
    (s.byte port c).connection = s.connection := by
  unfold byte
  repeat' split
  all_goals first | rfl | exact s.connection_enqueueKeycode c |
    exact s.connection_enqueueRealtimeCommand _

@[simp] theorem connection_planFeedOverride (feed rapid : Nat) :
    (s.planFeedOverride feed rapid).connection = s.connection := by
  unfold planFeedOverride
  dsimp only
  repeat' split
  all_goals rfl

@[simp] theorem connection_spindleSetState (on ccw : Bool) :
    (s.spindleSetState on ccw).connection = s.connection := by
  unfold spindleSetState
  split <;> rfl

@[simp] theorem connection_spindleSetOverride (percent : Nat) :
    (s.spindleSetOverride percent).connection = s.connection := by
  unfold spindleSetOverride
  dsimp only
  repeat' split
  all_goals first | rfl | exact connection_spindleSetState _ _ _

@[simp] theorem connection_coolantSetState (flood mist : Bool) :
    (s.coolantSetState flood mist).connection = s.connection := by
  unfold coolantSetState
  split <;> rfl

@[simp] theorem connection_applyCoolant (coolant : Accessories) :
    (s.applyCoolant coolant).connection = s.connection := by
  unfold applyCoolant
  split
  · exact s.connection_coolantSetState _ _
  · rfl

@[simp] theorem connection_overrideControl (feedRateDisable rpmDisable : Bool) :
    (s.overrideControl feedRateDisable rpmDisable).connection = s.connection := by
  unfold overrideControl
  cases feedRateDisable <;> cases rpmDisable <;> simp <;> rfl

@[simp] theorem connection_programEnd (restoreOverrides checkMode : Bool) :
    (s.programEnd restoreOverrides checkMode).connection = s.connection := by
  unfold programEnd
  dsimp only
  split <;> rfl

@[simp] theorem connection_reset : s.reset.connection = s.connection :=
  (connection_enqueueRealtimeCommand _ _).trans rfl

@[simp] theorem connection_otherwise {s' : Controller} (same : s'.connection = s.connection) :
    (s.otherwise s').connection = s.connection := by
  unfold otherwise
  split
  · exact same
  · exact same
  · rfl

/-- The mode changes together with the connection, or the request is denied. -/
theorem connection_mpgEnable (on : Bool) :
    (s.mpgEnable on).connection =
      if s.denies on then s.connection
      else { (if on then s.switchOn else s.switchOff).connection with mpgMode := on } := by
  unfold mpgEnable
  split
  · exact s.connection_enqueueRealtimeCommand _
  · exact (connection_enqueueRealtimeCommand _ _).trans rfl

/-- The connection is that of the mode. -/
def Attached (canDisableRx : Bool) (s : Controller) : Prop :=
  s.connection = .ofMode canDisableRx s.mpgMode

variable {s}

variable {canDisableRx : Bool}

theorem Attached.of_eq {s' : Controller} (same : s'.connection = s.connection)
    (attached : Attached canDisableRx s) : Attached canDisableRx s' := by
  have mode : s'.mpgMode = s.mpgMode := congrArg Connection.mpgMode same
  rw [Attached, same, mode]
  exact attached

/-- A request that is not denied turns the connection of one mode into that of the other. -/
theorem Attached.mpgEnable (attached : Attached canDisableRx s) (on : Bool) :
    Attached canDisableRx (s.mpgEnable on) := by
  have connection := s.connection_mpgEnable on
  cases denied : s.denies on with
  | true =>
      rw [denied, if_pos rfl] at connection
      exact attached.of_eq connection
  | false =>
      rw [denied, if_neg Bool.false_ne_true] at connection
      have other : s.mpgMode = !on := by
        cases on <;> cases mode : s.mpgMode <;> simp_all [denies]
      simp only [Attached, Controller.connection, Connection.ofMode, Connection.mk.injEq,
        other] at attached
      obtain ⟨rx, stream, orgStream, handler, host, pendant, -⟩ := attached
      have mode : (s.mpgEnable on).mpgMode = on := congrArg Connection.mpgMode connection
      rw [Attached, connection, mode]
      cases on <;>
        simp [switchOn, switchOff, Controller.connection, Connection.ofMode, rx, stream, orgStream,
          host, pendant, hostStream, pendantStream]

/-- Two controllers that treat a request to change the mode alike. -/
structure SameRequest (s s' : Controller) : Prop where
  connection : s'.connection = s.connection
  machine : s'.machine = s.machine
  fileRun : s'.fileRun = s.fileRun

theorem connection_processKeypress (c : Char) :
    (s.processKeypress c).connection = s.connection ∨
      ∃ on, (s.processKeypress c).connection = (s.mpgEnable on).connection := by
  unfold Controller.processKeypress
  split
  · exact .inl rfl
  · split
    · exact .inr ⟨_, rfl⟩
    all_goals exact .inl rfl

theorem connection_execute (task : Task) : (s.execute task).connection = s.connection ∨
    ∃ on, (s.execute task).connection = (s.mpgEnable on).connection := by
  cases task with
  | processKeypress => exact .inl rfl
  | setMode on => exact .inr ⟨on, rfl⟩
  | plugin => exact .inl rfl

theorem connection_foreground : s.foreground.connection = s.connection ∨
    s.phase.inTask = true ∧ ∃ s' on, SameRequest s s' ∧
      s.foreground.connection = (s'.mpgEnable on).connection := by
  cases phase : s.phase with
  | tasks =>
      unfold Controller.foreground
      rw [phase]
      dsimp only
      split
      · exact .inl rfl
      · obtain same | ⟨on, request⟩ := connection_execute _
        · exact .inl same
        · exact .inr ⟨rfl, s, on, ⟨rfl, rfl, rfl⟩, request⟩
  | keycode c bptr =>
      let s' : Controller := { s with keybuf.tail := bptr }
      rw [foreground_keycode phase]
      obtain same | ⟨on, request⟩ := connection_processKeypress (s := s') c
      · exact .inl same
      · exact .inr ⟨rfl, s', on, ⟨rfl, rfl, rfl⟩, request⟩
  | enqueue command access caller =>
      left
      rw [foreground_enqueue phase]
      cases command <;> rfl
  | _ =>
      left
      unfold Controller.foreground
      rw [phase]
      dsimp only
      repeat' split
      all_goals first
        | rfl
        | exact s.connection_planFeedOverride _ _
        | exact s.connection_spindleSetOverride _
        | exact s.connection_applyCoolant _

/-- Only a task changes the connection. -/
theorem connection_step (e : ExecEvent) : (s.step e).connection = s.connection ∨
    e = .foreground ∧ s.phase.inTask = true ∧ ∃ s' on, SameRequest s s' ∧
      (s.step e).connection = (s'.mpgEnable on).connection := by
  cases e with
  | foreground => exact connection_foreground.imp_right fun requests => ⟨rfl, requests⟩
  | byte port c => exact .inl (s.connection_byte port c)
  | task => exact .inl (s.connection_enqueueTask _)
  | machine | requestReport => exact .inl rfl
  | spindleSetState | coolantSetState | overrideControl | programEnd | reset =>
      refine .inl (s.connection_otherwise ?_)
      simp
  | _ => exact .inl (s.connection_otherwise rfl)

theorem Attached.step {canDisableRx : Bool} (attached : Attached canDisableRx s) (e : ExecEvent) :
    Attached canDisableRx (s.step e) := by
  obtain same | ⟨-, -, s', on, requests, same⟩ := connection_step (s := s) e
  · exact attached.of_eq same
  · exact ((attached.of_eq requests.connection).mpgEnable on).of_eq same

/-- The MPG mode is entered by a task, while the machine is free and runs no file. -/
theorem enters_free {e : ExecEvent} (off : s.mpgMode = false) (on : (s.step e).mpgMode = true) :
    e = .foreground ∧ s.phase.inTask = true ∧ s.machine.state.free = true ∧
      s.fileRun = false := by
  obtain same | ⟨rfl, phase, s', request, requests, same⟩ := connection_step (s := s) e
  · have same : (s.step e).mpgMode = s.mpgMode := congrArg Connection.mpgMode same
    rw [same, off] at on
    cases on
  · refine ⟨rfl, phase, ?_⟩
    have mode := congrArg Connection.mpgMode (same.trans (s'.connection_mpgEnable request))
    have before : s'.mpgMode = false := (congrArg Connection.mpgMode requests.connection).trans off
    simp only [connection] at mode
    rw [← requests.machine, ← requests.fileRun]
    cases denied : s'.denies request with
    | true =>
        rw [denied, if_pos rfl] at mode
        rw [mode, before] at on
        cases on
    | false =>
        rw [denied, if_neg Bool.false_ne_true] at mode
        simp only at mode
        rw [mode] at on
        simp only [denies, on, before, Bool.true_and, Bool.or_eq_false_iff] at denied
        exact ⟨by simpa using denied.2.2, denied.2.1⟩

/-- At every time one side commands the controller. In MPG mode lines are read from the pendant,
answers go to it, its bytes are commands, and the host is not heard. At other times lines are read
from the host and the pendant's bytes are keys. The MPG mode is entered only by a task, and only
while the machine is free and runs no file. -/
theorem one_side_commands (settings : ReportSettings)
    (canDisableRx mistControl legacyRtCommands : Bool) (machine : Machine) (es : List ExecEvent) :
    Always step (fun s e =>
        s.stream = (if s.mpgMode then pendantStream else hostStream) ∧
          (∀ c, s.step (.byte .main c) =
            if canDisableRx && s.mpgMode then s else s.enqueueRealtimeCommand (.ofChar c)) ∧
          (∀ c, s.step (.byte .mpg c) =
            if s.mpgMode then s.enqueueRealtimeCommand (.ofChar c) else s.enqueueKeycode c) ∧
          (s.mpgMode = false → (s.step e).mpgMode = true →
            e = .foreground ∧ s.phase.inTask = true ∧ s.machine.state.free = true ∧
              s.fileRun = false))
      (initial settings canDisableRx mistControl legacyRtCommands machine) es := by
  have kept : Preserves step (fun _ _ => True) (Attached canDisableRx) :=
    fun s e attached _ => attached.step e
  refine kept.always ?_ ?_ (always_true _ _)
  · intro s e attached _
    simp only [Attached, connection, Connection.ofMode, Connection.mk.injEq] at attached
    obtain ⟨-, stream, -, handler, host, pendant, -⟩ := attached
    refine ⟨stream, ?_, ?_, fun off on => enters_free off on⟩
    · intro c
      simp only [step, byte, host]
      cases canDisableRx && s.mpgMode <;> rfl
    · intro c
      simp only [step, byte, pendant, handler]
      cases s.mpgMode <;> rfl
  · cases canDisableRx <;> rfl

end Controller

end Cnc
