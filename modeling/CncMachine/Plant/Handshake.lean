import CncMachine.Plant.System

/-!
# The MPG handshake

The plant simulates the toggle protocol: the panel is its client, with `mpgMode` as the copy and the
two `ongoing` flags as marks, and the controller's MPG mode is the remote flag.
-/

namespace Cnc

open Transition

/-- A call of `enable_mpg` or `disable_mpg` asks for a mode that is not on its way yet. -/
theorem GrblData.attempts_eq (g : GrblData) (wanted : Bool) :
    g.attempts (some wanted) =
      (wanted != g.mpgMode && !if g.mpgMode then g.mpgDisableOngoing else g.mpgEnableOngoing) := by
  cases wanted <;> cases mode : g.mpgMode <;> simp [attempts, mode]

namespace Plant

/-- What the plant has of the toggle protocol. -/
def handshake (s : Plant) : Toggle.State where
  known := s.panel.grblData.mpgMode
  enabling := s.panel.grblData.mpgEnableOngoing
  disabling := s.panel.grblData.mpgDisableOngoing
  wanted := s.requested
  remote := s.mode
  toggles := s.panel.controllerLine.count .mpgModeToggle
  reports := s.lines.filterMap Line.modeReport

/-- The transmission outcomes of an event. -/
def outcomes : PlantEvent → Tx
  | .menu input => input.tx
  | .frame _ tx => tx
  | _ => fun _ => true

/-- What an event of the plant is in the toggle protocol. -/
def handshakeEvent (s : Plant) : PlantEvent → Option Toggle.Event
  | .handle _ => if s.panel.controllerLine.head? = some .mpgModeToggle then some .handle else none
  | .status report => if report.mpg then some .report else none
  | .deliver => (s.lines.head?.bind Line.modeReport).map fun _ => .deliver
  | e => (s.call e).map fun wanted => .call wanted (outcomes e .mpgModeToggle)

variable (s : Plant)

/-- A handler of the panel that makes a call, or none, and otherwise sends no toggle. -/
theorem handshake_call {s s' : Plant} (call : Option Bool) {tx : Tx} (packets : List Packet)
    (mode : s'.mode = s.mode) (lines : s'.lines = s.lines)
    (requested : s'.requested = call.getD s.requested)
    (grblData : s'.panel.grblData = s.panel.grblData.afterCall call)
    (line : s'.panel.controllerLine =
      s.panel.controllerLine ++ s.panel.grblData.callPackets tx call ++ packets)
    (none : Packet.mpgModeToggle ∉ packets) :
    s'.handshake = run Toggle.State.step s.handshake
      (call.map fun wanted => Toggle.Event.call wanted (tx .mpgModeToggle)).toList := by
  have count : s'.panel.controllerLine.count .mpgModeToggle =
      s.panel.controllerLine.count .mpgModeToggle +
        (s.panel.grblData.attempts call && tx .mpgModeToggle).toNat := by
    rw [line, List.count_append, List.count_append, List.count_eq_zero.mpr none]
    simp only [GrblData.callPackets]
    cases s.panel.grblData.attempts call <;> cases sent : tx .mpgModeToggle <;> simp [sent]
  simp only [handshake]
  rw [mode, lines, requested, grblData, count]
  cases call with
  | none => rfl
  | some wanted =>
      rw [GrblData.attempts_eq]
      cases wanted <;>
        simp [Toggle.State.step, Toggle.State.call, Toggle.State.attempts, Toggle.State.marked,
          GrblData.afterCall]

theorem handshake_handle (report : StatusReport) :
    (s.handle report).handshake = run Toggle.State.step s.handshake
      (s.handshakeEvent (.handle report)).toList := by
  simp only [handle, handshakeEvent]
  split
  next empty => simp [empty]
  next rest line =>
    simp [line, handshake, Toggle.State.step, Toggle.State.handle, Line.modeReport]
  next packet rest other line =>
    have count : s.panel.controllerLine.count .mpgModeToggle = rest.count .mpgModeToggle := by
      rw [line, List.count_cons_of_ne other]
    rw [line, List.head?_cons, if_neg fun eq => other (Option.some.inj eq)]
    show _ = s.handshake
    simp only [handshake]
    rw [count]

theorem reported_mpgFlags (g : GrblData) (report : StatusReport) (mode : Bool)
    (accessories : Accessories) :
    (g.reported report mode accessories).mpgFlags =
      (if report.mpg then g.withMpg mode else g).mpgFlags := by
  have same :
      ((g.withAccessories accessories).withMpg mode).mpgFlags = (g.withMpg mode).mpgFlags := by
    cases mode
    · rfl
    · cases known : g.mpgMode <;> simp [GrblData.withMpg, GrblData.withAccessories, known]
  simp only [GrblData.reported]
  cases report.accessories <;> cases report.mpg
  · rfl
  · rfl
  · rfl
  · exact same

/-- What a line tells the panel about the mode. -/
theorem grblCallback_line (line : Line) (g : GrblData) :
    (grblCallback line.text g).mpgFlags =
      (line.modeReport.elim g fun r => g.withMpg r.flag).mpgFlags := by
  cases line with
  | status report mode accessories answer =>
      obtain ⟨state, substate, text, eq⟩ := report.grblCallback_text mode accessories g
      have flags := reported_mpgFlags g report mode accessories
      rw [Line.text, eq]
      refine flags.trans ?_
      cases mpg : report.mpg <;> simp [Line.modeReport, mpg]
  | other line => exact grblCallback_mpgFlags line.other g

theorem handshake_deliver :
    s.deliver.handshake = run Toggle.State.step s.handshake
      (s.handshakeEvent .deliver).toList := by
  simp only [deliver, handshakeEvent]
  split
  next empty => simp [empty]
  next line queue lines =>
    have flags := grblCallback_line line s.panel.grblData
    simp only [GrblData.mpgFlags, Prod.mk.injEq] at flags
    obtain ⟨mode, enabling, disabling⟩ := flags
    simp only [handshake]
    simp only [Panel.step, Panel.usart2Callback]
    rw [mode, enabling, disabling, lines]
    cases report : line.modeReport with
    | none => simp [report]
    | some r =>
        obtain ⟨flag, answer⟩ := r
        cases flag <;> cases known : s.panel.grblData.mpgMode <;>
          simp [report, known, Toggle.State.step, Toggle.State.deliver, Toggle.State.receive,
            GrblData.withMpg]

/-- The plant simulates the toggle protocol. -/
theorem handshake_simulates :
    Simulates step Toggle.State.step handshake fun s e => (s.handshakeEvent e).toList := by
  intro s e
  cases e with
  | menu input =>
      obtain ⟨menu, control, settings, requests, packets, manual, -, eq⟩ :=
        s.panel.screenMenu_eq input
      refine handshake_call (s.panel.menuCall input) packets rfl rfl rfl ?_ ?_ ?_
      · show (s.panel.screenMenu input).grblData = _
        rw [eq]
      · show (s.panel.screenMenu input).controllerLine = _
        rw [eq]
        rfl
      · intro member
        rcases manual _ member with other | ⟨_, _, _, other⟩ <;> cases other
  | tim1 accepted =>
      obtain ⟨menu, control, requests, -, -, -, eq⟩ := s.panel.tim1_eq accepted
      show ({ s with panel := s.panel.tim1 accepted } : Plant).handshake = s.handshake
      simp only [handshake]
      rw [eq]
  | frame frame tx =>
      obtain ⟨control, data, last, -, eq⟩ := Panel.uart4Callback_eq tx frame s.panel
      refine handshake_call (s.panel.frameCall frame) ((s.panel.framePackets frame).filter tx)
        rfl rfl rfl ?_ ?_ ?_
      · show (s.panel.uart4Callback tx frame).1.grblData = _
        rw [eq]
      · show (s.panel.uart4Callback tx frame).1.controllerLine = _
        rw [eq]
        rfl
      · exact fun member => Panel.mpgModeToggle_notMem_framePackets (List.mem_of_mem_filter member)
  | handle report => exact s.handshake_handle report
  | status report =>
      cases mpg : report.mpg <;>
        simp [handshake, step, handshakeEvent, Toggle.State.step, Line.modeReport, mpg]
  | line line => simp [handshake, step, handshakeEvent, call, Line.modeReport]
  | deliver => exact s.handshake_deliver

end Plant

end Cnc
