import CncMachine.Panel.MenuCycle
import CncMachine.Panel.Movement
import CncMachine.Panel.Parser

/-!
# The panel as a state machine

The handlers of the panel, one event each: a cycle of the main loop's menu, the TIM1 tick, a
frame from the pendant and a chunk of text from the controller. A handler runs to completion
before the next one; any order of events is possible.
-/

namespace Cnc

/-- `DATA_REQUEST_CNT`, `CHECK_DATA_RECEIVED_CNT` and `REQUEST_TIMEOUT_CNT`. -/
abbrev dataRequestCnt : BitVec 8 := 9
abbrev checkDataReceivedCnt : BitVec 8 := 10
abbrev requestTimeoutCnt : BitVec 8 := 10

namespace Panel

/-- The menu part of `TIM1_UP_IRQHandler`. -/
def countMenu (s : Panel) : Panel :=
  if s.menu.menuCnt + 1 > 5 then { s with menu.menuCnt := 0, menu.enterMenu := true }
  else { s with menu.menuCnt := s.menu.menuCnt + 1 }

/-- The pendant part of `TIM1_UP_IRQHandler`. -/
def pollPendant (accepted : Bool) (s : Panel) : Panel :=
  if s.menu.enteredManualMode then
    let s :=
      if s.pendantControl.turnOffMpg then { s with pendantControl.mpgStatus := .disabled } else s
    let s := { s with pendantControl.counter := s.pendantControl.counter + 1 }
    if s.pendantControl.counter = dataRequestCnt then s.requestPendantData accepted
    else if s.pendantControl.counter ≥ checkDataReceivedCnt then
      if !s.pendantControl.requestAnswered then
        let s := { s with pendantControl.commCnt := s.pendantControl.commCnt + 1 }
        if s.pendantControl.commCnt = requestTimeoutCnt then
          { s with pendantControl.counter := 0, pendantControl.commCnt := 0 }
        else s
      else
        { s with
          pendantControl.requestAnswered := false
          pendantControl.counter := 0
          pendantControl.commCnt := 0 }
    else s
  else { s with pendantControl.counter := 0, pendantControl.commCnt := 0 }

/-- `TIM1_UP_IRQHandler`, after the debouncer. -/
def tim1 (accepted : Bool) (s : Panel) : Panel := s.countMenu.pollPendant accepted

/-- The frame is taken over and looked at: the panel is in manual mode and waits for a reply. -/
def Listens (s : Panel) : Prop :=
  s.menu.enteredManualMode = true ∧ s.pendantControl.counter ≥ dataRequestCnt

instance (s : Panel) : Decidable s.Listens := inferInstanceAs (Decidable (_ ∧ _))

/-- The branch of the UART4 callback that waits for the pendant to confirm its turn-off. -/
def confirmTurnOff (s : Panel) : Panel :=
  { s with
    pendantControl.turnOffMpg := s.pendantControl.turnOffMpg && s.pendantData.mpg
    pendantControl.mpgStatus := .disabled
    pendantControl.counter := dataRequestCnt - 1
    pendantData.mpg := false
    pendantData.systemStatus := GrblState.idle.code }

/-- The UART4 part of `HAL_UARTEx_RxEventCallback` for a received frame, with the argument of the
call of `pendant_data_to_action` it makes, if it does. -/
def uart4Callback (tx : Tx) (frame : PendantData) (s : Panel) : Panel × Option PendantAction :=
  let s := { s with pendantData := frame }
  if s.Listens then
    let s := { s with pendantControl.requestAnswered := true }
    if s.pendantControl.turnOffMpg then (s.confirmTurnOff, none)
    else s.processPendantDataToAction tx
  else (s, none)

/-- The USART2 part of `HAL_UARTEx_RxEventCallback`. -/
def usart2Callback (chunk : List Char) (s : Panel) : Panel :=
  { s with grblData := grblCallback chunk s.grblData }

end Panel

inductive PanelEvent where
  | menu (input : MenuInput)
  | tim1 (accepted : Bool)
  | frame (frame : PendantData) (tx : Tx)
  | grbl (chunk : List Char)

/-- What the panel's program does not choose when it starts: the brightness that the loading screen
has come to, and the memory behind `mpg_settings`. -/
structure Startup where
  brightness : Int := 50
  memory : Table → Nat → Int := fun _ _ => 0

namespace Panel

def step (s : Panel) : PanelEvent → Panel
  | .menu input => s.screenMenu input
  | .tim1 accepted => s.tim1 accepted
  | .frame frame tx => (s.uart4Callback tx frame).1
  | .grbl chunk => s.usart2Callback chunk

/-- The panel when `draw_loading_screen` returns; `button_delay` is `DEFAULT_DELAY` divided by
`ENTER_MENU_DELAY_TIME`. -/
def initial (startup : Startup) : Panel where
  menu := { enterMenu := true, buttonDelay := 4, brightnessValue := min startup.brightness 100 }
  mpgSettings := .default startup.memory

/-- The call of `pendant_data_to_action` that the handler of an event makes. -/
def invocation (s : Panel) : PanelEvent → Option PendantAction
  | .frame frame tx => (s.uart4Callback tx frame).2
  | _ => none

/-- The packets that the handler of an event puts on the controller's line. -/
def sentBy (s : Panel) (e : PanelEvent) : List Packet :=
  (s.step e).controllerLine.drop s.controllerLine.length

section

variable (accepted : Bool) (s : Panel)

theorem countMenu_eq :
    ∃ menu, SamePlace s.menu menu ∧ s.countMenu = { s with menu := menu } := by
  simp only [countMenu]
  split <;> refine ⟨_, ?_, rfl⟩ <;> exact ⟨rfl, rfl, rfl⟩

/-- Outside the manual mode a tick resets the counters and sends nothing. -/
theorem pollPendant_asleep (asleep : s.menu.enteredManualMode = false) :
    s.pollPendant accepted =
      { s with pendantControl.counter := 0, pendantControl.commCnt := 0 } := by
  simp [pollPendant, asleep]

theorem pollPendant_eq :
    ∃ control requests, control.status = s.pendantControl.status ∧
      (control.mpgStatus = s.pendantControl.mpgStatus ∨ control.mpgStatus = .disabled) ∧
      s.pollPendant accepted = { s with
        pendantControl := control
        pendantLine := s.pendantLine ++ requests } := by
  simp only [pollPendant]
  repeat' split
  all_goals
    first
    | refine ⟨_, [], ?_, ?_, by rw [List.append_nil]⟩ <;> simp
    | rw [requestPendantData_eq]
      refine ⟨_, _, ?_, ?_, rfl⟩ <;> simp

/-- A tick keeps the place in the menu and the manual mode, and may only disable the pendant. -/
theorem tim1_eq :
    ∃ menu control requests, SamePlace s.menu menu ∧
      control.status = s.pendantControl.status ∧
      (control.mpgStatus = s.pendantControl.mpgStatus ∨ control.mpgStatus = .disabled) ∧
      s.tim1 accepted = { s with
        menu := menu
        pendantControl := control
        pendantLine := s.pendantLine ++ requests } := by
  obtain ⟨menu, place, counted⟩ := s.countMenu_eq
  obtain ⟨control, requests, status, mpgStatus, polled⟩ :=
    pollPendant_eq accepted { s with menu := menu }
  exact ⟨menu, control, requests, place, status, mpgStatus, by rw [tim1, counted, polled]⟩

end

section

variable (tx : Tx) (frame : PendantData) (s : Panel)

/-- The panel when a frame it listens to is taken over. -/
def received (s : Panel) (frame : PendantData) : Panel :=
  { s with pendantData := frame, pendantControl.requestAnswered := true }

theorem uart4Callback_ignored (deaf : ¬ s.Listens) :
    s.uart4Callback tx frame = ({ s with pendantData := frame }, none) := if_neg deaf

theorem uart4Callback_turnOff (listens : s.Listens)
    (turnOff : s.pendantControl.turnOffMpg = true) :
    s.uart4Callback tx frame = ((s.received frame).confirmTurnOff, none) :=
  (if_pos listens).trans (if_pos turnOff)

theorem uart4Callback_processed (listens : s.Listens)
    (stays : s.pendantControl.turnOffMpg = false) :
    s.uart4Callback tx frame = (s.received frame).processPendantDataToAction tx :=
  (if_pos listens).trans (if_neg (by simp [stays]))

/-- The frame reaches `process_pendant_data_to_action`. -/
def Processes (s : Panel) : Prop := s.Listens ∧ s.pendantControl.turnOffMpg = false

instance (s : Panel) : Decidable s.Processes := inferInstanceAs (Decidable (_ ∧ _))

/-- A frame is not listened to, or it is the pendant's confirmation, or it is processed. -/
theorem uart4Callback_cases :
    (¬ s.Listens ∧ s.uart4Callback tx frame = ({ s with pendantData := frame }, none)) ∨
    (s.Listens ∧ s.pendantControl.turnOffMpg = true ∧
      s.uart4Callback tx frame = ((s.received frame).confirmTurnOff, none)) ∨
    (s.Processes ∧
      s.uart4Callback tx frame = (s.received frame).processPendantDataToAction tx) := by
  by_cases listens : s.Listens
  · cases turnOff : s.pendantControl.turnOffMpg with
    | true => exact .inr (.inl ⟨listens, rfl, uart4Callback_turnOff tx frame s listens turnOff⟩)
    | false =>
        have eq := uart4Callback_processed tx frame s listens turnOff
        exact .inr (.inr ⟨⟨listens, turnOff⟩, eq⟩)
  · exact .inl ⟨listens, uart4Callback_ignored tx frame s listens⟩

/-- The frame reaches `pendant_data_to_action`. -/
def ActsOn (s : Panel) (frame : PendantData) : Prop := s.Processes ∧ (s.received frame).Acts

instance (s : Panel) (frame : PendantData) : Decidable (s.ActsOn frame) :=
  inferInstanceAs (Decidable (_ ∧ _))

theorem uart4Callback_invokes :
    (s.uart4Callback tx frame).2 =
      if s.ActsOn frame then some (s.received frame).actedAction else none := by
  obtain ⟨deaf, eq⟩ | ⟨-, turnOff, eq⟩ | ⟨processes, eq⟩ := uart4Callback_cases tx frame s
  · rw [eq, if_neg]
    exact fun acts => deaf acts.1.1
  · rw [eq, if_neg]
    exact fun acts => by simpa [turnOff] using acts.1.2
  · have same : s.ActsOn frame ↔ (s.received frame).Acts := and_iff_right processes
    rw [eq, process_invokes]
    simp only [same]

/-- The call of `enable_mpg` that a frame makes. -/
def frameCall (s : Panel) (frame : PendantData) : Option Bool :=
  if s.Processes then (s.received frame).requestCall else none

/-- The packets a frame makes the panel send, a toggle apart. -/
def framePackets (s : Panel) (frame : PendantData) : List Packet :=
  if s.Processes then (s.received frame).actionPackets else []

/-- Everything a frame does: the manual mode and the menu stay, at most one call is made, and the
other packets are those of `pendant_data_to_action`. -/
theorem uart4Callback_eq :
    ∃ control data last, control.status = s.pendantControl.status ∧
      (s.uart4Callback tx frame).1 = { s with
        pendantControl := control
        pendantData := data
        lastData := last
        grblData := s.grblData.afterCall (s.frameCall frame)
        controllerLine := s.controllerLine ++ s.grblData.callPackets tx (s.frameCall frame) ++
          (s.framePackets frame).filter tx } := by
  have quiet (stays : ¬ s.Processes) : s.frameCall frame = none ∧ s.framePackets frame = [] :=
    ⟨if_neg stays, if_neg stays⟩
  obtain ⟨deaf, eq⟩ | ⟨-, turnOff, eq⟩ | ⟨processes, eq⟩ := uart4Callback_cases tx frame s
  · obtain ⟨call, packets⟩ := quiet fun processes => deaf processes.1
    rw [eq, call, packets]
    refine ⟨s.pendantControl, frame, s.lastData, rfl, ?_⟩
    simp [GrblData.afterCall, GrblData.callPackets, GrblData.attempts]
  · obtain ⟨call, packets⟩ := quiet fun processes => by simpa [turnOff] using processes.2
    rw [eq, call, packets]
    refine ⟨(s.received frame).confirmTurnOff.pendantControl,
      (s.received frame).confirmTurnOff.pendantData, s.lastData, rfl, ?_⟩
    simp [GrblData.afterCall, GrblData.callPackets, GrblData.attempts, confirmTurnOff, received]
  · have call : s.frameCall frame = (s.received frame).requestCall := if_pos processes
    have packets : s.framePackets frame = (s.received frame).actionPackets := if_pos processes
    rw [eq, process_eq, call, packets]
    exact ⟨{ (s.received frame).pendantControl with
      mpgStatus := (s.received frame).nextMpgStatus }, _, _, rfl, rfl⟩

theorem framePackets_of_actsOn {s : Panel} {frame : PendantData} (acts : s.ActsOn frame) :
    s.framePackets frame =
      (s.received frame).pendantDataToAction (s.received frame).actedAction :=
  (if_pos acts.1).trans (if_pos acts.2)

theorem mem_framePackets {s : Panel} {frame : PendantData} {packet : Packet}
    (member : packet ∈ s.framePackets frame) :
    s.ActsOn frame ∧
      packet ∈ (s.received frame).pendantDataToAction (s.received frame).actedAction := by
  simp only [framePackets] at member
  split at member
  next processes =>
    simp only [actionPackets] at member
    split at member
    next acts => exact ⟨⟨processes, acts⟩, member⟩
    next => cases member
  next => cases member

/-- `pendant_data_to_action` sends no toggle of the mode. -/
theorem mpgModeToggle_notMem_framePackets {s : Panel} {frame : PendantData} :
    Packet.mpgModeToggle ∉ s.framePackets frame := by
  intro member
  rcases mem_pendantDataToAction (mem_framePackets member).2 with ⟨_, _, _, _, eq⟩ | ⟨eq, -⟩ |
    ⟨eq, -⟩ | ⟨eq, -⟩ | ⟨eq, -⟩ | ⟨eq, -⟩ <;> cases eq

/-- The packets a frame puts on the line. -/
theorem sentBy_frame :
    s.sentBy (.frame frame tx) =
      s.grblData.callPackets tx (s.frameCall frame) ++ (s.framePackets frame).filter tx := by
  obtain ⟨_, _, _, -, eq⟩ := uart4Callback_eq tx frame s
  rw [sentBy, step, eq, List.append_assoc, List.drop_left]

/-- Other packets than the toggle of the mode are sent for frames that are acted on. -/
theorem mem_sentBy_frame {packet : Packet} (sent : packet ∈ s.sentBy (.frame frame tx))
    (other : packet ≠ .mpgModeToggle) :
    s.ActsOn frame ∧
      packet ∈ (s.received frame).pendantDataToAction (s.received frame).actedAction := by
  rw [sentBy_frame] at sent
  obtain call | action := List.mem_append.mp sent
  · exact absurd (GrblData.mem_callPackets call) other
  · exact mem_framePackets (List.mem_of_mem_filter action)

end

variable (s : Panel)

theorem sentBy_menu (input : MenuInput) :
    ∃ packets, ManualPackets packets ∧
      s.sentBy (.menu input) =
        s.grblData.callPackets input.tx (s.menuCall input) ++ packets := by
  obtain ⟨_, _, _, _, packets, manual, -, eq⟩ := s.screenMenu_eq input
  refine ⟨packets, manual, ?_⟩
  rw [sentBy, step, eq, List.append_assoc, List.drop_left]

theorem sentBy_tim1 (accepted : Bool) : s.sentBy (.tim1 accepted) = [] := by
  obtain ⟨_, _, _, -, -, -, eq⟩ := s.tim1_eq accepted
  rw [sentBy, step, eq, List.drop_length]

/-- The panel only appends to the controller's line. -/
theorem controllerLine_step (e : PanelEvent) :
    (s.step e).controllerLine = s.controllerLine ++ s.sentBy e := by
  suffices ∃ packets, (s.step e).controllerLine = s.controllerLine ++ packets by
    obtain ⟨packets, eq⟩ := this
    rw [sentBy, eq, List.drop_left]
  cases e with
  | menu input =>
      obtain ⟨_, _, _, _, packets, -, -, eq⟩ := s.screenMenu_eq input
      exact ⟨_, by rw [step, eq, List.append_assoc]⟩
  | tim1 accepted =>
      obtain ⟨_, _, _, -, -, -, eq⟩ := s.tim1_eq accepted
      exact ⟨[], by rw [step, eq, List.append_nil]⟩
  | frame frame tx =>
      obtain ⟨_, _, _, -, eq⟩ := uart4Callback_eq tx frame s
      exact ⟨_, by rw [step, eq, List.append_assoc]⟩
  | grbl chunk => exact ⟨[], (List.append_nil _).symm⟩

/-- The parser apart, handlers change `grbl_data` by calls of `enable_mpg` and `disable_mpg`. -/
theorem grblData_step {e : PanelEvent} (other : ∀ chunk, e ≠ .grbl chunk) :
    ∃ call, (s.step e).grblData = s.grblData.afterCall call := by
  cases e with
  | menu input =>
      obtain ⟨_, _, _, _, _, -, -, eq⟩ := s.screenMenu_eq input
      exact ⟨_, by rw [step, eq]⟩
  | tim1 accepted =>
      obtain ⟨_, _, _, -, -, -, eq⟩ := s.tim1_eq accepted
      exact ⟨none, by rw [step, eq]; rfl⟩
  | frame frame tx =>
      obtain ⟨_, _, _, -, eq⟩ := uart4Callback_eq tx frame s
      exact ⟨_, by rw [step, eq]⟩
  | grbl chunk => exact absurd rfl (other chunk)

end Panel

end Cnc
