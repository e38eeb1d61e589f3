import CncMachine.Pendant.Inputs

/-!
# The pendant as a state machine

Besides processing its inputs the pendant answers the requests of the control panel. A request
carries the panel's status and MPG status; every request is answered with the data record, as it
is after the request has been looked at. Between these two handlers the operator turns the
handwheels and moves the switches.
-/

namespace Cnc

open Text

namespace Pendant

variable (p : Pendant)

/-- The branches for a status and an MPG status of the panel, the bytes 9 and 11 of a request. -/
def takeStatus (status mpgStatus : Char) : Pendant :=
  if status = '1' then
    let p := { p with status := true }
    if mpgStatus = digit MpgStatus.disabled.code ∧ p.mpgStatus = .enableOngoing ∧
        p.data.mpg = false then
      { p with data.mpg := true }
    else if mpgStatus = digit MpgStatus.enabled.code ∧ p.mpgStatus = .enableOngoing then
      { p with data.mpg := true, mpgStatus := .enabled }
    else if mpgStatus = digit MpgStatus.enabled.code ∧ p.mpgStatus = .disabled then
      { p with data.mpg := false }
    else if mpgStatus = digit MpgStatus.disabled.code ∧ p.mpgStatus = .enabled ∧
        p.data.mpg = true then
      { p with data.mpg := false }
    else p
  else if status = '0' then { p with status := false, mpgStatus := .disabled, data.mpg := false }
  else p

/-- The text is a request for data. -/
def isRequest (buffer : List Char) : Bool := strstr (cString buffer) "GET_DATA".toList

/-- `HAL_UARTEx_RxEventCallback` with the content of the receive buffer, behind which it is zero,
and the size of the message; the second result is what `send_system_data` sends. -/
def usart2Callback (buffer : List Char) (size : Nat) : Pendant × Option SystemData :=
  if isRequest buffer then
    let p :=
      if size ≥ 13 then p.takeStatus (buffer.getD 9 '\x00') (buffer.getD 11 '\x00') else p
    (p, some p.data)
  else (p, none)

end Pendant

/-- What happens on the pendant: a handwheel is turned by some counts, the debouncer settles a
switch, the main loop comes to its inputs, a message arrives. -/
inductive PendantEvent where
  | turn (w : Wheel) (counts : Int)
  | settle (channel : Channel) (state : PinState)
  | inputs
  | message (text : List Char)

namespace Pendant

/-- The main loop processes the inputs only while the pendant is on. -/
def step (p : Pendant) : PendantEvent → Pendant
  | .turn w counts =>
      { p with cnt := Function.update p.cnt w (p.cnt w + BitVec.ofInt 16 counts) }
  | .settle channel state =>
      { p with buttonStates := Function.update p.buttonStates channel state }
  | .inputs => if p.status then p.processInputs else p
  | .message text => (p.usart2Callback text text.length).1

/-- The reply to the message of an event. -/
def reply (p : Pendant) : PendantEvent → Option SystemData
  | .message text => (p.usart2Callback text text.length).2
  | _ => none

variable (p : Pendant)

/-- A request changes the two statuses and the MPG flag, nothing else. -/
theorem takeStatus_eq (status mpgStatus : Char) :
    ∃ on mode mpg, p.takeStatus status mpgStatus =
      { p with status := on, mpgStatus := mode, data.mpg := mpg } := by
  simp only [takeStatus]
  repeat' split
  all_goals exact ⟨_, _, _, rfl⟩

/-- A request switches the MPG flag on only while the MPG functionality is being enabled, and off
only when it is not. -/
theorem takeStatus_mpg (status mpgStatus : Char) :
    (p.takeStatus status mpgStatus).data.mpg = p.data.mpg ∨
      (p.takeStatus status mpgStatus).data.mpg = true ∧ p.mpgStatus = .enableOngoing ∨
      (p.takeStatus status mpgStatus).data.mpg = false ∧
        (p.takeStatus status mpgStatus).mpgStatus ≠ .enableOngoing := by
  simp only [takeStatus]
  repeat' split
  all_goals simp_all

/-- No request starts the enabling of the MPG functionality: only the button does. -/
theorem takeStatus_enableOngoing (status mpgStatus : Char)
    (ongoing : (p.takeStatus status mpgStatus).mpgStatus = .enableOngoing) :
    p.mpgStatus = .enableOngoing := by
  simp only [takeStatus] at ongoing
  repeat' split at ongoing
  all_goals simp_all

/-- A message is a request or nothing happens. -/
theorem step_message (text : List Char) :
    p.step (.message text) = p ∨
      ∃ status mpgStatus, p.step (.message text) = p.takeStatus status mpgStatus := by
  simp only [step, usart2Callback]
  repeat' split
  · exact .inr ⟨_, _, rfl⟩
  · exact .inl rfl
  · exact .inl rfl

/-- The reply has the data as they are after the request. -/
theorem reply_message (text : List Char) :
    p.reply (.message text) =
      if isRequest text then some (p.step (.message text)).data else none := by
  cases request : isRequest text <;> simp [reply, step, usart2Callback, request]

/-- The panel's requests are requests. -/
theorem isRequest_requestBody (status : Bool) (mpgStatus : MpgStatus) :
    isRequest (requestBody status mpgStatus) = true := by
  cases status <;> cases mpgStatus <;> decide

/-- A request of the panel is taken with its own status and MPG status. -/
theorem step_requestBody (status : Bool) (mpgStatus : MpgStatus) :
    p.step (.message (requestBody status mpgStatus)) =
      p.takeStatus (digit status.toNat) (digit mpgStatus.code) := by
  have request := isRequest_requestBody status mpgStatus
  cases status <;> cases mpgStatus <;> simp only [step, usart2Callback, request, if_true] <;> rfl

end Pendant

end Cnc
