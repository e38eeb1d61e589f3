import CncMachine.Panel.State

/-!
# Sending to the controller and to the pendant

`HAL_UART_Transmit` may fail (the UART may be busy in another context), so every handler that
sends takes the outcome of its transmissions as an input: `tx p` says whether packet `p` gets
out. No handler sends the same packet twice.
-/

namespace Cnc

/-- The outcome of the transmissions of one handler. -/
abbrev Tx := Packet → Bool

namespace Panel

/-- `HAL_UART_Transmit` on the controller's UART. -/
def transmit (tx : Tx) (p : Packet) (s : Panel) : Panel :=
  if tx p then { s with controllerLine := s.controllerLine ++ [p] } else s

/-- Several calls of `grbl_send_packet` whose results are ignored. -/
def transmitAll (tx : Tx) (ps : List Packet) (s : Panel) : Panel :=
  { s with controllerLine := s.controllerLine ++ ps.filter tx }

/-- The common body of `enable_mpg` and `disable_mpg`: nothing is sent when the mode is already
the wanted one (result 1) or on its way there (result 2). Otherwise the attempt is marked first
and then sent; the mark stays when the transmission fails (result 3). -/
def requestToggle (satisfied ongoing : Bool) (mark : GrblData → GrblData) (tx : Tx)
    (s : Panel) : Panel × Nat :=
  if satisfied then (s, 1)
  else if ongoing then (s, 2)
  else
    ({ s with grblData := mark s.grblData }.transmit tx .mpgModeToggle,
      if tx .mpgModeToggle then 0 else 3)

/-- `enable_mpg`. -/
def enableMpg (tx : Tx) (s : Panel) : Panel × Nat :=
  s.requestToggle (s.grblData.mpgMode == true) s.grblData.mpgEnableOngoing
    (fun g => { g with mpgEnableOngoing := true }) tx

/-- `disable_mpg`. -/
def disableMpg (tx : Tx) (s : Panel) : Panel × Nat :=
  s.requestToggle (s.grblData.mpgMode == false) s.grblData.mpgDisableOngoing
    (fun g => { g with mpgDisableOngoing := true }) tx

/-- `request_pendant_data`. The DMA transfer is refused (`accepted = false`) while an earlier one
is still under way; the result is not looked at. A refused call has rewritten `request_body` by then,
from which the earlier transfer is read: what is left of that one comes from the new text. A line
here is the text at the start of its transfer. -/
def requestPendantData (accepted : Bool) (s : Panel) : Panel :=
  if accepted then
    { s with
      pendantLine := s.pendantLine ++
        [requestBody s.pendantControl.status s.pendantControl.mpgStatus] }
  else s

/-- A request touches the pendant's line only. -/
theorem requestPendantData_eq (accepted : Bool) (s : Panel) :
    s.requestPendantData accepted = { s with
      pendantLine := s.pendantLine ++ if accepted then
        [requestBody s.pendantControl.status s.pendantControl.mpgStatus] else [] } := by
  cases accepted <;> simp [requestPendantData]

section

variable (tx : Tx) (s : Panel)

/-- A call of `enable_mpg` touches its own mark and the line, nothing else. The toggle byte goes
out when neither the mode nor the mark forbids it. -/
theorem enableMpg_eq :
    (s.enableMpg tx).1 = { s with
      grblData.mpgEnableOngoing := s.grblData.mpgEnableOngoing || !s.grblData.mpgMode
      controllerLine := s.controllerLine ++
        if !s.grblData.mpgMode && !s.grblData.mpgEnableOngoing
        then [Packet.mpgModeToggle].filter tx else [] } := by
  obtain ⟨_, _, _, _, ⟨_, _, _, _, _, _, _, mode, enabling, _⟩, _, _, _⟩ := s
  cases mode <;> cases enabling <;> cases ht : tx .mpgModeToggle <;>
    simp [enableMpg, requestToggle, transmit, ht]

/-- The same for `disable_mpg`. -/
theorem disableMpg_eq :
    (s.disableMpg tx).1 = { s with
      grblData.mpgDisableOngoing := s.grblData.mpgDisableOngoing || s.grblData.mpgMode
      controllerLine := s.controllerLine ++
        if s.grblData.mpgMode && !s.grblData.mpgDisableOngoing
        then [Packet.mpgModeToggle].filter tx else [] } := by
  obtain ⟨_, _, _, _, ⟨_, _, _, _, _, _, _, mode, _, disabling⟩, _, _, _⟩ := s
  cases mode <;> cases disabling <;> cases ht : tx .mpgModeToggle <;>
    simp [disableMpg, requestToggle, transmit, ht]

end

variable (tx : Tx) (p : Packet) (s : Panel)

/-- A transmission appends the packet to the line if it gets out. -/
theorem transmit_eq :
    s.transmit tx p = { s with controllerLine := s.controllerLine ++ [p].filter tx } := by
  cases h : tx p <;> simp [transmit, h]

end Panel

namespace GrblData

variable (g : GrblData)

/-- `grbl_data` after a call of `enable_mpg` (`some true`) or `disable_mpg` (`some false`). -/
def afterCall : Option Bool → GrblData
  | none => g
  | some true => { g with mpgEnableOngoing := g.mpgEnableOngoing || !g.mpgMode }
  | some false => { g with mpgDisableOngoing := g.mpgDisableOngoing || g.mpgMode }

/-- The call gets past both guards and attempts a transmission. -/
def attempts : Option Bool → Bool
  | none => false
  | some true => !g.mpgMode && !g.mpgEnableOngoing
  | some false => g.mpgMode && !g.mpgDisableOngoing

/-- The packets a call puts on the line. -/
def callPackets (tx : Tx) (call : Option Bool) : List Packet :=
  if g.attempts call then [Packet.mpgModeToggle].filter tx else []

theorem mem_callPackets {g : GrblData} {tx : Tx} {call : Option Bool} {packet : Packet}
    (member : packet ∈ g.callPackets tx call) : packet = .mpgModeToggle := by
  simp only [callPackets] at member
  split at member
  · exact List.mem_singleton.mp (List.mem_filter.mp member).1
  · cases member

end GrblData

namespace Panel

/-- The panel after a call, or without one. -/
def afterCall (tx : Tx) (s : Panel) : Option Bool → Panel
  | none => s
  | some true => (s.enableMpg tx).1
  | some false => (s.disableMpg tx).1

theorem afterCall_eq (tx : Tx) (s : Panel) (call : Option Bool) :
    s.afterCall tx call = { s with
      grblData := s.grblData.afterCall call
      controllerLine := s.controllerLine ++ s.grblData.callPackets tx call } := by
  obtain _ | _ | _ := call
  · simp [afterCall, GrblData.afterCall, GrblData.callPackets, GrblData.attempts]
  · exact disableMpg_eq tx s
  · exact enableMpg_eq tx s

end Panel

end Cnc
