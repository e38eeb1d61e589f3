import Mathlib.Logic.Function.Basic
import CncMachine.Panel.Interrupts
import CncMachine.Transition.Run

/-!
# Reading the touch screen

A touch interrupt raises `touch_detected` and starts a transfer; three more follow, each from the
completion of the one before, and the last completion decodes the coordinates and lowers the flag.
The menu takes the flag for the number of touched points. A cycle that finds it raised therefore
comes before the coordinates it asks for: it uses those of an earlier touch.
-/

namespace Cnc

open Transition

/-- `FT_REG_NUMTOUCHES`, a register and the number of points. -/
abbrev ftRegNumtouches : BitVec 8 := 5

/-- `POINT_CNT_SENT_MASK`, `POINT_ARB_RECEIVED_MASK` and `POINT_DATA_REQUEST_SENT_MASK`. The mask
for received data is set and cleared in one handler and left out. -/
abbrev pointCntSentMask : BitVec 8 := 0x01
abbrev pointArbReceivedMask : BitVec 8 := 0x02
abbrev pointDataRequestSentMask : BitVec 8 := 0x04

/-- How the start of a transfer goes: the bus stays busy until the wait is over, the HAL refuses, or
the transfer is under way. -/
inductive TransferStart where
  | busy
  | refused
  | started
deriving DecidableEq, Repr

/-- The panel with the globals of `ft5436.c` and `touch_detected`. Not in the source are the number
of handled events and the events that raised the flag, that started the last read of the data and
that started the read the coordinates come from. -/
structure TouchPanel where
  panel : Panel
  ft5436Flags : BitVec 8 := 0
  pointsDetected : BitVec 8 := 0
  /-- `FT5436_tx_arr[0]`. -/
  requestedRegister : BitVec 8 := 0
  touchDetected : BitVec 8 := 0
  touchX : Nat → BitVec 16 := fun _ => 0
  touchY : Nat → BitVec 16 := fun _ => 0
  /-- `Error_Handler` has been called. -/
  halted : Bool := false
  clock : Nat := 0
  raisedAt : Nat := 0
  readAt : Nat := 0
  decodedFrom : Option Nat := none

inductive TouchEvent where
  | touch (start : TransferStart)
  | transmitted (start : TransferStart)
  /-- With the content of `FT5436_rx_arr`. -/
  | received (rx : Nat → BitVec 8) (start : TransferStart)
  /-- Another handler of the panel, or a cycle of its menu. -/
  | panel (e : PanelEvent)

namespace TouchPanel

variable (s : TouchPanel)

/-- The wait for the bus and the start of a transfer. -/
def startTransfer (start : TransferStart) (begun : TouchPanel) : TouchPanel :=
  match start with
  | .busy => { s with ft5436Flags := 0, pointsDetected := 0 }
  | .refused => { s with halted := true }
  | .started => begun

/-- `request_available_points`. -/
def requestAvailablePoints (start : TransferStart) : TouchPanel :=
  if s.touchDetected ≠ 0 ∧ s.ft5436Flags = 0 then
    let s := { s with requestedRegister := ftRegNumtouches }
    s.startTransfer start { s with ft5436Flags := s.ft5436Flags ||| pointCntSentMask }
  else s

/-- `EXTI9_5_IRQHandler`. -/
def touchInterrupt (start : TransferStart) : TouchPanel :=
  { s with
    touchDetected := 1
    raisedAt := if s.touchDetected = 0 then s.clock else s.raisedAt }.requestAvailablePoints start

/-- `transmission_complete_callback`. -/
def transmissionCompleteCallback (start : TransferStart) : TouchPanel :=
  if s.ft5436Flags &&& pointCntSentMask ≠ 0 then
    let s := { s with requestedRegister := 0 }
    s.startTransfer start s
  else if s.ft5436Flags &&& pointArbReceivedMask ≠ 0 then
    let s :=
      { s with
        ft5436Flags := (s.ft5436Flags ||| pointDataRequestSentMask) &&& ~~~pointArbReceivedMask }
    s.startTransfer start { s with readAt := s.clock }
  else s

/-- A coordinate has its upper four bits in one byte and the others in the next. -/
def coordinate (rx : Nat → BitVec 8) (offset i : Nat) : BitVec 16 :=
  ((rx (offset + i * 6) &&& 0x0F).setWidth 16 <<< 8) ||| (rx (offset + 1 + i * 6)).setWidth 16

/-- The last step of the read: the coordinates are decoded if the number of points is possible, and
the flag is lowered in any case. -/
def decodePoints (rx : Nat → BitVec 8) : TouchPanel :=
  let s :=
    if ¬ (rx 2 > ftRegNumtouches ∨ rx 2 = 0) then
      { s with
        pointsDetected := rx 2
        touchX := fun i => if i < (rx 2).toNat then coordinate rx 3 i else s.touchX i
        touchY := fun i => if i < (rx 2).toNat then coordinate rx 5 i else s.touchY i
        decodedFrom := some s.readAt }
    else { s with pointsDetected := 0 }
  { s with ft5436Flags := 0, touchDetected := 0 }

/-- `reception_complete_callback`. -/
def receptionCompleteCallback (rx : Nat → BitVec 8) (start : TransferStart) : TouchPanel :=
  if s.ft5436Flags &&& pointCntSentMask ≠ 0 then
    if rx 0 > ftRegNumtouches then { s with ft5436Flags := 0, pointsDetected := 0 }
    else
      let s :=
        { s with
          ft5436Flags := (s.ft5436Flags ||| pointArbReceivedMask) &&& ~~~pointCntSentMask }
      s.startTransfer start s
  else if s.ft5436Flags &&& pointDataRequestSentMask ≠ 0 then s.decodePoints rx
  else s

/-- What a cycle of the menu reads of the touch screen. -/
def touchInput (input : MenuInput) : MenuInput :=
  { input with touchDetected := s.touchDetected, touchX := s.touchX 0, touchY := s.touchY 0 }

/-- The panel's own events, with the touch data of the globals. -/
def panelEvent : PanelEvent → PanelEvent
  | .menu input => .menu (s.touchInput input)
  | e => e

def handle : TouchEvent → TouchPanel
  | .touch start => s.touchInterrupt start
  | .transmitted start => s.transmissionCompleteCallback start
  | .received rx start => s.receptionCompleteCallback rx start
  | .panel e => { s with panel := s.panel.step (s.panelEvent e) }

def tick : TouchPanel := { s with clock := s.clock + 1 }

/-- `Error_Handler` switches the interrupts off and does not return. -/
def step (s : TouchPanel) (e : TouchEvent) : TouchPanel := if s.halted then s else s.tick.handle e

def initial (startup : Startup) : TouchPanel where
  panel := Panel.initial startup

/-- A cycle of the menu enters what is touched, or leaves the menu by touch. -/
def actsOnTouch (s : TouchPanel) : TouchEvent → Bool
  | .panel (.menu input) =>
      let m := s.panel.menu.enterCycle (s.touchInput input)
      !s.halted && s.panel.menu.enterMenu &&
        (m.touchSelectSubmenu.isSome || m.touchExitSubmenu m.level)
  | _ => false

/-- The coordinates come from a read of the data that was started after the flag was raised. -/
def Fresh : Prop := ∃ t ∈ s.decodedFrom, s.raisedAt ≤ t

instance : Decidable s.Fresh := inferInstanceAs (Decidable (∃ t ∈ s.decodedFrom, s.raisedAt ≤ t))

/-- While the flag is raised, the read the coordinates come from is older. -/
structure Behind : Prop where
  read : s.readAt ≤ s.clock
  decoded : ∀ t ∈ s.decodedFrom, t ≤ s.clock
  raised : s.touchDetected ≠ 0 → ∀ t ∈ s.decodedFrom, t < s.raisedAt

variable {s} {e : TouchEvent}

/-- A cycle only acts while the flag is raised. -/
theorem touchDetected_of_actsOnTouch (acts : s.actsOnTouch e = true) : s.touchDetected ≠ 0 := by
  intro low
  cases e with
  | panel e =>
      cases e with
      | menu input =>
          have points : (s.panel.menu.enterCycle (s.touchInput input)).touchPointCnt = 0 := low
          simp [actsOnTouch, MenuController.touchSelectSubmenu, MenuController.touchExitSubmenu,
            points] at acts
      | tim1 accepted => cases acts
      | frame frame tx => cases acts
      | grbl chunk => cases acts
  | touch start => cases acts
  | transmitted start => cases acts
  | received rx start => cases acts

theorem Behind.not_fresh (behind : s.Behind) (acts : s.actsOnTouch e = true) : ¬ s.Fresh := by
  rintro ⟨t, decoded, since⟩
  have before := behind.raised (touchDetected_of_actsOnTouch acts) t decoded
  omega

/-- What `Behind` speaks about is the same in both states. -/
theorem Behind.of_same {s' : TouchPanel} (behind : s.Behind)
    (touchDetected : s'.touchDetected = s.touchDetected)
    (decodedFrom : s'.decodedFrom = s.decodedFrom) (raisedAt : s'.raisedAt = s.raisedAt)
    (clock : s'.clock = s.clock) (readAt : s'.readAt = s.readAt ∨ s'.readAt = s.clock) :
    s'.Behind := by
  refine ⟨?_, ?_, ?_⟩
  · rw [clock]
    obtain same | now := readAt
    · rw [same]
      exact behind.read
    · exact now.le
  · rw [decodedFrom, clock]
    exact behind.decoded
  · rw [touchDetected, decodedFrom, raisedAt]
    exact behind.raised

theorem Behind.startTransfer {begun : TouchPanel} (behind : s.Behind) (begins : begun.Behind)
    (start : TransferStart) : (s.startTransfer start begun).Behind := by
  cases start with
  | busy => exact behind.of_same rfl rfl rfl rfl (.inl rfl)
  | refused => exact behind.of_same rfl rfl rfl rfl (.inl rfl)
  | started => exact begins

theorem Behind.requestAvailablePoints (behind : s.Behind) (start : TransferStart) :
    (s.requestAvailablePoints start).Behind := by
  simp only [TouchPanel.requestAvailablePoints]
  split
  · apply Behind.startTransfer
    · exact behind.of_same rfl rfl rfl rfl (.inl rfl)
    · exact behind.of_same rfl rfl rfl rfl (.inl rfl)
  · exact behind

/-- The flag is raised after everything that has been decoded. -/
theorem Behind.touchInterrupt (behind : s.Behind) (start : TransferStart) :
    (s.tick.touchInterrupt start).Behind := by
  apply Behind.requestAvailablePoints
  refine ⟨Nat.le_succ_of_le behind.read,
    fun t decoded => Nat.le_succ_of_le (behind.decoded t decoded), fun _ t decoded => ?_⟩
  show t < if s.touchDetected = 0 then s.clock + 1 else s.raisedAt
  split
  next => exact Nat.lt_succ_of_le (behind.decoded t decoded)
  next before => exact behind.raised before t decoded

theorem Behind.transmissionCompleteCallback (behind : s.Behind) (start : TransferStart) :
    (s.transmissionCompleteCallback start).Behind := by
  simp only [TouchPanel.transmissionCompleteCallback]
  split
  · apply Behind.startTransfer
    · exact behind.of_same rfl rfl rfl rfl (.inl rfl)
    · exact behind.of_same rfl rfl rfl rfl (.inl rfl)
  · split
    · apply Behind.startTransfer
      · exact behind.of_same rfl rfl rfl rfl (.inl rfl)
      · exact behind.of_same rfl rfl rfl rfl (.inr rfl)
    · exact behind

/-- The flag is lowered with the coordinates; the read they come from has been started before. -/
theorem Behind.decodePoints (behind : s.Behind) (rx : Nat → BitVec 8) :
    (s.decodePoints rx).Behind := by
  simp only [TouchPanel.decodePoints]
  split
  · refine ⟨behind.read, fun t decoded => ?_, fun high => absurd rfl high⟩
    cases decoded
    exact behind.read
  · exact ⟨behind.read, behind.decoded, fun high => absurd rfl high⟩

theorem Behind.receptionCompleteCallback (behind : s.Behind) (rx : Nat → BitVec 8)
    (start : TransferStart) : (s.receptionCompleteCallback rx start).Behind := by
  simp only [TouchPanel.receptionCompleteCallback]
  split
  · split
    · exact behind.of_same rfl rfl rfl rfl (.inl rfl)
    · apply Behind.startTransfer
      · exact behind.of_same rfl rfl rfl rfl (.inl rfl)
      · exact behind.of_same rfl rfl rfl rfl (.inl rfl)
  · split
    · exact behind.decodePoints rx
    · exact behind

theorem Behind.tick (behind : s.Behind) : s.tick.Behind where
  read := Nat.le_succ_of_le behind.read
  decoded t decoded := Nat.le_succ_of_le (behind.decoded t decoded)
  raised := behind.raised

theorem Behind.step (behind : s.Behind) (e : TouchEvent) : (s.step e).Behind := by
  simp only [TouchPanel.step]
  split
  · exact behind
  · cases e with
    | touch start => exact behind.touchInterrupt start
    | transmitted start => exact behind.tick.transmissionCompleteCallback start
    | received rx start => exact behind.tick.receptionCompleteCallback rx start
    | panel e => exact behind.tick.of_same rfl rfl rfl rfl (.inl rfl)

theorem behind_initial (startup : Startup) : (initial startup).Behind where
  read := le_rfl
  decoded := nofun
  raised := nofun

/-- In no run is a touch acted on with its own coordinates: they are fresh at every cycle that acts
if and only if no cycle acts. -/
theorem touches_fresh_iff (startup : Startup) (es : List TouchEvent) :
    Always step (fun s e => s.actsOnTouch e = true → s.Fresh) (initial startup) es ↔
      Always step (fun s e => s.actsOnTouch e = false) (initial startup) es := by
  refine always_iff (I := Behind) (fun _ e behind _ => behind.step e) ?_ (behind_initial _) es
  intro s e behind
  constructor
  · intro fresh
    rw [← Bool.not_eq_true]
    intro acts
    exact behind.not_fresh acts (fresh acts)
  · intro still acts
    rw [still] at acts
    cases acts

/-- The bytes of a report with one point. -/
def onePoint (touchX touchY : BitVec 16) : Nat → BitVec 8
  | 2 => 1
  | 3 => highByte touchX
  | 4 => lowByte touchX
  | 5 => highByte touchY
  | 6 => lowByte touchY
  | _ => 0

/-- A touch interrupt and the four steps of the read. -/
def touchRead (touchX touchY : BitVec 16) : List TouchEvent :=
  [.touch .started, .transmitted .started, .received (fun _ => 1) .started, .transmitted .started,
    .received (onePoint touchX touchY) .started]

/-- The first touch is on "Settings", but no cycle of the menu falls into its read. The second one
is elsewhere, and a cycle follows its interrupt at once: it enters the settings. -/
theorem second_touch_enters_first :
    (run step (initial {}) (touchRead 270 400 ++
      [.touch .started, .panel (.menu {})])).panel.menu.levelIndexes 0 = 0x0202 ∧
    ¬ Always step (fun s e => s.actsOnTouch e = true → s.Fresh) (initial {})
      (touchRead 270 400 ++ [.touch .started, .panel (.menu {})]) := by
  decide +kernel

end TouchPanel

end Cnc
