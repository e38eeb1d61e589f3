import Mathlib.Tactic.Ring
import CncMachine.Panel.Encoder

/-!
# Handwheel jogs that do not get out

`pendant_data_to_action` drops the result of `grbl_send_packet`, and
`process_pendant_data_to_action` saves the frame in any case. The counts that the accepted jogs
carry and the counts that are missed add up to the counts of the session (`carried_add_missed`), so
the axis follows the wheel exactly while the latter cancel out: the counts of the frames whose jog
is refused, and what is misread of a displacement of 300 counts or more.
-/

namespace Cnc

open Transition

/-- The sum of a list of integers. -/
def total (xs : List Int) : Int := xs.foldr (· + ·) 0

@[simp] theorem total_nil : total [] = 0 := rfl

@[simp] theorem total_cons (x : Int) (xs : List Int) : total (x :: xs) = x + total xs := rfl

theorem total_append (xs ys : List Int) : total (xs ++ ys) = total xs + total ys := by
  induction xs with
  | nil => simp
  | cons x xs ih =>
      rw [List.cons_append, total_cons, total_cons, ih]
      omega

theorem total_eq_zero {xs : List Int} (zero : ∀ x ∈ xs, x = 0) : total xs = 0 := by
  induction xs with
  | nil => rfl
  | cons x xs ih =>
      rw [total_cons, zero x (.head xs), ih fun y member => zero y (.tail x member)]
      rfl

/-- A handwheel jog. -/
def Packet.isJog : Packet → Bool
  | .jog _ _ _ _ => true
  | _ => false

/-- The distance of a handwheel jog along the axis of a wheel. -/
def Packet.distance (w : Wheel) : Packet → Int
  | .jog x _ yz _ =>
      match w with
      | .x => x
      | .yz => yz
  | _ => 0

theorem Packet.distance_of_not_isJog {packet : Packet} (other : packet.isJog = false)
    (w : Wheel) : packet.distance w = 0 := by
  cases packet <;> first | rfl | cases other

namespace Panel

/-- The distances of the handwheel jogs that the handler of an event transmits. -/
def sentDistances (w : Wheel) (s : Panel) (e : PanelEvent) : List Int :=
  (s.sentBy e).map (Packet.distance w)

/-- The frames that are processed have one multiplicity. -/
def MovesBy (w : Wheel) (m : Int) (s : Panel) : PanelEvent → Prop
  | .frame frame _ => s.Processes → s.mpgSettings.axisStep frame w = m
  | _ => True

instance (w : Wheel) (m : Int) (s : Panel) : (e : PanelEvent) → Decidable (s.MovesBy w m e)
  | .frame _ _ => inferInstanceAs (Decidable (_ → _))
  | .menu _ | .tim1 _ | .grbl _ => inferInstanceAs (Decidable True)

/-- By how much the count of a frame differs from the saved one. -/
def displaced (w : Wheel) (s : Panel) (frame : PendantData) : Int :=
  countOf (frame.encoderVal w) - countOf (s.lastData.encoderVal w)

/-- The handwheel jog that a frame asks for. -/
def requestedJog (s : Panel) (frame : PendantData) : Packet :=
  .jog (turn (s.displaced .x frame) * s.mpgSettings.axisStep frame .x)
    (if frame.yOrZ = yzMovementY then 'Y' else 'Z')
    (turn (s.displaced .yz frame) * s.mpgSettings.axisStep frame .yz)
    (s.mpgSettings.jogSpeeds s.pendantControl.jogMode.toNat)

/-- The counts of the processed frames whose jog `grbl_send_packet` refuses. -/
def refusedCounts (w : Wheel) (s : Panel) : PanelEvent → List Int
  | .frame frame tx =>
      if s.Processes ∧ tx (s.requestedJog frame) = false then [s.displaced w frame] else []
  | _ => []

/-- The counts of the processed frames whose jog is accepted, as the jog carries them. -/
def carriedCounts (w : Wheel) (s : Panel) : PanelEvent → List Int
  | .frame frame tx =>
      if s.Processes ∧ tx (s.requestedJog frame) = true then [turn (s.displaced w frame)] else []
  | _ => []

/-- The counts of the processed frames that are missed: all of them if the jog is refused, else
what is misread of them. -/
def missedCounts (w : Wheel) (s : Panel) : PanelEvent → List Int
  | .frame frame tx =>
      if s.Processes then
        [if tx (s.requestedJog frame) then s.displaced w frame - turn (s.displaced w frame)
        else s.displaced w frame]
      else []
  | _ => []

section

variable {s : Panel} {frame : PendantData} {tx : Tx}

/-- Of the packets of `pendant_data_to_action` only the first can be a jog. -/
theorem not_isJog_behind {data : PendantAction} {packet : Packet}
    (member : packet ∈ s.spindlePackets data ++ s.coolantPackets data ++ s.systemPackets) :
    packet.isJog = false := by
  simp only [List.mem_append] at member
  obtain (spindle | coolant) | system := member
  · rw [(mem_spindlePackets spindle).1]
    rfl
  · obtain ⟨rfl, -⟩ | ⟨rfl, -⟩ := mem_coolantPackets coolant <;> rfl
  · obtain ⟨rfl, -⟩ | ⟨rfl, -⟩ := mem_systemPackets system <;> rfl

/-- What a processed frame of a session puts on the line: its jog, if that gets out, among packets
that are no jogs. -/
theorem sentBy_session (processes : s.Processes) (session : s.InSession (.frame frame tx)) :
    ∃ before behind, s.sentBy (.frame frame tx) =
        before ++ ((s.received frame).movementPackets (s.received frame).actedAction).filter tx ++
          behind ∧
      ∀ packet ∈ before ++ behind, packet.isJog = false := by
  obtain ⟨status, mode, mpg, -⟩ := session processes
  have acts : s.ActsOn frame := ⟨processes, mpg, status, .inl mode⟩
  refine ⟨s.grblData.callPackets tx (s.frameCall frame),
    ((s.received frame).spindlePackets (s.received frame).actedAction ++
      (s.received frame).coolantPackets (s.received frame).actedAction ++
      (s.received frame).systemPackets).filter tx, ?_, ?_⟩
  · rw [sentBy_frame, framePackets_of_actsOn acts, pendantDataToAction]
    simp only [List.filter_append, List.append_assoc]
  · intro packet member
    obtain call | action := List.mem_append.mp member
    · rw [GrblData.mem_callPackets call]
      rfl
    · exact not_isJog_behind (List.mem_of_mem_filter action)

theorem total_distance_of_not_isJog {packets : List Packet} (w : Wheel)
    (others : ∀ packet ∈ packets, packet.isJog = false) :
    total (packets.map (Packet.distance w)) = 0 := by
  apply total_eq_zero
  intro distance member
  obtain ⟨packet, inside, rfl⟩ := List.mem_map.mp member
  exact Packet.distance_of_not_isJog (others packet inside) w

/-- A processed frame offers the jog it asks for, unless both distances are zero. -/
theorem movementPackets_received (saved : ∀ w, (s.lastData.encoderVal w).toNat < 65536)
    (received : ∀ w, (frame.encoderVal w).toNat < 65536) :
    (s.received frame).movementPackets (s.received frame).actedAction =
      if (s.requestedJog frame).distance .x ≠ 0 ∨ (s.requestedJog frame).distance .yz ≠ 0 then
        [s.requestedJog frame]
      else [] := by
  have x : ((s.received frame).actedAction.encoder1ValDiff).toInt = turn (s.displaced .x frame) :=
    encoderValDiff_toInt (saved .x) (received .x)
  have yz : ((s.received frame).actedAction.encoder2ValDiff).toInt =
      turn (s.displaced .yz frame) :=
    encoderValDiff_toInt (saved .yz) (received .yz)
  simp only [movementPackets, x, yz]
  rfl

theorem requestedJog_distance (w : Wheel) :
    (s.requestedJog frame).distance w =
      turn (s.displaced w frame) * s.mpgSettings.axisStep frame w := by
  cases w <;> rfl

/-- The distance a processed frame of a session transmits is that of the counts it carries. -/
theorem total_sentDistances_session (w : Wheel) (processes : s.Processes)
    (session : s.InSession (.frame frame tx))
    (saved : ∀ w, (s.lastData.encoderVal w).toNat < 65536) :
    total (s.sentDistances w (.frame frame tx)) =
      s.mpgSettings.axisStep frame w * total (s.carriedCounts w (.frame frame tx)) := by
  obtain ⟨before, behind, sent, others⟩ := sentBy_session processes session
  have first := total_distance_of_not_isJog w fun packet member =>
    others packet (List.mem_append_left behind member)
  have last := total_distance_of_not_isJog w fun packet member =>
    others packet (List.mem_append_right before member)
  rw [sentDistances, sent, List.map_append, List.map_append, total_append, total_append, first,
    last, movementPackets_received saved (session processes).2.2.2, carriedCounts,
    Int.mul_comm (s.mpgSettings.axisStep frame w)]
  have distance : (s.requestedJog frame).distance w =
      turn (s.displaced w frame) * s.mpgSettings.axisStep frame w := requestedJog_distance w
  cases accepted : tx (s.requestedJog frame) with
  | false => split <;> simp [accepted]
  | true =>
      split
      · simp [accepted, processes, distance]
      next still =>
        -- a frame that turns neither axis has nothing to send
        rw [not_or, not_not, not_not] at still
        have zero : (s.requestedJog frame).distance w = 0 :=
          match w with
          | .x => still.1
          | .yz => still.2
        simp [processes, ← distance, zero]

end

variable {w : Wheel} {s : Panel} {es : List PanelEvent}

/-- Events that process no frame transmit no handwheel jog. -/
theorem total_sentDistances_other {e : PanelEvent}
    (other : ∀ frame tx, e = .frame frame tx → ¬ s.Processes) :
    total (s.sentDistances w e) = 0 := by
  apply total_distance_of_not_isJog
  intro packet member
  cases e with
  | menu input =>
      obtain ⟨packets, manual, sent⟩ := s.sentBy_menu input
      rw [sent] at member
      obtain call | button := List.mem_append.mp member
      · rw [GrblData.mem_callPackets call]
        rfl
      · rcases manual packet button with rfl | ⟨_, _, _, rfl⟩ <;> rfl
  | tim1 accepted =>
      rw [sentBy_tim1] at member
      cases member
  | frame frame tx =>
      have deaf := other frame tx rfl
      have noCall : s.frameCall frame = none := if_neg deaf
      have noPackets : s.framePackets frame = [] := if_neg deaf
      rw [sentBy_frame, noCall, noPackets] at member
      cases member
  | grbl chunk =>
      have silent : s.sentBy (.grbl chunk) = [] := List.drop_length
      rw [silent] at member
      cases member

/-- An event processes a frame, or it transmits no jog and leaves the saved frame alone. -/
theorem processes_or_quiet (s : Panel) (e : PanelEvent) :
    (∃ frame tx, e = .frame frame tx ∧ s.Processes) ∨
      ((s.step e).lastData = s.lastData ∧
        ∀ w, total (s.sentDistances w e) = 0 ∧ s.receivedCount w e = [] ∧
          s.carriedCounts w e = [] ∧ s.missedCounts w e = [] ∧ s.refusedCounts w e = []) := by
  by_cases processed : ∃ frame tx, e = .frame frame tx ∧ s.Processes
  · exact .inl processed
  · have other : ∀ frame tx, e = .frame frame tx → ¬ s.Processes :=
      fun frame tx eq processes => processed ⟨frame, tx, eq, processes⟩
    refine .inr ⟨lastData_other other, fun w => ⟨total_sentDistances_other other, ?_⟩⟩
    cases e with
    | frame frame tx =>
        have deaf := other frame tx rfl
        simp [receivedCount, carriedCounts, missedCounts, refusedCounts, deaf]
    | _ => exact ⟨rfl, rfl, rfl, rfl⟩

/-- The saved counts of a session have 16 bits. -/
theorem narrow_step {e : PanelEvent} (session : s.InSession e)
    (saved : ∀ w, (s.lastData.encoderVal w).toNat < 65536) (w : Wheel) :
    ((s.step e).lastData.encoderVal w).toNat < 65536 := by
  obtain ⟨frame, tx, rfl, processes⟩ | ⟨same, -⟩ := processes_or_quiet s e
  · rw [lastData_session processes session]
    exact (session processes).2.2.2 w
  · rw [same]
    exact saved w

/-- The distances transmitted in a session are those of the counts carried. -/
theorem total_sentDistances {m : Int} (session : Always step InSession s es)
    (moves : Always step (MovesBy w m) s es)
    (saved : ∀ w, (s.lastData.encoderVal w).toNat < 65536) :
    total (trace step (sentDistances w) s es) = m * total (trace step (carriedCounts w) s es) := by
  induction es generalizing s with
  | nil => simp [trace]
  | cons e es ih =>
      rw [trace, trace, total_append, total_append,
        ih session.2 moves.2 (narrow_step session.1 saved), Int.mul_add]
      obtain ⟨frame, tx, rfl, processes⟩ | ⟨-, quiet⟩ := processes_or_quiet s e
      · rw [total_sentDistances_session w processes session.1 saved, moves.1 processes]
      · obtain ⟨silent, -, none, -, -⟩ := quiet w
        rw [silent, none]
        simp

/-- The counts carried and the counts missed add up to the counts of the session. -/
theorem carried_add_missed (session : Always step InSession s es) :
    total (trace step (carriedCounts w) s es) + total (trace step (missedCounts w) s es) =
      countOf ((run step s es).lastData.encoderVal w) - countOf (s.lastData.encoderVal w) := by
  induction es generalizing s with
  | nil => simp [trace]
  | cons e es ih =>
      have later := ih session.2
      rw [trace, trace, total_append, total_append, run_cons]
      obtain ⟨frame, tx, rfl, processes⟩ | ⟨same, quiet⟩ := processes_or_quiet s e
      · rw [lastData_session processes session.1] at later
        have now : total (s.carriedCounts w (.frame frame tx)) +
            total (s.missedCounts w (.frame frame tx)) = s.displaced w frame := by
          cases accepted : tx (s.requestedJog frame) <;>
            simp [carriedCounts, missedCounts, processes, accepted]
        rw [displaced] at now
        omega
      · obtain ⟨-, -, none, nothing, -⟩ := quiet w
        rw [same] at later
        rw [none, nothing, total_nil]
        omega

/-- While no two consecutive counts are 300 or more apart, the counts missed are those of the frames
whose jog is refused. -/
theorem missed_eq_refused (session : Always step InSession s es)
    (near : NeverWraps (s.lastData.encoderVal w) (trace step (receivedCount w) s es)) :
    total (trace step (missedCounts w) s es) = total (trace step (refusedCounts w) s es) := by
  induction es generalizing s with
  | nil => rfl
  | cons e es ih =>
      rw [trace, trace, total_append, total_append]
      rw [trace] at near
      obtain ⟨frame, tx, rfl, processes⟩ | ⟨same, quiet⟩ := processes_or_quiet s e
      · rw [receivedCount, if_pos processes, List.singleton_append, NeverWraps,
          List.isChain_cons_cons] at near
        have whole : turn (s.displaced w frame) = s.displaced w frame := if_pos near.1
        rw [ih session.2 (by rw [lastData_session processes session.1]; exact near.2)]
        cases accepted : tx (s.requestedJog frame) <;>
          simp [missedCounts, refusedCounts, processes, accepted, whole]
      · obtain ⟨-, unheard, -, nothing, none⟩ := quiet w
        rw [unheard, List.nil_append, ← same] at near
        rw [ih session.2 near, nothing, none]

/-- The distance that the handwheel jogs of a session have moved an axis is that of the counts
received, exactly if the counts that are missed cancel out. These are the counts of the frames whose
jog `grbl_send_packet` refuses, as long as no frame is 300 or more counts from the one before it. -/
theorem session_distance_iff (w : Wheel) (m : Int) (s : Panel) (es : List PanelEvent)
    (saved : ∀ w, (s.lastData.encoderVal w).toNat < 65536)
    (session : Always step InSession s es) (moves : Always step (MovesBy w m) s es) :
    (NeverWraps (s.lastData.encoderVal w) (trace step (receivedCount w) s es) →
      (total (trace step (sentDistances w) s es) =
          m * (countOf ((run step s es).lastData.encoderVal w) -
            countOf (s.lastData.encoderVal w)) ↔
        m = 0 ∨ total (trace step (refusedCounts w) s es) = 0)) ∧
    (total (trace step (sentDistances w) s es) =
        m * (countOf ((run step s es).lastData.encoderVal w) -
          countOf (s.lastData.encoderVal w)) ↔
      m = 0 ∨ total (trace step (missedCounts w) s es) = 0) := by
  have exactly : total (trace step (sentDistances w) s es) =
        m * (countOf ((run step s es).lastData.encoderVal w) -
          countOf (s.lastData.encoderVal w)) ↔
      m = 0 ∨ total (trace step (missedCounts w) s es) = 0 := by
    rw [total_sentDistances session moves saved, ← carried_add_missed session, Int.mul_add,
      left_eq_add, Int.mul_eq_zero]
  refine ⟨fun near => ?_, exactly⟩
  rw [exactly, missed_eq_refused session near]

/-- A frame of the session with these counts, whose packets do not get out. -/
def refusedFrame (encoder1Val encoder2Val : BitVec 32) : PanelEvent :=
  .frame { encoder1Val, encoder2Val, mpg := true } fun _ => false

set_option maxRecDepth 4000 in
/-- Two jogs are lost, forwards and back; the last one gets out. -/
theorem session_distance_cancelled :
    let s := run step (initial {}) openSession
    total (trace step (sentDistances .x) s [refusedFrame 5 0, refusedFrame 0 0, countsFrame 8 0]) =
      1 * (countOf ((run step s
        [refusedFrame 5 0, refusedFrame 0 0, countsFrame 8 0]).lastData.encoderVal .x) -
        countOf (s.lastData.encoderVal .x)) :=
  ((session_distance_iff .x 1 _ _ (by decide) (by decide) (by decide)).1 (by decide)).mpr
    (.inr (by decide))

set_option maxRecDepth 4000 in
/-- The jog of five counts does not get out, and the next one carries its own three only. -/
theorem session_distance_lost :
    let s := run step (initial {}) openSession
    let es := [refusedFrame 5 0, countsFrame 8 0]
    Always step InSession s es ∧ Always step (MovesBy .x 1) s es ∧
      NeverWraps (s.lastData.encoderVal .x) (trace step (receivedCount .x) s es) ∧
      ((run step s [refusedFrame 5 0]).sentBy (countsFrame 8 0)).any Packet.isJog = true ∧
      countOf ((run step s es).lastData.encoderVal .x) - countOf (s.lastData.encoderVal .x) = 8 ∧
      total (trace step (sentDistances .x) s es) = 3 := by
  decide

end Panel

end Cnc
