import CncMachine.Panel.Gate
import CncMachine.Pendant.Board

/-!
# Pendant and panel together

The panel's requests and the pendant's replies travel on two lines that keep their order and may
lose any message. The steps of both boards, the operator's movements and the controller's reports
come in any order.

Next to the boards the system carries a history: whatever an observer of the pendant writes down,
by the function `note`. Every reply travels with the history as it was when it was sent. No
handler reads the history; it lets a statement compare a frame with what the pendant has seen.
-/

namespace Cnc

structure Link (η : Type) where
  panel : Panel
  pendant : Pendant := {}
  history : η
  /-- Replies on their way to the panel, each with the history of its sending. -/
  replyLine : List (SystemData × η) := []
  /-- The last frame that the panel has listened to. -/
  received : PendantData × η

inductive LinkEvent where
  | menu (input : MenuInput)
  | tim1 (accepted : Bool)
  | grbl (chunk : List Char)
  /-- The next reply reaches the panel. -/
  | reply (tx : Tx)
  | loseReply
  /-- The next request reaches the pendant. -/
  | request
  | loseRequest
  | turn (w : Wheel) (counts : Int)
  | settle (channel : Channel) (state : PinState)
  | inputs

namespace Link

variable {η : Type} (note : Pendant → PendantEvent → η → η)

/-- An event of the pendant is noted first; its reply, if there is one, is sent with the note. -/
def pendantStep (l : Link η) (e : PendantEvent) : Link η :=
  let history := note l.pendant e l.history
  { l with
    pendant := l.pendant.step e
    history := history
    replyLine := l.replyLine ++ (l.pendant.reply e).toList.map fun data => (data, history) }

def step (l : Link η) : LinkEvent → Link η
  | .menu input => { l with panel := l.panel.step (.menu input) }
  | .tim1 accepted => { l with panel := l.panel.step (.tim1 accepted) }
  | .grbl chunk => { l with panel := l.panel.step (.grbl chunk) }
  | .reply tx =>
      match l.replyLine with
      | [] => l
      | (data, stamp) :: rest =>
          { l with
            panel := l.panel.step (.frame data.toPendantData tx)
            replyLine := rest
            received := if l.panel.Listens then (data.toPendantData, stamp) else l.received }
  | .loseReply => { l with replyLine := l.replyLine.tail }
  | .request =>
      match l.panel.pendantLine with
      | [] => l
      | text :: rest => { l with panel.pendantLine := rest }.pendantStep note (.message text)
  | .loseRequest => { l with panel.pendantLine := l.panel.pendantLine.tail }
  | .turn w counts => l.pendantStep note (.turn w counts)
  | .settle channel state => l.pendantStep note (.settle channel state)
  | .inputs => l.pendantStep note .inputs

/-- Both boards after their reset, with nothing on the lines. -/
def initial (startup : Startup) (history : η) : Link η where
  panel := Panel.initial startup
  history := history
  received := ({}, history)

/-- What the pendant is about to handle. -/
def pendantEvent (l : Link η) : LinkEvent → Option PendantEvent
  | .request => l.panel.pendantLine.head?.map .message
  | .turn w counts => some (.turn w counts)
  | .settle channel state => some (.settle channel state)
  | .inputs => some .inputs
  | _ => none

/-- The frame that is about to reach the panel, with its history. -/
def arriving (l : Link η) : LinkEvent → Option (PendantData × η)
  | .reply _ => l.replyLine.head?.map fun x => (x.1.toPendantData, x.2)
  | _ => none

/-- What the panel is about to handle. -/
def panelEvent (l : Link η) : LinkEvent → Option PanelEvent
  | .menu input => some (.menu input)
  | .tim1 accepted => some (.tim1 accepted)
  | .grbl chunk => some (.grbl chunk)
  | .reply tx => l.replyLine.head?.map fun x => .frame x.1.toPendantData tx
  | _ => none

section

variable {note} {l : Link η} {e : LinkEvent}

variable (note l e) in
/-- The pendant and the history change with the pendant's events only. -/
theorem step_pendant :
    (l.step note e).pendant = (l.pendantEvent e).elim l.pendant l.pendant.step ∧
      (l.step note e).history =
        (l.pendantEvent e).elim l.history fun event => note l.pendant event l.history := by
  cases e with
  | reply tx =>
      simp only [step]
      cases l.replyLine <;> exact ⟨rfl, rfl⟩
  | request =>
      simp only [step, pendantEvent]
      cases l.panel.pendantLine <;> exact ⟨rfl, rfl⟩
  | _ => exact ⟨rfl, rfl⟩

/-- Replies on the line were there before or have just been sent. -/
theorem mem_replyLine_step {x : SystemData × η} (member : x ∈ (l.step note e).replyLine) :
    x ∈ l.replyLine ∨
      x.1 = (l.step note e).pendant.data ∧ x.2 = (l.step note e).history := by
  have sent {l : Link η} {event : PendantEvent}
      (member : x ∈ (l.pendantStep note event).replyLine) :
      x ∈ l.replyLine ∨
        x.1 = (l.pendantStep note event).pendant.data ∧
          x.2 = (l.pendantStep note event).history := by
    obtain before | now := List.mem_append.mp member
    · exact .inl before
    · obtain ⟨data, reply, rfl⟩ := List.mem_map.mp now
      rw [Option.mem_toList] at reply
      cases event with
      | message text =>
          rw [Pendant.reply_message] at reply
          split at reply
          · exact .inr ⟨(Option.some.inj reply).symm, rfl⟩
          · cases reply
      | _ => cases reply
  simp only [step] at member ⊢
  cases e with
  | reply tx =>
      dsimp only at member ⊢
      split at member
      next empty => exact .inl member
      next data stamp rest line => exact .inl (by rw [line]; exact List.mem_cons_of_mem _ member)
  | loseReply => exact .inl (List.mem_of_mem_tail member)
  | request =>
      dsimp only at member ⊢
      split at member
      · exact .inl member
      · exact sent member
  | turn w counts => exact sent member
  | settle channel state => exact sent member
  | inputs => exact sent member
  | _ => exact .inl member

variable (note l e) in
/-- The last frame received is the one before or has just arrived from the line. -/
theorem step_received :
    (l.step note e).received = l.received ∨
      ∃ x ∈ l.replyLine, (l.step note e).received = (x.1.toPendantData, x.2) := by
  simp only [step]
  cases e with
  | reply tx =>
      dsimp only
      split
      · exact .inl rfl
      next data stamp rest line =>
        by_cases listens : l.panel.Listens
        · exact .inr ⟨(data, stamp), by rw [line]; exact List.mem_cons_self, if_pos listens⟩
        · exact .inl (if_neg listens)
  | request =>
      dsimp only
      split <;> exact .inl rfl
  | _ => exact .inl rfl

/-- A frame arrives from the head of the line. -/
theorem arriving_frame {event : PanelEvent} {x : PendantData × η} (handled : event ∈ l.panelEvent e)
    (arrives : x ∈ l.arriving e) :
    ∃ tx, event = .frame x.1 tx ∧ ∃ data, data.toPendantData = x.1 ∧ (data, x.2) ∈ l.replyLine := by
  cases e with
  | reply tx =>
      simp only [panelEvent] at handled
      simp only [arriving] at arrives
      cases line : l.replyLine with
      | nil => simp [line] at arrives
      | cons head rest =>
          simp only [line, List.head?_cons, Option.map_some, Option.mem_some_iff] at handled arrives
          subst handled arrives
          exact ⟨tx, rfl, head.1, rfl, List.mem_cons_self⟩
  | _ => cases arrives

end

/-- The pendant is as its history says, and so are the frames on the line. -/
structure Truthful (own : Pendant → η → Prop) (told : η → PendantData → η → Prop)
    (l : Link η) : Prop where
  own : own l.pendant l.history
  replies : ∀ x ∈ l.replyLine, told l.history x.1.toPendantData x.2

/-- A step keeps the system truthful if the pendant's own step does, and if what the pendant
notes does not belie the frames on the line. -/
theorem Truthful.step {own : Pendant → η → Prop} {told : η → PendantData → η → Prop}
    {l : Link η} {e : LinkEvent} (truthful : Truthful own told l)
    (sends : ∀ p h, own p h → told h p.data.toPendantData h)
    (ownStep : ∀ event, l.pendantEvent e = some event →
      own (l.pendant.step event) (note l.pendant event l.history))
    (toldStep : ∀ event, l.pendantEvent e = some event → ∀ x ∈ l.replyLine,
      told (note l.pendant event l.history) x.1.toPendantData x.2) :
    Truthful own told (l.step note e) := by
  obtain ⟨pendant, history⟩ := step_pendant note l e
  cases event : l.pendantEvent e with
  | none =>
      rw [event] at pendant history
      refine ⟨by rw [pendant, history]; exact truthful.own, ?_⟩
      intro x member
      rw [history]
      obtain before | ⟨data, stamp⟩ := mem_replyLine_step member
      · exact truthful.replies x before
      · rw [data, stamp, pendant, history]
        exact sends _ _ truthful.own
  | some event' =>
      rw [event] at pendant history
      have owned := ownStep event' event
      refine ⟨by rw [pendant, history]; exact owned, ?_⟩
      intro x member
      obtain before | ⟨data, stamp⟩ := mem_replyLine_step member
      · rw [history]
        exact toldStep event' event x before
      · rw [data, stamp, pendant, history]
        exact sends _ _ owned

/-- Ten ticks of the panel bring out a request, which is answered. -/
def poll : List LinkEvent := List.replicate 10 (.tim1 true) ++ [.request, .reply fun _ => true]

/-- No switch of the pendant is pressed; the Manual menu is opened and the pendant switched on. -/
def switchOn : List LinkEvent :=
  [.settle .mpgBut .set, .settle .holdBut .set, .settle .cycleStartBut .set,
    .settle .floodSw .set, .settle .mistSw .set, .settle .spindle3PosSwNc1 .set,
    .settle .spindle3PosSwNc2 .set, .menu Panel.manualTouched] ++
  List.replicate 6 (.tim1 true) ++ [.menu {}] ++ List.replicate 9 (.tim1 true) ++
  [.request, .reply fun _ => true]

/-- The pendant's MPG button is pressed and released. -/
def pressMpg : List LinkEvent :=
  [.settle .mpgBut .reset, .inputs, .settle .mpgBut .set, .inputs]

/-- A session is begun and the controller enters MPG mode. -/
def beginSession : List LinkEvent :=
  switchOn ++ pressMpg ++ poll ++ [.grbl "<Idle|MPG:1>\r\n".toList] ++ poll ++ poll

end Link

end Cnc
