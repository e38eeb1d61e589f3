import CncMachine.Panel.Gate
import CncMachine.Transition.Run

/-!
# Polling the pendant

In the manual mode TIM1 counts to a request, and past it to the answer or to ten ticks without one.
Frames, exits and the turn-off of the pendant come in between at any time; a frame of the turn-off
sets the counter back in front of the request. The ticks since the request never outrun the ticks
without an answer (`Timed`), so that both counters are always tested before they pass their limits.
The flag of the answer is not as well guarded: it may be set before the request it is taken for.
-/

namespace Cnc.Panel

open Transition

variable {s : Panel}

/-- The counters of the poll and the flag of its answer. -/
structure SamePoll (c c' : PendantControl) : Prop where
  counter : c'.counter = c.counter
  commCnt : c'.commCnt = c.commCnt
  requestAnswered : c'.requestAnswered = c.requestAnswered

/-- This tick calls `request_pendant_data`. -/
def Polls (s : Panel) : Prop :=
  s.menu.enteredManualMode = true ∧ s.pendantControl.counter + 1 = dataRequestCnt

instance (s : Panel) : Decidable s.Polls := inferInstanceAs (Decidable (_ ∧ _))

/-- This tick takes the branch "Response has been received". -/
def ClosesPoll (s : Panel) : Prop :=
  s.menu.enteredManualMode = true ∧ s.pendantControl.counter + 1 ≥ checkDataReceivedCnt ∧
    s.pendantControl.requestAnswered = true

instance (s : Panel) : Decidable s.ClosesPoll := inferInstanceAs (Decidable (_ ∧ _))

/-- The panel in a tick of the manual mode, when it has counted and followed the turn-off. -/
def counted (s : Panel) (mpgStatus : MpgStatus) : Panel :=
  { s with
    pendantControl := { s.pendantControl with
      mpgStatus := mpgStatus
      counter := s.pendantControl.counter + 1 } }

/-- A tick of the manual mode polls, or finds an answer, or misses one for the last or another
time, or only counts. -/
theorem pollPendant_manual (accepted : Bool) (manual : s.menu.enteredManualMode = true) :
    ∃ mpgStatus, s.pollPendant accepted =
      let t := s.counted mpgStatus
      if s.pendantControl.counter + 1 = dataRequestCnt then t.requestPendantData accepted
      else if s.pendantControl.counter + 1 ≥ checkDataReceivedCnt then
        if s.pendantControl.requestAnswered then
          { t with
            pendantControl.requestAnswered := false
            pendantControl.counter := 0
            pendantControl.commCnt := 0 }
        else if s.pendantControl.commCnt + 1 = requestTimeoutCnt then
          { t with pendantControl.counter := 0, pendantControl.commCnt := 0 }
        else { t with pendantControl.commCnt := s.pendantControl.commCnt + 1 }
      else t := by
  obtain ⟨menu, ⟨_, _, mpgStatus, _, turnOffMpg, requestAnswered, _⟩, _, _, _, _, _, _⟩ := s
  have entered : menu.enteredManualMode = true := manual
  refine ⟨if turnOffMpg then .disabled else mpgStatus, ?_⟩
  simp only [pollPendant, entered, if_true]
  cases turnOffMpg <;> cases requestAnswered <;> rfl

/-- What such a tick does to the counters and to the flag. -/
theorem tim1_cases (accepted : Bool) (manual : s.menu.enteredManualMode = true) :
    let c := s.pendantControl
    let c' := (s.tim1 accepted).pendantControl
    (s.Polls ∧ c'.counter = dataRequestCnt ∧ c'.commCnt = c.commCnt ∧
      c'.requestAnswered = c.requestAnswered) ∨
    (s.ClosesPoll ∧ c'.counter = 0 ∧ c'.commCnt = 0 ∧ c'.requestAnswered = false) ∨
    (c.counter + 1 ≥ checkDataReceivedCnt ∧ c.requestAnswered = false ∧
      c.commCnt + 1 = requestTimeoutCnt ∧
      c'.counter = 0 ∧ c'.commCnt = 0 ∧ c'.requestAnswered = false) ∨
    (c.counter + 1 ≥ checkDataReceivedCnt ∧ c.requestAnswered = false ∧
      c.commCnt + 1 ≠ requestTimeoutCnt ∧
      c'.counter = c.counter + 1 ∧ c'.commCnt = c.commCnt + 1 ∧ c'.requestAnswered = false) ∨
    (c.counter + 1 < dataRequestCnt ∧ c'.counter = c.counter + 1 ∧ c'.commCnt = c.commCnt ∧
      c'.requestAnswered = c.requestAnswered) := by
  intro c c'
  obtain ⟨menu, place, counted⟩ := s.countMenu_eq
  have entered : { s with menu := menu }.menu.enteredManualMode = true :=
    place.entered.trans manual
  obtain ⟨mpgStatus, polled⟩ := pollPendant_manual accepted entered
  have eq : c' = ({ s with menu := menu }.pollPendant accepted).pendantControl := by
    rw [← counted]
    rfl
  rw [polled] at eq
  by_cases poll : c.counter + 1 = dataRequestCnt
  · refine .inl ⟨⟨manual, poll⟩, ?_⟩
    rw [eq, if_pos poll, requestPendantData_eq]
    exact ⟨poll, rfl, rfl⟩
  rw [if_neg poll] at eq
  by_cases check : c.counter + 1 ≥ checkDataReceivedCnt
  · rw [if_pos check] at eq
    cases answered : c.requestAnswered with
    | true =>
        refine .inr (.inl ⟨⟨manual, check, answered⟩, ?_⟩)
        rw [eq, if_pos answered]
        exact ⟨rfl, rfl, rfl⟩
    | false =>
        have missing : c.requestAnswered ≠ true := Bool.eq_false_iff.mp answered
        rw [if_neg missing] at eq
        by_cases timeout : c.commCnt + 1 = requestTimeoutCnt
        · refine .inr (.inr (.inl ⟨check, rfl, timeout, ?_⟩))
          rw [eq, if_pos timeout]
          exact ⟨rfl, rfl, answered⟩
        · refine .inr (.inr (.inr (.inl ⟨check, rfl, timeout, ?_⟩)))
          rw [eq, if_neg timeout]
          exact ⟨rfl, rfl, answered⟩
  · refine .inr (.inr (.inr (.inr ⟨?_, ?_⟩)))
    · bv_omega
    · rw [eq, if_neg check]
      exact ⟨rfl, rfl, rfl⟩

/-- A tick that polls stops at the request. -/
theorem tim1_of_polls (accepted : Bool) (polls : s.Polls) :
    (s.tim1 accepted).pendantControl.counter = dataRequestCnt ∧
      (s.tim1 accepted).pendantControl.requestAnswered = s.pendantControl.requestAnswered := by
  have count : s.pendantControl.counter + 1 = 9 := polls.2
  rcases tim1_cases accepted polls.1 with ⟨-, counts, -, same⟩ | ⟨closes, -⟩ | ⟨late, -⟩ |
    ⟨late, -⟩ | ⟨early, -⟩
  · exact ⟨counts, same⟩
  · exact absurd closes.2.1 (by rw [count]; decide)
  · exact absurd late (by rw [count]; decide)
  · exact absurd late (by rw [count]; decide)
  · exact absurd early (by rw [count]; decide)

/-- Outside the manual mode a tick clears both counters. -/
theorem tim1_asleep (accepted : Bool) (asleep : s.menu.enteredManualMode = false) :
    let c' := (s.tim1 accepted).pendantControl
    c'.counter = 0 ∧ c'.commCnt = 0 ∧ c'.requestAnswered = s.pendantControl.requestAnswered := by
  obtain ⟨menu, place, counted⟩ := s.countMenu_eq
  rw [tim1, counted, pollPendant_asleep]
  · exact ⟨rfl, rfl, rfl⟩
  · exact place.entered.trans asleep

theorem screenMenu_samePoll (s : Panel) (input : MenuInput) :
    SamePoll s.pendantControl (s.screenMenu input).pendantControl := by
  obtain ⟨_, _, _, eq⟩ := s.screenMenu_control input
  rw [eq]
  exact ⟨rfl, rfl, rfl⟩

/-- A frame that is not listened to changes no counter; one that is sets the flag of the answer, and
sets the counter back in front of the request if the pendant is being turned off. -/
theorem uart4Callback_poll (tx : Tx) (frame : PendantData) (s : Panel) :
    let c := s.pendantControl
    let c' := (s.uart4Callback tx frame).1.pendantControl
    c'.commCnt = c.commCnt ∧
      ((¬ s.Listens ∧ c'.counter = c.counter ∧ c'.requestAnswered = c.requestAnswered) ∨
        (s.Listens ∧ c'.requestAnswered = true ∧
          c'.counter = if c.turnOffMpg then dataRequestCnt - 1 else c.counter)) := by
  dsimp only
  obtain ⟨deaf, eq⟩ | ⟨listens, turnOff, eq⟩ | ⟨⟨listens, stays⟩, eq⟩ :=
    uart4Callback_cases tx frame s
  · rw [eq]
    exact ⟨rfl, .inl ⟨deaf, rfl, rfl⟩⟩
  · rw [eq, turnOff]
    exact ⟨rfl, .inr ⟨listens, rfl, rfl⟩⟩
  · rw [eq, process_eq, stays]
    exact ⟨rfl, .inr ⟨listens, rfl, rfl⟩⟩

/-- The handler of an event calls `request_pendant_data`: a tick that polls, or an exit from the
manual mode. -/
def Requests (s : Panel) : PanelEvent → Prop
  | .menu input => s.LeavesFirstLevel input ∧ (s.enterCycle input).Sleeps
  | .tim1 _ => s.Polls
  | _ => False

instance (s : Panel) : (e : PanelEvent) → Decidable (s.Requests e)
  | .menu _ => inferInstanceAs (Decidable (_ ∧ _))
  | .tim1 _ => inferInstanceAs (Decidable s.Polls)
  | .frame _ _ | .grbl _ => inferInstanceAs (Decidable False)

/-- Whether the DMA transfer is accepted, if the handler makes a request. -/
def transferAccepted : PanelEvent → Bool
  | .menu input => input.accepted
  | .tim1 accepted => accepted
  | _ => true

theorem pollPendant_pendantLine (accepted : Bool) (s : Panel) :
    ∃ request, (s.pollPendant accepted).pendantLine = s.pendantLine ++
      if s.Polls ∧ accepted = true then [request] else [] := by
  cases manual : s.menu.enteredManualMode with
  | false =>
      have waits : ¬ s.Polls := fun polls => Bool.false_ne_true (manual.symm.trans polls.1)
      rw [pollPendant_asleep accepted s manual]
      exact ⟨[], by simp [waits]⟩
  | true =>
      obtain ⟨mpgStatus, eq⟩ := pollPendant_manual accepted manual
      rw [eq]
      by_cases poll : s.pendantControl.counter + 1 = dataRequestCnt
      · have polls : s.Polls := ⟨manual, poll⟩
        refine ⟨requestBody s.pendantControl.status mpgStatus, ?_⟩
        dsimp only
        rw [if_pos poll, requestPendantData_eq]
        simp [counted, polls]
      · have waits : ¬ s.Polls := fun polls => poll polls.2
        refine ⟨[], ?_⟩
        dsimp only
        have silent : ¬ (s.Polls ∧ accepted = true) := fun both => waits both.1
        rw [if_neg poll, if_neg silent, List.append_nil]
        repeat' split
        all_goals rfl

/-- A line to the pendant grows by the requests whose transfer is accepted, and by nothing else. -/
theorem pendantLine_step (s : Panel) (e : PanelEvent) :
    ∃ request, (s.step e).pendantLine = s.pendantLine ++
      if s.Requests e ∧ transferAccepted e = true then [request] else [] := by
  cases e with
  | menu input =>
      obtain stays | ⟨leaves, eq⟩ | ⟨-, -, stays, eq⟩ := s.screenMenu_cases input
      · have quiet : ¬ s.Requests (.menu input) := fun requests => stays.stays requests.1
        rw [step, stays.frame]
        exact ⟨[], by simp [quiet]⟩
      · have same : s.Requests (.menu input) ↔ (s.enterCycle input).Sleeps :=
          and_iff_right leaves
        rw [step, eq, leaveFirstLevel_eq]
        refine ⟨requestBody false .disabled, ?_⟩
        simp only [same, transferAccepted]
        rfl
      · have quiet : ¬ s.Requests (.menu input) := fun requests => stays requests.1
        obtain ⟨_, _, _, -, -, cycle⟩ := (s.enterCycle input).manualMode_eq input
        rw [step, eq, cycle]
        refine ⟨[], ?_⟩
        rw [if_neg fun requests => quiet requests.1, List.append_nil, afterCall_eq]
        rfl
  | tim1 accepted =>
      obtain ⟨menu, place, counted⟩ := s.countMenu_eq
      obtain ⟨request, eq⟩ := pollPendant_pendantLine accepted { s with menu := menu }
      refine ⟨request, ?_⟩
      have same : { s with menu := menu }.Polls ↔ s.Requests (.tim1 accepted) := by
        show _ ∧ _ ↔ _ ∧ _
        rw [place.entered]
      rw [step, tim1, counted, eq]
      simp only [same]
      rfl
  | frame frame tx =>
      obtain ⟨_, _, _, -, eq⟩ := uart4Callback_eq tx frame s
      rw [step, eq]
      exact ⟨[], by simp [Requests]⟩
  | grbl chunk => exact ⟨[], by simp [Requests, step, usart2Callback]⟩

/-- The ticks since the request do not outrun the ticks without an answer, of which there are nine
at most. -/
structure Timed (s : Panel) : Prop where
  counter : s.pendantControl.counter.toNat ≤ 9 + s.pendantControl.commCnt.toNat
  commCnt : s.pendantControl.commCnt.toNat ≤ 9

theorem Timed.of_samePoll {s s' : Panel} (timed : Timed s)
    (same : SamePoll s.pendantControl s'.pendantControl) : Timed s' where
  counter := by rw [same.counter, same.commCnt]; exact timed.counter
  commCnt := by rw [same.commCnt]; exact timed.commCnt

theorem Timed.tim1 {s : Panel} (timed : Timed s) (accepted : Bool) : Timed (s.tim1 accepted) := by
  have counter := timed.counter
  have commCnt := timed.commCnt
  cases manual : s.menu.enteredManualMode with
  | false =>
      obtain ⟨cleared, cleared', -⟩ := tim1_asleep accepted manual
      exact ⟨by simp [cleared], by simp [cleared']⟩
  | true =>
      rcases tim1_cases accepted manual with ⟨-, counts, misses, -⟩ | ⟨-, counts, misses, -⟩ |
        ⟨-, -, -, counts, misses, -⟩ | ⟨-, -, early, counts, misses, -⟩ | ⟨early, counts, misses, -⟩
      · exact ⟨by rw [counts, misses]; simp, by rw [misses]; exact commCnt⟩
      · exact ⟨by rw [counts, misses]; simp, by rw [misses]; simp⟩
      · exact ⟨by rw [counts, misses]; simp, by rw [misses]; simp⟩
      · constructor
        · rw [counts, misses]
          bv_omega
        · rw [misses]
          bv_omega
      · constructor
        · rw [counts, misses]
          bv_omega
        · rw [misses]
          exact commCnt

theorem Timed.frame {s : Panel} (timed : Timed s) (frame : PendantData) (tx : Tx) :
    Timed (s.uart4Callback tx frame).1 := by
  have counter := timed.counter
  obtain ⟨misses, ⟨-, counts, -⟩ | ⟨-, -, counts⟩⟩ := uart4Callback_poll tx frame s
  · exact ⟨by rw [counts, misses]; exact counter, by rw [misses]; exact timed.commCnt⟩
  · refine ⟨?_, by rw [misses]; exact timed.commCnt⟩
    rw [counts, misses]
    split
    · simp
      omega
    · exact counter

theorem Timed.step {s : Panel} (timed : Timed s) (e : PanelEvent) : Timed (s.step e) := by
  cases e with
  | menu input => exact timed.of_samePoll (s.screenMenu_samePoll input)
  | tim1 accepted => exact timed.tim1 accepted
  | frame frame tx => exact timed.frame frame tx
  | grbl chunk => exact timed.of_samePoll ⟨rfl, rfl, rfl⟩

theorem timed_run (startup : Startup) (es : List PanelEvent) :
    Timed (run step (initial startup) es) :=
  invariant_run (I := Timed) (fun _ e timed => timed.step e)
    ⟨Nat.zero_le _, Nat.zero_le _⟩ es

def isTick : PanelEvent → Bool
  | .tim1 _ => true
  | _ => false

/-- The ticks of the manual mode that can pass before the next poll. -/
def ticksToPoll (s : Panel) : Nat :=
  if s.pendantControl.counter.toNat ≤ 8 then 8 - s.pendantControl.counter.toNat
  else 18 - s.pendantControl.commCnt.toNat

theorem ticksToPoll_of_samePoll {s s' : Panel}
    (same : SamePoll s.pendantControl s'.pendantControl) : s'.ticksToPoll = s.ticksToPoll := by
  simp only [ticksToPoll, same.counter, same.commCnt]

theorem ticksToPoll_early (early : s.pendantControl.counter.toNat ≤ 8) :
    s.ticksToPoll = 8 - s.pendantControl.counter.toNat := if_pos early

theorem ticksToPoll_late (late : 9 ≤ s.pendantControl.counter.toNat) :
    s.ticksToPoll = 18 - s.pendantControl.commCnt.toNat := if_neg (by omega)

theorem ticksToPoll_tim1 (timed : Timed s) (accepted : Bool)
    (manual : s.menu.enteredManualMode = true) (waits : ¬ s.Polls) :
    (s.tim1 accepted).ticksToPoll + 1 ≤ s.ticksToPoll := by
  have counter := timed.counter
  have commCnt := timed.commCnt
  -- a tick that begins the count anew has come past the request
  have restart (late : s.pendantControl.counter + 1 ≥ checkDataReceivedCnt)
      (counts : (s.tim1 accepted).pendantControl.counter = 0) :
      (s.tim1 accepted).ticksToPoll + 1 ≤ s.ticksToPoll := by
    rw [ticksToPoll_early (by simp [counts]), ticksToPoll_late (by bv_omega), counts]
    simp
    omega
  rcases tim1_cases accepted manual with ⟨polls, -⟩ | ⟨closes, counts, -, -⟩ |
    ⟨late, -, -, counts, -, -⟩ | ⟨late, -, early, counts, misses, -⟩ |
    ⟨early, counts, misses, -⟩
  · exact absurd polls waits
  · exact restart closes.2.1 counts
  · exact restart late counts
  · rw [ticksToPoll_late (by bv_omega), ticksToPoll_late (by bv_omega), misses]
    bv_omega
  · rw [ticksToPoll_early (by bv_omega), ticksToPoll_early (by bv_omega), counts]
    bv_omega

theorem ticksToPoll_frame (s : Panel) (frame : PendantData) (tx : Tx) :
    (s.uart4Callback tx frame).1.ticksToPoll ≤ s.ticksToPoll := by
  obtain ⟨misses, ⟨-, counts, -⟩ | ⟨listens, -, counts⟩⟩ := uart4Callback_poll tx frame s
  · simp only [ticksToPoll, counts, misses]
    exact le_rfl
  · cases turnOff : s.pendantControl.turnOffMpg with
    | true =>
        rw [turnOff, if_pos rfl] at counts
        rw [ticksToPoll_early (by simp [counts]), counts]
        simp
    | false =>
        rw [turnOff, if_neg Bool.false_ne_true] at counts
        simp only [ticksToPoll, counts, misses]
        exact le_rfl

/-- A tick of the manual mode that does not poll brings the next poll closer, and nothing else puts
it off. -/
theorem countsDown_ticksToPoll :
    CountsDown step Timed (fun s e => isTick e = true → s.menu.enteredManualMode = true)
      (fun s e => isTick e = true ∧ s.Polls) isTick ticksToPoll := by
  intro s e timed manual waits
  cases e with
  | menu input => exact (ticksToPoll_of_samePoll (s.screenMenu_samePoll input)).le
  | tim1 accepted =>
      exact ticksToPoll_tim1 timed accepted (manual rfl) fun polls => waits ⟨rfl, polls⟩
  | frame frame tx => exact ticksToPoll_frame s frame tx
  | grbl chunk => exact le_rfl

theorem ticksToPoll_le (s : Panel) : s.ticksToPoll ≤ 18 := by
  simp only [ticksToPoll]
  split <;> omega

/-- In a run with more than 18 ticks, all of them in the manual mode, one of the ticks polls. -/
theorem ticks_le_of_no_poll {es : List PanelEvent} (timed : Timed s)
    (manual : Always step (fun s e => isTick e = true → s.menu.enteredManualMode = true) s es)
    (waits : Always step (fun s e => ¬ (isTick e = true ∧ s.Polls)) s es) :
    es.countP isTick ≤ 18 :=
  (countsDown_ticksToPoll.count_le_rank (fun _ e timed _ => timed.step e) timed manual
    waits).trans s.ticksToPoll_le

/-- The counter comes to the request by the tick that makes it. -/
theorem polls_of_counter {e : PanelEvent} (before : s.pendantControl.counter.toNat < 9)
    (after : 9 ≤ (s.step e).pendantControl.counter.toNat) : isTick e = true ∧ s.Polls := by
  cases e with
  | menu input =>
      rw [step, (s.screenMenu_samePoll input).counter] at after
      omega
  | tim1 accepted =>
      refine ⟨rfl, ?_⟩
      rw [step] at after
      cases manual : s.menu.enteredManualMode with
      | false =>
          rw [(tim1_asleep accepted manual).1] at after
          simp at after
      | true =>
          rcases tim1_cases accepted manual with ⟨polls, -⟩ | ⟨-, counts, -⟩ |
            ⟨-, -, -, counts, -⟩ | ⟨late, -⟩ | ⟨early, counts, -⟩
          · exact polls
          · simp [counts] at after
          · simp [counts] at after
          · bv_omega
          · rw [counts] at after
            bv_omega
  | frame frame tx =>
      rw [step] at after
      obtain ⟨-, ⟨-, counts, -⟩ | ⟨-, -, counts⟩⟩ := uart4Callback_poll tx frame s
      · rw [counts] at after
        omega
      · rw [counts] at after
        split at after
        · simp at after
        · omega
  | grbl chunk => exact absurd after (by simp only [step, usart2Callback]; omega)

/-- At the end of the run the counter is at the request or past it since a tick that polled. -/
def PolledSince (s : Panel) (es : List PanelEvent) : Prop :=
  ∃ before e behind, es = before ++ e :: behind ∧
    isTick e = true ∧ (run step s before).Polls ∧
    ∀ es', es' <+: behind → 9 ≤ (run step s (before ++ e :: es')).pendantControl.counter.toNat

theorem PolledSince.cons {e : PanelEvent} {es : List PanelEvent}
    (polled : PolledSince (s.step e) es) : PolledSince s (e :: es) := by
  obtain ⟨before, tick, behind, rfl, ticks, polls, stays⟩ := polled
  exact ⟨e :: before, tick, behind, rfl, ticks, polls, stays⟩

theorem polledSince_run {es : List PanelEvent}
    (late : 9 ≤ (run step s es).pendantControl.counter.toNat) :
    (∀ es', es' <+: es → 9 ≤ (run step s es').pendantControl.counter.toNat) ∨
      PolledSince s es := by
  induction es generalizing s with
  | nil =>
      refine .inl ?_
      intro es' inside
      rw [List.prefix_nil.mp inside]
      exact late
  | cons e es ih =>
      obtain stays | polled := ih late
      · by_cases before : 9 ≤ s.pendantControl.counter.toNat
        · refine .inl ?_
          intro es' inside
          obtain rfl | ⟨rest, rfl, within⟩ := List.prefix_cons_iff.mp inside
          · exact before
          · exact stays rest within
        · have after : 9 ≤ (s.step e).pendantControl.counter.toNat := stays [] List.nil_prefix
          obtain ⟨ticks, polls⟩ := polls_of_counter (Nat.not_le.mp before) after
          exact .inr ⟨[], e, es, rfl, ticks, polls, stays⟩
      · exact .inr polled.cons

/-- In every run: a tick counts without a wrap, to 19 and 10 at most; past the request the counter
has come by a tick that polled; and of any 20 ticks that follow, if all are in the manual mode,
one polls. -/
theorem polling_never_wedges (startup : Startup) (es : List PanelEvent) :
    let s := run step (initial startup) es
    let c := s.pendantControl
    ((c.counter + 1).toNat = c.counter.toNat + 1 ∧ c.counter.toNat + 1 ≤ 19) ∧
    ((c.commCnt + 1).toNat = c.commCnt.toNat + 1 ∧ c.commCnt.toNat + 1 ≤ 10) ∧
    (9 ≤ c.counter.toNat → PolledSince (initial startup) es) ∧
    ∀ fs, Always step (fun s e => isTick e = true → s.menu.enteredManualMode = true) s fs →
      20 ≤ fs.countP isTick → ¬ Always step (fun s e => ¬ (isTick e = true ∧ s.Polls)) s fs := by
  intro s c
  have timed : Timed s := timed_run startup es
  have counter : c.counter.toNat ≤ 9 + c.commCnt.toNat := timed.counter
  have commCnt : c.commCnt.toNat ≤ 9 := timed.commCnt
  refine ⟨?_, ?_, ?_, ?_⟩
  · constructor <;> bv_omega
  · constructor <;> bv_omega
  · intro late
    obtain stays | polled := polledSince_run late
    · have initially := stays [] List.nil_prefix
      simp [initial] at initially
    · exact polled
  · intro fs manual many waits
    have few := ticks_le_of_no_poll timed manual waits
    omega

def isFrame : PanelEvent → Bool
  | .frame _ _ => true
  | _ => false

/-- The panel with a bit that tells whether a frame has been received since the last request. -/
def watchFrames : Panel × Bool → PanelEvent → Panel × Bool :=
  watch step (fun _ e => isFrame e) fun s e => decide (s.Requests e)

/-- The tick takes the branch "Response has been received". -/
def Closes (s : Panel) (e : PanelEvent) : Prop := isTick e = true ∧ s.ClosesPoll

instance (s : Panel) (e : PanelEvent) : Decidable (s.Closes e) :=
  inferInstanceAs (Decidable (_ ∧ _))

/-- The bit does not change what the panel does. -/
theorem run_watchFrames (w : Panel × Bool) (es : List PanelEvent) :
    (run watchFrames w es).1 = run step w.1 es := run_watch _ _ _ w es

/-- Only frames set the flag of the answer. -/
theorem requestAnswered_step {e : PanelEvent}
    (after : (s.step e).pendantControl.requestAnswered = true) :
    isFrame e = true ∨ s.pendantControl.requestAnswered = true := by
  cases e with
  | menu input =>
      rw [step, (s.screenMenu_samePoll input).requestAnswered] at after
      exact .inr after
  | tim1 accepted =>
      rw [step] at after
      cases manual : s.menu.enteredManualMode with
      | false =>
          rw [(tim1_asleep accepted manual).2.2] at after
          exact .inr after
      | true =>
          rcases tim1_cases accepted manual with ⟨-, -, -, same⟩ | ⟨-, -, -, cleared⟩ |
            ⟨-, -, -, -, -, cleared⟩ | ⟨-, -, -, -, -, cleared⟩ | ⟨-, -, -, same⟩
          · exact .inr (same.symm.trans after)
          · exact absurd (cleared.symm.trans after) Bool.false_ne_true
          · exact absurd (cleared.symm.trans after) Bool.false_ne_true
          · exact absurd (cleared.symm.trans after) Bool.false_ne_true
          · exact .inr (same.symm.trans after)
  | frame frame tx => exact .inl rfl
  | grbl chunk => exact .inr after

/-- A request leaves the flag as it is. -/
theorem requestAnswered_of_requests {e : PanelEvent} (requests : s.Requests e) :
    (s.step e).pendantControl.requestAnswered = s.pendantControl.requestAnswered := by
  cases e with
  | menu input => exact (s.screenMenu_samePoll input).requestAnswered
  | tim1 accepted =>
      have polls : s.Polls := requests
      exact (tim1_of_polls accepted polls).2
  | frame frame tx => exact absurd requests id
  | grbl chunk => exact absurd requests id

/-- While every request finds the flag clear, a set flag comes from a frame behind the request. -/
theorem preserves_answered :
    Preserves watchFrames
      (fun w e => w.1.Requests e → w.1.pendantControl.requestAnswered = false)
      (fun w => w.1.pendantControl.requestAnswered = true → w.2 = true) := by
  intro w e fresh clear answered
  have after : (w.1.step e).pendantControl.requestAnswered = true := answered
  simp only [watchFrames, watch]
  obtain frame | before := requestAnswered_step after
  · simp [frame]
  · have quiet : ¬ w.1.Requests e := by
      intro requests
      exact Bool.false_ne_true ((clear requests).symm.trans before)
    simp [quiet, fresh before]

/-- A poll sent with the flag set is closed by the tick behind it. -/
theorem closes_after_poll (polls : s.Polls) (answered : s.pendantControl.requestAnswered = true)
    (sent accepted : Bool) : (s.tim1 sent).Closes (.tim1 accepted) := by
  obtain ⟨menu, _, _, place, -, -, eq⟩ := s.tim1_eq sent
  obtain ⟨reached, same⟩ := tim1_of_polls sent polls
  refine ⟨rfl, ?_, ?_, same.trans answered⟩
  · have entered : (s.tim1 sent).menu.enteredManualMode = true := by
      rw [eq]
      exact place.entered.trans polls.1
    exact entered
  · show (s.tim1 sent).pendantControl.counter + 1 ≥ checkDataReceivedCnt
    rw [reached]
    decide

/-- In every run in which `request_answered` is clear at each call of `request_pendant_data`, the
branch "Response has been received" is taken only when a frame has been received since the last
call. A poll sent with the flag set is closed by the very next tick, without any frame; and a
request at an exit passes the flag on as well. -/
theorem polls_answered (startup : Startup) :
    (∀ es, Always watchFrames
        (fun w e => w.1.Requests e → w.1.pendantControl.requestAnswered = false)
        (initial startup, false) es →
      Always watchFrames (fun w e => w.1.Closes e → w.2 = true) (initial startup, false) es) ∧
    (∀ (w : Panel × Bool) (e : PanelEvent), w.1.Requests e →
      w.1.pendantControl.requestAnswered = true →
        (watchFrames w e).1.pendantControl.requestAnswered = true ∧ (watchFrames w e).2 = false ∧
        (isTick e = true → ∀ accepted, (watchFrames w e).1.Closes (.tim1 accepted))) ∧
    (∀ es, (run watchFrames (initial startup, false) es).1 = run step (initial startup) es) ∧
    ∀ (s : Panel) (e : PanelEvent), ∃ request, (s.step e).pendantLine = s.pendantLine ++
      if s.Requests e ∧ transferAccepted e = true then [request] else [] := by
  refine ⟨?_, ?_, run_watchFrames _, pendantLine_step⟩
  · intro es clear
    refine preserves_answered.always ?_ ?_ clear
    · intro w e fresh _ closes
      exact fresh closes.2.2.2
    · intro answered
      cases answered
  · intro w e requests answered
    have kept : (w.1.step e).pendantControl.requestAnswered = true :=
      (requestAnswered_of_requests requests).trans answered
    refine ⟨kept, ?_, ?_⟩
    · have other : isFrame e = false := by
        cases e with
        | frame frame tx => exact absurd requests id
        | _ => rfl
      simp [watchFrames, watch, other, requests]
    · intro ticks accepted
      cases e with
      | tim1 sent => exact closes_after_poll requests answered sent accepted
      | _ => cases ticks

set_option maxRecDepth 4000 in
/-- Two polls, each with its answer. -/
theorem polls_answered_session :
    Always watchFrames (fun w e => w.1.Closes e → w.2 = true) (initial {}, false)
      (openManual ++ .frame {} (fun _ => true) :: List.replicate 10 (.tim1 true) ++
        [.frame {} fun _ => true, .tim1 true]) :=
  (polls_answered {}).1 _ (by decide)

set_option maxRecDepth 8000 in
/-- ENTER turns the pendant off while its answer is awaited: the frame that comes sets the counter
back in front of the request, and the next request is taken for answered at once. -/
theorem poll_closed_by_old_answer :
    ¬ Always watchFrames (fun w e => w.1.Closes e → w.2 = true) (initial {}, false)
      (openManual ++ [.frame { mpg := true } fun _ => true, .grbl "<Idle|MPG:1>\r\n".toList,
        .frame { mpg := true } fun _ => true, .menu enterPressed,
        .frame { mpg := true } fun _ => true, .tim1 true, .tim1 true]) := by
  decide

end Cnc.Panel
