import CncMachine.Link.System
import CncMachine.Panel.Encoder

/-!
# Motion and handwheels

An odometer counts what a handwheel turns while its axis is unlocked and the pendant's MPG flag is
set. The pendant's counters are restarted with every session of the flag and rewritten by the lock,
and the panel compares every frame with a baseline of its own. Both agree with the odometer as
long as no increments are pending when counting starts or stops, and as long as the baseline is
the last frame's count and the flag has not been switched off in between.
-/

namespace Cnc

open Transition

namespace Pendant

/-- Turning the wheel counts: its axis is unlocked and the MPG flag is set. -/
def counting (p : Pendant) (w : Wheel) : Bool := p.unlocked w && p.data.mpg

/-- The assumption on the counter's range: while it counts, it does not cross 0/65535. -/
def StaysInRange (p : Pendant) (w : Wheel) : PendantEvent → Prop
  | .turn v counts => v = w → p.counting w = true →
      0 ≤ (p.cnt w).toNat + counts ∧ (p.cnt w).toNat + counts < 65536
  | _ => True

instance (p : Pendant) (w : Wheel) : (e : PendantEvent) → Decidable (p.StaysInRange w e)
  | .turn _ _ => inferInstanceAs (Decidable (_ → _ → _))
  | .settle _ _ | .inputs | .message _ => inferInstanceAs (Decidable True)

/-- When the event makes the wheel start or stop counting, its counter stands at the last value
read. -/
def SwitchesAtRest (p : Pendant) (w : Wheel) (e : PendantEvent) : Prop :=
  (p.step e).counting w ≠ p.counting w → (p.cnt w).toNat = (p.data.encoderVal w).toNat

instance (p : Pendant) (w : Wheel) (e : PendantEvent) : Decidable (p.SwitchesAtRest w e) :=
  inferInstanceAs (Decidable (_ → _))

/-- The MPG flag is switched off. -/
def ClearsMpg (p : Pendant) (e : PendantEvent) : Prop :=
  p.data.mpg = true ∧ (p.step e).data.mpg = false

instance (p : Pendant) (e : PendantEvent) : Decidable (p.ClearsMpg e) :=
  inferInstanceAs (Decidable (_ ∧ _))

end Pendant

/-- `counted` is what the wheel has turned while it was counting, and `sampled` the part of it that
`process_inputs` has read. `offs` is how often the MPG flag was switched off, and `bases` has the
odometer at each of these times. -/
structure Odometer where
  counted : Int := 0
  sampled : Int := 0
  offs : Nat := 0
  bases : Nat → Int := fun _ => 0

namespace Odometer

/-- The odometer when the MPG flag was last switched off. -/
abbrev base (h : Odometer) : Int := h.bases h.offs

def note (w : Wheel) (p : Pendant) (e : PendantEvent) (h : Odometer) : Odometer :=
  match e with
  | .turn v counts =>
      if v = w ∧ p.counting w = true then { h with counted := h.counted + counts } else h
  | .inputs => if p.status = true ∧ p.counting w = true then { h with sampled := h.counted } else h
  | e =>
      if p.ClearsMpg e then
        { h with offs := h.offs + 1, bases := Function.update h.bases (h.offs + 1) h.counted }
      else h

/-- The pendant agrees with the odometer. -/
structure Own (w : Wheel) (p : Pendant) (h : Odometer) : Prop where
  narrow : (p.data.encoderVal w).toNat < 65536
  on : p.data.mpg = true → countOf (p.data.encoderVal w) = h.sampled - h.base
  off : p.data.mpg = false → h.sampled = h.base
  counting : p.counting w = true → ((p.cnt w).toNat : Int) = h.counted - h.base
  resting : p.counting w = false → h.counted = h.sampled
  zeroed : p.mpgStatus = .enableOngoing → p.data.mpg = false → p.data.encoderVal w = 0

/-- So does a frame with the odometer of its sending. -/
structure Told (w : Wheel) (h : Odometer) (frame : PendantData) (stamp : Odometer) : Prop where
  narrow : (frame.encoderVal w).toNat < 65536
  past : stamp.offs ≤ h.offs
  on : frame.mpg = true → countOf (frame.encoderVal w) = stamp.sampled - h.bases stamp.offs
  off : frame.mpg = false → stamp.sampled = h.bases stamp.offs

theorem Own.told {w : Wheel} {p : Pendant} {h : Odometer} (own : Own w p h) :
    Told w h p.data.toPendantData h :=
  ⟨own.narrow, le_rfl, own.on, own.off⟩

theorem Told.note {w : Wheel} {h : Odometer} {frame : PendantData} {stamp : Odometer}
    (told : Told w h frame stamp) (p : Pendant) (e : PendantEvent) :
    Told w (note w p e h) frame stamp := by
  have keeps {h' : Odometer} (later : h.offs ≤ h'.offs)
      (old : ∀ n ≤ h.offs, h'.bases n = h.bases n) : Told w h' frame stamp := by
    refine ⟨told.narrow, told.past.trans later, ?_, ?_⟩
    · rw [old _ told.past]
      exact told.on
    · rw [old _ told.past]
      exact told.off
  have cleared : Told w { h with
      offs := h.offs + 1
      bases := Function.update h.bases (h.offs + 1) h.counted } frame stamp :=
    keeps (Nat.le_succ _) fun n before => Function.update_of_ne (by omega) _ _
  simp only [Odometer.note]
  split
  · split <;> exact keeps le_rfl fun _ _ => rfl
  · split <;> exact keeps le_rfl fun _ _ => rfl
  · split
    · exact cleared
    · exact told

theorem toNat_add_ofInt {c : BitVec 16} {n : Int} (low : 0 ≤ c.toNat + n)
    (high : c.toNat + n < 65536) : ((c + BitVec.ofInt 16 n).toNat : Int) = c.toNat + n := by
  rw [BitVec.toNat_add, BitVec.toNat_ofInt]
  omega

section

variable {w : Wheel} {p : Pendant} {h : Odometer} (own : Own w p h)
include own

theorem Own.turn {v : Wheel} {counts : Int} (range : p.StaysInRange w (.turn v counts)) :
    Own w (p.step (.turn v counts)) (note w p (.turn v counts) h) := by
  by_cases active : v = w ∧ p.counting w = true
  · obtain ⟨rfl, counting⟩ := active
    obtain ⟨low, high⟩ := range rfl counting
    rw [note, if_pos ⟨rfl, counting⟩]
    refine ⟨own.narrow, own.on, own.off, fun _ => ?_, fun resting => ?_, own.zeroed⟩
    · have counter : (p.step (.turn v counts)).cnt v = p.cnt v + BitVec.ofInt 16 counts :=
        Function.update_self ..
      rw [counter, toNat_add_ofInt low high, own.counting counting]
      show _ = h.counted + counts - h.base
      omega
    · exact absurd (counting.symm.trans resting) (by decide)
  · rw [note, if_neg active]
    refine ⟨own.narrow, own.on, own.off, ?_, own.resting, own.zeroed⟩
    intro counting
    have counter : (p.step (.turn v counts)).cnt w = p.cnt w :=
      Function.update_of_ne (fun eq => active ⟨eq.symm, counting⟩) ..
    rw [counter]
    exact own.counting counting

theorem Own.inputs_off (mpg : p.data.mpg = false) :
    Own w p.processInputs (note w p .inputs h) := by
  have processed := p.processInputs_processed
  have resting : p.counting w = false := by simp [Pendant.counting, mpg]
  have value : p.processInputs.data.encoderVal w = 0 := by
    rw [processed.encoderVal]
    simp [mpg]
  rw [note, if_neg (by simp [resting])]
  refine ⟨by rw [value]; decide, fun on => ?_, fun _ => own.off mpg, fun counting => ?_,
    fun _ => own.resting resting, fun _ _ => value⟩
  · simp [processed.mpg, mpg] at on
  · simp [Pendant.counting, processed.mpg, mpg] at counting

/-- A locked wheel keeps the value that it has been read with. -/
theorem Own.inputs_locked (status : p.status = true) (mpg : p.data.mpg = true)
    (unlocked : p.unlocked w = false) : Own w p.processInputs (note w p .inputs h) := by
  have processed := p.processInputs_processed
  have reads : p.reads = true := by simp [Pendant.reads, status, mpg]
  have value := processed.encoderVal w
  rw [if_pos reads, unlocked, if_neg (by simp)] at value
  have resting : p.counting w = false := by simp [Pendant.counting, unlocked]
  have same : p.processInputs.counting w = p.counting w := by
    simp only [Pendant.counting, Pendant.pressed, processed.buttonStates, processed.mpg]
  have off : ¬ p.processInputs.data.mpg = false := by simp [processed.mpg, mpg]
  rw [note, if_neg (by simp [resting])]
  refine ⟨by rw [value]; exact own.narrow, fun _ => ?_, fun no => absurd no off,
    fun counting => ?_, fun _ => own.resting resting, fun _ no => absurd no off⟩
  · rw [value]
    exact own.on mpg
  · simp [same, resting] at counting

/-- A wheel that counts is read with everything it has counted. -/
theorem Own.inputs_unlocked (status : p.status = true) (mpg : p.data.mpg = true)
    (unlocked : p.unlocked w = true) : Own w p.processInputs (note w p .inputs h) := by
  have processed := p.processInputs_processed
  have reads : p.reads = true := by simp [Pendant.reads, status, mpg]
  have value := processed.encoderVal w
  have counter := processed.cnt w
  rw [if_pos reads, unlocked, if_pos rfl] at value counter
  have wide (c : BitVec 16) : (c.setWidth 32).toNat = c.toNat := by
    rw [BitVec.toNat_setWidth]
    omega
  have counting : p.counting w = true := by simp [Pendant.counting, unlocked, mpg]
  have off : ¬ p.processInputs.data.mpg = false := by simp [processed.mpg, mpg]
  rw [note, if_pos ⟨status, counting⟩]
  refine ⟨?_, fun _ => ?_, fun no => absurd no off, fun _ => ?_, fun _ => rfl,
    fun _ no => absurd no off⟩
  · rw [value, wide]
    omega
  · rw [value, countOf, wide]
    exact own.counting counting
  · rw [counter]
    exact own.counting counting

theorem Own.inputs : Own w (p.step .inputs) (note w p .inputs h) := by
  by_cases status : p.status = true
  · rw [Pendant.step, if_pos status]
    cases mpg : p.data.mpg with
    | false => exact own.inputs_off mpg
    | true =>
        cases unlocked : p.unlocked w with
        | true => exact own.inputs_unlocked status mpg unlocked
        | false => exact own.inputs_locked status mpg unlocked
  · rw [Pendant.step, if_neg status, note, if_neg fun both => status both.1]
    exact own

/-- A wheel that stands at the last value read has been sampled completely. -/
theorem Own.sampled_of_rest (rest : (p.cnt w).toNat = (p.data.encoderVal w).toNat) :
    h.counted = h.sampled := by
  cases counting : p.counting w with
  | false => exact own.resting counting
  | true =>
      have mpg : p.data.mpg = true := by simp_all [Pendant.counting]
      have counted := own.counting counting
      have sampled := own.on mpg
      simp only [countOf] at sampled
      omega

theorem Own.settle {channel : Channel} {state : PinState}
    (rest : p.SwitchesAtRest w (.settle channel state)) :
    Own w (p.step (.settle channel state)) (note w p (.settle channel state) h) := by
  have stays : ¬ p.ClearsMpg (.settle channel state) := fun clears => by
    simpa [Pendant.step] using clears.1.symm.trans clears.2
  have noted : note w p (.settle channel state) h = h := if_neg stays
  rw [noted]
  refine ⟨own.narrow, own.on, own.off, fun counting => ?_, fun resting => ?_, own.zeroed⟩
  · by_cases before : p.counting w = true
    · exact own.counting before
    · have mpg : p.data.mpg = true := by
        simp only [Pendant.counting, Bool.and_eq_true] at counting
        exact counting.2
      have still := rest fun same => before (same.symm.trans counting)
      have sampled := own.on mpg
      have complete := own.sampled_of_rest still
      show ((p.cnt w).toNat : Int) = _
      simp only [countOf] at sampled
      omega
  · by_cases before : p.counting w = false
    · exact own.resting before
    · exact own.sampled_of_rest (rest fun same => before (same.symm.trans resting))

section

-- A request leaves switches and counters alone.
variable {p' : Pendant} (value : p'.data.encoderVal w = p.data.encoderVal w)
include value

theorem Own.of_sameFlag (counter : p'.cnt = p.cnt) (unlocked : p'.unlocked w = p.unlocked w)
    (flag : p'.data.mpg = p.data.mpg)
    (ongoing : p'.mpgStatus = .enableOngoing → p.mpgStatus = .enableOngoing) : Own w p' h := by
  have same : p'.counting w = p.counting w := by rw [Pendant.counting, unlocked, flag]; rfl
  refine ⟨by rw [value]; exact own.narrow, fun on => ?_, fun off => own.off (flag ▸ off),
    fun counting => ?_, fun resting => own.resting (same ▸ resting), fun enabling off => ?_⟩
  · rw [value]
    exact own.on (flag ▸ on)
  · rw [counter]
    exact own.counting (same ▸ counting)
  · rw [value]
    exact own.zeroed (ongoing enabling) (flag ▸ off)

/-- The flag is set while the values are zero. -/
theorem Own.setsMpg (counter : p'.cnt = p.cnt) (before : p.data.mpg = false)
    (after : p'.data.mpg = true) (ongoing : p.mpgStatus = .enableOngoing)
    (rest : p'.counting w ≠ p.counting w → (p.cnt w).toNat = (p.data.encoderVal w).toNat) :
    Own w p' h := by
  have zero := own.zeroed ongoing before
  have idle : p.counting w = false := by simp [Pendant.counting, before]
  have start : h.counted = h.base := (own.resting idle).trans (own.off before)
  refine ⟨by rw [value]; exact own.narrow, fun _ => ?_, fun off => ?_, fun counting => ?_,
    fun _ => own.resting idle, fun _ off => ?_⟩
  · rw [value, zero, own.off before]
    simp [countOf]
  · simp [after] at off
  · rw [counter, rest (by simp [counting, idle]), zero, start]
    simp
  · simp [after] at off

/-- The flag is cleared, and the odometer is where it was last read. -/
theorem Own.clearsMpg (after : p'.data.mpg = false)
    (ongoing : p'.mpgStatus ≠ .enableOngoing)
    (rest : p'.counting w ≠ p.counting w → (p.cnt w).toNat = (p.data.encoderVal w).toNat) :
    Own w p' { h with
      offs := h.offs + 1
      bases := Function.update h.bases (h.offs + 1) h.counted } := by
  have idle : p'.counting w = false := by simp [Pendant.counting, after]
  have sampled : h.counted = h.sampled := by
    by_cases resting : p.counting w = false
    · exact own.resting resting
    · exact own.sampled_of_rest (rest fun same => resting (same.symm.trans idle))
  refine ⟨by rw [value]; exact own.narrow, fun on => ?_, fun _ => ?_, fun counting => ?_,
    fun _ => sampled, fun enabling => absurd enabling ongoing⟩
  · simp [after] at on
  · show h.sampled = Function.update h.bases (h.offs + 1) h.counted (h.offs + 1)
    rw [Function.update_self, sampled]
  · simp [idle] at counting

end

theorem Own.message {text : List Char} (rest : p.SwitchesAtRest w (.message text)) :
    Own w (p.step (.message text)) (note w p (.message text) h) := by
  obtain same | ⟨status, mpgStatus, taken⟩ := p.step_message text
  · have noted : note w p (.message text) h = h := if_neg fun clears => by
      have off := clears.2
      rw [same, clears.1] at off
      cases off
    rw [noted, same]
    exact own
  · have ongoing := p.takeStatus_enableOngoing status mpgStatus
    have flag := p.takeStatus_mpg status mpgStatus
    obtain ⟨on, mode, mpg, eq⟩ := p.takeStatus_eq status mpgStatus
    rw [← taken] at ongoing flag eq
    have counter : (p.step (.message text)).cnt = p.cnt := by rw [eq]
    have value : (p.step (.message text)).data.encoderVal w = p.data.encoderVal w := by
      rw [eq]
      cases w <;> rfl
    have unlocked : (p.step (.message text)).unlocked w = p.unlocked w := by rw [eq]; rfl
    by_cases same : (p.step (.message text)).data.mpg = p.data.mpg
    · have noted : note w p (.message text) h = h := if_neg fun clears => by
        simp [clears.2, clears.1] at same
      rw [noted]
      exact own.of_sameFlag value counter unlocked same ongoing
    · obtain kept | ⟨after, enabling⟩ | ⟨after, settled⟩ := flag
      · exact absurd kept same
      · have before : p.data.mpg = false := by simpa [after] using same
        have noted : note w p (.message text) h = h := if_neg fun clears => by
          simp [clears.2] at after
        rw [noted]
        exact own.setsMpg value counter before after enabling rest
      · have before : p.data.mpg = true := by simpa [after] using same
        have noted : note w p (.message text) h = { h with
            offs := h.offs + 1
            bases := Function.update h.bases (h.offs + 1) h.counted } := if_pos ⟨before, after⟩
        rw [noted]
        exact own.clearsMpg value after settled rest

end

theorem Own.note {w : Wheel} {p : Pendant} {h : Odometer} (own : Own w p h) {e : PendantEvent}
    (range : p.StaysInRange w e) (rest : p.SwitchesAtRest w e) :
    Own w (p.step e) (note w p e h) := by
  cases e with
  | turn v counts => exact own.turn range
  | settle channel state => exact own.settle rest
  | inputs => exact own.inputs
  | message text => exact own.message rest

/-- Two frames between which the MPG flag was not switched off differ by what was sampled. -/
theorem Told.sub {w : Wheel} {h : Odometer} {last current : PendantData}
    {lastStamp stamp : Odometer} (lastTold : Told w h last lastStamp)
    (told : Told w h current stamp) (session : stamp.offs = lastStamp.offs)
    (on : current.mpg = true) {base : BitVec 32}
    (baseline : base = if last.mpg then last.encoderVal w else 0) :
    countOf (current.encoderVal w) - countOf base = stamp.sampled - lastStamp.sampled := by
  have value := told.on on
  rw [session] at value
  cases mpg : last.mpg with
  | true =>
      have lastValue := lastTold.on mpg
      rw [mpg, if_pos rfl] at baseline
      rw [baseline]
      omega
  | false =>
      have lastValue := lastTold.off mpg
      rw [mpg] at baseline
      have zero : countOf base = 0 := by simp [baseline, countOf]
      omega

end Odometer

namespace Link

/-- The assumptions about the wheel: its counter does not cross 0/65535 while it counts, and
fewer than 300 counts have been sampled between the last frame received and one that is acted on. -/
def TurnsSlowly (w : Wheel) (l : Link Odometer) (e : LinkEvent) : Prop :=
  (∀ event ∈ l.pendantEvent e, l.pendant.StaysInRange w event) ∧
    ∀ event ∈ l.panelEvent e, l.panel.invocation event ≠ none → ∀ x ∈ l.arriving e,
      |x.2.sampled - l.received.2.sampled| < 300

instance (w : Wheel) (l : Link Odometer) (e : LinkEvent) : Decidable (l.TurnsSlowly w e) :=
  inferInstanceAs (Decidable (_ ∧ ∀ event ∈ l.panelEvent e, _ → ∀ x ∈ l.arriving e, _))

/-- Counting starts and stops with the counter at the last value read. When a frame is acted on,
the panel compares it with the count of the last frame it has received, or with zero if that frame
had no MPG flag, and the flag has not been switched off between the two frames. -/
def BaselineFollows (w : Wheel) (l : Link Odometer) (e : LinkEvent) : Prop :=
  (∀ event ∈ l.pendantEvent e, l.pendant.SwitchesAtRest w event) ∧
    ∀ event ∈ l.panelEvent e, l.panel.invocation event ≠ none → ∀ x ∈ l.arriving e,
      l.panel.lastData.encoderVal w =
          (if l.received.1.mpg then l.received.1.encoderVal w else 0) ∧
        x.2.offs = l.received.2.offs

instance (w : Wheel) (l : Link Odometer) (e : LinkEvent) : Decidable (l.BaselineFollows w e) :=
  inferInstanceAs (Decidable (_ ∧ ∀ event ∈ l.panelEvent e, _ → ∀ x ∈ l.arriving e, _))

/-- `pendant_data_to_action` gets what the wheel turned while it was counting, from the sampling of
the last frame received to the sampling of the one that is acted on. -/
def MovesAsTurned (w : Wheel) (l : Link Odometer) (e : LinkEvent) : Prop :=
  ∀ event ∈ l.panelEvent e, ∀ x ∈ l.arriving e, ∀ action ∈ l.panel.invocation event,
    (action.encoderValDiff w).toInt = x.2.sampled - l.received.2.sampled

instance (w : Wheel) (l : Link Odometer) (e : LinkEvent) : Decidable (l.MovesAsTurned w e) :=
  inferInstanceAs (Decidable (∀ event ∈ l.panelEvent e, ∀ x ∈ l.arriving e, _))

/-- Pendant, frames on the line and the last frame received agree with the odometer. -/
structure Metered (w : Wheel) (l : Link Odometer) : Prop where
  truthful : Truthful (Odometer.Own w) (Odometer.Told w) l
  received : Odometer.Told w l.history l.received.1 l.received.2

theorem metered_step (w : Wheel) :
    Preserves (step (Odometer.note w)) (fun l e => l.TurnsSlowly w e ∧ l.BaselineFollows w e)
      (Metered w) := by
  rintro l e ⟨truthful, received⟩ ⟨slow, follows⟩
  have next := truthful.step (Odometer.note w) (fun _ _ own => own.told)
    (fun event this => truthful.own.note (slow.1 event this) (follows.1 event this))
    fun event _ x member => (truthful.replies x member).note l.pendant event
  have later {frame stamp} (told : Odometer.Told w l.history frame stamp) :
      Odometer.Told w (l.step (Odometer.note w) e).history frame stamp := by
    rw [(step_pendant ..).2]
    cases l.pendantEvent e with
    | none => exact told
    | some event => exact told.note l.pendant event
  refine ⟨next, ?_⟩
  obtain same | ⟨x, member, eq⟩ := step_received (Odometer.note w) l e
  · rw [same]
    exact later received
  · rw [eq]
    exact later (truthful.replies x member)

theorem Metered.movesAsTurned {w : Wheel} {l : Link Odometer} (metered : Metered w l)
    {e : LinkEvent} (slow : l.TurnsSlowly w e) (follows : l.BaselineFollows w e) :
    l.MovesAsTurned w e := by
  intro event handled x arrives action invoked
  have called : l.panel.invocation event ≠ none := by rw [Option.mem_def.mp invoked]; simp
  obtain ⟨baseline, session⟩ := follows.2 event handled called x arrives
  obtain ⟨tx, rfl, data, frame, member⟩ := arriving_frame handled arrives
  have told := metered.truthful.replies _ member
  rw [frame] at told
  rw [Panel.invocation, Panel.uart4Callback_invokes] at invoked
  split at invoked
  next acts =>
    have eq : (l.panel.received x.1).actedAction = action := by simpa using invoked
    have sub := metered.received.sub told session acts.2.1 baseline
    have near := slow.2 _ handled called x arrives
    have lastNarrow : (l.panel.lastData.encoderVal w).toNat < 65536 := by
      rw [baseline]
      split
      · exact metered.received.narrow
      · decide
    rw [← eq, Panel.actedAction_diff]
    rw [← sub] at near ⊢
    exact encoderValDiff_near lastNarrow told.narrow near
  next => cases invoked

/-- No phantom motion in any run, whatever replies are lost and however often the MPG flag is
switched, that meets the two conditions. -/
theorem moves_as_turned (w : Wheel) (startup : Startup) (es : List LinkEvent)
    (slow : Always (step (Odometer.note w)) (TurnsSlowly w) (initial startup {}) es)
    (follows : Always (step (Odometer.note w)) (BaselineFollows w) (initial startup {}) es) :
    Always (step (Odometer.note w)) (MovesAsTurned w) (initial startup {}) es := by
  have zero : (({} : PendantData).encoderVal w) = 0 := by cases w <;> rfl
  have told : Odometer.Told w {} ({} : PendantData) {} :=
    ⟨by rw [zero]; decide, le_rfl, nofun, fun _ => rfl⟩
  have own : Odometer.Own w {} {} :=
    ⟨by rw [zero]; decide, nofun, fun _ => rfl, by simp [Pendant.counting], fun _ => rfl,
      fun _ _ => zero⟩
  exact (metered_step w).always (fun _ _ metered both => metered.movesAsTurned both.1 both.2)
    ⟨⟨own, nofun⟩, told⟩ (slow.and follows)

set_option maxRecDepth 8000 in
/-- A session with a lost reply, between turns forwards and backwards. -/
theorem moves_as_turned_session :
    Always (step (Odometer.note .x)) (MovesAsTurned .x) (initial {} {})
      (beginSession ++ [.turn .x 5, .turn .yz 7, .inputs] ++ poll ++
        [.turn .x (-2), .inputs] ++ List.replicate 10 (.tim1 true) ++ [.request, .loseReply] ++
        [.turn .x 4, .inputs] ++ List.replicate 9 (.tim1 true) ++ poll) :=
  moves_as_turned .x {} _ (by decide) (by decide)

set_option maxRecDepth 8000 in
/-- The wheel is turned by five counts, the controller leaves MPG mode and is asked back by the
next frame. The frame after that moves the axis by five counts again. -/
theorem moves_without_turning :
    let es := beginSession ++ [.turn .x 5, .inputs] ++ poll ++
      [.grbl "<Idle|MPG:0>\r\n".toList] ++ poll ++ [.grbl "<Idle|MPG:1>\r\n".toList] ++ poll
    Always (step (Odometer.note .x)) (TurnsSlowly .x) (initial {} {}) es ∧
      ¬ Always (step (Odometer.note .x)) (MovesAsTurned .x) (initial {} {}) es := by
  decide

end Link

end Cnc
