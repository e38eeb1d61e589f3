import CncMachine.Transition.Run

/-!
# The buzzer of the control panel

`buzzer_short_ring` programs TIM4 for a tone and then asks `start_buzzer` to play it for a number of
timer updates. A tone that is refused there has been programmed already: the one that is playing
goes on with its frequency, unless it is the same.
-/

namespace Cnc

open Transition

/-- `buzzer_enabled`, `buzzer_program_occupied`, `buzzer_update_event_cnt` and, of TIM4, two
registers and the interrupt of channel 3. -/
structure Buzzer where
  enabled : Bool := false
  programOccupied : Bool := false
  updateEventCnt : BitVec 16 := 0
  arr : BitVec 16 := 9999
  ccr3 : BitVec 16 := 5000
  interrupt : Bool := false
deriving DecidableEq, Repr

inductive BuzzerEvent where
  | enable
  | disable
  | ring (freq ms : BitVec 16)
  | tim4
deriving DecidableEq, Repr

namespace Buzzer

/-- `htim4.Init.Prescaler`. -/
abbrev prescaler : Nat := 120

-- `hclk` is the result of `HAL_RCC_GetHCLKFreq`.
variable (hclk : Nat) (s : Buzzer)

/-- `enable_buzzer`. -/
def enable : Buzzer := { s with enabled := true }

/-- `disable_buzzer`. It stops the output of the timer, not its interrupt. -/
def disable : Buzzer := { s with enabled := false }

/-- `start_buzzer`. -/
def startBuzzer (cnt : BitVec 16) : Buzzer × Bool :=
  if cnt = 0 ∨ s.programOccupied = true then (s, false)
  else ({ s with programOccupied := true, updateEventCnt := cnt, interrupt := true }, true)

/-- The period of a tone, `(uint16_t)(base_freq / freq)`. -/
def period (freq : BitVec 16) : BitVec 16 :=
  BitVec.ofNat 16 (hclk / (prescaler + 1) / freq.toNat)

/-- The two registers of a tone. -/
def program (freq : BitVec 16) : Buzzer :=
  let s := { s with arr := period hclk freq }
  { s with ccr3 := s.arr / 2 }

/-- The length of a tone, `(10 * ms * freq) / 10000`. -/
def updateEvents (freq ms : BitVec 16) : BitVec 16 :=
  BitVec.ofNat 16 (10 * ms.toNat * freq.toNat / 10000)

/-- A frequency from 16 Hz to 10 kHz, for 50 ms to a second. -/
def InRange (freq ms : BitVec 16) : Prop :=
  ¬ (freq < 16 ∨ freq > 10000 ∨ ms < 50 ∨ ms > 1000)

instance (freq ms : BitVec 16) : Decidable (InRange freq ms) :=
  inferInstanceAs (Decidable (¬ _))

/-- `buzzer_short_ring`. -/
def shortRing (freq ms : BitVec 16) : Buzzer × Nat :=
  if ¬ InRange freq ms ∨ s.enabled = false then (s, 1)
  else
    let (s, started) := (s.program hclk freq).startBuzzer (updateEvents freq ms)
    if started = false then (s, 2) else (s, 0)

/-- `TIM4_IRQHandler`. -/
def tim4Irq : Buzzer :=
  let s :=
    if s.interrupt then
      let s := { s with updateEventCnt := s.updateEventCnt - 1 }
      if s.updateEventCnt = 0 then { s with programOccupied := false } else s
    else s
  if s.programOccupied = false then { s with interrupt := false } else s

def step (s : Buzzer) : BuzzerEvent → Buzzer
  | .enable => s.enable
  | .disable => s.disable
  | .ring freq ms => (s.shortRing hclk freq ms).1
  | .tim4 => s.tim4Irq

/-- Tone and duration are as before. -/
structure SameTone (s s' : Buzzer) : Prop where
  arr : s'.arr = s.arr
  ccr3 : s'.ccr3 = s.ccr3
  updateEventCnt : s'.updateEventCnt = s.updateEventCnt
  programOccupied : s'.programOccupied = s.programOccupied

/-- A refused call changes nothing. -/
def RefusesCleanly : BuzzerEvent → Prop
  | .ring freq ms =>
      (s.shortRing hclk freq ms).2 = 1 ∨ (s.shortRing hclk freq ms).2 = 2 →
        SameTone s (s.shortRing hclk freq ms).1
  | _ => True

/-- `start_buzzer` refuses: a tone is playing, or the new one is shorter than an update. -/
def Refuses (freq ms : BitVec 16) : Prop :=
  s.programOccupied = true ∨ 10 * ms.toNat * freq.toNat < 10000

/-- The registers are those of the tone already. -/
def Programmed (freq : BitVec 16) : Prop := s.arr = period hclk freq ∧ s.ccr3 = period hclk freq / 2

/-- A call that gets as far as `start_buzzer` is not refused there, or it is for the same tone. -/
def Harmless : BuzzerEvent → Prop
  | .ring freq ms =>
      InRange freq ms → s.enabled = true → s.Refuses freq ms → s.Programmed hclk freq
  | _ => True

variable {hclk s} {freq ms : BitVec 16}

theorem updateEvents_eq_zero_iff (inRange : InRange freq ms) :
    updateEvents freq ms = 0 ↔ 10 * ms.toNat * freq.toNat < 10000 := by
  have low : ms.toNat ≤ 1000 ∧ freq.toNat ≤ 10000 := by
    simp only [InRange, not_or, gt_iff_lt, BitVec.lt_def] at inRange
    simp at inRange
    omega
  have product : 10 * ms.toNat * freq.toNat ≤ 10 * 1000 * 10000 :=
    Nat.mul_le_mul (Nat.mul_le_mul_left 10 low.1) low.2
  have range : 10 * ms.toNat * freq.toNat / 10000 < 2 ^ 16 := by omega
  rw [updateEvents, ← BitVec.toNat_inj, BitVec.toNat_ofNat, Nat.mod_eq_of_lt range]
  simp only [BitVec.ofNat_eq_ofNat, BitVec.toNat_ofNat, Nat.zero_mod]
  omega

theorem startBuzzer_of_refuses (inRange : InRange freq ms) (refuses : s.Refuses freq ms) :
    s.startBuzzer (updateEvents freq ms) = (s, false) := by
  rw [Refuses, ← updateEvents_eq_zero_iff inRange] at refuses
  exact if_pos refuses.symm

theorem startBuzzer_of_not (inRange : InRange freq ms) (accepts : ¬ s.Refuses freq ms) :
    (s.startBuzzer (updateEvents freq ms)).2 = true := by
  rw [Refuses, ← updateEvents_eq_zero_iff inRange] at accepts
  rw [startBuzzer, if_neg fun refuses => accepts refuses.symm]

/-- The three outcomes of a call. -/
theorem shortRing_cases (hclk : Nat) (s : Buzzer) (freq ms : BitVec 16) :
    (¬ (InRange freq ms ∧ s.enabled = true) ∧ s.shortRing hclk freq ms = (s, 1)) ∨
    ((InRange freq ms ∧ s.enabled = true) ∧ s.Refuses freq ms ∧
      s.shortRing hclk freq ms = (s.program hclk freq, 2)) ∨
    ((InRange freq ms ∧ s.enabled = true) ∧ ¬ s.Refuses freq ms ∧
      (s.shortRing hclk freq ms).2 = 0) := by
  by_cases accepted : InRange freq ms ∧ s.enabled = true
  · have passes : ¬ (¬ InRange freq ms ∨ s.enabled = false) := by simp [accepted]
    simp only [shortRing]
    rw [if_neg passes]
    by_cases refuses : s.Refuses freq ms
    · refine .inr (.inl ⟨accepted, refuses, ?_⟩)
      have stops : (s.program hclk freq).Refuses freq ms := refuses
      rw [startBuzzer_of_refuses accepted.1 stops, if_pos rfl]
    · refine .inr (.inr ⟨accepted, refuses, ?_⟩)
      have starts : ¬ (s.program hclk freq).Refuses freq ms := refuses
      rw [startBuzzer_of_not accepted.1 starts, if_neg Bool.true_eq_false.mp]
  · refine .inl ⟨accepted, ?_⟩
    have stops : ¬ InRange freq ms ∨ s.enabled = false := by
      rw [← Bool.not_eq_true, ← not_and_or]
      exact accepted
    simp only [shortRing]
    rw [if_pos stops]

theorem refusesCleanly_iff (hclk : Nat) (s : Buzzer) (e : BuzzerEvent) :
    s.RefusesCleanly hclk e ↔ s.Harmless hclk e := by
  cases e with
  | ring freq ms =>
      simp only [RefusesCleanly, Harmless]
      obtain ⟨outside, eq⟩ | ⟨accepted, refuses, eq⟩ | ⟨accepted, starts, eq⟩ :=
        shortRing_cases hclk s freq ms
      · rw [eq]
        constructor
        · intro _ inRange enabled
          exact absurd ⟨inRange, enabled⟩ outside
        · intro _ _
          exact ⟨rfl, rfl, rfl, rfl⟩
      · rw [eq]
        constructor
        · intro clean _ _ _
          have same := clean (.inr rfl)
          exact ⟨same.arr.symm, same.ccr3.symm⟩
        · intro harmless _
          have programmed := harmless accepted.1 accepted.2 refuses
          exact ⟨programmed.1.symm, programmed.2.symm, rfl, rfl⟩
      · rw [eq]
        constructor
        · intro _ _ _ refuses
          exact absurd refuses starts
        · rintro _ (one | two)
          · cases one
          · cases two
  | _ => exact Iff.rfl

/-- In every run the refused calls change nothing exactly if each one that gets as far as
`start_buzzer` is for the tone that the timer is programmed for already. -/
theorem refused_tone_iff (hclk : Nat) (es : List BuzzerEvent) :
    Always (step hclk) (RefusesCleanly hclk) {} es ↔ Always (step hclk) (Harmless hclk) {} es :=
  always_iff (I := fun _ => True) (fun _ _ _ _ => trivial)
    (fun s e _ => refusesCleanly_iff hclk s e) trivial es

/-- While a tone of 2500 Hz is playing, one of 1000 Hz is refused: the buzzer goes on with 1000. -/
theorem refused_tone_plays :
    let s := run (step 120000000) {} [.enable, .ring 2500 100, .tim4]
    s.programOccupied = true ∧ s.updateEventCnt = 249 ∧ s.arr = 396 ∧
      (s.shortRing 120000000 1000 100).2 = 2 ∧ (s.shortRing 120000000 1000 100).1.arr = 991 ∧
      ¬ Always (step 120000000) (RefusesCleanly 120000000) {}
        [.enable, .ring 2500 100, .tim4, .ring 1000 100] := by
  refine ⟨by decide, by decide, by decide, by decide, by decide, ?_⟩
  rintro ⟨-, -, -, clean, -⟩
  exact absurd (clean (.inr (by decide))).arr (by decide)

end Buzzer

end Cnc
