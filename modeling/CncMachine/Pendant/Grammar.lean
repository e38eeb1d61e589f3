import CncMachine.Pendant.Board

/-!
# What the pendant takes for a request

The panel's requests begin with `GET_DATA|s|m|`. The pendant looks for `GET_DATA` anywhere in its
buffer and then reads the bytes 9 and 11, whatever stands around them. `obeys_iff` characterises
the buffers for which this makes no difference. The list of the buffer's content may be longer
than the buffer: what the string functions see does not end with it.
-/

namespace Cnc.Pendant

open Text

/-- The received bytes start as the panel's requests do. -/
def Requests (received : List Char) (status mpgStatus : Char) : Prop :=
  ("GET_DATA|".toList ++ [status, '|', mpgStatus, '|']) <+: received ∧
    (status = '0' ∨ status = '1') ∧ (mpgStatus = '0' ∨ mpgStatus = '1' ∨ mpgStatus = '2')

/-- One of the three parts of the state that requests control is different. -/
def Switched (p p' : Pendant) : Prop :=
  p'.status ≠ p.status ∨ p'.mpgStatus ≠ p.mpgStatus ∨ p'.data.mpg ≠ p.data.mpg

/-- The callback switches only what a request of the grammar says. -/
def Obeys (p : Pendant) (buffer : List Char) (size : Nat) : Prop :=
  p.Switched (p.usart2Callback buffer size).1 →
    ∃ status mpgStatus, Requests (buffer.take size) status mpgStatus ∧
      (p.usart2Callback buffer size).1 = p.takeStatus status mpgStatus

/-- The callback comes to switch something. -/
def TakesFor (buffer : List Char) (size : Nat) : Prop :=
  isRequest buffer = true ∧ 13 ≤ size ∧ (buffer.getD 9 '\x00' = '0' ∨ buffer.getD 9 '\x00' = '1')

theorem not_switched_self (p : Pendant) : ¬ p.Switched p := by simp [Switched]

variable {buffer : List Char} {size : Nat} {status mpgStatus : Char}

theorem usart2Callback_request (p : Pendant) (request : isRequest buffer = true)
    (long : 13 ≤ size) :
    (p.usart2Callback buffer size).1 =
      p.takeStatus (buffer.getD 9 '\x00') (buffer.getD 11 '\x00') := by
  simp [usart2Callback, request, long]

/-- Anything else than `0` and `1` as the status is ignored. -/
theorem takeStatus_other (p : Pendant) (on : status ≠ '1') (off : status ≠ '0') :
    p.takeStatus status mpgStatus = p := by
  simp [takeStatus, on, off]

theorem usart2Callback_ignored (p : Pendant) (ignored : ¬ TakesFor buffer size) :
    (p.usart2Callback buffer size).1 = p := by
  simp only [usart2Callback]
  by_cases request : isRequest buffer = true
  · rw [if_pos request]
    by_cases long : 13 ≤ size
    · have on : buffer.getD 9 '\x00' ≠ '1' := fun eq => ignored ⟨request, long, .inr eq⟩
      have off : buffer.getD 9 '\x00' ≠ '0' := fun eq => ignored ⟨request, long, .inl eq⟩
      simp only [ge_iff_le, long, if_true]
      exact takeStatus_other p on off
    · simp only [ge_iff_le, long, if_false]
  · rw [if_neg request]

theorem takeStatus_on (p : Pendant) : (p.takeStatus '1' mpgStatus).status = true := by
  simp only [takeStatus, if_true]
  repeat' split
  all_goals rfl

theorem takeStatus_off (p : Pendant) : (p.takeStatus '0' mpgStatus).status = false := rfl

/-- Whenever the callback comes to it, there is a pendant that is switched. -/
theorem exists_switched (takes : TakesFor buffer size) :
    ∃ p : Pendant, p.Switched (p.usart2Callback buffer size).1 := by
  obtain ⟨request, long, off | on⟩ := takes
  · refine ⟨{ status := true }, .inl ?_⟩
    rw [usart2Callback_request _ request long, off, takeStatus_off]
    decide
  · refine ⟨{}, .inl ?_⟩
    rw [usart2Callback_request _ request long, on, takeStatus_on]
    decide

/-- A text of the grammar is found, is long enough and has its values where they are read. -/
theorem Requests.spec (requests : Requests (buffer.take size) status mpgStatus) :
    isRequest buffer = true ∧ 13 ≤ size ∧ buffer.getD 9 '\x00' = status ∧
      buffer.getD 11 '\x00' = mpgStatus := by
  obtain ⟨⟨rest, eq⟩, status_mem, mpgStatus_mem⟩ := requests
  have long : 13 ≤ size := by
    have length := congrArg List.length eq
    simp at length
    omega
  obtain ⟨tail, whole⟩ := List.take_prefix size buffer
  rw [← eq] at whole
  subst whole
  refine ⟨?_, long, rfl, rfl⟩
  apply strstr_of_prefix
  rw [List.append_assoc, List.append_assoc,
    show "GET_DATA|".toList = "GET_DATA".toList ++ ['|'] from rfl, List.append_assoc,
    cString_append (by decide)]
  exact List.prefix_append _ _

/-- The callback obeys the grammar on exactly these buffers, whatever the state of the pendant;
and it takes every request the panel can format with its own values. -/
theorem obeys_iff (buffer : List Char) (size : Nat) :
    ((∀ p : Pendant, p.Obeys buffer size) ↔
      TakesFor buffer size →
        ∃ status mpgStatus, Requests (buffer.take size) status mpgStatus) ∧
    ∀ (p : Pendant) (status : Bool) (mpgStatus : MpgStatus),
      (p.usart2Callback (requestBody status mpgStatus) (requestBody status mpgStatus).length).1 =
        p.takeStatus (digit status.toNat) (digit mpgStatus.code) := by
  constructor
  · constructor
    · intro obeys takes
      obtain ⟨p, switched⟩ := exists_switched takes
      obtain ⟨status, mpgStatus, requests, -⟩ := obeys p switched
      exact ⟨status, mpgStatus, requests⟩
    · intro exact_ p switched
      by_cases takes : TakesFor buffer size
      · obtain ⟨status, mpgStatus, requests⟩ := exact_ takes
        obtain ⟨request, long, nine, eleven⟩ := requests.spec
        refine ⟨status, mpgStatus, requests, ?_⟩
        rw [usart2Callback_request p request long, nine, eleven]
      · rw [usart2Callback_ignored p takes] at switched
        exact absurd switched p.not_switched_self
  · intro p status mpgStatus
    exact p.step_requestBody status mpgStatus

/-- A request that is shifted by a noisy byte and has lost its separators. -/
def shiftedRequest : List Char := "~GET_DATA1~1~5000".toList ++ List.replicate 15 '\x00'

/-- It switches the pendant on. -/
theorem not_obeys_shiftedRequest : ¬ Obeys {} shiftedRequest 17 := by
  intro obeys
  obtain ⟨_, _, ⟨⟨_, eq⟩, -⟩, -⟩ := obeys (.inl (by decide))
  have first : some 'G' = some '~' := congrArg List.head? eq
  exact absurd first (by decide)

end Cnc.Pendant
