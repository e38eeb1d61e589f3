import CncMachine.Panel.Acting

/-!
# Requests for the MPG mode

`enable_mpg` and `disable_mpg` mark a request before they transmit it, and only a report of the
mode takes a mark away. A mark belongs to the mode its request is to leave, so the two functions
can never both send. The price of marking first is paid when the transmission fails: the mark
stays, and nothing will answer it.
-/

namespace Cnc

open Text Transition

/-- Of the three flags: a request is marked only in the mode that it is to leave. -/
def MarksFit (flags : Bool × Bool × Bool) : Prop :=
  (flags.2.1 = true → flags.1 = false) ∧ (flags.2.2 = true → flags.1 = true)

instance (flags : Bool × Bool × Bool) : Decidable (MarksFit flags) :=
  inferInstanceAs (Decidable (_ ∧ _))

/-- Of the three flags: the mark of `enable_mpg` (`true`) or `disable_mpg` (`false`). -/
def markOf (call : Bool) (flags : Bool × Bool × Bool) : Bool :=
  if call then flags.2.1 else flags.2.2

namespace GrblData

variable {g : GrblData}

/-- `mpg_enable_ongoing` (`true`) or `mpg_disable_ongoing` (`false`). -/
def mark (g : GrblData) (call : Bool) : Bool := markOf call g.mpgFlags

theorem marksFit_afterCall (fits : MarksFit g.mpgFlags) (call : Option Bool) :
    MarksFit (g.afterCall call).mpgFlags := by
  refine ⟨Panel.afterCall_modeOff fits.1 call, ?_⟩
  intro mark
  obtain _ | _ | _ := call
  · exact fits.2 mark
  · simp only [afterCall, Bool.or_eq_true] at mark
    exact mark.elim fits.2 id
  · exact fits.2 mark

/-- In no state do both functions get past their guards. -/
theorem attempts_exclusive (g : GrblData) :
    g.attempts (some true) = false ∨ g.attempts (some false) = false := by
  cases mode : g.mpgMode with
  | false => exact .inr (by simp [attempts, mode])
  | true => exact .inl (by simp [attempts, mode])

/-- A mark that is there after a call was there before, or the call has attempted it. -/
theorem mark_afterCall {call : Option Bool} {wanted : Bool}
    (marked : (g.afterCall call).mark wanted = true) :
    g.mark wanted = true ∨ call = some wanted ∧ g.attempts call = true := by
  obtain ⟨_, _, _, _, _, _, _, mode, enabling, disabling⟩ := g
  obtain _ | _ | _ := call
  · exact .inl marked
  · revert marked
    cases wanted <;> cases mode <;> cases disabling <;> simp [afterCall, mark, markOf, attempts]
  · revert marked
    cases wanted <;> cases mode <;> cases enabling <;> simp [afterCall, mark, markOf, attempts]

/-- A call that attempts a transmission changes the flags. -/
theorem mpgFlags_of_attempts {call : Option Bool} (attempt : g.attempts call = true) :
    (g.afterCall call).mpgFlags ≠ g.mpgFlags := by
  obtain ⟨_, _, _, _, _, _, _, mode, enabling, disabling⟩ := g
  obtain _ | _ | _ := call
  · cases attempt
  · revert attempt
    cases mode <;> cases disabling <;> simp [afterCall, attempts]
  · revert attempt
    cases mode <;> cases enabling <;> simp [afterCall, attempts]

end GrblData

/-- An `MPG:` field answers a request if it reports the mode off or, for `enable_mpg`, on. A report
of the mode on is no answer to `disable_mpg`: the mode has not been left yet. -/
def AnswersCall (call : Bool) (field : List Char) : Prop :=
  startsWith field "MPG:".toList = true ∧
    (field[4]? = some '0' ∨ call = true ∧ field[4]? = some '1')

instance (call : Bool) (field : List Char) : Decidable (AnswersCall call field) :=
  inferInstanceAs (Decidable (_ ∧ _))

/-- The fields of the status report in a chunk, if it is one. -/
def chunkFields (chunk : List Char) : List (List Char) :=
  match (stripLast (cString chunk)).take (maxBlockLength - 1) with
  | '<' :: rest => (strtok '|' rest).tail
  | _ => []

/-- One of the fields of the chunk answers the request. -/
def Answered (call : Bool) (chunk : List Char) : Prop :=
  ∃ field ∈ chunkFields chunk, AnswersCall call field

instance (call : Bool) (chunk : List Char) : Decidable (Answered call chunk) :=
  inferInstanceAs (Decidable (∃ field ∈ _, _))

theorem parseMpg_marksFit {g : GrblData} (field : List Char) (fits : MarksFit g.mpgFlags) :
    MarksFit (parseMpg g field).mpgFlags := by
  obtain ⟨enabling, disabling⟩ := fits
  simp only [parseMpg]
  repeat' split
  all_goals constructor <;> simp_all

theorem keptByTokens_marksFit : KeptByTokens fun g => MarksFit g.mpgFlags :=
  Panel.keptByTokens_flags fun field _ => parseMpg_marksFit field

theorem parseMpg_mark {g : GrblData} {call : Bool} (field : List Char)
    (off : g.mark call = false) : (parseMpg g field).mark call = false := by
  simp only [GrblData.mark, markOf] at off ⊢
  simp only [parseMpg]
  repeat' split
  all_goals cases call <;> simp_all

/-- No token sets a mark. -/
theorem keptByTokens_unmarked (call : Bool) : KeptByTokens fun g => g.mark call = false :=
  Panel.keptByTokens_flags (P := fun flags => markOf call flags = false)
    fun field _ => parseMpg_mark field

/-- An answer takes the mark away. -/
theorem parseField_answers {g : GrblData} {call : Bool} {field : List Char}
    (fits : MarksFit g.mpgFlags) (answers : AnswersCall call field) :
    (parseField g field).mark call = false := by
  obtain ⟨starts, digit⟩ := answers
  have other : startsWith field "A:".toList = false := by
    obtain ⟨rest, rfl⟩ := startsWith_iff.mp starts
    rfl
  have parsed : parseField g field = parseMpg g field := by
    rw [parseField, other, starts]
    rfl
  obtain ⟨enabling, disabling⟩ := fits
  rw [parsed]
  simp only [GrblData.mark, markOf]
  cases mode : g.mpgMode with
  | false =>
      obtain zero | ⟨rfl, one⟩ := digit
      · cases call <;> simp [parseMpg, zero, mode]
      · simp [parseMpg, one, mode]
  | true =>
      have off : g.mpgEnableOngoing = false := by simpa [mode] using enabling
      obtain zero | ⟨rfl, one⟩ := digit
      · cases call <;> simp [parseMpg, zero, mode, off]
      · simp [parseMpg, one, mode, off]

theorem parseFields_answered {call : Bool} {fields : List (List Char)} {g : GrblData}
    (fits : MarksFit g.mpgFlags) (answered : ∃ field ∈ fields, AnswersCall call field) :
    (fields.foldl parseField g).mark call = false := by
  obtain ⟨field, member, answers⟩ := answered
  obtain ⟨before, behind, rfl⟩ := List.append_of_mem member
  rw [List.foldl_append, List.foldl_cons]
  have fitsThere : MarksFit (before.foldl parseField g).mpgFlags :=
    keptByTokens_marksFit.parseFields before fits
  exact (keptByTokens_unmarked call).parseFields behind (parseField_answers fitsThere answers)

/-- A chunk with an answer takes the mark away, whatever its second and third scan find. -/
theorem grblCallback_answered {call : Bool} {chunk : List Char} {g : GrblData}
    (fits : MarksFit g.mpgFlags) (answered : Answered call chunk) :
    (grblCallback chunk g).mark call = false := by
  have scanned : (parseData (cString chunk) g).2.mark call = false := by
    obtain ⟨field, member, answers⟩ := answered
    simp only [chunkFields] at member
    split at member
    next rest line =>
      have other : cString chunk ≠ "ok".toList := by
        intro ok
        rw [ok] at line
        cases line
      rw [parseData, if_neg other, line]
      cases tokens : strtok '|' rest with
      | nil => simp [tokens] at member
      | cons state fields =>
          rw [tokens, List.tail_cons] at member
          rw [parseLine_status tokens]
          exact parseFields_answered (by rwa [grblParseState_mpgFlags]) ⟨field, member, answers⟩
    next => cases member
  have kept := keptByTokens_unmarked call
  simp only [grblCallback]
  obtain ⟨-, settings, -, second⟩ := parseSettings_lines (parseData (cString chunk) g).1
    (parseData (cString chunk) g).2
  obtain ⟨info, -, third⟩ := parseInfo_lines
    (parseSettings (parseData (cString chunk) g).1 (parseData (cString chunk) g).2).1
    (parseSettings (parseData (cString chunk) g).1 (parseData (cString chunk) g).2).2
  rw [third, second]
  exact kept.parseLines info (kept.parseLines settings scanned)

namespace Panel

/-- A call of one of the two functions, or a line of the controller. -/
inductive RequestEvent where
  | enableMpg (tx : Tx)
  | disableMpg (tx : Tx)
  | parseData (block : List Char)

def requestStep (s : Panel) : RequestEvent → Panel
  | .enableMpg tx => (s.enableMpg tx).1
  | .disableMpg tx => (s.disableMpg tx).1
  | .parseData block => { s with grblData := (Cnc.parseData block s.grblData).2 }

theorem marksFit_requestStep (s : Panel) (e : RequestEvent)
    (fits : MarksFit s.grblData.mpgFlags) : MarksFit (s.requestStep e).grblData.mpgFlags := by
  cases e with
  | enableMpg tx =>
      have call : (s.enableMpg tx).1 = _ := afterCall_eq tx s (some true)
      rw [requestStep, call]
      exact GrblData.marksFit_afterCall fits (some true)
  | disableMpg tx =>
      have call : (s.disableMpg tx).1 = _ := afterCall_eq tx s (some false)
      rw [requestStep, call]
      exact GrblData.marksFit_afterCall fits (some false)
  | parseData block => exact keptByTokens_marksFit.parseData block fits

/-- One of the two functions transmits nothing. -/
theorem sends_exclusive (s : Panel) (tx tx' : Tx) :
    (s.enableMpg tx).1.controllerLine = s.controllerLine ∨
      (s.disableMpg tx').1.controllerLine = s.controllerLine := by
  have enable : (s.enableMpg tx).1 = _ := afterCall_eq tx s (some true)
  have disable : (s.disableMpg tx').1 = _ := afterCall_eq tx' s (some false)
  rw [enable, disable]
  obtain off | off := s.grblData.attempts_exclusive
  · exact .inl (by simp [GrblData.callPackets, off])
  · exact .inr (by simp [GrblData.callPackets, off])

theorem marksFit_initial (startup : Startup) : MarksFit (initial startup).grblData.mpgFlags := by
  constructor
  · intro enabling
    cases enabling
  · intro disabling
    cases disabling

/-- After any calls and lines, a request is marked only in the mode it is to leave. So at most one
is marked, and at most one of the two functions can send a toggle. -/
theorem requests_exclusive (startup : Startup) (es : List RequestEvent) :
    let s := run requestStep (initial startup) es
    (s.grblData.mpgEnableOngoing = true → s.grblData.mpgMode = false) ∧
    (s.grblData.mpgDisableOngoing = true → s.grblData.mpgMode = true) ∧
    ¬ (s.grblData.mpgEnableOngoing = true ∧ s.grblData.mpgDisableOngoing = true) ∧
    ∀ tx tx', (s.enableMpg tx).1.controllerLine = s.controllerLine ∨
      (s.disableMpg tx').1.controllerLine = s.controllerLine := by
  intro s
  have fits : MarksFit s.grblData.mpgFlags :=
    invariant_run (I := fun s : Panel => MarksFit s.grblData.mpgFlags) marksFit_requestStep
      (marksFit_initial startup) es
  refine ⟨fits.1, fits.2, ?_, s.sends_exclusive⟩
  rintro ⟨enabling, disabling⟩
  have off := fits.1 enabling
  have on := fits.2 disabling
  exact Bool.false_ne_true (off.symm.trans on)

/-- The call of `enable_mpg` (`true`) or `disable_mpg` (`false`) that the handler of an event
makes. -/
def toggleCall (s : Panel) : PanelEvent → Option Bool
  | .menu input => s.menuCall input
  | .frame frame _ => s.frameCall frame
  | _ => none

/-- `HAL_UART_Transmit` on the controller's UART during the handler of an event. -/
def outcomes : PanelEvent → Tx
  | .menu input => input.tx
  | .frame _ tx => tx
  | _ => fun _ => true

/-- The handler makes a call that returns 3. -/
def ToggleFails (s : Panel) (e : PanelEvent) : Prop :=
  s.grblData.attempts (s.toggleCall e) = true ∧ outcomes e .mpgModeToggle = false

instance (s : Panel) (e : PanelEvent) : Decidable (s.ToggleFails e) :=
  inferInstanceAs (Decidable (_ ∧ _))

/-- The handler makes the call and its toggle byte gets out. -/
def Transmits (call : Bool) (s : Panel) (e : PanelEvent) : Prop :=
  s.toggleCall e = some call ∧ Packet.mpgModeToggle ∈ s.sentBy e

/-- A toggle byte of the call has been transmitted during the run and no field has answered it. -/
def Outstanding (call : Bool) (s : Panel) (es : List PanelEvent) : Prop :=
  ∃ before e behind, es = before ++ e :: behind ∧ Transmits call (run step s before) e ∧
    ∀ chunk, .grbl chunk ∈ behind → ¬ Answered call chunk

theorem Outstanding.cons {call : Bool} {s : Panel} {e : PanelEvent} {es : List PanelEvent}
    (outstanding : Outstanding call (s.step e) es) : Outstanding call s (e :: es) := by
  obtain ⟨before, sent, behind, rfl, transmits, unanswered⟩ := outstanding
  exact ⟨e :: before, sent, behind, rfl, transmits, unanswered⟩

/-- The parser apart, the call of an event is all that it does to `grbl_data`. -/
theorem grblData_toggleCall {s : Panel} {e : PanelEvent} (other : ∀ chunk, e ≠ .grbl chunk) :
    (s.step e).grblData = s.grblData.afterCall (s.toggleCall e) := by
  cases e with
  | menu input =>
      obtain ⟨_, _, _, _, _, -, -, eq⟩ := s.screenMenu_eq input
      rw [step, eq]
      rfl
  | tim1 accepted =>
      obtain ⟨_, _, _, -, -, -, eq⟩ := s.tim1_eq accepted
      rw [step, eq]
      rfl
  | frame frame tx =>
      obtain ⟨_, _, _, -, eq⟩ := uart4Callback_eq tx frame s
      rw [step, eq]
      rfl
  | grbl chunk => exact absurd rfl (other chunk)

/-- A call that attempts a transmission transmits the toggle byte, or fails. -/
theorem transmits_or_fails {s : Panel} {e : PanelEvent} {call : Bool}
    (calls : s.toggleCall e = some call) (attempt : s.grblData.attempts (some call) = true) :
    Transmits call s e ∨ s.ToggleFails e := by
  cases out : outcomes e .mpgModeToggle with
  | false => exact .inr ⟨by rw [calls, attempt], out⟩
  | true =>
      refine .inl ⟨calls, ?_⟩
      have packets (tx : Tx) (same : tx = outcomes e) :
          Packet.mpgModeToggle ∈ s.grblData.callPackets tx (some call) := by
        rw [GrblData.callPackets, if_pos attempt, same]
        simp [out]
      cases e with
      | menu input =>
          obtain ⟨_, -, sent⟩ := s.sentBy_menu input
          have menuCall : s.menuCall input = some call := calls
          rw [sent, menuCall]
          exact List.mem_append_left _ (packets input.tx rfl)
      | frame frame tx =>
          have frameCall : s.frameCall frame = some call := calls
          rw [sentBy_frame, frameCall]
          exact List.mem_append_left _ (packets tx rfl)
      | tim1 _ => cases calls
      | grbl _ => cases calls

theorem marksFit_step (s : Panel) (e : PanelEvent) (fits : MarksFit s.grblData.mpgFlags) :
    MarksFit (s.step e).grblData.mpgFlags := by
  by_cases chunk : ∃ chunk, e = .grbl chunk
  · obtain ⟨chunk, rfl⟩ := chunk
    exact keptByTokens_marksFit.grblCallback chunk fits
  · rw [grblData_toggleCall fun text eq => chunk ⟨text, eq⟩]
    exact GrblData.marksFit_afterCall fits _

/-- Where a mark comes from: it was there and the event does not answer it, or the event
transmits the toggle byte, or its transmission fails. -/
theorem mark_step {s : Panel} {e : PanelEvent} {call : Bool} (fits : MarksFit s.grblData.mpgFlags)
    (marked : (s.step e).grblData.mark call = true) :
    (s.grblData.mark call = true ∧ ∀ chunk, e = .grbl chunk → ¬ Answered call chunk) ∨
      Transmits call s e ∨ s.ToggleFails e := by
  by_cases chunk : ∃ chunk, e = .grbl chunk
  · obtain ⟨chunk, rfl⟩ := chunk
    have before : s.grblData.mark call = true := by
      by_contra off
      have cleared : (grblCallback chunk s.grblData).mark call = false :=
        (keptByTokens_unmarked call).grblCallback chunk (Bool.eq_false_iff.mpr off)
      exact Bool.false_ne_true (cleared.symm.trans marked)
    refine .inl ⟨before, ?_⟩
    rintro text eq answered
    obtain rfl := PanelEvent.grbl.inj eq
    exact Bool.false_ne_true ((grblCallback_answered fits answered).symm.trans marked)
  · have other (text : List Char) (eq : e = .grbl text) : False := chunk ⟨text, eq⟩
    rw [grblData_toggleCall other] at marked
    obtain before | ⟨calls, attempt⟩ := GrblData.mark_afterCall marked
    · exact .inl ⟨before, fun text eq => absurd eq (other text)⟩
    · exact .inr (transmits_or_fails calls (by rwa [calls] at attempt))

/-- In a run without failed transmissions a mark that is set at the end was set at the beginning
and has not been answered since, or it is the mark of an outstanding toggle byte. -/
theorem mark_run {call : Bool} {s : Panel} {es : List PanelEvent}
    (fits : MarksFit s.grblData.mpgFlags) (sends : Always step (fun s e => ¬ s.ToggleFails e) s es)
    (marked : (run step s es).grblData.mark call = true) :
    (s.grblData.mark call = true ∧ ∀ chunk, .grbl chunk ∈ es → ¬ Answered call chunk) ∨
      Outstanding call s es := by
  induction es generalizing s with
  | nil => exact .inl ⟨marked, fun _ member => absurd member List.not_mem_nil⟩
  | cons e es ih =>
      obtain ⟨next, unanswered⟩ | outstanding := ih (marksFit_step s e fits) sends.2 marked
      · obtain ⟨before, silent⟩ | transmits | fails := mark_step fits next
        · refine .inl ⟨before, ?_⟩
          intro chunk member
          obtain eq | later := List.mem_cons.mp member
          · exact silent chunk eq.symm
          · exact unanswered chunk later
        · exact .inr ⟨[], e, es, rfl, transmits, unanswered⟩
        · exact absurd fails sends.1
      · exact .inr outstanding.cons

/-- A failed transmission always leaves a trace: the flags are as before the call at every step of
a run exactly if no transmission of a toggle byte fails in it. In such a run a mark is always that
of a toggle byte which has been transmitted and not been answered. -/
theorem failed_toggle_leaves_mark (startup : Startup) (es : List PanelEvent) :
    (Always step (fun s e => s.ToggleFails e →
        (s.step e).grblData.mpgFlags = s.grblData.mpgFlags) (initial startup) es ↔
      Always step (fun s e => ¬ s.ToggleFails e) (initial startup) es) ∧
    (Always step (fun s e => ¬ s.ToggleFails e) (initial startup) es →
      ∀ call, (run step (initial startup) es).grblData.mark call = true →
        Outstanding call (initial startup) es) := by
  constructor
  · refine always_iff (I := fun _ => True) (fun _ _ _ _ => trivial) ?_ trivial es
    intro s e _
    constructor
    · intro kept fails
      have other (chunk : List Char) (eq : e = .grbl chunk) : False := by
        subst eq
        cases fails.1
      have same := kept fails
      rw [grblData_toggleCall other] at same
      exact GrblData.mpgFlags_of_attempts fails.1 same
    · exact fun sends fails => absurd fails sends
  · intro sends call marked
    obtain ⟨initially, -⟩ | outstanding := mark_run (marksFit_initial startup) sends marked
    · cases call <;> cases initially
    · exact outstanding

/-- ENTER, with a UART that is busy. -/
def enterRefused : MenuInput := { enterPressed with tx := fun _ => false }

set_option maxRecDepth 4000 in
/-- ENTER marks the request and its toggle byte gets out: the mark is that byte's. -/
theorem failed_toggle_leaves_mark_session :
    Outstanding true (initial {}) (openManual ++ [.menu enterPressed]) :=
  (failed_toggle_leaves_mark {} (openManual ++ [.menu enterPressed])).2 (by decide) true (by decide)

set_option maxRecDepth 4000 in
/-- ENTER marks the request and the UART is busy: the mark stays, nothing has been sent, and ENTER
pressed once more, with the UART free, sends nothing. -/
theorem failed_toggle_blocks_next :
    let refused := openManual ++ [.menu enterRefused]
    let retried := refused ++ List.replicate 6 (.tim1 true) ++ .menu {} ::
      List.replicate 6 (.tim1 true) ++ [.menu enterPressed]
    ¬ Always step (fun s e => s.ToggleFails e →
      (s.step e).grblData.mpgFlags = s.grblData.mpgFlags) (initial {}) refused ∧
    (run step (initial {}) refused).grblData.mark true = true ∧
    (run step (initial {}) retried).grblData.mark true = true ∧
    (run step (initial {}) retried).controllerLine = [] := by
  decide

end Panel

end Cnc
