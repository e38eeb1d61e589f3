import Mathlib.Algebra.Order.Group.Unbundled.Int
import CncMachine.Panel.Gate
import CncMachine.Numeric.Wrap

/-!
# Encoder differences

A frame carries two 16-bit counts. The difference of a count to the saved one is taken for a wrap
when it is 300 or more as a plain number, and both wrap branches then miss the true displacement:
downwards through zero they give one count too much, upwards one too few with the wrong sign. So
the differences of a session are right exactly when no two consecutive counts are on different
sides of a wrap.
-/

namespace Cnc

open Transition Wrap

/-- A count read as a number. -/
abbrev countOf (count : BitVec 32) : Int := count.toNat

theorem toInt_setWidth_of {x : BitVec 32} {y : Int} (low : -32768 ≤ y) (high : y < 32768)
    (eq : (x.toNat : Int) % 65536 = y % 65536) : (x.setWidth 16).toInt = y := by
  have range : ((2 ^ 16 : Nat) : Int) = 65536 := rfl
  rw [BitVec.toInt_setWidth, Int.bmod_def, range, eq]
  omega

/-- What the code makes of the displacement from one count to the next. One of 300 or more is taken
for a wrap and misread. -/
def turn (d : Int) : Int := if |d| < 300 then d else (|d| + 1).bmod 65536

section

variable {last current : BitVec 32} (lastCount : last.toNat < 65536)
  (currentCount : current.toNat < 65536)
include lastCount currentCount

theorem encoderValDiff_near (near : |countOf current - countOf last| < 300) :
    (encoderValDiff last current).toInt = countOf current - countOf last := by
  have sub (a b : BitVec 32) : (a - b).toNat = (4294967296 - b.toNat + a.toNat) % 4294967296 :=
    BitVec.toNat_sub a b
  have lt (a b : BitVec 32) : a < b ↔ a.toNat < b.toNat := BitVec.lt_def
  have window : (300 : BitVec 32).toNat = 300 := rfl
  simp only [countOf] at near ⊢
  rw [abs_lt] at near
  simp only [encoderValDiff]
  simp only [lt, sub, window]
  obtain up | same | down := lt_trichotomy last.toNat current.toNat
  · rw [if_pos (by omega)]
    exact toInt_setWidth_of (by omega) (by omega) (by rw [sub]; omega)
  · rw [if_neg (by omega), if_neg (by omega), if_neg (by omega), if_neg (by omega)]
    show (0 : Int) = _
    omega
  · rw [if_neg (by omega), if_neg (by omega), if_pos (by omega)]
    exact toInt_setWidth_of (by omega) (by omega) (by rw [sub]; omega)

/-- Both wrap branches, whatever the direction of the wrap. -/
theorem encoderValDiff_wrap (wide : 300 ≤ |countOf current - countOf last|) :
    (encoderValDiff last current).toInt = (|countOf current - countOf last| + 1).bmod 65536 := by
  have sub (a b : BitVec 32) : (a - b).toNat = (4294967296 - b.toNat + a.toNat) % 4294967296 :=
    BitVec.toNat_sub a b
  have lt (a b : BitVec 32) : a < b ↔ a.toNat < b.toNat := BitVec.lt_def
  have window : (300 : BitVec 32).toNat = 300 := rfl
  have top : (0xFFFF : BitVec 32).toNat = 65535 := rfl
  have range : ((2 ^ 16 : Nat) : Int) = 65536 := rfl
  simp only [countOf] at wide ⊢
  simp only [encoderValDiff]
  simp only [lt, sub, window]
  obtain up | down := lt_or_ge last.toNat current.toNat
  · rw [abs_of_nonneg (by omega)] at wide ⊢
    rw [if_neg (by omega), if_pos up, BitVec.toInt_setWidth, Int.bmod_def, Int.bmod_def, range,
      BitVec.toNat_neg, BitVec.toNat_add, sub, top]
    omega
  · rw [abs_of_nonpos (by omega)] at wide ⊢
    rw [if_neg (by omega), if_neg (by omega), if_neg (by omega), if_pos (by omega),
      BitVec.toInt_setWidth, Int.bmod_def, Int.bmod_def, range, BitVec.toNat_neg,
      BitVec.toNat_add, sub, top]
    omega

theorem encoderValDiff_toInt :
    (encoderValDiff last current).toInt = turn (countOf current - countOf last) := by
  rw [turn]
  split
  next near => exact encoderValDiff_near lastCount currentCount near
  next wide => exact encoderValDiff_wrap lastCount currentCount (not_lt.mp wide)

theorem encoderValDiff_far (far : 32768 ≤ |countOf current - countOf last|) :
    (encoderValDiff last current).toInt = |countOf current - countOf last| - 65535 := by
  rw [encoderValDiff_wrap lastCount currentCount (by omega), Int.bmod_def, Nat.cast_ofNat]
  obtain up | down := le_total 0 (countOf current - countOf last)
  · rw [abs_of_nonneg up] at far ⊢
    simp only [countOf] at far ⊢
    split <;> omega
  · rw [abs_of_nonpos down] at far ⊢
    simp only [countOf] at far ⊢
    split <;> omega

/-- A short displacement is found exactly when the counts are on the same side of the wrap. -/
theorem encoderValDiff_eq_displacement_iff
    (slow : |displacement 32768 (countOf last) (countOf current)| < 300) :
    (encoderValDiff last current).toInt = displacement 32768 (countOf last) (countOf current) ↔
      |countOf current - countOf last| < 300 := by
  constructor
  · intro eq
    by_contra crossed
    have wrapped : 32768 ≤ |countOf current - countOf last| := by
      simp only [displacement] at slow
      rw [abs_lt] at slow
      rw [abs_lt] at crossed
      rw [le_abs]
      omega
    rw [encoderValDiff_far lastCount currentCount wrapped] at eq
    -- the two sides have different parities
    simp only [displacement] at eq
    obtain value | value := abs_choice (countOf current - countOf last) <;> omega
  · intro near
    have bounds := abs_lt.mp near
    rw [encoderValDiff_near lastCount currentCount near,
      displacement_of_near (by omega) (by omega)]

end

/-- The differences that consecutive frames with these counts give, after the saved count. -/
def differences : BitVec 32 → List (BitVec 32) → List Int
  | _, [] => []
  | last, current :: rest => (encoderValDiff last current).toInt :: differences current rest

/-- No two consecutive counts are 300 or more apart as plain numbers. -/
def NeverWraps (last : BitVec 32) (counts : List (BitVec 32)) : Prop :=
  List.IsChain (fun a b => |countOf b - countOf a| < 300) (last :: counts)

instance (last : BitVec 32) (counts : List (BitVec 32)) : Decidable (NeverWraps last counts) :=
  inferInstanceAs (Decidable (List.IsChain _ _))

theorem differences_eq_iff {last : BitVec 32} {counts : List (BitVec 32)}
    (lastCount : last.toNat < 65536) (narrow : ∀ count ∈ counts, count.toNat < 65536)
    (slow : ∀ d ∈ displacements 32768 (countOf last) (counts.map countOf), |d| < 300) :
    differences last counts = displacements 32768 (countOf last) (counts.map countOf) ↔
      NeverWraps last counts := by
  induction counts generalizing last with
  | nil => simp [differences, displacements, NeverWraps]
  | cons current rest ih =>
      simp only [List.mem_cons, forall_eq_or_imp, List.map_cons, displacements] at narrow slow
      simp only [differences, List.map_cons, displacements, List.cons.injEq, NeverWraps,
        List.isChain_cons_cons]
      rw [encoderValDiff_eq_displacement_iff lastCount narrow.1 slow.1,
        ih narrow.1 narrow.2 slow.2, NeverWraps]

namespace Panel

/-- The count of a frame that reaches `process_pendant_data_to_action`. -/
def receivedCount (w : Wheel) (s : Panel) : PanelEvent → List (BitVec 32)
  | .frame frame _ => if s.Processes then [frame.encoderVal w] else []
  | _ => []

/-- The difference in the argument of `pendant_data_to_action`, if it is called. -/
def actedDiff (w : Wheel) (s : Panel) (e : PanelEvent) : List Int :=
  (s.invocation e).toList.map fun action => (action.encoderValDiff w).toInt

/-- An enabled session: the frames that are processed carry the MPG flag and 16-bit counts and
find the pendant function and the MPG mode on. -/
def InSession (s : Panel) : PanelEvent → Prop
  | .frame frame _ => s.Processes →
      s.pendantControl.status = true ∧ s.grblData.mpgMode = true ∧ frame.mpg = true ∧
        ∀ w, (frame.encoderVal w).toNat < 65536
  | _ => True

instance (s : Panel) : (e : PanelEvent) → Decidable (s.InSession e)
  | .frame _ _ => inferInstanceAs (Decidable (_ → _))
  | .menu _ | .tim1 _ | .grbl _ => inferInstanceAs (Decidable True)

theorem invocation_session {s : Panel} {frame : PendantData} {tx : Tx}
    (processes : s.Processes) (session : s.InSession (.frame frame tx)) :
    s.invocation (.frame frame tx) = some (s.received frame).actedAction := by
  obtain ⟨status, mode, mpg, -⟩ := session processes
  rw [invocation, uart4Callback_invokes, if_pos ⟨processes, mpg, status, .inl mode⟩]

/-- A processed frame of a session is saved as it is. -/
theorem lastData_session {s : Panel} {frame : PendantData} {tx : Tx}
    (processes : s.Processes) (session : s.InSession (.frame frame tx)) :
    (s.step (.frame frame tx)).lastData = frame := by
  obtain ⟨-, mode, mpg, -⟩ := session processes
  rw [step, uart4Callback_processed tx frame s processes.1 processes.2, process_eq]
  simp [savedData, received, mpg, mode]

/-- Only processed frames change the saved record. -/
theorem lastData_other {s : Panel} {e : PanelEvent}
    (other : ∀ frame tx, e = .frame frame tx → ¬ s.Processes) :
    (s.step e).lastData = s.lastData := by
  cases e with
  | menu input =>
      obtain ⟨_, _, _, _, _, -, -, eq⟩ := s.screenMenu_eq input
      rw [step, eq]
  | tim1 accepted =>
      obtain ⟨_, _, _, -, -, -, eq⟩ := s.tim1_eq accepted
      rw [step, eq]
  | frame frame tx =>
      rw [step]
      obtain ⟨-, eq⟩ | ⟨-, -, eq⟩ | ⟨processes, -⟩ := uart4Callback_cases tx frame s
      · rw [eq]
      · rw [eq]
        rfl
      · exact absurd processes (other frame tx rfl)
  | grbl chunk => rfl

theorem actedAction_diff (s : Panel) (w : Wheel) :
    s.actedAction.encoderValDiff w =
      Cnc.encoderValDiff (s.lastData.encoderVal w) (s.pendantData.encoderVal w) := by
  cases w <;> rfl

/-- The differences of a session are those of the counts received in it. -/
theorem trace_actedDiff (w : Wheel) {s : Panel} {es : List PanelEvent}
    (session : Always step InSession s es) :
    trace step (actedDiff w) s es =
      differences (s.lastData.encoderVal w) (trace step (receivedCount w) s es) := by
  induction es generalizing s with
  | nil => rfl
  | cons e es ih =>
      rw [trace, trace, ih session.2]
      by_cases processed : ∃ frame tx, e = .frame frame tx ∧ s.Processes
      · obtain ⟨frame, tx, rfl, processes⟩ := processed
        rw [actedDiff, invocation_session processes session.1, receivedCount, if_pos processes,
          lastData_session processes session.1]
        simp only [Option.toList_some, List.map_cons, List.map_nil, List.cons_append,
          List.nil_append, differences, actedAction_diff]
        rfl
      · have other : ∀ frame tx, e = .frame frame tx → ¬ s.Processes :=
          fun frame tx eq processes => processed ⟨frame, tx, eq, processes⟩
        rw [lastData_other other]
        cases e with
        | frame frame tx =>
            have deaf := other frame tx rfl
            have silent : s.invocation (.frame frame tx) = none := by
              rw [invocation, uart4Callback_invokes, if_neg fun acts => deaf acts.1]
            rw [actedDiff, silent, receivedCount, if_neg deaf]
            rfl
        | menu _ => rfl
        | tim1 _ => rfl
        | grbl _ => rfl

theorem receivedCount_narrow (w : Wheel) {s : Panel} {es : List PanelEvent}
    (session : Always step InSession s es) :
    ∀ count ∈ trace step (receivedCount w) s es, count.toNat < 65536 := by
  induction es generalizing s with
  | nil => simp [trace]
  | cons e es ih =>
      intro count member
      obtain now | later := List.mem_append.mp member
      · cases e with
        | frame frame tx =>
            by_cases processes : s.Processes
            · rw [receivedCount, if_pos processes, List.mem_singleton] at now
              rw [now]
              exact (session.1 processes).2.2.2 w
            · simp [receivedCount, processes] at now
        | _ => simp [receivedCount] at now
      · exact ih session.2 count later

/-- In a session that begins with a saved count of zero, and whose frames are less than 300 counts
apart, the differences are the true displacements if and only if no two consecutive counts are
on different sides of 0/65535. -/
theorem session_differences (w : Wheel) (s : Panel) (es : List PanelEvent)
    (start : s.lastData.encoderVal w = 0) (session : Always step InSession s es)
    (slow : ∀ d ∈ displacements 32768 0 ((trace step (receivedCount w) s es).map countOf),
      |d| < 300) :
    trace step (actedDiff w) s es =
        displacements 32768 0 ((trace step (receivedCount w) s es).map countOf) ↔
      NeverWraps 0 (trace step (receivedCount w) s es) := by
  rw [trace_actedDiff w session, start]
  exact differences_eq_iff (by decide) (receivedCount_narrow w session) slow

/-- A run into an enabled session. -/
def openSession : List PanelEvent :=
  openManual ++ [.frame { mpg := true } fun _ => true, .grbl "<Idle|MPG:1>\r\n".toList]

/-- A frame of the session with these counts. -/
def countsFrame (encoder1Val encoder2Val : BitVec 32) : PanelEvent :=
  .frame { encoder1Val, encoder2Val, mpg := true } fun _ => true

set_option maxRecDepth 4000 in
/-- A session forwards, and backwards without reaching zero. -/
theorem session_differences_same_side :
    trace step (actedDiff .yz) (run step (initial {}) openSession)
        [countsFrame 5 7, countsFrame 250 3] =
      displacements 32768 0
        ((trace step (receivedCount .yz) (run step (initial {}) openSession)
          [countsFrame 5 7, countsFrame 250 3]).map countOf) :=
  (session_differences .yz _ _ (by decide) (by decide) (by decide)).mpr (by decide)

set_option maxRecDepth 4000 in
/-- One count backwards from the start of the session is lost, and three counts forwards, back
over the wrap, come out as two counts backwards. -/
theorem session_differences_wrapped :
    let s := run step (initial {}) openSession
    let es := [countsFrame 65535 0, countsFrame 2 0]
    s.lastData.encoderVal .x = 0 ∧ Always step InSession s es ∧
      displacements 32768 0 ((trace step (receivedCount .x) s es).map countOf) = [-1, 3] ∧
      trace step (actedDiff .x) s es = [0, -2] := by
  decide

end Panel

end Cnc
