import CncMachine.Transition.Run

/-!
# Setting a remote flag by toggles

A client sets a flag of a remote peer that understands only one command: flip it. The client keeps
a copy of the flag and a mark for each direction. It sends a toggle only for a flag that differs
from its copy, and only if the mark of that direction is clear; then it sets the mark. The peer
answers every toggle with a report of its flag and may report the flag at any other time too.
Toggles and reports travel on two lines that keep their order.

A report of `false` clears both marks, whether it is an answer or not. So at most one toggle is
unanswered as long as no such report overtakes the answer to a toggle (`Timely`). Then copy and
flag agree when nothing is in flight, and the flag is the one last wanted if every toggle attempted
is sent (`Sends`) and no call asks for the flag that a pending toggle is about to leave (`Decided`).
-/

namespace Toggle

open Transition

/-- A report of the flag; `answer` tells whether a toggle has caused it. -/
structure Report where
  flag : Bool
  answer : Bool
deriving DecidableEq, Repr

structure State where
  known : Bool := false
  enabling : Bool := false
  disabling : Bool := false
  /-- The flag that the last call has asked for. -/
  wanted : Bool := false
  remote : Bool := false
  toggles : Nat := 0
  reports : List Report := []
deriving DecidableEq, Repr

inductive Event where
  /-- The client is asked to set the flag; `sent` is the outcome of a transmission. -/
  | call (wanted sent : Bool)
  /-- The peer takes the next toggle. -/
  | handle
  | report
  /-- The next report reaches the client. -/
  | deliver
deriving DecidableEq, Repr

namespace State

variable (s : State)

/-- The mark of the direction away from the copy. -/
def marked : Bool := if s.known then s.disabling else s.enabling

/-- A call gets past both guards. -/
def attempts (wanted : Bool) : Bool := wanted != s.known && !s.marked

def call (wanted sent : Bool) : State :=
  { s with
    wanted := wanted
    enabling := s.enabling || (wanted && !s.known)
    disabling := s.disabling || (!wanted && s.known)
    toggles := s.toggles + (s.attempts wanted && sent).toNat }

def handle : State :=
  match s.toggles with
  | 0 => s
  | toggles + 1 =>
      { s with
        toggles := toggles
        remote := !s.remote
        reports := s.reports ++ [⟨!s.remote, true⟩] }

def receive (flag : Bool) : State :=
  match flag with
  | true => if s.known then s else { s with known := true, enabling := false }
  | false => { s with known := false, enabling := false, disabling := false }

def deliver : State :=
  match s.reports with
  | [] => s
  | r :: rest => { s.receive r.flag with reports := rest }

def step (s : State) : Event → State
  | .call wanted sent => s.call wanted sent
  | .handle => s.handle
  | .report => { s with reports := s.reports ++ [⟨s.remote, false⟩] }
  | .deliver => s.deliver

/-- The toggles that have been sent and whose answers have not arrived. -/
def outstanding : Nat := s.toggles + s.reports.countP (·.answer)

/-- The flag that the peer will have when it has taken all toggles. -/
def heading : Bool := s.remote ^^ decide (s.toggles % 2 = 1)

end State

/-- Read from the client's end, the reports on the line begin with its copy and lead to the peer's
flag, changing at the answers. -/
def Chain : Bool → List Report → Bool → Prop
  | known, [], remote => known = remote
  | known, r :: rest, remote => r.flag = (known ^^ r.answer) ∧ Chain r.flag rest remote

theorem Chain.concat {known remote : Bool} {reports : List Report}
    (chain : Chain known reports remote) (answer : Bool) :
    Chain known (reports ++ [⟨remote ^^ answer, answer⟩]) (remote ^^ answer) := by
  induction reports generalizing known with
  | nil =>
      cases chain
      exact ⟨rfl, rfl⟩
  | cons r rest ih => exact ⟨chain.1, ih chain.2⟩

theorem Chain.remote_eq {known remote : Bool} {reports : List Report}
    (chain : Chain known reports remote) :
    remote = (known ^^ decide (reports.countP (·.answer) % 2 = 1)) := by
  induction reports generalizing known with
  | nil =>
      cases chain
      simp
  | cons r rest ih =>
      rw [ih chain.2, chain.1, List.countP_cons]
      cases r.answer with
      | false => simp
      | true =>
          obtain even | odd := Nat.mod_two_eq_zero_or_one (rest.countP (·.answer))
          · simp [even, Nat.add_mod]
          · simp [odd, Nat.add_mod]

/-- A report of `false` that nobody has asked for arrives only while no toggle is unanswered. -/
def Timely (s : State) : Event → Prop
  | .deliver => ∀ r ∈ s.reports.head?, r.answer = false → r.flag = false → s.outstanding = 0
  | _ => True

instance (s : State) : (e : Event) → Decidable (Timely s e)
  | .deliver => inferInstanceAs (Decidable (∀ r ∈ s.reports.head?, _ → _ → _))
  | .call _ _ | .handle | .report => inferInstanceAs (Decidable True)

/-- A toggle is attempted only while no other one is unanswered. -/
def OneAtATime (s : State) : Event → Prop
  | .call wanted _ => s.attempts wanted = true → s.outstanding = 0
  | _ => True

/-- There is at most one unanswered toggle, the client has marked it, and the reports on the line
lead from the client's copy to the peer's flag. -/
structure Orderly (s : State) : Prop where
  chain : Chain s.known s.reports s.remote
  one : s.outstanding ≤ 1
  marked : s.outstanding ≠ 0 → s.marked = true

theorem Orderly.oneAtATime {s : State} (orderly : Orderly s) (e : Event) : OneAtATime s e := by
  cases e with
  | call wanted sent =>
      intro attempts
      by_contra pending
      simp [State.attempts, orderly.marked pending] at attempts
  | _ => trivial

theorem Orderly.known_eq {s : State} (orderly : Orderly s) (none : s.reports = []) :
    s.known = s.remote := by
  have chain := orderly.chain
  rwa [none] at chain

/-- A call only sets marks. -/
theorem marked_call {s : State} (marked : s.marked = true) (wanted sent : Bool) :
    (s.call wanted sent).marked = true := by
  rw [State.marked, State.call] at *
  cases known : s.known <;> simp_all

theorem Orderly.call {s : State} (orderly : Orderly s) (wanted sent : Bool) :
    Orderly (s.call wanted sent) := by
  cases attempts : s.attempts wanted with
  | false =>
      have same : (s.call wanted sent).outstanding = s.outstanding := by
        simp [State.outstanding, State.call, attempts]
      exact ⟨orderly.chain, same ▸ orderly.one,
        fun pending => marked_call (orderly.marked (same ▸ pending)) wanted sent⟩
  | true =>
      have none : s.outstanding = 0 := orderly.oneAtATime (.call wanted sent) attempts
      refine ⟨orderly.chain, ?_, fun _ => ?_⟩
      · simp only [State.outstanding, State.call] at *
        have := Bool.toNat_le (s.attempts wanted && sent)
        omega
      · simp only [State.attempts] at attempts
        rw [State.marked, State.call]
        cases known : s.known <;> cases wanted <;> simp_all

/-- Taking a toggle turns it into its answer, and leaves the client alone. -/
theorem handle_eq (s : State) :
    s.handle.outstanding = s.outstanding ∧
      ∃ toggles remote reports, s.handle =
        { s with toggles := toggles, remote := remote, reports := reports } := by
  simp only [State.handle]
  split
  · exact ⟨rfl, _, _, _, rfl⟩
  next toggles pending =>
    refine ⟨?_, _, _, _, rfl⟩
    simp only [State.outstanding, pending, List.countP_append, List.countP_singleton, if_true]
    omega

@[simp] theorem report_outstanding (s : State) :
    (s.step .report).outstanding = s.outstanding := by
  simp [State.outstanding, State.step]

theorem Orderly.handle {s : State} (orderly : Orderly s) : Orderly s.handle := by
  obtain ⟨same, _, _, _, eq⟩ := handle_eq s
  refine ⟨?_, same ▸ orderly.one, fun pending => ?_⟩
  · simp only [State.handle]
    split
    · exact orderly.chain
    · simpa using orderly.chain.concat true
  · rw [eq]
    exact orderly.marked (same ▸ pending)

theorem Orderly.report {s : State} (orderly : Orderly s) : Orderly (s.step .report) := by
  refine ⟨?_, by simpa using orderly.one, fun pending => orderly.marked (by simpa using pending)⟩
  simpa [State.step] using orderly.chain.concat false

@[simp] theorem receive_known (s : State) (flag : Bool) : (s.receive flag).known = flag := by
  simp only [State.receive]
  split
  · split
    next known => exact known
    next => rfl
  · rfl

@[simp] theorem receive_remote (s : State) (flag : Bool) : (s.receive flag).remote = s.remote := by
  simp only [State.receive]
  split
  · split <;> rfl
  · rfl

@[simp] theorem receive_toggles (s : State) (flag : Bool) :
    (s.receive flag).toggles = s.toggles := by
  simp only [State.receive]
  split
  · split <;> rfl
  · rfl

@[simp] theorem receive_wanted (s : State) (flag : Bool) : (s.receive flag).wanted = s.wanted := by
  simp only [State.receive]
  split
  · split <;> rfl
  · rfl

theorem Orderly.deliver {s : State} (orderly : Orderly s) (timely : Timely s .deliver) :
    Orderly s.deliver := by
  obtain ⟨chain, one, marked⟩ := orderly
  simp only [State.deliver]
  simp only [Timely] at timely
  simp only [State.outstanding] at one marked timely
  cases line : s.reports with
  | nil => exact ⟨by rw [line] at chain; rwa [line], one, marked⟩
  | cons r rest =>
      rw [line] at chain one marked timely
      obtain ⟨flag, chain⟩ := chain
      refine ⟨by simpa using chain, ?_, ?_⟩
      · simp only [State.outstanding, receive_toggles]
        rw [List.countP_cons] at one
        omega
      · simp only [State.outstanding, receive_toggles]
        intro pending
        rw [List.countP_cons] at one marked timely
        cases answer : r.answer with
        | true =>
            -- the only answer has just arrived
            rw [answer] at one
            simp only [if_true] at one
            omega
        | false =>
            -- an unasked report repeats the copy, and it is not `false`
            have again : r.flag = s.known := by simpa [answer] using flag
            cases known : s.known with
            | false =>
                have none := timely r rfl answer (again.trans known)
                omega
            | true =>
                have before := marked (by omega)
                simpa [State.receive, again, known, State.marked] using before

theorem orderly_step : Preserves State.step Timely Orderly := by
  intro s e orderly timely
  cases e with
  | call wanted sent => exact orderly.call wanted sent
  | handle => exact orderly.handle
  | report => exact orderly.report
  | deliver => exact orderly.deliver timely

/-- A peer that only answers is timely. -/
theorem timely_of_answers {s : State} {es : List Event}
    (start : ∀ r ∈ s.reports, r.answer = true)
    (answers : Always State.step (fun _ e => e ≠ .report) s es) :
    Always State.step Timely s es := by
  refine Preserves.always (I := fun s => ∀ r ∈ s.reports, r.answer = true) ?_ ?_ start answers
  · intro s e all answers
    cases e with
    | call wanted sent => exact all
    | handle =>
        show ∀ r ∈ s.handle.reports, r.answer = true
        simp only [State.handle]
        split
        · exact all
        · simpa [or_imp, forall_and] using all
    | report => exact absurd rfl answers
    | deliver =>
        show ∀ r ∈ s.deliver.reports, r.answer = true
        simp only [State.deliver]
        split
        · exact all
        next r rest line => exact fun r' member => all r' (by simp [line, member])
  · intro s e all _
    cases e with
    | deliver =>
        intro r head unasked
        exact absurd (all r (List.mem_of_mem_head? head)) (by simp [unasked])
    | _ => trivial

/-- Every toggle attempted is sent. -/
def Sends (s : State) : Event → Prop
  | .call wanted sent => s.attempts wanted = true → sent = true
  | _ => True

/-- While a toggle is unanswered, no call asks for the flag that the toggle is to change. -/
def Decided (s : State) : Event → Prop
  | .call wanted _ => s.outstanding ≠ 0 → wanted ≠ s.known
  | _ => True

instance (s : State) : (e : Event) → Decidable (Sends s e)
  | .call _ _ => inferInstanceAs (Decidable (_ → _))
  | .handle | .report | .deliver => inferInstanceAs (Decidable True)

instance (s : State) : (e : Event) → Decidable (Decided s e)
  | .call _ _ => inferInstanceAs (Decidable (_ → _))
  | .handle | .report | .deliver => inferInstanceAs (Decidable True)

/-- A mark is set only for the direction away from the copy, and only while a toggle is
unanswered. -/
structure Settled (s : State) : Prop where
  clear : s.outstanding = 0 → s.marked = false
  enabling : s.known = true → s.enabling = false
  disabling : s.known = false → s.disabling = false

/-- The last call has asked for the flag that the peer will have. -/
def Asked (s : State) : Prop := s.wanted = (s.known ^^ decide (s.outstanding = 1))

theorem Orderly.heading_eq {s : State} (orderly : Orderly s) :
    s.heading = (s.known ^^ decide (s.outstanding = 1)) := by
  have remote := orderly.chain.remote_eq
  have one := orderly.one
  simp only [State.heading, State.outstanding] at *
  rw [remote]
  obtain ⟨none, zero⟩ | ⟨none, zero⟩ | ⟨none, zero⟩ :
      (s.toggles = 0 ∧ s.reports.countP (·.answer) = 0) ∨
      (s.toggles = 0 ∧ s.reports.countP (·.answer) = 1) ∨
      (s.toggles = 1 ∧ s.reports.countP (·.answer) = 0) := by omega
  all_goals simp [none, zero]

theorem call_outstanding (s : State) (wanted sent : Bool) :
    (s.call wanted sent).outstanding = s.outstanding + (s.attempts wanted && sent).toNat := by
  simp only [State.outstanding, State.call]
  omega

/-- A delivery turns an answer into a changed copy. -/
theorem deliver_outstanding {s : State} {r : Report} {rest : List Report}
    (line : s.reports = r :: rest) :
    s.deliver.outstanding + r.answer.toNat = s.outstanding := by
  simp only [State.outstanding, State.deliver, line, receive_toggles, List.countP_cons]
  cases r.answer <;> simp [Nat.add_assoc]

theorem Settled.call {s : State} (settled : Settled s) {wanted sent : Bool}
    (sends : Sends s (.call wanted sent)) : Settled (s.call wanted sent) := by
  refine ⟨fun none => ?_, fun known => ?_, fun known => ?_⟩
  · rw [call_outstanding] at none
    have unmarked := settled.clear (by omega)
    cases attempts : s.attempts wanted with
    | true => simp [attempts, sends attempts] at none
    | false =>
        have same : wanted = s.known := by simpa [State.attempts, unmarked] using attempts
        rw [State.marked, State.call] at *
        cases known : s.known <;> simp_all
  · have before := settled.enabling known
    simp only [State.call] at known ⊢
    simp_all
  · have before := settled.disabling known
    simp only [State.call] at known ⊢
    simp_all

theorem Settled.deliver {s : State} (settled : Settled s) (orderly : Orderly s) :
    Settled s.deliver := by
  cases line : s.reports with
  | nil =>
      have idle : s.deliver = s := by rw [State.deliver, line]
      rw [idle]
      exact settled
  | cons r rest =>
      have chain := orderly.chain
      rw [line] at chain
      have count := deliver_outstanding line
      have delivered : s.deliver = { s.receive r.flag with reports := rest } := by
        rw [State.deliver, line]
      rw [delivered] at count ⊢
      cases flag : r.flag with
      | false =>
          exact ⟨fun _ => rfl, fun known => absurd known (by simp [State.receive]), fun _ => rfl⟩
      | true =>
          cases known : s.known with
          | false =>
              have before := settled.disabling known
              refine ⟨fun _ => ?_, fun _ => ?_, fun off => ?_⟩
              · simp [State.receive, State.marked, known, before]
              · simp [State.receive, known]
              · simp [State.receive, known] at off
          | true =>
              have again : r.answer = false := by simpa [flag, known] using chain.1
              have same : s.receive true = s := by simp [State.receive, known]
              rw [flag, same, again] at count
              rw [same]
              exact ⟨fun none => settled.clear (by simpa [← count] using none),
                settled.enabling, settled.disabling⟩

theorem settled_step :
    Preserves State.step (fun s e => Timely s e ∧ Sends s e) fun s => Orderly s ∧ Settled s := by
  rintro s e ⟨orderly, settled⟩ ⟨timely, sends⟩
  refine ⟨orderly_step orderly timely, ?_⟩
  cases e with
  | call wanted sent => exact settled.call sends
  | handle =>
      obtain ⟨same, _, _, _, eq⟩ := handle_eq s
      refine ⟨fun none => ?_, ?_, ?_⟩
      · have before := settled.clear (same ▸ none)
        rw [State.step, eq]
        exact before
      · rw [State.step, eq]
        exact settled.enabling
      · rw [State.step, eq]
        exact settled.disabling
  | report =>
      exact ⟨fun none => settled.clear (by simpa using none), settled.enabling, settled.disabling⟩
  | deliver => exact settled.deliver orderly

/-- A call that meets the conditions is the last one asked for, whatever was asked before. -/
theorem asked_call {s : State} (orderly : Orderly s) (settled : Settled s)
    {wanted sent : Bool} (sends : Sends s (.call wanted sent))
    (decided : Decided s (.call wanted sent)) : Asked (s.call wanted sent) := by
  have one := orderly.one
  simp only [Asked]
  rw [call_outstanding]
  show wanted = (s.known ^^ _)
  obtain none | pending := Nat.eq_zero_or_pos s.outstanding
  · have unmarked := settled.clear none
    by_cases same : wanted = s.known
    · simp [State.attempts, none, same]
    · have attempts : s.attempts wanted = true := by simp [State.attempts, unmarked, same]
      rw [attempts, sends attempts, none]
      cases wanted <;> simp_all
  · have marked := orderly.marked (by omega)
    have other : wanted = !s.known := by
      have differs := decided (by omega)
      cases wanted <;> simp_all
    have still : s.outstanding = 1 := by omega
    simp [State.attempts, marked, still, other]

theorem asked_step :
    Preserves State.step (fun s e => Timely s e ∧ Sends s e ∧ Decided s e)
      fun s => (Orderly s ∧ Settled s) ∧ Asked s := by
  rintro s e ⟨⟨orderly, settled⟩, asked⟩ ⟨timely, sends, decided⟩
  refine ⟨settled_step ⟨orderly, settled⟩ ⟨timely, sends⟩, ?_⟩
  cases e with
  | call wanted sent => exact asked_call orderly settled sends decided
  | handle =>
      obtain ⟨same, _, _, _, eq⟩ := handle_eq s
      simp only [Asked] at asked ⊢
      rw [State.step, same, eq]
      exact asked
  | report =>
      simp only [Asked] at asked ⊢
      rw [report_outstanding]
      exact asked
  | deliver =>
      rw [State.step]
      cases line : s.reports with
      | nil =>
          rw [State.deliver, line]
          exact asked
      | cons r rest =>
          have chain := orderly.chain
          rw [line] at chain
          have count := deliver_outstanding line
          have one := orderly.one
          have known : s.deliver.known = r.flag := by simp [State.deliver, line]
          have wanted : s.deliver.wanted = s.wanted := by simp [State.deliver, line]
          simp only [Asked] at asked ⊢
          rw [wanted, asked, known, chain.1]
          cases answer : r.answer with
          | false =>
              rw [answer] at count
              simp [← count]
          | true =>
              rw [answer, Bool.toNat_true] at count
              have last : s.deliver.outstanding = 0 := by omega
              have before : s.outstanding = 1 := by omega
              simp [last, before]

/-- Only a call changes where the flag is heading. -/
theorem heading_step {s : State} {e : Event} (quiet : ∀ wanted sent, e ≠ .call wanted sent) :
    (s.step e).heading = s.heading := by
  cases e with
  | call wanted sent => exact absurd rfl (quiet wanted sent)
  | handle =>
      show s.handle.heading = _
      simp only [State.handle]
      split
      · rfl
      next toggles pending =>
        simp only [State.heading]
        rw [pending]
        obtain even | odd := Nat.mod_two_eq_zero_or_one toggles
        · simp [even, Nat.add_mod]
        · simp [odd, Nat.add_mod]
  | report => rfl
  | deliver =>
      show s.deliver.heading = _
      simp only [State.deliver]
      split
      · rfl
      · simp [State.heading]

/-- Without calls the flag ends up where it was heading. -/
theorem heading_run {s : State} {es : List Event}
    (quiet : Always State.step (fun _ e => ∀ wanted sent, e ≠ .call wanted sent) s es) :
    (run State.step s es).heading = s.heading :=
  Preserves.run (I := fun t => t.heading = s.heading)
    (fun _ _ same quiet => (heading_step quiet).trans same) rfl quiet

/-- A call for `false` does not take back a toggle that is to set the flag. -/
theorem heading_call_false {s : State} (orderly : Orderly s) (settled : Settled s) {sent : Bool}
    (sends : Sends s (.call false sent)) : (s.call false sent).heading = s.enabling := by
  have one := orderly.one
  rw [(orderly.call false sent).heading_eq, call_outstanding]
  show (s.known ^^ _) = _
  cases known : s.known with
  | true =>
      obtain none | pending := Nat.eq_zero_or_pos s.outstanding
      · have attempts : s.attempts false = true := by
          simp [State.attempts, known, settled.clear none]
        simp [none, attempts, sends attempts, settled.enabling known]
      · have still : s.outstanding = 1 := by omega
        have marked := orderly.marked (by omega)
        simp [State.attempts, still, marked, settled.enabling known]
  | false =>
      have mark : s.marked = s.enabling := by simp [State.marked, known]
      obtain none | pending := Nat.eq_zero_or_pos s.outstanding
      · simp [State.attempts, known, none, ← mark, settled.clear none]
      · have still : s.outstanding = 1 := by omega
        simp [State.attempts, known, still, ← mark, orderly.marked (by omega)]

end Toggle
