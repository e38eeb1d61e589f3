import Mathlib.Data.List.Basic

/-!
# Runs of event-driven systems

A system is a total step function: `step s e` is the state after the handler of event `e` has
run to completion in state `s`. A run is the list of its events in the order in which their
handlers ran, so quantifying over all lists quantifies over all interleavings.

`Always step P s es` says that `P` held whenever an event of the run was about to be handled.
Invariants are proved once per event and lifted to runs by `Preserves.run`; a condition on the
steps of a run enters as an `Always` hypothesis of the same run. A step function can be observed
through an abstraction (`Simulates`), and the invariants of the abstract system then hold of the
concrete one.

A goal that some steps reach is reached again and again if a rank counts down to it: every counted
step that misses the goal lowers the rank, and no other step raises it (`count_le_rank`). A system
can also be run together with one bit that tells what has happened since some other kind of step
(`watch`).

Inside a handler, `whileUpTo cond body n s` runs `while (cond) body` from `s`, but at most `n` times.
The loop itself has finished once the guard is false (`Stops`).
-/

namespace Transition

universe u v w x

variable {σ : Type u} {ε : Type v} {step : σ → ε → σ}

/-- The state after the handlers of all events have run, in order. -/
def run (step : σ → ε → σ) : σ → List ε → σ
  | s, [] => s
  | s, e :: es => run step (step s e) es

/-- `P` holds at every step of the run, before the event is handled. -/
def Always (step : σ → ε → σ) (P : σ → ε → Prop) : σ → List ε → Prop
  | _, [] => True
  | s, e :: es => P s e ∧ Always step P (step s e) es

@[simp] theorem run_nil (s : σ) : run step s [] = s := rfl

@[simp] theorem run_cons (s : σ) (e : ε) (es : List ε) :
    run step s (e :: es) = run step (step s e) es := rfl

@[simp] theorem always_nil (P : σ → ε → Prop) (s : σ) : Always step P s [] := trivial

@[simp] theorem always_cons (P : σ → ε → Prop) (s : σ) (e : ε) (es : List ε) :
    Always step P s (e :: es) ↔ P s e ∧ Always step P (step s e) es := Iff.rfl

/-- Running two event lists one after the other. -/
theorem run_append (s : σ) (es fs : List ε) :
    run step s (es ++ fs) = run step (run step s es) fs := by
  induction es generalizing s with
  | nil => rfl
  | cons e es ih => exact ih (step s e)

theorem always_append (P : σ → ε → Prop) (s : σ) (es fs : List ε) :
    Always step P s (es ++ fs) ↔ Always step P s es ∧ Always step P (run step s es) fs := by
  induction es generalizing s with
  | nil => simp
  | cons e es ih => simp only [List.cons_append, always_cons, run_cons, ih, and_assoc]

instance decidableAlways (P : σ → ε → Prop) [∀ s e, Decidable (P s e)] :
    ∀ (s : σ) (es : List ε), Decidable (Always step P s es)
  | _, [] => isTrue trivial
  | s, e :: es =>
      match ‹∀ s e, Decidable (P s e)› s e, decidableAlways P (step s e) es with
      | isTrue h, isTrue hs => isTrue ⟨h, hs⟩
      | isFalse h, _ => isFalse fun hs => h hs.1
      | _, isFalse hs => isFalse fun h => hs h.2

/-- Every step that meets the condition `C` keeps the invariant `I`. -/
def Preserves (step : σ → ε → σ) (C : σ → ε → Prop) (I : σ → Prop) : Prop :=
  ∀ ⦃s e⦄, I s → C s e → I (step s e)

/-- The run lemma of an invariant. -/
theorem Preserves.run {C : σ → ε → Prop} {I : σ → Prop} (h : Preserves step C I)
    {s : σ} {es : List ε} (start : I s) (steps : Always step C s es) :
    I (run step s es) := by
  induction es generalizing s with
  | nil => exact start
  | cons e es ih => exact ih (h start steps.1) steps.2

/-- What an invariant and the condition imply at one step holds at every step of the run. -/
theorem Preserves.always {C Q : σ → ε → Prop} {I : σ → Prop} (h : Preserves step C I)
    (q : ∀ ⦃s e⦄, I s → C s e → Q s e) {s : σ} {es : List ε} (start : I s)
    (steps : Always step C s es) : Always step Q s es := by
  induction es generalizing s with
  | nil => trivial
  | cons e es ih => exact ⟨q start steps.1, ih (h start steps.1) steps.2⟩

theorem always_true (s : σ) (es : List ε) : Always step (fun _ _ => True) s es := by
  induction es generalizing s with
  | nil => trivial
  | cons e es ih => exact ⟨trivial, ih (step s e)⟩

/-- A condition on the events alone. -/
theorem always_of_forall {P : ε → Prop} {s : σ} {es : List ε} (each : ∀ e ∈ es, P e) :
    Always step (fun _ e => P e) s es := by
  induction es generalizing s with
  | nil => trivial
  | cons e es ih => exact ⟨each e (.head es), ih fun f member => each f (.tail e member)⟩

theorem Always.mono {P Q : σ → ε → Prop} {s : σ} {es : List ε}
    (h : Always step P s es) (pq : ∀ s e, P s e → Q s e) : Always step Q s es := by
  induction es generalizing s with
  | nil => trivial
  | cons e es ih => exact ⟨pq s e h.1, ih h.2⟩

theorem Always.and {P Q : σ → ε → Prop} {s : σ} {es : List ε}
    (p : Always step P s es) (q : Always step Q s es) :
    Always step (fun s e => P s e ∧ Q s e) s es := by
  induction es generalizing s with
  | nil => trivial
  | cons e es ih => exact ⟨⟨p.1, q.1⟩, ih p.2 q.2⟩

/-- Two conditions that agree wherever the invariant holds, and that keep it, are met by the same
runs. -/
theorem always_iff {C Q : σ → ε → Prop} {I : σ → Prop} (h : Preserves step C I)
    (same : ∀ ⦃s e⦄, I s → (Q s e ↔ C s e)) {s : σ} (start : I s) (es : List ε) :
    Always step Q s es ↔ Always step C s es := by
  induction es generalizing s with
  | nil => exact Iff.rfl
  | cons e es ih =>
      rw [always_cons, always_cons, same start]
      exact and_congr_right fun meets => ih (h start meets)

/-- An invariant that every step keeps, without a condition. -/
theorem invariant_run {I : σ → Prop} (h : ∀ s e, I s → I (step s e)) {s : σ} (start : I s)
    (es : List ε) : I (Transition.run step s es) :=
  Preserves.run (C := fun _ _ => True) (fun s e hs _ => h s e hs) start (always_true s es)

variable {α : Type w} {β : Type x} {astep : α → β → α}

/-- `abs` maps every step of the concrete system to the run of the abstract events `events s e`. -/
def Simulates (step : σ → ε → σ) (astep : α → β → α) (abs : σ → α)
    (events : σ → ε → List β) : Prop :=
  ∀ s e, abs (step s e) = run astep (abs s) (events s e)

/-- The abstract events of a whole concrete run. -/
def trace (step : σ → ε → σ) (events : σ → ε → List β) : σ → List ε → List β
  | _, [] => []
  | s, e :: es => events s e ++ trace step events (step s e) es

theorem Simulates.run {abs : σ → α} {events : σ → ε → List β}
    (sim : Simulates step astep abs events) (s : σ) (es : List ε) :
    abs (Transition.run step s es) =
      Transition.run astep (abs s) (trace step events s es) := by
  induction es generalizing s with
  | nil => rfl
  | cons e es ih => rw [run_cons, ih, sim, trace, run_append]

/-- A condition on the abstract steps follows from one on the concrete steps. -/
theorem Simulates.always {abs : σ → α} {events : σ → ε → List β}
    (sim : Simulates step astep abs events) {C : σ → ε → Prop} {D : α → β → Prop}
    (h : ∀ s e, C s e → Always astep D (abs s) (events s e)) {s : σ} {es : List ε}
    (steps : Always step C s es) : Always astep D (abs s) (trace step events s es) := by
  induction es generalizing s with
  | nil => trivial
  | cons e es ih =>
      rw [trace, always_append, ← sim]
      exact ⟨h s e steps.1, ih steps.2⟩

/-- What a system sends at each step is read by someone whose state stays related to it. -/
theorem trace_foldlM {C : σ → ε → Prop} {I : σ → α → Prop} {send : σ → ε → List β}
    {read : α → β → Option α}
    (h : ∀ ⦃s e a⦄, I s a → C s e → ∃ a', (send s e).foldlM read a = some a' ∧ I (step s e) a')
    {s : σ} {a : α} {es : List ε} (start : I s a) (steps : Always step C s es) :
    ∃ a', (trace step send s es).foldlM read a = some a' ∧ I (Transition.run step s es) a' := by
  induction es generalizing s a with
  | nil => exact ⟨a, rfl, start⟩
  | cons e es ih =>
      obtain ⟨next, first, related⟩ := h start steps.1
      obtain ⟨last, rest, related⟩ := ih related steps.2
      refine ⟨last, ?_, related⟩
      rw [trace, List.foldlM_append, first]
      exact rest

/-- In the states of the invariant, a step that misses the goal does not raise the rank, and lowers
it if it is counted. -/
def CountsDown (step : σ → ε → σ) (I : σ → Prop) (C goal : σ → ε → Prop) (counted : ε → Bool)
    (rank : σ → Nat) : Prop :=
  ∀ ⦃s e⦄, I s → C s e → ¬ goal s e → rank (step s e) + (counted e).toNat ≤ rank s

/-- A run that misses the goal has no more counted steps than the rank it starts with. -/
theorem CountsDown.count_le_rank {I : σ → Prop} {C goal : σ → ε → Prop} {counted : ε → Bool}
    {rank : σ → Nat} (down : CountsDown step I C goal counted rank) (keeps : Preserves step C I)
    {s : σ} {es : List ε} (start : I s) (steps : Always step C s es)
    (misses : Always step (fun s e => ¬ goal s e) s es) : es.countP counted ≤ rank s := by
  induction es generalizing s with
  | nil => exact Nat.zero_le _
  | cons e es ih =>
      have later := ih (keeps start steps.1) steps.2 misses.2
      have now := down start steps.1 misses.1
      rw [List.countP_cons]
      cases counted : counted e <;> simp_all <;> omega

/-- The system with a bit of history: it is set and cleared by steps of two kinds. -/
def watch (step : σ → ε → σ) (sets clears : σ → ε → Bool) (w : σ × Bool) (e : ε) : σ × Bool :=
  (step w.1 e, sets w.1 e || w.2 && !clears w.1 e)

/-- Watching a system does not change it. -/
theorem run_watch (step : σ → ε → σ) (sets clears : σ → ε → Bool) (w : σ × Bool) (es : List ε) :
    (run (watch step sets clears) w es).1 = run step w.1 es := by
  induction es generalizing w with
  | nil => rfl
  | cons e es ih => exact ih (watch step sets clears w e)

/-- At most `n` iterations of `while (cond) body`. -/
def whileUpTo (cond : σ → Bool) (body : σ → σ) : Nat → σ → σ
  | 0, s => s
  | n + 1, s => if cond s then whileUpTo cond body n (body s) else s

/-- After at most `n` iterations the guard is false: the loop has finished. -/
def Stops (cond : σ → Bool) (body : σ → σ) (n : Nat) (s : σ) : Prop :=
  cond (whileUpTo cond body n s) = false

/-- A body that falsifies the guard is run at most once. -/
theorem stops_one {cond : σ → Bool} {body : σ → σ}
    (h : ∀ s, cond s = true → cond (body s) = false) (s : σ) : Stops cond body 1 s := by
  cases hc : cond s with
  | false => simp [Stops, whileUpTo, hc]
  | true => simpa [Stops, whileUpTo, hc] using h s hc

end Transition
