import CncMachine.Controller.Executive
import CncMachine.Queue.Drain
import CncMachine.Transition.Run

/-!
# Override commands take effect once and in order

Override commands come in by interrupt, at any time: also while `protocol_exec_rt_system` takes
others out of the same buffer and before it has stored what they amount to. For each of the three
buffers the loop is a `Ring.Drain`. In every run in which nothing but commands changes the
overrides, they end up as if every command that was accepted had been applied at once.

The functions that put a command into a buffer are not reentrant. If the main program is in one of
them, for a key, and another command for the same buffer comes in (`collides`), one of the two may
be lost.
-/

namespace Cnc

open Transition

/-- The command that the loop over the feed commands has taken out, and its copy of the rates. -/
def Phase.feedTaken : Phase → Option (FeedCommand × Nat × Nat)
  | .feedLoop command feed rapid => some (command, feed, rapid)
  | _ => none

def Phase.spindleTaken : Phase → Option (SpindleCommand × Nat)
  | .spindleLoop command percent => some (command, percent)
  | _ => none

def Phase.coolantTaken : Phase → Option (CoolantCommand × Bool × Bool)
  | .coolantLoop command coolant => some (command, coolant.flood, coolant.mist)
  | _ => none

/-- The executive is in none of the loops over commands and puts none into a buffer. -/
def Phase.outside : Phase → Bool
  | .rest | .report _ | .reporting _ _ | .tasks | .keycode _ _ | .release => true
  | _ => false

/-- The command that the main program is putting into a buffer. Before the first access nothing has
been read yet. -/
def Phase.entering : Phase → Option RealtimeCommand
  | .enqueue command access _ => if access = .test then none else some command
  | _ => none

/-- No loop over commands has taken one out. -/
structure Phase.Idle (phase : Phase) : Prop where
  feed : phase.feedTaken = none := by rfl
  spindle : phase.spindleTaken = none := by rfl
  coolant : phase.coolantTaken = none := by rfl

/-- The commands go into the same buffer. -/
def RealtimeCommand.sharesBuffer : RealtimeCommand → RealtimeCommand → Bool
  | .feed _, .feed _ | .spindle _, .spindle _ | .coolant _, .coolant _ => true
  | _, _ => false

/-- `FeedCommand.apply` on both rates. -/
def FeedCommand.onRates (rates : Nat × Nat) (command : FeedCommand) : Nat × Nat :=
  command.apply rates.1 rates.2

/-- `CoolantCommand.apply` on flood and mist, in a state that takes it. -/
def CoolantCommand.toggle (coolant : Bool × Bool) : CoolantCommand → Bool × Bool
  | .floodToggle => (!coolant.1, coolant.2)
  | .mistToggle => (coolant.1, !coolant.2)
  | .fan0Toggle => coolant

/-- The part of the controller that override commands read and change. -/
structure Commanding where
  feed : Ring.Buffer overrideBufsize FeedCommand
  spindle : Ring.Buffer overrideBufsize SpindleCommand
  coolant : Ring.Buffer overrideBufsize CoolantCommand
  overrides : Overrides
  feedRateDisable : Bool
  overrideDisable : Bool
  modal : Accessories
  phase : Phase

namespace Commanding

variable (k : Commanding)

/-- A command comes in. -/
def accept : RealtimeCommand → Commanding
  | .feed command => { k with feed := k.feed.enqueue command }
  | .spindle command => { k with spindle := k.spindle.enqueue command }
  | .coolant command => { k with coolant := k.coolant.enqueue command }
  | _ => k

/-- The loop over the feed commands. -/
def feedDrain : Ring.Drain overrideBufsize FeedCommand (Nat × Nat) where
  buffer := k.feed
  taken := k.phase.feedTaken
  value := (k.overrides.feedRate, k.overrides.rapidRate)

/-- The loop over the spindle commands. -/
def spindleDrain : Ring.Drain overrideBufsize SpindleCommand Nat where
  buffer := k.spindle
  taken := k.phase.spindleTaken
  value := k.overrides.spindle

/-- The loop over the coolant commands. -/
def coolantDrain : Ring.Drain overrideBufsize CoolantCommand (Bool × Bool) where
  buffer := k.coolant
  taken := k.phase.coolantTaken
  value := (k.modal.flood, k.modal.mist)

/-- The buffer is as the main program expects it, if it is putting a command into it. -/
def Entering : Prop :=
  match k.phase with
  | .enqueue (.feed command) access _ => access.Fits k.feed command
  | .enqueue (.spindle command) access _ => access.Fits k.spindle command
  | .enqueue (.coolant command) access _ => access.Fits k.coolant command
  | _ => True

variable {k}

theorem entering_of_none (none : k.phase.entering = none) : k.Entering := by
  have test {command : RealtimeCommand} {access : Ring.Access overrideBufsize} {caller : Caller}
      (phase : k.phase = .enqueue command access caller) : access = .test := by
    rw [phase] at none
    by_contra other
    simp [Phase.entering, other] at none
  unfold Entering
  split
  · next phase => rw [test phase]; trivial
  · next phase => rw [test phase]; trivial
  · next phase => rw [test phase]; trivial
  · trivial

/-- Commands for other buffers come in. -/
theorem Entering.accept (entering : k.Entering) {command : RealtimeCommand}
    (apart : ∀ c ∈ k.phase.entering, c.sharesBuffer command = false) :
    (k.accept command).Entering := by
  have kept : (k.accept command).phase = k.phase := by cases command <;> rfl
  cases enters : k.phase.entering with
  | none => exact entering_of_none (by rw [kept, enters])
  | some c =>
      have other : c.sharesBuffer command = false := apart c enters
      unfold Entering at entering ⊢
      rw [kept]
      cases phase : k.phase with
      | enqueue entered access caller =>
          rw [phase] at enters entering
          have same : entered = c := by
            simp only [Phase.entering] at enters
            split at enters
            · cases enters
            · exact Option.some.inj enters
          subst same
          cases entered <;> cases command <;> first | exact entering | cases other
      | _ => trivial

end Commanding

namespace Controller

variable (s : Controller)

def commanding : Commanding where
  feed := s.feed
  spindle := s.spindle
  coolant := s.coolant
  overrides := s.overrides
  feedRateDisable := s.feedRateDisable
  overrideDisable := s.overrideDisable
  modal := s.modal
  phase := s.phase

/-- The command that a step puts into a buffer, if there is room. The main program does so with its
last access. -/
def offered : ExecEvent → RealtimeCommand
  | .byte port c =>
      if s.receives port then
        match port, s.mpgHandler with
        | .mpg, .keypad => .other
        | _, _ => .ofChar c
      else .other
  | .foreground =>
      match s.phase with
      | .enqueue command access _ => if access.appends then command else .other
      | _ => .other
  | _ => .other

@[simp] theorem commanding_enqueueTask (task : Task) :
    (s.enqueueTask task).commanding = s.commanding := by
  unfold enqueueTask
  split <;> rfl

@[simp] theorem commanding_enqueueRealtimeCommand (command : RealtimeCommand) :
    (s.enqueueRealtimeCommand command).commanding = s.commanding.accept command := by
  cases command <;> unfold enqueueRealtimeCommand <;> dsimp only <;> repeat' split
  all_goals first | rfl | exact s.commanding_enqueueTask _

@[simp] theorem commanding_enqueueKeycode (c : Char) :
    (s.enqueueKeycode c).commanding = s.commanding := by
  unfold enqueueKeycode
  repeat' split
  all_goals first | rfl | exact commanding_enqueueTask _ _

theorem commanding_byte (port : Port) (c : Char) :
    (s.byte port c).commanding = s.commanding.accept (s.offered (.byte port c)) := by
  unfold byte offered
  dsimp only
  cases s.receives port with
  | false => rfl
  | true =>
      cases port with
      | main => exact s.commanding_enqueueRealtimeCommand (.ofChar c)
      | mpg =>
          cases s.mpgHandler with
          | keypad => exact s.commanding_enqueueKeycode c
          | realtime => exact s.commanding_enqueueRealtimeCommand (.ofChar c)

@[simp] theorem commanding_mpgEnable (on : Bool) : (s.mpgEnable on).commanding = s.commanding := by
  have switched : (if on then s.switchOn else s.switchOff).commanding = s.commanding := by
    unfold switchOn switchOff
    repeat' split
    all_goals rfl
  unfold mpgEnable
  dsimp only
  split
  · exact s.commanding_enqueueRealtimeCommand _
  · refine (commanding_enqueueRealtimeCommand _ _).trans ?_
    cases on <;> exact switched

theorem commanding_processKeypress (c : Char) :
    ∃ phase : Phase, phase.Idle ∧ phase.entering = none ∧
      (s.processKeypress c).commanding = { s.commanding with phase := phase } := by
  unfold processKeypress
  split
  · exact ⟨_, {}, rfl, rfl⟩
  · cases Keycode.ofChar c with
    | mpgModeToggle =>
        refine ⟨.release, {}, rfl, ?_⟩
        rw [← commanding_mpgEnable s (s.stream.type != .mpg)]
        rfl
    | _ => exact ⟨_, {}, rfl, rfl⟩

theorem commanding_spindleSetState (on ccw : Bool) :
    (s.spindleSetState on ccw).commanding = s.commanding := by
  unfold spindleSetState
  split <;> rfl

theorem commanding_coolantSetState (flood mist : Bool) :
    (s.coolantSetState flood mist).commanding = s.commanding := by
  unfold coolantSetState
  split <;> rfl

/-- Rates within the limits are stored, unless they are disabled. -/
theorem commanding_planFeedOverride (feed rapid : Nat) :
    (s.planFeedOverride feed rapid).commanding =
      { s.commanding with overrides :=
          if s.feedRateDisable then s.overrides
          else { s.overrides with
            feedRate := constrain feed minOverride maxOverride
            rapidRate := rapid } } := by
  unfold planFeedOverride
  dsimp only
  split
  · rfl
  · split
    · rfl
    · next same =>
        simp only [not_or, not_not] at same
        rw [same.1, same.2]
        rfl

/-- A percentage is stored, unless it is disabled. -/
theorem commanding_spindleSetOverride (percent : Nat) :
    (s.spindleSetOverride percent).commanding =
      { s.commanding with overrides :=
          if percent ≠ 100 ∧ s.overrideDisable = true then s.overrides
          else { s.overrides with spindle := constrain percent minOverride maxOverride } } := by
  have byte : constrain percent minOverride maxOverride % 256 =
      constrain percent minOverride maxOverride :=
    Nat.mod_eq_of_lt (Nat.lt_of_le_of_lt (withinLimits_constrain percent).2 (by decide))
  unfold spindleSetOverride
  dsimp only
  split
  · rfl
  · rw [byte]
    split
    · split
      · exact (commanding_spindleSetState _ _ _).trans rfl
      · rfl
    · next same =>
        rw [not_not.mp same]
        rfl

theorem commanding_applyCoolant (coolant : Accessories) :
    (s.applyCoolant coolant).commanding =
      { s.commanding with modal := { s.modal with
          flood := coolant.flood
          mist := coolant.mist } } := by
  unfold applyCoolant
  split
  · unfold coolantSetState
    split <;> rfl
  · next same =>
      simp only [ne_eq, not_or, not_not] at same
      rw [same.1, same.2]
      rfl

theorem commanding_execute (task : Task) :
    ∃ phase : Phase, phase.Idle ∧ phase.entering = none ∧
      (s.execute task).commanding = { s.commanding with phase := phase } := by
  cases task with
  | processKeypress =>
      by_cases empty : s.keybuf.tail = s.keybuf.head
      · refine ⟨.release, {}, rfl, ?_⟩
        simp only [execute, getKeycode, if_pos empty]
        rfl
      · refine ⟨.keycode (s.keybuf.slots s.keybuf.tail) (Ring.next s.keybuf.tail), {}, rfl, ?_⟩
        simp only [execute, getKeycode, if_neg empty]
        rfl
  | setMode on =>
      refine ⟨.release, {}, rfl, ?_⟩
      rw [← commanding_mpgEnable s on]
      rfl
  | plugin => exact ⟨_, {}, rfl, rfl⟩

theorem offered_foreground
    (other : ∀ command access caller, s.phase ≠ .enqueue command access caller) :
    s.offered .foreground = .other := by
  unfold offered
  dsimp only
  split
  · next phase => exact absurd phase (other _ _ _)
  · rfl

theorem Phase.idle_of_outside {phase : Phase} (outside : phase.outside = true) : phase.Idle := by
  cases phase <;> first | exact {} | cases outside

/-- Outside the loops over the commands, the executive leaves them alone. -/
theorem commanding_foreground (outside : s.phase.outside = true) :
    ∃ phase : Phase, phase.Idle ∧ phase.entering = none ∧
      s.foreground.commanding = { s.commanding with phase := phase } := by
  cases phase : s.phase with
  | rest =>
      unfold foreground
      rw [phase]
      dsimp only
      split
      · cases s.statusReport <;> exact ⟨_, {}, rfl, rfl⟩
      · exact ⟨_, {}, rfl, rfl⟩
  | report tasks =>
      unfold foreground
      rw [phase]
      exact ⟨_, {}, rfl, rfl⟩
  | reporting report tasks =>
      unfold foreground
      rw [phase]
      cases tasks <;> exact ⟨_, {}, rfl, rfl⟩
  | tasks =>
      unfold foreground
      rw [phase]
      dsimp only
      split
      · exact ⟨.feedOverride, {}, rfl, rfl⟩
      · exact s.commanding_execute _
  | keycode c bptr =>
      unfold foreground
      rw [phase]
      exact commanding_processKeypress _ c
  | release =>
      unfold foreground
      rw [phase]
      exact ⟨_, {}, rfl, rfl⟩
  | _ =>
      rw [phase] at outside
      cases outside

variable {s}

/-- The three loops in a phase. -/
theorem drains_of_phase {phase : Phase} (is : s.phase = phase) :
    s.commanding.feedDrain =
        ⟨s.feed, phase.feedTaken, (s.overrides.feedRate, s.overrides.rapidRate)⟩ ∧
      s.commanding.spindleDrain = ⟨s.spindle, phase.spindleTaken, s.overrides.spindle⟩ ∧
      s.commanding.coolantDrain =
        ⟨s.coolant, phase.coolantTaken, (s.modal.flood, s.modal.mist)⟩ := by
  subst is
  exact ⟨rfl, rfl, rfl⟩

/-- What the loop over the feed commands does. -/
theorem feed_loop (loop : s.phase = .feedOverride ∨ ∃ c f r, s.phase = .feedLoop c f r) :
    (s.feedRateDisable = false →
        s.commanding.feedDrain.Moves FeedCommand.onRates s.foreground.commanding.feedDrain) ∧
      s.foreground.commanding.spindleDrain = s.commanding.spindleDrain ∧
      s.foreground.commanding.coolantDrain = s.commanding.coolantDrain := by
  obtain outside | ⟨command, feed, rapid, inside⟩ := loop
  · obtain ⟨drain, spindle, coolant⟩ := drains_of_phase outside
    rw [drain, spindle, coolant]
    unfold foreground
    rw [outside]
    dsimp only
    split
    · exact ⟨fun _ => .inl rfl, rfl, rfl⟩
    · split
      · exact ⟨fun _ => .inl rfl, rfl, rfl⟩
      · next command buffer taken =>
          refine ⟨fun _ => .inr (.inl ⟨rfl, ?_⟩), rfl, rfl⟩
          simp only [Ring.Drain.start, taken]
          rfl
  · obtain ⟨drain, spindle, coolant⟩ := drains_of_phase inside
    rw [drain, spindle, coolant]
    unfold foreground
    rw [inside]
    dsimp only
    split
    · next buffer none =>
        have stored := s.commanding_planFeedOverride (command.apply feed rapid).1
          (command.apply feed rapid).2
        have phase (s' : Controller) :
            ({ s' with phase := .spindleOverride } : Controller).commanding =
              { s'.commanding with phase := .spindleOverride } := rfl
        rw [phase, stored]
        refine ⟨fun enabled => .inr (.inr ?_), ?_, ?_⟩
        · rw [enabled, (command.withinLimits_apply feed rapid).constrain_eq]
          simp only [Ring.Drain.next, none]
          rfl
        · split <;> rfl
        · rfl
    · next command' buffer taken =>
        refine ⟨fun _ => .inr (.inr ?_), rfl, rfl⟩
        simp only [Ring.Drain.next, taken]
        rfl

/-- What the loop over the spindle commands does. -/
theorem spindle_loop (loop : s.phase = .spindleOverride ∨ ∃ c p, s.phase = .spindleLoop c p) :
    (s.overrideDisable = false →
        s.commanding.spindleDrain.Moves SpindleCommand.apply
          s.foreground.commanding.spindleDrain) ∧
      s.foreground.commanding.feedDrain = s.commanding.feedDrain ∧
      s.foreground.commanding.coolantDrain = s.commanding.coolantDrain := by
  obtain outside | ⟨command, percent, inside⟩ := loop
  · obtain ⟨feed, drain, coolant⟩ := drains_of_phase outside
    rw [drain, feed, coolant]
    unfold foreground
    rw [outside]
    dsimp only
    split
    · exact ⟨fun _ => .inl rfl, rfl, rfl⟩
    · split
      · exact ⟨fun _ => .inl rfl, rfl, rfl⟩
      · next command buffer taken =>
          refine ⟨fun _ => .inr (.inl ⟨rfl, ?_⟩), rfl, rfl⟩
          simp only [Ring.Drain.start, taken]
          rfl
  · obtain ⟨feed, drain, coolant⟩ := drains_of_phase inside
    rw [drain, feed, coolant]
    unfold foreground
    rw [inside]
    dsimp only
    split
    · next buffer none =>
        have stored := s.commanding_spindleSetOverride (command.apply percent)
        have phase (s' : Controller) :
            ({ s' with phase := .coolantOverride } : Controller).commanding =
              { s'.commanding with phase := .coolantOverride } := rfl
        rw [phase, stored]
        refine ⟨fun enabled => .inr (.inr ?_), ?_, ?_⟩
        · rw [enabled, (command.withinLimits_apply percent).constrain_eq]
          simp only [Ring.Drain.next, none, Bool.false_eq_true, and_false, if_false]
          rfl
        · split <;> rfl
        · rfl
    · next command' buffer taken =>
        refine ⟨fun _ => .inr (.inr ?_), rfl, rfl⟩
        simp only [Ring.Drain.next, taken]
        rfl

/-- What the loop over the coolant commands does. -/
theorem coolant_loop (loop : s.phase = .coolantOverride ∨ ∃ c a, s.phase = .coolantLoop c a) :
    (s.machine.state.takesCoolant = true → s.mistControl = true →
        s.commanding.coolantDrain.Moves CoolantCommand.toggle
          s.foreground.commanding.coolantDrain) ∧
      s.foreground.commanding.feedDrain = s.commanding.feedDrain ∧
      s.foreground.commanding.spindleDrain = s.commanding.spindleDrain := by
  have toggled (takes : s.machine.state.takesCoolant = true) (mist : s.mistControl = true)
      (command : CoolantCommand) (a : Accessories) :
      ((command.apply s.machine.state s.mistControl a).flood,
        (command.apply s.machine.state s.mistControl a).mist) =
          CoolantCommand.toggle (a.flood, a.mist) command := by
    rw [mist]
    cases command <;> simp [CoolantCommand.apply, CoolantCommand.toggle, takes]
  obtain outside | ⟨command, coolant, inside⟩ := loop
  · obtain ⟨feed, spindle, drain⟩ := drains_of_phase outside
    rw [drain, feed, spindle]
    unfold foreground
    rw [outside]
    dsimp only
    split
    · exact ⟨fun _ _ => .inl rfl, rfl, rfl⟩
    · split
      · exact ⟨fun _ _ => .inl rfl, rfl, rfl⟩
      · next command buffer taken =>
          refine ⟨fun _ _ => .inr (.inl ⟨rfl, ?_⟩), rfl, rfl⟩
          simp only [Ring.Drain.start, taken]
          rfl
  · obtain ⟨feed, spindle, drain⟩ := drains_of_phase inside
    rw [drain, feed, spindle]
    unfold foreground
    rw [inside]
    dsimp only
    split
    · next buffer none =>
        have stored := s.commanding_applyCoolant
          (command.apply s.machine.state s.mistControl coolant)
        have phase (s' : Controller) : ({ s' with phase := .rest } : Controller).commanding =
            { s'.commanding with phase := .rest } := rfl
        rw [phase, stored]
        refine ⟨fun takes mist => .inr (.inr ?_), rfl, rfl⟩
        simp only [Ring.Drain.next, none, Phase.coolantTaken, ← toggled takes mist]
        rfl
    · next command' buffer taken =>
        refine ⟨fun takes mist => .inr (.inr ?_), rfl, rfl⟩
        simp only [Ring.Drain.next, taken, Phase.coolantTaken, ← toggled takes mist]
        rfl

/-- After a command has come in, nothing changes what the commands amount to. -/
structure Moved (s : Controller) (command : RealtimeCommand) (s' : Controller) : Prop where
  feed : s.feedRateDisable = false →
    s'.commanding.feedDrain.settled FeedCommand.onRates =
      (s.commanding.accept command).feedDrain.settled FeedCommand.onRates
  spindle : s.overrideDisable = false →
    s'.commanding.spindleDrain.settled SpindleCommand.apply =
      (s.commanding.accept command).spindleDrain.settled SpindleCommand.apply
  coolant : s.machine.state.takesCoolant = true → s.mistControl = true →
    s'.commanding.coolantDrain.settled CoolantCommand.toggle =
      (s.commanding.accept command).coolantDrain.settled CoolantCommand.toggle

/-- Outside the loops only the elements of the buffers matter. -/
theorem moved_of_lists {s' : Controller} {command : RealtimeCommand} (idle : s.phase.Idle)
    (after : s'.phase.Idle) (overrides : s'.overrides = s.overrides) (modal : s'.modal = s.modal)
    (feed : s'.feed.toList = (s.commanding.accept command).feed.toList)
    (spindle : s'.spindle.toList = (s.commanding.accept command).spindle.toList)
    (coolant : s'.coolant.toList = (s.commanding.accept command).coolant.toList) :
    Moved s command s' := by
  have kept : (s.commanding.accept command).phase = s.phase ∧
      (s.commanding.accept command).overrides = s.overrides ∧
      (s.commanding.accept command).modal = s.modal := by
    cases command <;> exact ⟨rfl, rfl, rfl⟩
  have values : s'.commanding.phase = s'.phase ∧ s'.commanding.overrides = s.overrides ∧
      s'.commanding.modal = s.modal := ⟨rfl, overrides, modal⟩
  refine ⟨fun _ => Ring.Drain.settled_congr _ feed ?_ ?_,
      fun _ => Ring.Drain.settled_congr _ spindle ?_ ?_,
      fun _ _ => Ring.Drain.settled_congr _ coolant ?_ ?_⟩ <;>
    simp only [Commanding.feedDrain, Commanding.spindleDrain, Commanding.coolantDrain, kept,
      values, idle.feed, idle.spindle, idle.coolant, after.feed, after.spindle, after.coolant]

theorem moved_of_idle {s' : Controller} (idle : s.phase.Idle)
    (spec : ∃ phase : Phase, phase.Idle ∧
      s'.commanding = { s.commanding with phase := phase }) : Moved s .other s' := by
  obtain ⟨phase, after, eq⟩ := spec
  have same {α : Type} (f : Commanding → α) :
      f s'.commanding = f { s.commanding with phase := phase } := congrArg f eq
  refine moved_of_lists idle ?_ (same (·.overrides)) (same (·.modal)) (same (·.feed.toList))
    (same (·.spindle.toList)) (same (·.coolant.toList))
  rw [show s'.phase = phase from same (·.phase)]
  exact after

theorem moved_of_eq {s' : Controller} {command : RealtimeCommand}
    (eq : s'.commanding = s.commanding.accept command) : Moved s command s' := by
  constructor <;> intros <;> rw [eq]

theorem Phase.idle_goesOn (command : RealtimeCommand) (caller : Caller)
    (after : Option (Ring.Access overrideBufsize)) :
    (after.elim caller.phase fun access => Phase.enqueue command access caller).Idle := by
  cases after with
  | none => cases caller <;> exact {}
  | some access => exact {}

/-- The accesses of the main program to a buffer append its command with the last one, and nothing
before. -/
theorem moved_enqueue (entering : s.commanding.Entering) {command : RealtimeCommand}
    {access : Ring.Access overrideBufsize} {caller : Caller}
    (phase : s.phase = .enqueue command access caller) :
    Moved s (s.offered .foreground) s.foreground := by
  have offered : s.offered .foreground = if access.appends then command else .other := by
    unfold Controller.offered
    rw [phase]
  have before : s.phase.Idle := by
    rw [phase]
    exact {}
  have after := Phase.idle_goesOn command caller
  rw [foreground_enqueue phase, offered]
  unfold Commanding.Entering at entering
  rw [show s.commanding.phase = _ from phase] at entering
  cases command with
  | feed c =>
      have list := Ring.Access.Fits.toList (b := s.feed) entering
      cases appends : access.appends <;> rw [appends] at list <;>
        exact moved_of_lists before (after _) rfl rfl list rfl rfl
  | spindle c =>
      have list := Ring.Access.Fits.toList (b := s.spindle) entering
      cases appends : access.appends <;> rw [appends] at list <;>
        exact moved_of_lists before (after _) rfl rfl rfl list rfl
  | coolant c =>
      have list := Ring.Access.Fits.toList (b := s.coolant) entering
      cases appends : access.appends <;> rw [appends] at list <;>
        exact moved_of_lists before (after _) rfl rfl rfl rfl list
  | _ => cases access.appends <;> exact moved_of_lists before (after none) rfl rfl rfl rfl rfl

theorem moved_in_feed_loop (loop : s.phase = .feedOverride ∨ ∃ c f r, s.phase = .feedLoop c f r) :
    Moved s .other s.foreground := by
  obtain ⟨moves, spindle, coolant⟩ := feed_loop loop
  exact ⟨fun enabled => (moves enabled).settled, fun _ => by rw [spindle]; rfl,
    fun _ _ => by rw [coolant]; rfl⟩

theorem moved_in_spindle_loop
    (loop : s.phase = .spindleOverride ∨ ∃ c p, s.phase = .spindleLoop c p) :
    Moved s .other s.foreground := by
  obtain ⟨moves, feed, coolant⟩ := spindle_loop loop
  exact ⟨fun _ => by rw [feed]; rfl, fun enabled => (moves enabled).settled,
    fun _ _ => by rw [coolant]; rfl⟩

theorem moved_in_coolant_loop
    (loop : s.phase = .coolantOverride ∨ ∃ c a, s.phase = .coolantLoop c a) :
    Moved s .other s.foreground := by
  obtain ⟨moves, feed, spindle⟩ := coolant_loop loop
  exact ⟨fun _ => by rw [feed]; rfl, fun _ => by rw [spindle]; rfl,
    fun takes mist => (moves takes mist).settled⟩

/-- One step of the executive. -/
theorem moved_foreground (entering : s.commanding.Entering) :
    Moved s (s.offered .foreground) s.foreground := by
  have none (other : ∀ command access caller, s.phase ≠ .enqueue command access caller) :
      s.offered .foreground = .other := s.offered_foreground other
  cases outside : s.phase.outside with
  | true =>
      rw [none (by rintro _ _ _ enqueue; rw [enqueue] at outside; cases outside)]
      obtain ⟨phase, idle, -, eq⟩ := s.commanding_foreground outside
      exact moved_of_idle (Phase.idle_of_outside outside) ⟨phase, idle, eq⟩
  | false =>
      cases phase : s.phase with
      | enqueue command access caller => exact moved_enqueue entering phase
      | feedOverride =>
          rw [none (by rw [phase]; nofun)]
          exact moved_in_feed_loop (.inl phase)
      | feedLoop =>
          rw [none (by rw [phase]; nofun)]
          exact moved_in_feed_loop (.inr ⟨_, _, _, phase⟩)
      | spindleOverride =>
          rw [none (by rw [phase]; nofun)]
          exact moved_in_spindle_loop (.inl phase)
      | spindleLoop =>
          rw [none (by rw [phase]; nofun)]
          exact moved_in_spindle_loop (.inr ⟨_, _, phase⟩)
      | coolantOverride =>
          rw [none (by rw [phase]; nofun)]
          exact moved_in_coolant_loop (.inl phase)
      | coolantLoop =>
          rw [none (by rw [phase]; nofun)]
          exact moved_in_coolant_loop (.inr ⟨_, _, phase⟩)
      | _ =>
          rw [phase] at outside
          cases outside

/-- The machine takes coolant commands, and nothing but these changes the coolant. -/
def KeepsCoolant (s : Controller) : ExecEvent → Prop
  | .machine machine => machine.state.takesCoolant = true
  | .interpreter _ _ _ modal => modal.flood = s.modal.flood ∧ modal.mist = s.modal.mist
  | .programEnd _ _ | .stop | .reset => False
  | _ => True

/-- A property of the next state that the step of `otherwise` has, and no step as well. -/
theorem of_otherwise {P : Controller → Prop} {s' : Controller} (there : P s') (same : P s) :
    P (s.otherwise s') := by
  obtain ⟨-, eq⟩ | eq := s.otherwise_cases s' <;> rwa [eq]

/-- Events that leave the modal state and the switches of the overrides alone. -/
def Ordinary : ExecEvent → Bool
  | .machine _ | .interpreter _ _ _ _ | .programEnd _ _ | .overrideControl _ _ | .control _
  | .syncMotion | .stop | .reset => false
  | _ => true

/-- The loops move, and what the executive is given stays as it is. -/
structure Moving (s : Controller) (command : RealtimeCommand) (s' : Controller) : Prop where
  moved : Moved s command s'
  given : s'.given = s.given

theorem moving_of_eq {s' : Controller} {command : RealtimeCommand}
    (eq : s'.commanding = s.commanding.accept command) (given : s'.given = s.given) :
    Moving s command s' := ⟨moved_of_eq eq, given⟩

theorem moving_step {e : ExecEvent} (entering : s.commanding.Entering)
    (ordinary : Ordinary e = true) : Moving s (s.offered e) (s.step e) := by
  have otherwise {s' : Controller} (eq : s'.commanding = s.commanding)
      (given : s'.given = s.given) : Moving s .other (s.otherwise s') :=
    of_otherwise (P := fun s' => Moving s .other s') (moving_of_eq eq given)
      (moving_of_eq rfl rfl)
  cases e with
  | foreground => exact ⟨moved_foreground entering, s.given_foreground⟩
  | byte port c => exact moving_of_eq (s.commanding_byte port c) (s.given_byte port c)
  | task => exact moving_of_eq (s.commanding_enqueueTask _) (s.given_enqueueTask _)
  | requestReport => exact moving_of_eq rfl rfl
  | enqueueOverride command =>
      obtain ⟨phase, eq⟩ | eq := s.otherwise_cases { s with
        phase := .enqueue command .test (if s.phase = .rest then .main else .stateMachine) }
      · have idle : s.phase.Idle := by
          obtain phase | phase := phase <;> rw [phase] <;> exact {}
        rw [step, eq]
        exact ⟨moved_of_lists idle {} rfl rfl rfl rfl rfl, rfl⟩
      · rw [step, eq]
        exact moving_of_eq rfl rfl
  | flag | allOff | overrideDelay | spindleDirect | parkingRetract => exact otherwise rfl rfl
  | spindleSetState on ccw =>
      exact otherwise (s.commanding_spindleSetState on ccw) (s.given_spindleSetState on ccw)
  | coolantSetState flood mist =>
      exact otherwise (s.commanding_coolantSetState flood mist) (s.given_coolantSetState flood mist)
  | _ => cases ordinary

/-- Switching overrides on and off changes nothing but the overrides. -/
theorem overrideControl_spec (feedRateDisable rpmDisable : Bool) :
    (∃ overrides, (s.overrideControl feedRateDisable rpmDisable).commanding =
        { s.commanding with overrides := overrides, overrideDisable := rpmDisable }) ∧
      (s.overrideControl feedRateDisable rpmDisable).given =
        { s.given with overrideDisable := rpmDisable } := by
  let s₁ : Controller := { s with overrideDisable := rpmDisable }
  let s₂ : Controller := if feedRateDisable then s₁.planFeedOverride 0 0 else s₁
  have feed : (∃ overrides, s₂.commanding = { s₁.commanding with overrides := overrides }) ∧
      s₂.given = s₁.given := by
    cases feedRateDisable with
    | false => exact ⟨⟨_, rfl⟩, rfl⟩
    | true => exact ⟨⟨_, s₁.commanding_planFeedOverride 0 0⟩, s₁.given_planFeedOverride 0 0⟩
  obtain ⟨⟨overrides, commanding⟩, given⟩ := feed
  have whole : s.overrideControl feedRateDisable rpmDisable =
      if rpmDisable then s₂.spindleSetOverride 100 else s₂ := rfl
  rw [whole]
  split
  · rw [commanding_spindleSetOverride, given_spindleSetOverride, commanding, given]
    exact ⟨⟨_, rfl⟩, rfl⟩
  · rw [commanding, given]
    exact ⟨⟨_, rfl⟩, rfl⟩

theorem coolant_step {e : ExecEvent} (entering : s.commanding.Entering)
    (takes : s.machine.state.takesCoolant = true) (mist : s.mistControl = true)
    (keeps : KeepsCoolant s e) :
    (s.step e).commanding.coolantDrain.settled CoolantCommand.toggle =
        (s.commanding.accept (s.offered e)).coolantDrain.settled CoolantCommand.toggle ∧
      (s.step e).machine.state.takesCoolant = true ∧ (s.step e).mistControl = true := by
  have otherwise {s' : Controller}
      (drain : s'.commanding.coolantDrain = s.commanding.coolantDrain)
      (machine : s'.machine = s.machine) (control : s'.mistControl = s.mistControl) :
      (s.otherwise s').commanding.coolantDrain.settled CoolantCommand.toggle =
          s.commanding.coolantDrain.settled CoolantCommand.toggle ∧
        (s.otherwise s').machine.state.takesCoolant = true ∧
          (s.otherwise s').mistControl = true :=
    of_otherwise (P := fun s' => s'.commanding.coolantDrain.settled CoolantCommand.toggle =
      s.commanding.coolantDrain.settled CoolantCommand.toggle ∧
        s'.machine.state.takesCoolant = true ∧ s'.mistControl = true)
        ⟨congrArg _ drain, by rw [machine, takes], control.trans mist⟩ ⟨rfl, takes, mist⟩
  cases ordinary : Ordinary e with
  | true =>
      have moving := moving_step entering ordinary
      refine ⟨moving.moved.coolant takes mist, ?_,
        (congrArg Given.mistControl moving.given).trans mist⟩
      rw [show (s.step e).machine = s.machine from congrArg Given.machine moving.given, takes]
  | false =>
      cases e with
      | machine => exact ⟨rfl, keeps, mist⟩
      | interpreter keep fileRun aborted modal =>
          refine otherwise ?_ rfl rfl
          simp only [Commanding.coolantDrain, commanding, keeps.1, keeps.2]
      | overrideControl feedRateDisable rpmDisable =>
          obtain ⟨⟨overrides, stored⟩, given⟩ :=
            overrideControl_spec (s := s) feedRateDisable rpmDisable
          exact otherwise ((congrArg Commanding.coolantDrain stored).trans rfl)
            (congrArg Given.machine given) (congrArg Given.mistControl given)
      | control | syncMotion => exact otherwise rfl rfl rfl
      | programEnd | stop | reset => cases keeps
      | _ => cases ordinary

theorem isDigit_zero : ∀ c ∈ ['0'] ++ [], c.isDigit = true := List.all_eq_true.mp rfl

theorem zero_ne_nil : ['0'] ≠ [] := List.cons_ne_nil _ _

theorem idle_not_hold : SysState.idle = .hold → HoldState.notHolding ≠ .notHolding := nofun

/-- A machine that stands still. -/
def standing : Machine where
  mpos _ := { whole := ['0'], isDigit := isDigit_zero, nonempty := zero_ne_nil }
  wpos _ := { whole := ['0'], isDigit := isDigit_zero, nonempty := zero_ne_nil }
  wco _ := { whole := ['0'], isDigit := isDigit_zero, nonempty := zero_ne_nil }
  holding := idle_not_hold

/-- The key for 10 percent more collides with the host's command for 1 percent more. -/
def collided : List ExecEvent :=
  [.byte .mpg '\x91'] ++ List.replicate 6 .foreground ++ [.byte .main '\x93'] ++
    List.replicate 8 .foreground

example : (run step (initial {} true true true standing) collided).overrides.feedRate = 101 := by
  decide +kernel

end Controller

end Cnc
