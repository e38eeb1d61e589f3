import CncMachine.Controller.Commands

/-!
# Overrides stay within their limits

Commands, the interpreter and resets change the overrides in many places, some of which constrain
what they store and some of which do not. In every run the feed rate and the spindle stay between
10 and 200 percent, and the rapid rate is one of its four values; it is 0 only where override
control has switched the feed rate override off.
-/

namespace Cnc

open Transition

/-- The overrides, and the copy of a loop, have values that they may have. -/
structure Commanding.Limited (rapids : List Nat) (k : Commanding) : Prop where
  feed : WithinLimits k.overrides.feedRate
  rapid : k.overrides.rapidRate ∈ rapids
  spindle : WithinLimits k.overrides.spindle
  copy : ∀ command feed rapid, k.phase.feedTaken = some (command, feed, rapid) → rapid ∈ rapids

theorem withinLimits_hundred : WithinLimits 100 := by decide

/-- A command for the rapid rate leaves it or sets it to one of three values. -/
theorem FeedCommand.rapid_apply {rapids : List Nat} (three : [25, 50, 100] ⊆ rapids)
    {rapid : Nat} (before : rapid ∈ rapids) (feed : Nat) (command : FeedCommand) :
    (command.apply feed rapid).2 ∈ rapids := by
  cases command with
  | rapidReset => exact three (.tail _ (.tail _ (.head _)))
  | rapidMedium => exact three (.tail _ (.head _))
  | rapidLow => exact three (.head _)
  | _ => exact before

namespace Controller

variable {s : Controller} {rapids : List Nat}

theorem limited_of_overrides {k k' : Commanding} (limited : k.Limited rapids)
    (overrides : k'.overrides = k.overrides) (phase : k'.phase = k.phase) : k'.Limited rapids where
  feed := by rw [overrides]; exact limited.feed
  rapid := by rw [overrides]; exact limited.rapid
  spindle := by rw [overrides]; exact limited.spindle
  copy := by rw [phase]; exact limited.copy

theorem limited_accept {k : Commanding} (limited : k.Limited rapids) (command : RealtimeCommand) :
    (k.accept command).Limited rapids := by
  cases command <;> exact limited_of_overrides limited rfl rfl

/-- Storing the rates keeps the limits. -/
theorem limited_planFeedOverride {feed rapid : Nat} (limited : s.commanding.Limited rapids)
    (allowed : rapid ∈ rapids) : (s.planFeedOverride feed rapid).commanding.Limited rapids := by
  rw [commanding_planFeedOverride]
  cases s.feedRateDisable with
  | true => exact limited
  | false => exact ⟨withinLimits_constrain feed, allowed, limited.spindle, limited.copy⟩

theorem limited_spindleSetOverride (limited : s.commanding.Limited rapids) (percent : Nat) :
    (s.spindleSetOverride percent).commanding.Limited rapids := by
  rw [commanding_spindleSetOverride]
  split
  · exact limited
  · exact ⟨limited.feed, limited.rapid, withinLimits_constrain percent, limited.copy⟩

/-- Another phase that has no copy of the rates. -/
theorem limited_phase {k : Commanding} (limited : k.Limited rapids) {phase : Phase}
    (none : phase.feedTaken = none) : ({ k with phase := phase } : Commanding).Limited rapids where
  feed := limited.feed
  rapid := limited.rapid
  spindle := limited.spindle
  copy := by
    intro command feed rapid taken
    rw [none] at taken
    cases taken

theorem limited_foreground (three : [25, 50, 100] ⊆ rapids)
    (limited : s.commanding.Limited rapids) : s.foreground.commanding.Limited rapids := by
  cases outside : s.phase.outside with
  | true =>
      obtain ⟨phase, idle, -, eq⟩ := s.commanding_foreground outside
      rw [eq]
      exact limited_phase limited idle.feed
  | false =>
      have same {k : Commanding} (overrides : k.overrides = s.overrides)
          (none : k.phase.feedTaken = none) : k.Limited rapids := by
        refine ⟨?_, ?_, ?_, ?_⟩
        · rw [overrides]; exact limited.feed
        · rw [overrides]; exact limited.rapid
        · rw [overrides]; exact limited.spindle
        · intro _ _ _ taken
          rw [none] at taken
          cases taken
      cases phase : s.phase with
      | enqueue command access caller =>
          have after := Phase.idle_goesOn command caller
          rw [foreground_enqueue phase]
          cases command with
          | feed | spindle | coolant => exact same rfl (after _).feed
          | _ => exact same rfl (after none).feed
      | feedOverride =>
          unfold foreground
          rw [phase]
          dsimp only
          split
          · exact same rfl rfl
          · split
            · exact same rfl rfl
            · exact ⟨limited.feed, limited.rapid, limited.spindle, fun _ _ _ taken => by
                cases taken
                exact limited.rapid⟩
      | feedLoop command feed rapid =>
          have copied : rapid ∈ rapids := by
            apply limited.copy command feed rapid
            show s.phase.feedTaken = _
            rw [phase]
            rfl
          have applied := FeedCommand.rapid_apply three copied feed command
          unfold foreground
          rw [phase]
          dsimp only
          split
          · exact limited_phase (limited_planFeedOverride limited applied) rfl
          · exact ⟨limited.feed, limited.rapid, limited.spindle, fun _ _ _ taken => by
              cases taken
              exact applied⟩
      | spindleOverride =>
          unfold foreground
          rw [phase]
          dsimp only
          repeat' split
          all_goals exact same rfl rfl
      | spindleLoop command percent =>
          unfold foreground
          rw [phase]
          dsimp only
          split
          · exact limited_phase (limited_spindleSetOverride limited _) rfl
          · exact same rfl rfl
      | coolantOverride =>
          unfold foreground
          rw [phase]
          dsimp only
          repeat' split
          all_goals exact same rfl rfl
      | coolantLoop command coolant =>
          unfold foreground
          rw [phase]
          dsimp only
          split
          · have stored := s.commanding_applyCoolant
              (command.apply s.machine.state s.mistControl coolant)
            exact same (congrArg Commanding.overrides stored) rfl
          · exact same rfl rfl
      | _ =>
          rw [phase] at outside
          cases outside

/-- Override control switches the feed rate override off. -/
def SwitchesOff : ExecEvent → Prop
  | .overrideControl true _ => True
  | _ => False

theorem limited_step {e : ExecEvent} (three : [25, 50, 100] ⊆ rapids)
    (zero : SwitchesOff e → 0 ∈ rapids) (limited : s.commanding.Limited rapids) :
    (s.step e).commanding.Limited rapids := by
  have full : 100 ∈ rapids := three (.tail _ (.tail _ (.head _)))
  have otherwise {s' : Controller} (limited' : s'.commanding.Limited rapids) :
      (s.otherwise s').commanding.Limited rapids :=
    of_otherwise (P := fun s' => s'.commanding.Limited rapids) limited' limited
  -- what is given directly is within the limits
  have given {k : Commanding} (overrides : k.overrides = {}) (phase : k.phase = s.phase) :
      k.Limited rapids := by
    refine ⟨?_, ?_, ?_, ?_⟩
    · rw [overrides]; exact withinLimits_hundred
    · rw [overrides]; exact full
    · rw [overrides]; exact withinLimits_hundred
    · rw [phase]; exact limited.copy
  cases e with
  | foreground => exact limited_foreground three limited
  | byte port c =>
      rw [show (s.step (.byte port c)).commanding = _ from s.commanding_byte port c]
      exact limited_accept limited _
  | task =>
      have same := s.commanding_enqueueTask .plugin
      exact limited_of_overrides limited (congrArg Commanding.overrides same)
        (congrArg Commanding.phase same)
  | machine | requestReport => exact limited
  | enqueueOverride => exact otherwise (limited_phase limited rfl)
  | flag | interpreter | allOff | overrideDelay | spindleDirect | parkingRetract | control | stop =>
      exact otherwise (limited_of_overrides limited rfl rfl)
  | spindleSetState on ccw =>
      exact otherwise (by rw [commanding_spindleSetState]; exact limited)
  | coolantSetState flood mist =>
      exact otherwise (by rw [commanding_coolantSetState]; exact limited)
  | programEnd restore checkMode =>
      cases restore <;> cases checkMode <;> apply otherwise
      · exact limited_of_overrides limited rfl rfl
      · exact limited_of_overrides limited rfl rfl
      · exact given rfl rfl
      · exact given rfl rfl
  | overrideControl feedRateDisable rpmDisable =>
      apply otherwise
      let s₁ : Controller := { s with overrideDisable := rpmDisable }
      have limited₁ : s₁.commanding.Limited rapids := limited_of_overrides limited rfl rfl
      have limited₂ : (if feedRateDisable then s₁.planFeedOverride 0 0
          else s₁).commanding.Limited rapids := by
        cases feedRateDisable with
        | false => exact limited₁
        | true => exact limited_planFeedOverride limited₁ (zero trivial)
      unfold overrideControl
      dsimp only
      cases rpmDisable with
      | false => exact limited₂
      | true => exact limited_spindleSetOverride limited₂ 100
  | syncMotion =>
      exact otherwise ⟨limited.feed, limited.rapid, withinLimits_hundred, limited.copy⟩
  | reset =>
      apply otherwise
      unfold reset
      dsimp only
      rw [commanding_enqueueRealtimeCommand]
      exact limited_accept (given rfl rfl) _

/-- The overrides are within their limits after every run, and the rapid rate is 0 only if override
control has switched the feed rate override off. -/
theorem overrides_within_limits (settings : ReportSettings)
    (canDisableRx mistControl legacyRtCommands : Bool) (machine : Machine) (es : List ExecEvent) :
    let s := run step (initial settings canDisableRx mistControl legacyRtCommands machine) es
    WithinLimits s.overrides.feedRate ∧ s.overrides.rapidRate ∈ [0, 25, 50, 100] ∧
      WithinLimits s.overrides.spindle ∧
      (s.overrides.rapidRate = 0 → ∃ e ∈ es, SwitchesOff e) := by
  intro s
  have after (rapids : List Nat) (three : [25, 50, 100] ⊆ rapids)
      (zero : ∀ e ∈ es, SwitchesOff e → 0 ∈ rapids) : s.commanding.Limited rapids := by
    have kept : Preserves step (fun _ e => SwitchesOff e → 0 ∈ rapids)
        (fun s => s.commanding.Limited rapids) := fun s e limited off =>
      limited_step three off limited
    refine kept.run ?_ (always_of_forall zero)
    exact ⟨withinLimits_hundred, three (.tail _ (.tail _ (.head _))), withinLimits_hundred, nofun⟩
  have limited := after [0, 25, 50, 100] (List.subset_cons_self 0 _) fun _ _ _ => .head _
  refine ⟨limited.feed, limited.rapid, limited.spindle, fun stands => ?_⟩
  by_contra none
  have nonzero := (after [25, 50, 100] (List.Subset.refl _)
    fun e member off => absurd ⟨e, member, off⟩ none).rapid
  change s.overrides.rapidRate ∈ _ at nonzero
  rw [stands] at nonzero
  revert nonzero
  decide

end Controller

end Cnc
