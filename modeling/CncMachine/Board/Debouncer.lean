import CncMachine.Data
import CncMachine.Numeric.Saturate
import CncMachine.Transition.Run

/-!
# The debouncer of the buttons

Both boards sample their buttons and switches in a timer interrupt. A channel changes when its
counter reaches `update_time`, which is one variable for all channels. It has no initial value, so
the first sample that differs changes its channel at once, and only then are three of them needed.
-/

namespace Cnc

open Transition

/-- The raw states of all pins at one tick. -/
abbrev Samples := Fin 16 → PinState

/-- The state of one channel and its counter. -/
structure ButtonChannel where
  state : PinState := .reset
  cnt : Nat := 0
deriving DecidableEq, Repr

/-- The globals of `buttons.c`. A channel is registered when its port is not `NULL`. -/
structure Debouncer where
  registered : Fin 16 → Bool := fun _ => false
  butStatChannels : Fin 16 → PinState := fun _ => .reset
  butStatCnts : Fin 16 → Nat := fun _ => 0
  updateTime : Nat := 0
  startup : Bool := true

/-- `UPDATE_TIME_HIGH_TO_LOW_DEFAULT` and `UPDATE_TIME_LOW_TO_HIGH_DEFAULT`. -/
abbrev updateTimeHighToLow : Nat := 3
abbrev updateTimeLowToHigh : Nat := 3

namespace Debouncer

variable (d : Debouncer)

/-- The body of the loop of `update_button_statuses`. -/
def updateChannel (samples : Samples) (d : Debouncer) (i : Fin 16) : Debouncer :=
  if !d.registered i then d
  else if samples i ≠ d.butStatChannels i then
    if d.butStatCnts i + 1 ≥ d.updateTime then
      if d.butStatChannels i = .reset then
        { d with
          butStatCnts := Function.update d.butStatCnts i 0
          butStatChannels := Function.update d.butStatChannels i .set
          updateTime := updateTimeHighToLow }
      else
        { d with
          butStatCnts := Function.update d.butStatCnts i 0
          butStatChannels := Function.update d.butStatChannels i .reset
          updateTime := updateTimeLowToHigh }
    else { d with butStatCnts := Function.update d.butStatCnts i (d.butStatCnts i + 1) }
  else if d.butStatCnts i > 0 then
    { d with butStatCnts := Function.update d.butStatCnts i (d.butStatCnts i - 1) }
  else d

/-- `update_button_statuses`. -/
def updateButtonStatuses (samples : Samples) : Debouncer :=
  (List.finRange 16).foldl (updateChannel samples) d

/-- `clear_button_statuses`. -/
def clearButtonStatuses : Debouncer :=
  { d with registered := fun _ => false, butStatChannels := fun _ => .reset }

/-- `set_button_channel` with a port. -/
def setButtonChannel (d : Debouncer) (channel : Nat) : Debouncer :=
  let d := if d.startup then { d with startup := false }.clearButtonStatuses else d
  if inside : channel < 16 then
    { d with registered := Function.update d.registered ⟨channel, inside⟩ true }
  else d

/-- A tick of the timer. -/
def step (d : Debouncer) (samples : Samples) : Debouncer := d.updateButtonStatuses samples

/-- After the start of the board and the registration of some channels. -/
def start (registered : Fin 16 → Bool) : Debouncer := { registered, startup := false }

theorem setButtonChannel_start (registered : Fin 16 → Bool) (channel : Nat) :
    (start registered).setButtonChannel channel =
      start fun i => registered i || decide (i.val = channel) := by
  have running : (if (start registered).startup then
      { start registered with startup := false }.clearButtonStatuses else start registered) =
        start registered := rfl
  rw [setButtonChannel, running]
  split
  next inside =>
    rw [start, start, Debouncer.mk.injEq]
    refine ⟨?_, rfl, rfl, rfl, rfl⟩
    funext i
    by_cases same : i.val = channel
    · have same' : i = ⟨channel, inside⟩ := Fin.ext same
      simp [same']
    · have other : i ≠ ⟨channel, inside⟩ := fun eq => same (congrArg Fin.val eq)
      simp [Function.update_of_ne other, same]
  next outside =>
    have other (i : Fin 16) : i.val ≠ channel := by omega
    simp [other]

theorem setButtonChannel_powerUp (channel : Nat) :
    setButtonChannel {} channel = (start fun _ => false).setButtonChannel channel := rfl

/-- Registering channels leaves nothing else behind. -/
theorem setButtonChannel_foldl (channel : Nat) (channels : List Nat) :
    (channel :: channels).foldl setButtonChannel {} =
      start fun i => decide (i.val ∈ channel :: channels) := by
  have more (registered : Fin 16 → Bool) (channels : List Nat) :
      channels.foldl setButtonChannel (start registered) =
        start fun i => registered i || decide (i.val ∈ channels) := by
    induction channels generalizing registered with
    | nil => simp
    | cons channel channels ih =>
        rw [List.foldl_cons, setButtonChannel_start, ih]
        simp [Bool.or_assoc]
  rw [List.foldl_cons, setButtonChannel_powerUp, setButtonChannel_start, more]
  simp

def channel (i : Fin 16) : ButtonChannel := ⟨d.butStatChannels i, d.butStatCnts i⟩

end Debouncer

/-- What a sample does to its channel. -/
def ButtonChannel.sample (updateTime : Nat) (c : ButtonChannel) (pin : PinState) : ButtonChannel :=
  if pin ≠ c.state then
    if c.cnt + 1 ≥ updateTime then ⟨pin, 0⟩ else ⟨c.state, c.cnt + 1⟩
  else ⟨c.state, c.cnt - 1⟩

/-- A channel only changes to a sample that differs, at the threshold. -/
theorem ButtonChannel.sample_changes {updateTime : Nat} {c : ButtonChannel} {pin : PinState}
    (changes : (c.sample updateTime pin).state ≠ c.state) :
    pin ≠ c.state ∧ updateTime ≤ c.cnt + 1 := by
  simp only [ButtonChannel.sample] at changes
  split at changes
  next differs =>
    split at changes
    next due => exact ⟨differs, due⟩
    next => exact absurd rfl changes
  next => exact absurd rfl changes

namespace Debouncer

section

variable {d : Debouncer} {samples : Samples} {i j : Fin 16}

@[simp] theorem updateChannel_registered :
    (d.updateChannel samples i).registered = d.registered := by
  simp only [updateChannel]
  repeat' split
  all_goals rfl

/-- An unregistered channel is passed over. -/
theorem updateChannel_of_not (unregistered : d.registered i = false) :
    d.updateChannel samples i = d := by
  simp [updateChannel, unregistered]

theorem channel_updateChannel_self (registered : d.registered i = true) :
    (d.updateChannel samples i).channel i = (d.channel i).sample d.updateTime (samples i) := by
  have heard : ¬ (!d.registered i) = true := by simp [registered]
  simp only [updateChannel, ButtonChannel.sample]
  rw [if_neg heard]
  by_cases differs : samples i ≠ d.butStatChannels i
  · rw [if_pos differs, if_pos (show samples i ≠ (d.channel i).state from differs)]
    by_cases due : d.butStatCnts i + 1 ≥ d.updateTime
    · rw [if_pos due, if_pos (show (d.channel i).cnt + 1 ≥ d.updateTime from due)]
      cases pin : samples i <;> cases state : d.butStatChannels i <;> simp_all [channel]
    · rw [if_neg due, if_neg (show ¬ (d.channel i).cnt + 1 ≥ d.updateTime from due)]
      simp [channel]
  · rw [if_neg differs, if_neg (show ¬ samples i ≠ (d.channel i).state from differs)]
    split
    · simp [channel]
    next zero =>
      have zero : d.butStatCnts i = 0 := by omega
      simp [channel, zero]

theorem channel_updateChannel_of_ne (other : j ≠ i) :
    (d.updateChannel samples i).channel j = d.channel j := by
  simp only [updateChannel, channel]
  repeat' split
  all_goals simp [Function.update_of_ne other]

/-- The threshold is the default one once any channel has changed. -/
theorem updateTime_updateChannel (armed : d.updateTime = 3) :
    (d.updateChannel samples i).updateTime = 3 := by
  simp only [updateChannel]
  repeat' split
  all_goals first
    | exact armed
    | rfl

variable {channels : List (Fin 16)}

@[simp] theorem foldl_registered :
    (channels.foldl (updateChannel samples) d).registered = d.registered := by
  induction channels generalizing d with
  | nil => rfl
  | cons first channels ih => rw [List.foldl_cons, ih, updateChannel_registered]

theorem channel_foldl_of_not_mem (outside : i ∉ channels) :
    (channels.foldl (updateChannel samples) d).channel i = d.channel i := by
  induction channels generalizing d with
  | nil => rfl
  | cons first channels ih =>
      obtain ⟨other, outside⟩ := List.ne_and_not_mem_of_not_mem_cons outside
      rw [List.foldl_cons, ih outside, channel_updateChannel_of_ne other]

theorem channel_foldl_of_not (unregistered : d.registered i = false) :
    (channels.foldl (updateChannel samples) d).channel i = d.channel i := by
  induction channels generalizing d with
  | nil => rfl
  | cons first channels ih =>
      have later : (d.updateChannel samples first).registered i = false := by
        rw [updateChannel_registered]
        exact unregistered
      rw [List.foldl_cons, ih later]
      by_cases same : i = first
      · subst same
        rw [updateChannel_of_not unregistered]
      · exact channel_updateChannel_of_ne same

theorem foldl_armed (armed : d.updateTime = 3) :
    (channels.foldl (updateChannel samples) d).updateTime = 3 := by
  induction channels generalizing d with
  | nil => exact armed
  | cons first channels ih => exact ih (updateTime_updateChannel armed)

/-- With the default threshold every channel is on its own. -/
theorem channel_foldl_armed (armed : d.updateTime = 3) (registered : d.registered i = true)
    (once : channels.Nodup) (inside : i ∈ channels) :
    (channels.foldl (updateChannel samples) d).channel i = (d.channel i).sample 3 (samples i) := by
  induction channels generalizing d with
  | nil => cases inside
  | cons first channels ih =>
      obtain ⟨outside, once⟩ := List.nodup_cons.mp once
      rw [List.foldl_cons]
      by_cases same : i = first
      · subst same
        rw [channel_foldl_of_not_mem outside, channel_updateChannel_self registered, armed]
      · have inside : i ∈ channels := (List.mem_cons.mp inside).resolve_left same
        rw [ih (updateTime_updateChannel armed) _ once inside, channel_updateChannel_of_ne same]
        rw [updateChannel_registered]
        exact registered

theorem step_registered : (d.step samples).registered = d.registered := foldl_registered

theorem step_armed (armed : d.updateTime = 3) : (d.step samples).updateTime = 3 :=
  foldl_armed armed

theorem channel_step_armed (armed : d.updateTime = 3) (registered : d.registered i = true) :
    (d.step samples).channel i = (d.channel i).sample 3 (samples i) :=
  channel_foldl_armed armed registered (List.nodup_finRange 16) (List.mem_finRange i)

theorem channel_step_of_not (unregistered : d.registered i = false) :
    (d.step samples).channel i = d.channel i :=
  channel_foldl_of_not unregistered

end

section

/-- The first of the registered channels that reads `GPIO_PIN_SET`, in the order of the loop. -/
def firstReading (registered : Fin 16 → Bool) (samples : Samples) : Option (Fin 16) :=
  (List.finRange 16).find? fun i => registered i && samples i == .set

/-- The first one of a whole run. -/
def firstSet (registered : Fin 16 → Bool) (es : List Samples) : Option (Fin 16) :=
  es.findSome? (firstReading registered)

variable {registered : Fin 16 → Bool} {samples : Samples} {i j : Fin 16}

theorem updateChannel_start (silent : (registered i && samples i == .set) = false) :
    (start registered).updateChannel samples i = start registered := by
  cases heard : registered i with
  | false => exact updateChannel_of_not heard
  | true =>
      have low : samples i = .reset := by
        cases pin : samples i with
        | reset => rfl
        | set => simp [heard, pin] at silent
      simp [updateChannel, start, low]

theorem foldl_start {channels : List (Fin 16)}
    (silent : ∀ i ∈ channels, (registered i && samples i == .set) = false) :
    channels.foldl (updateChannel samples) (start registered) = start registered := by
  induction channels with
  | nil => rfl
  | cons first channels ih =>
      rw [List.foldl_cons, updateChannel_start (silent first (.head _))]
      exact ih fun i member => silent i (.tail _ member)

/-- As long as nothing reads `GPIO_PIN_SET` nothing happens. -/
theorem step_start_of_none (none : firstReading registered samples = none) :
    (start registered).step samples = start registered := by
  apply foldl_start
  intro i member
  exact Bool.eq_false_iff.mpr (List.find?_eq_none.mp none i member)

/-- The first one changes at once, and the others begin to count. -/
theorem step_start_of_some (some : firstReading registered samples = some j) :
    ((start registered).step samples).updateTime = 3 ∧
    ((start registered).step samples).channel j = ⟨.set, 0⟩ ∧
    ∀ i ≠ j, registered i = true →
      ((start registered).step samples).channel i = ButtonChannel.sample 3 {} (samples i) := by
  obtain ⟨reads, before, behind, all, silent⟩ := List.find?_eq_some_iff_append.mp some
  have once : (before ++ j :: behind).Nodup := all ▸ List.nodup_finRange 16
  obtain ⟨heard, high⟩ : registered j = true ∧ samples j = .set := by simpa using reads
  have reached : before.foldl (updateChannel samples) (start registered) = start registered :=
    foldl_start fun i member => (Bool.not_eq_true' _).mp (silent i member)
  have tick : (start registered).step samples =
      behind.foldl (updateChannel samples) ((start registered).updateChannel samples j) := by
    rw [step, updateButtonStatuses, all, List.foldl_append, reached, List.foldl_cons]
  have armed : ((start registered).updateChannel samples j).updateTime = 3 := by
    simp [updateChannel, start, heard, high]
  have own : ((start registered).updateChannel samples j).channel j = ⟨.set, 0⟩ := by
    simp [updateChannel, start, heard, high, channel]
  have last : j ∉ behind := by
    have := List.nodup_append.mp once
    exact (List.nodup_cons.mp this.2.1).1
  rw [tick]
  refine ⟨foldl_armed armed, by rw [channel_foldl_of_not_mem last, own], ?_⟩
  intro i other heard
  have kept : ((start registered).updateChannel samples j).channel i = {} :=
    channel_updateChannel_of_ne other
  have member : i ∈ before ++ j :: behind := all ▸ List.mem_finRange i
  obtain early | late := List.mem_append.mp member
  · have outside : i ∉ behind := by
      have apart := (List.nodup_append.mp once).2.2 i early
      exact fun late => apart i (.tail _ late) rfl
    have low : samples i = .reset := by
      have := silent i early
      cases pin : samples i <;> simp_all
    rw [channel_foldl_of_not_mem outside, kept, low]
    rfl
  · have inside : i ∈ behind := (List.mem_cons.mp late).resolve_left other
    rw [channel_foldl_armed armed, kept]
    · rw [updateChannel_registered]
      exact heard
    · exact (List.nodup_cons.mp (List.nodup_append.mp once).2.1).2
    · exact inside

end

section

variable {registered : Fin 16 → Bool} {es : List Samples} {samples : Samples} {i : Fin 16}

theorem firstSet_cons (registered : Fin 16 → Bool) (samples : Samples) (es : List Samples) :
    firstSet registered (samples :: es) =
      (firstReading registered samples).or (firstSet registered es) := by
  rw [firstSet, List.findSome?_cons]
  cases firstReading registered samples <;> rfl

theorem firstReading_eq_some (some : firstReading registered samples = some i) :
    registered i = true ∧ samples i = .set := by
  simpa using List.find?_some some

theorem firstReading_isSome (heard : registered i = true) (high : samples i = .set) :
    firstReading registered samples ≠ none := by
  intro none
  have := List.find?_eq_none.mp none i (List.mem_finRange i)
  simp [heard, high] at this

/-- Before the first change a registered channel has been low all the time. -/
theorem low_of_firstSet_none (none : firstSet registered es = none) (heard : registered i = true) :
    ∀ samples ∈ es, samples i = .reset := by
  intro samples member
  cases pin : samples i with
  | reset => rfl
  | set =>
      have silent := List.findSome?_eq_none_iff.mp none samples member
      exact absurd silent (firstReading_isSome heard pin)

theorem run_start_of_none (none : firstSet registered es = none) :
    run step (start registered) es = start registered := by
  induction es with
  | nil => rfl
  | cons samples es ih =>
      rw [firstSet_cons, Option.or_eq_none_iff] at none
      rw [run_cons, step_start_of_none none.1, ih none.2]

theorem run_concat (d : Debouncer) (es : List Samples) (samples : Samples) :
    run step d (es ++ [samples]) = (run step d es).step samples := run_append _ _ _

theorem run_registered (d : Debouncer) (es : List Samples) :
    (run step d es).registered = d.registered := by
  induction es generalizing d with
  | nil => rfl
  | cons samples es ih => rw [run_cons, ih, step_registered]

theorem run_armed {d : Debouncer} (armed : d.updateTime = 3) (es : List Samples) :
    (run step d es).updateTime = 3 := by
  induction es generalizing d with
  | nil => exact armed
  | cons samples es ih => exact ih (step_armed armed)

theorem run_armed_of_some (some : firstSet registered es ≠ none) :
    (run step (start registered) es).updateTime = 3 := by
  induction es with
  | nil => exact absurd rfl some
  | cons samples es ih =>
      rw [firstSet_cons] at some
      rw [run_cons]
      cases first : firstReading registered samples with
      | none =>
          rw [first, Option.none_or] at some
          rw [step_start_of_none first]
          exact ih some
      | some j => exact run_armed (step_start_of_some first).1 es

/-- Either nothing has happened yet or the default threshold is in force. -/
theorem run_cases (registered : Fin 16 → Bool) (es : List Samples) :
    run step (start registered) es = start registered ∨
      (run step (start registered) es).updateTime = 3 := by
  by_cases none : firstSet registered es = none
  · exact .inl (run_start_of_none none)
  · exact .inr (run_armed_of_some none)

/-- The debounced state of the channel changes with these samples. -/
def Changes (d : Debouncer) (i : Fin 16) (es : List Samples) (samples : Samples) : Prop :=
  (run step d (es ++ [samples])).butStatChannels i ≠ (run step d es).butStatChannels i

instance (d : Debouncer) (i : Fin 16) (es : List Samples) (samples : Samples) :
    Decidable (d.Changes i es samples) :=
  inferInstanceAs (Decidable (_ ≠ _))

/-- The channel has kept its state through the last stretch. -/
def Unchanged (d : Debouncer) (i : Fin 16) (before window : List Samples) : Prop :=
  ∀ first, first <+: window →
    (run step d (before ++ first)).butStatChannels i =
      (run step d (before ++ window)).butStatChannels i

/-- Which of the channel's own samples differ from a state. -/
def differing (i : Fin 16) (state : PinState) (es : List Samples) : List Bool :=
  es.map fun samples => samples i != state

/-- A stretch of samples up to this one, behind the last change, has three more that differ than
samples that agree. -/
def Earned (d : Debouncer) (i : Fin 16) (es : List Samples) (samples : Samples) : Prop :=
  ∃ before window, es = before ++ window ∧ Unchanged d i before window ∧
    (differing i ((run step d es).butStatChannels i) (window ++ [samples])).count false + 3 ≤
      (differing i ((run step d es).butStatChannels i) (window ++ [samples])).count true

/-- With a sample the counter goes up or down, or it begins anew. -/
theorem channel_step_cases {d : Debouncer} (reached : d = start registered ∨ d.updateTime = 3)
    (heard : d.registered i = true) (samples : Samples) :
    (d.step samples).channel i =
        ⟨(d.channel i).state, Climb.next (d.channel i).cnt (samples i != (d.channel i).state)⟩ ∨
      ((d.step samples).channel i).cnt = 0 := by
  have counts (c : ButtonChannel) (pin : PinState) :
      c.sample 3 pin = ⟨c.state, Climb.next c.cnt (pin != c.state)⟩ ∨ (c.sample 3 pin).cnt = 0 := by
    by_cases differs : pin ≠ c.state
    · by_cases due : c.cnt + 1 ≥ 3
      · exact .inr (by simp [ButtonChannel.sample, differs, due])
      · exact .inl (by simp [ButtonChannel.sample, Climb.next, differs, due])
    · exact .inl (by simp_all [ButtonChannel.sample, Climb.next])
  obtain rfl | armed := reached
  · cases first : firstReading registered samples with
    | none =>
        rw [step_start_of_none first]
        exact .inr rfl
    | some j =>
        obtain ⟨-, own, others⟩ := step_start_of_some first
        by_cases same : i = j
        · subst same
          exact .inr (by rw [own])
        · rw [others i same heard]
          exact counts {} (samples i)
  · rw [channel_step_armed armed heard]
    exact counts _ _

/-- The counter has climbed over the samples behind the last change. -/
theorem exists_since (heard : registered i = true) (es : List Samples) :
    ∃ before since, es = before ++ since ∧ Unchanged (start registered) i before since ∧
      (run step (start registered) es).butStatCnts i =
        Climb.climb (differing i ((run step (start registered) es).butStatChannels i) since) := by
  induction es using List.reverseRecOn with
  | nil => exact ⟨[], [], rfl, fun first inside => by rw [List.prefix_nil.mp inside], rfl⟩
  | append_singleton es samples ih =>
      obtain ⟨before, since, split, unchanged, counted⟩ := ih
      have stays : (run step (start registered) es).registered i = true := by
        rw [run_registered]
        exact heard
      have last := run_concat (start registered) es samples
      obtain counts | zero :=
        channel_step_cases (run_cases registered es) stays samples
      · have state : (run step (start registered) (es ++ [samples])).butStatChannels i =
            (run step (start registered) es).butStatChannels i := by
          rw [last]
          exact congrArg ButtonChannel.state counts
        refine ⟨before, since ++ [samples], ?_, ?_, ?_⟩
        · rw [split, List.append_assoc]
        · intro first inside
          rw [← List.append_assoc, ← split, state]
          obtain whole | shorter := List.prefix_concat_iff.mp inside
          · rw [whole, ← List.append_assoc, ← split, state]
          · rw [unchanged first shorter, split]
        · rw [state, differing, List.map_append, List.map_singleton, Climb.climb_concat, last]
          exact (congrArg ButtonChannel.cnt counts).trans (congrArg (Climb.next · _) counted)
      · refine ⟨es ++ [samples], [], (List.append_nil _).symm, ?_, ?_⟩
        · intro first inside
          rw [List.prefix_nil.mp inside]
        · rw [last]
          exact zero

/-- Only registered channels change. -/
theorem Changes.heard (changes : Changes (start registered) i es samples) :
    registered i = true := by
  by_contra silent
  have unregistered : (run step (start registered) es).registered i = false := by
    rw [run_registered]
    exact Bool.eq_false_iff.mpr silent
  have kept : ((run step (start registered) es).step samples).channel i =
      (run step (start registered) es).channel i := channel_step_of_not unregistered
  rw [Changes, run_concat] at changes
  exact changes (congrArg ButtonChannel.state kept)

/-- A change under the default threshold is earned. -/
theorem Changes.earned (changes : Changes (start registered) i es samples)
    (armed : (run step (start registered) es).updateTime = 3) :
    Earned (start registered) i es samples := by
  have heard := changes.heard
  have stays : (run step (start registered) es).registered i = true := by
    rw [run_registered]
    exact heard
  rw [Changes, run_concat] at changes
  have sampled : ((run step (start registered) es).step samples).butStatChannels i =
      (ButtonChannel.sample 3 ((run step (start registered) es).channel i) (samples i)).state :=
    congrArg ButtonChannel.state (channel_step_armed armed stays)
  rw [sampled] at changes
  obtain ⟨differs, due⟩ := ButtonChannel.sample_changes changes
  obtain ⟨before, since, split, unchanged, counted⟩ := exists_since heard es
  obtain ⟨begun, window, parts, surplus⟩ := Climb.exists_window
    (differing i ((run step (start registered) es).butStatChannels i) since)
  obtain ⟨first, second, rfl, -, rfl⟩ := List.map_eq_append_iff.mp parts
  refine ⟨before ++ first, second, ?_, ?_, ?_⟩
  · rw [split, List.append_assoc]
  · intro head inside
    have whole := unchanged (first ++ head) (List.prefix_append_right_inj first |>.mpr inside)
    rw [List.append_assoc, List.append_assoc]
    exact whole
  · have climbed : 3 ≤ (run step (start registered) es).butStatCnts i + 1 := due
    have differs : (samples i != (run step (start registered) es).butStatChannels i) = true :=
      bne_iff_ne.mpr differs
    simp only [differing, List.map_append, List.map_cons, List.map_nil, differs,
      List.count_append]
    simp only [List.count_singleton_self, List.count_singleton, beq_iff_eq, Bool.true_eq_false,
      if_false]
    rw [surplus]
    omega

/-- The first change of all is not. -/
theorem Changes.not_earned (changes : Changes (start registered) i es samples)
    (none : firstSet registered es = none) : ¬ Earned (start registered) i es samples := by
  rintro ⟨before, window, rfl, -, surplus⟩
  have heard := changes.heard
  rw [run_start_of_none none] at surplus
  have agree : (differing i .reset window).count true = 0 := by
    rw [List.count_eq_zero]
    intro member
    obtain ⟨pins, inside, differs⟩ := List.mem_map.mp member
    have low := low_of_firstSet_none none heard pins (List.mem_append_right before inside)
    simp [low] at differs
  have few : (differing i .reset (window ++ [samples])).count true ≤ 1 := by
    rw [differing, List.map_append, List.count_append]
    rw [differing] at agree
    rw [agree, List.map_singleton, List.count_singleton]
    split <;> simp
  have surplus : (differing i .reset (window ++ [samples])).count false + 3 ≤
      (differing i .reset (window ++ [samples])).count true := surplus
  omega

end

/-- `get_button_state` after every tick. -/
def outputs (d : Debouncer) (i : Fin 16) : List Samples → List PinState
  | [] => []
  | samples :: es => (d.step samples).butStatChannels i :: (d.step samples).outputs i es

/-- The outputs of a channel that changes at its first sample that is set, or only at the default
threshold. -/
def ownOutputs (early : Bool) (c : ButtonChannel) : List PinState → List PinState
  | [] => []
  | pin :: pins =>
      let c := if early && pin == .set then ⟨.set, 0⟩ else c.sample 3 pin
      c.state :: ownOutputs (early && pin == .reset) c pins

variable {d : Debouncer} {registered registered' : Fin 16 → Bool} {es es' : List Samples}
  {i : Fin 16}

theorem outputs_of_not (unregistered : d.registered i = false) (es : List Samples) :
    d.outputs i es = es.map fun _ => d.butStatChannels i := by
  induction es generalizing d with
  | nil => rfl
  | cons samples es ih =>
      have kept : (d.step samples).butStatChannels i = d.butStatChannels i :=
        congrArg ButtonChannel.state (channel_step_of_not unregistered)
      have later : (d.step samples).registered i = false := by
        rw [step_registered]
        exact unregistered
      rw [outputs, List.map_cons, ih later, kept]

theorem outputs_armed (armed : d.updateTime = 3) (heard : d.registered i = true)
    (es : List Samples) :
    d.outputs i es = ownOutputs false (d.channel i) (es.map (· i)) := by
  induction es generalizing d with
  | nil => rfl
  | cons samples es ih =>
      have sampled : (d.step samples).channel i = (d.channel i).sample 3 (samples i) :=
        channel_step_armed armed heard
      have later : (d.step samples).registered i = true := by
        rw [step_registered]
        exact heard
      rw [outputs, ih (step_armed armed) later, sampled]
      exact congrArg (· :: _) (congrArg ButtonChannel.state sampled)

/-- The other channels decide with one bit only: whether this one reads `GPIO_PIN_SET` first. -/
theorem outputs_start (heard : registered i = true) (es : List Samples) :
    (start registered).outputs i es =
      ownOutputs (firstSet registered es == some i) {} (es.map (· i)) := by
  induction es with
  | nil => rfl
  | cons samples es ih =>
      rw [outputs, firstSet_cons, List.map_cons]
      cases first : firstReading registered samples with
      | none =>
          have low : samples i = .reset := by
            cases pin : samples i with
            | reset => rfl
            | set => exact absurd first (firstReading_isSome heard pin)
          rw [step_start_of_none first, ih, Option.none_or, low]
          cases firstSet registered es == some i <;> rfl
      | some j =>
          obtain ⟨armed, own, others⟩ := step_start_of_some first
          have later : ((start registered).step samples).registered i = true := by
            rw [step_registered]
            exact heard
          rw [outputs_armed armed later, Option.some_or]
          by_cases same : i = j
          · subst same
            have state : ((start registered).step samples).butStatChannels i = .set :=
              congrArg ButtonChannel.state own
            rw [state, own, (firstReading_eq_some first).2, beq_self_eq_true]
            rfl
          · have sampled := others i same heard
            have state := congrArg ButtonChannel.state sampled
            have late : (some j == some i) = false := by
              simpa using fun eq : j = i => same eq.symm
            rw [late, sampled]
            exact congrArg (· :: _) state

/-- The bit shows as soon as the channel reads `GPIO_PIN_SET`. -/
theorem ownOutputs_ne {pins : List PinState} (high : .set ∈ pins) :
    ownOutputs true {} pins ≠ ownOutputs false {} pins := by
  induction pins with
  | nil => cases high
  | cons pin pins ih =>
      cases pin with
      | set => exact fun same => absurd (List.cons.inj same).1 (by decide)
      | reset =>
          have later : .set ∈ pins := by simpa using high
          exact fun same => ih later (List.cons.inj same).2

/-- Where the bit can be set, the outputs tell which it is. -/
theorem ownOutputs_eq_iff {early early' : Bool} {pins : List PinState}
    (reads : early = true ∨ early' = true → .set ∈ pins) :
    ownOutputs early {} pins = ownOutputs early' {} pins ↔ early = early' := by
  constructor
  · intro alike
    cases early with
    | false =>
        cases early' with
        | false => rfl
        | true => exact absurd alike.symm (ownOutputs_ne (reads (.inr rfl)))
    | true =>
        cases early' with
        | false => exact absurd alike (ownOutputs_ne (reads (.inl rfl)))
        | true => rfl
  · intro same
    rw [same]

theorem mem_of_firstSet (first : firstSet registered es = some i) :
    registered i = true ∧ .set ∈ es.map (· i) := by
  obtain ⟨samples, member, reads⟩ := List.exists_of_findSome?_eq_some first
  obtain ⟨heard, high⟩ := firstReading_eq_some reads
  exact ⟨heard, List.mem_map.mpr ⟨samples, member, high⟩⟩

theorem outputs_eq_iff (same : registered i = registered' i)
    (pins : es.map (· i) = es'.map (· i)) :
    (start registered).outputs i es = (start registered').outputs i es' ↔
      (firstSet registered es = some i ↔ firstSet registered' es' = some i) := by
  cases heard : registered i with
  | false =>
      have deaf : registered' i = false := same.symm.trans heard
      have length : es.length = es'.length := by simpa using congrArg List.length pins
      rw [outputs_of_not (d := start registered) heard,
        outputs_of_not (d := start registered') deaf, List.map_const', List.map_const', length]
      refine iff_of_true rfl (iff_of_false ?_ ?_)
      · intro first
        exact absurd (mem_of_firstSet first).1 (by simp [heard])
      · intro first
        exact absurd (mem_of_firstSet first).1 (by simp [deaf])
  | true =>
      have heard' : registered' i = true := same.symm.trans heard
      rw [outputs_start heard, outputs_start heard', ← pins, ownOutputs_eq_iff, Bool.eq_iff_iff,
        beq_iff_eq, beq_iff_eq]
      rintro (first | first)
      · exact (mem_of_firstSet (beq_iff_eq.mp first)).2
      · rw [pins]
        exact (mem_of_firstSet (beq_iff_eq.mp first)).2

/-- The first reading of `GPIO_PIN_SET` is a change. -/
theorem exists_first_change {j : Fin 16} (first : firstSet registered es = some j) :
    ∃ before samples behind, es = before ++ samples :: behind ∧
      firstSet registered before = none ∧ (start registered).Changes j before samples := by
  obtain ⟨before, samples, behind, split, reads, silent⟩ := List.findSome?_eq_some_iff.mp first
  have none : firstSet registered before = none := List.findSome?_eq_none_iff.mpr silent
  refine ⟨before, samples, behind, split, none, ?_⟩
  have own : ((start registered).step samples).butStatChannels j = .set :=
    congrArg ButtonChannel.state (step_start_of_some reads).2.1
  rw [Changes, run_concat, run_start_of_none none, own]
  exact PinState.noConfusion

/-- Nothing changes in a run without one. -/
theorem not_changes_of_none {before behind : List Samples} {samples : Samples}
    (none : firstSet registered (before ++ samples :: behind) = none) :
    ¬ (start registered).Changes i before samples := by
  have silent := List.findSome?_eq_none_iff.mp none
  have none : firstSet registered before = Option.none :=
    List.findSome?_eq_none_iff.mpr fun e member => silent e (List.mem_append_left _ member)
  have last : firstReading registered samples = Option.none :=
    silent samples (List.mem_append_right _ (.head _))
  rw [Changes, run_concat, run_start_of_none none, step_start_of_none last]
  exact fun differs => differs rfl

/-- Of all changes only the first one of a run is not earned: a change is exactly if a channel has
read `GPIO_PIN_SET` before. So all changes are only if none ever does. Two runs with the same
samples of a channel have the same outputs exactly if it is in both or in neither of them the first
that reads `GPIO_PIN_SET`. -/
theorem debounced_iff (registered : Fin 16 → Bool) (es : List Samples) :
    (∀ (i : Fin 16) (samples : Samples), (start registered).Changes i es samples →
      ((start registered).Earned i es samples ↔ firstSet registered es ≠ none)) ∧
    ((∀ i before samples behind, es = before ++ samples :: behind →
      (start registered).Changes i before samples →
        (start registered).Earned i before samples) ↔ firstSet registered es = none) ∧
    ∀ (i : Fin 16) (registered' : Fin 16 → Bool) (es' : List Samples),
      registered i = registered' i → es.map (· i) = es'.map (· i) →
        ((start registered).outputs i es = (start registered').outputs i es' ↔
          (firstSet registered es = some i ↔ firstSet registered' es' = some i)) := by
  refine ⟨?_, ?_, fun i _ _ same pins => outputs_eq_iff same pins⟩
  · intro i samples changes
    constructor
    · exact fun earned none => changes.not_earned none earned
    · exact fun some => changes.earned (run_armed_of_some some)
  · constructor
    · intro earned
      cases first : firstSet registered es with
      | none => rfl
      | some j =>
          obtain ⟨before, samples, behind, split, none, changes⟩ := exists_first_change first
          exact absurd (earned j before samples behind split changes) (changes.not_earned none)
    · intro none i before samples behind split changes
      subst split
      exact absurd changes (not_changes_of_none none)

/-- These channels read `GPIO_PIN_SET`, the others do not. -/
def reads (high : List (Fin 16)) : Samples := fun i => if i ∈ high then .set else .reset

/-- Channel 0 is the first in both runs. -/
theorem debounced_first :
    (start fun _ => true).outputs 0 [reads [0], reads [5]] =
      (start fun i => decide (i = 0)).outputs 0 [reads [0, 3], reads []] :=
  ((debounced_iff (fun _ => true) [reads [0], reads [5]]).2.2 0 (fun i => decide (i = 0))
    [reads [0, 3], reads []] (by decide) (by decide)).mpr (by decide)

/-- One sample changes channel 1, and it does not if channel 0 reads `GPIO_PIN_SET` as well. -/
theorem glitch_changes_output :
    (start fun _ => true).Changes 1 [] (reads [1]) ∧
      ¬ (start fun _ => true).Earned 1 [] (reads [1]) ∧
      [reads [1]].map (· 1) = [reads [0, 1]].map (· 1) ∧
      (start fun _ => true).outputs 1 [reads [1]] ≠
        (start fun _ => true).outputs 1 [reads [0, 1]] := by
  have changes : (start fun _ => true).Changes 1 [] (reads [1]) := by decide
  exact ⟨changes, changes.not_earned (by decide), by decide, by decide⟩

end Debouncer

end Cnc
