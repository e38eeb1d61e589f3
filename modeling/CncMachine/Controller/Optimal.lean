import CncMachine.Controller.Lookahead

/-!
# The planner's speeds are the greatest possible ones

The planner recalculates only a part of its buffer, beginning at `block_buffer_planned`. In every
run its entry speeds are nevertheless the greatest with which the machine, from its present speed,
keeps to the greatest entry speeds and to the accelerations and can come to rest at the end of the
last block; they are what recalculating the whole buffer gives.

A feed override changes the limits of blocks that are already planned, and the reverse pass leaves
a block alone that is planned to be entered at its limit. If an override leaves such a limit as it
is and lowers those behind it, braking from this speed can have become impossible
(`loweredLimit`). `SafeToKeep` excludes this.
-/

namespace Cnc

open Transition SpeedProfile

variable {K : Type} [Field K]

namespace SpeedBlock

/-- The block as a leg of the path. -/
def leg (b : SpeedBlock K) : Leg K := ⟨b.maxEntrySpeedSqr, b.gain⟩

/-- The block without its entry speed. -/
def still (b : SpeedBlock K) : SpeedBlock K := { b with entrySpeedSqr := 0 }

/-- The block of a move as the machine can make it. -/
structure Sound [LinearOrder K] (b : SpeedBlock K) : Prop where
  acceleration : 0 ≤ b.acceleration
  millimeters : 0 ≤ b.millimeters
  junction : 0 ≤ b.maxJunctionSpeedSqr
  limit : 0 ≤ b.maxEntrySpeedSqr

/-- The block after its record has been brought up to date. -/
def during (b : SpeedBlock K) : Underway K → SpeedBlock K
  | none => b
  | some (speedSqr, millimeters) =>
      { b with entrySpeedSqr := speedSqr, millimeters := millimeters }

end SpeedBlock

namespace Lookahead

def legs (blocks : List (SpeedBlock K)) : List (Leg K) := blocks.map SpeedBlock.leg

def speeds (blocks : List (SpeedBlock K)) : List K := blocks.map SpeedBlock.entrySpeedSqr

theorem legs_append (bs bs' : List (SpeedBlock K)) : legs (bs ++ bs') = legs bs ++ legs bs' :=
  List.map_append

/-- The same blocks, perhaps with other entry speeds. -/
def Same (blocks blocks' : List (SpeedBlock K)) : Prop :=
  blocks.map SpeedBlock.still = blocks'.map SpeedBlock.still

variable {b current : SpeedBlock K} {bs rest : List (SpeedBlock K)} {s : Lookahead K}

theorem Same.legs {bs' : List (SpeedBlock K)} (same : Same bs bs') : legs bs = legs bs' := by
  have of_still (blocks : List (SpeedBlock K)) :
      Lookahead.legs blocks = Lookahead.legs (blocks.map SpeedBlock.still) := by
    simp only [Lookahead.legs, List.map_map]
    rfl
  rw [of_still bs, same, ← of_still bs']

variable [LinearOrder K]

theorem same_reversePass (bs : List (SpeedBlock K)) : Same (reversePass bs) bs := by
  induction bs with
  | nil => rfl
  | cons b bs ih =>
      cases bs with
      | nil => rfl
      | cons next rest =>
          unfold reversePass
          split
          · next none =>
              rw [none] at ih
              cases ih
          · next next' rest' some =>
              rw [some] at ih
              simp only [Same, List.map_cons] at ih ⊢
              split
              · rw [List.map_cons, List.map_cons, ih]
                rfl
              · rw [List.map_cons, List.map_cons, ih]

/-- Where the reverse pass leaves a speed as it is, braking from it is possible. -/
def SafeToKeep : List (SpeedBlock K) → Prop
  | current :: next :: rest =>
      (current.entrySpeedSqr = current.maxEntrySpeedSqr →
        current.maxEntrySpeedSqr ≤ brake (legs (next :: rest)) + current.gain) ∧
      SafeToKeep (next :: rest)
  | _ => True

instance decidableSafeToKeep : ∀ bs : List (SpeedBlock K), Decidable (SafeToKeep bs)
  | [] => isTrue trivial
  | [_] => isTrue trivial
  | _ :: next :: rest => @instDecidableAnd _ _ _ (decidableSafeToKeep (next :: rest))

theorem SafeToKeep.drop (safe : SafeToKeep bs) (n : Nat) : SafeToKeep (bs.drop n) := by
  induction n generalizing bs with
  | zero => exact safe
  | succ n ih =>
      match bs, safe with
      | [], _ => exact trivial
      | [_], _ =>
          show SafeToKeep (([] : List (SpeedBlock K)).drop n)
          exact ih trivial
      | _ :: _ :: _, safe => exact ih safe.2

theorem safeToKeep_of_le (slow : List.Forall₂ (· ≤ ·) (speeds bs) (brakes (legs bs))) :
    SafeToKeep bs := by
  induction bs with
  | nil => trivial
  | cons b bs ih =>
      cases bs with
      | nil => trivial
      | cons next rest =>
          obtain ⟨first, slow⟩ := List.forall₂_cons.mp slow
          refine ⟨fun full => ?_, ih slow⟩
          rw [← full]
          exact first.trans brake_le_gain

theorem speeds_reversePass (safe : SafeToKeep bs) :
    speeds (reversePass bs) = brakes (legs bs) := by
  induction bs with
  | nil => rfl
  | cons b bs ih =>
      cases bs with
      | nil => simp [speeds, reversePass, brakes, brake, legs, SpeedBlock.leg, SpeedBlock.gain]
      | cons next rest =>
          have ih := ih safe.2
          unfold reversePass
          split
          · next none =>
              rw [none] at ih
              cases ih
          · next next' rest' some =>
              rw [some] at ih
              have entry : next'.entrySpeedSqr = brake (legs (next :: rest)) :=
                (List.cons.inj ih).1
              split
              · refine congrArg₂ List.cons ?_ ih
                show (if next'.entrySpeedSqr + b.gain < b.maxEntrySpeedSqr then _ else _) =
                  min b.maxEntrySpeedSqr (brake (legs (next :: rest)) + b.gain)
                rw [entry]
                split
                · next less => exact (min_eq_right less.le).symm
                · next greater => exact (min_eq_left (not_lt.mp greater)).symm
              · next full =>
                  have full := not_ne_iff.mp full
                  exact congrArg₂ List.cons (full.trans (min_eq_left (safe.1 full)).symm) ih

/-- A pointer that the forward pass moves to a block that cannot be entered faster. -/
def Moved (current : SpeedBlock K) (legs : List (Leg K)) (block : Nat) : Prop :=
  ∃ before leg after, legs = before ++ leg :: after ∧ block = before.length ∧
    (lastSpeed current.entrySpeedSqr
        (front current.entrySpeedSqr current.gain (before ++ [leg]) after) < brake (leg :: after) ∨
      lastSpeed current.entrySpeedSqr
        (front current.entrySpeedSqr current.gain (before ++ [leg]) after) = leg.limit)

/-- The block behind the present one, as the forward pass leaves it. -/
def advanced (current next : SpeedBlock K) : SpeedBlock K :=
  if current.entrySpeedSqr < next.entrySpeedSqr ∧
      current.entrySpeedSqr + current.gain < next.entrySpeedSqr
  then { next with entrySpeedSqr := current.entrySpeedSqr + current.gain }
  else next

theorem forwardPass_cons (current next : SpeedBlock K) (block planned : Nat)
    (rest : List (SpeedBlock K)) :
    forwardPass current block planned (next :: rest) =
      let moved := if (advanced current next).entrySpeedSqr < next.entrySpeedSqr ∨
        (advanced current next).entrySpeedSqr = next.maxEntrySpeedSqr then block else planned
      (advanced current next :: (forwardPass (advanced current next) (block + 1) moved rest).1,
        (forwardPass (advanced current next) (block + 1) moved rest).2) := by
  rw [forwardPass, advanced, SpeedBlock.gain]
  dsimp only
  by_cases full : current.entrySpeedSqr < next.entrySpeedSqr ∧
      current.entrySpeedSqr + 2 * current.acceleration * current.millimeters < next.entrySpeedSqr
  · simp only [full, and_self, if_true, true_or]
  · simp only [full, if_false, false_or, lt_irrefl]

/-- After the reverse pass, the forward pass leaves the speeds of the profile. -/
theorem forwardPass_spec [IsStrictOrderedRing K] (gain : ∀ c ∈ current :: rest, 0 ≤ c.gain)
    (block planned : Nat) (reversed : speeds rest = brakes (legs rest)) :
    Same (forwardPass current block planned rest).1 rest ∧
      speeds (forwardPass current block planned rest).1 =
        profile current.entrySpeedSqr current.gain (legs rest) ∧
      ((forwardPass current block planned rest).2 = planned ∨
        ∃ n, (forwardPass current block planned rest).2 = block + n ∧
          Moved current (legs rest) n) := by
  induction rest generalizing current block planned with
  | nil => exact ⟨rfl, rfl, .inl rfl⟩
  | cons next rest ih =>
      obtain ⟨first, reversed⟩ := List.cons.inj reversed
      change next.entrySpeedSqr = brake (next.leg :: legs rest) at first
      change speeds rest = brakes (legs rest) at reversed
      obtain ⟨gain, next_gain, rest_gain⟩ : 0 ≤ current.gain ∧ 0 ≤ next.gain ∧ _ := by
        simpa only [List.forall_mem_cons] using gain
      have still : (advanced current next).still = next.still := by
        unfold advanced
        split <;> rfl
      have leg : (advanced current next).leg = next.leg := by
        unfold advanced
        split <;> rfl
      have speed : (advanced current next).entrySpeedSqr =
          min (brake (next.leg :: legs rest)) (current.entrySpeedSqr + current.gain) := by
        rw [← first]
        unfold advanced
        split
        · next full => exact (min_eq_right full.2.le).symm
        · next full =>
            refine (min_eq_left (not_lt.mp fun less => full ⟨?_, less⟩)).symm
            linarith
      have next_gain' : 0 ≤ (advanced current next).gain :=
        (congrArg Leg.gain leg).ge.trans' next_gain
      have gains : ∀ c ∈ advanced current next :: rest, 0 ≤ c.gain :=
        List.forall_mem_cons.mpr ⟨next_gain', rest_gain⟩
      obtain ⟨same, speeds, pointer⟩ := ih gains (block + 1)
        (if (advanced current next).entrySpeedSqr < next.entrySpeedSqr ∨
          (advanced current next).entrySpeedSqr = next.maxEntrySpeedSqr then block else planned)
        reversed
      rw [forwardPass_cons]
      have next_gain_eq : (advanced current next).gain = next.leg.gain := congrArg Leg.gain leg
      refine ⟨congrArg₂ List.cons still same, ?_, ?_⟩
      · rw [next_gain_eq] at speeds
        show _ :: _ = profile current.entrySpeedSqr current.gain (next.leg :: legs rest)
        rw [profile, ← speed]
        exact congrArg _ speeds
      · obtain stays | ⟨n, moves, before, l, after, split, place, free⟩ := pointer
        · dsimp only
          rw [stays]
          split
          · next moved =>
              refine .inr ⟨0, rfl, [], next.leg, legs rest, rfl, rfl, ?_⟩
              rw [lastSpeed_front_snoc, front_nil]
              show min _ (current.entrySpeedSqr + current.gain) < _ ∨
                min _ (current.entrySpeedSqr + current.gain) = _
              rw [← speed, ← first]
              exact moved
          · exact .inl rfl
        · refine .inr ⟨n + 1, by dsimp only; omega, next.leg :: before, l, after,
            congrArg _ split, congrArg _ place, ?_⟩
          have whole : before ++ [l] ++ after = legs rest := by
            rw [split, List.append_assoc]
            rfl
          rw [List.cons_append, front_cons, whole, ← speed, ← next_gain_eq]
          exact free

section

variable [IsStrictOrderedRing K]

/-- The blocks behind the first one have the speeds of the profile, and no block that is added can
change those up to the planned pointer. -/
structure Plans (first : SpeedBlock K) (rest : List (SpeedBlock K)) (planned : Nat) : Prop where
  start : 0 ≤ first.entrySpeedSqr
  slow : first.entrySpeedSqr ≤ brake (legs rest) + first.gain
  speeds : speeds rest = profile first.entrySpeedSqr first.gain (legs rest)
  within : planned ≤ rest.length
  settled : Settled first.entrySpeedSqr first.gain ((legs rest).take planned)
    ((legs rest).drop planned)

/-- What has to hold before the blocks behind the planned pointer are recalculated. -/
structure Ready (first : SpeedBlock K) (rest : List (SpeedBlock K)) (planned : Nat) : Prop where
  start : 0 ≤ first.entrySpeedSqr
  slow : first.entrySpeedSqr ≤ brake (legs rest) + first.gain
  within : planned ≤ rest.length
  front : speeds (rest.take planned) = front first.entrySpeedSqr first.gain
    ((legs rest).take planned) ((legs rest).drop planned)
  settled : Settled first.entrySpeedSqr first.gain ((legs rest).take planned)
    ((legs rest).drop planned)
  safe : SafeToKeep rest

omit [LinearOrder K] [IsStrictOrderedRing K] in
/-- The planned block and what is before it. -/
theorem planned_block (first : SpeedBlock K) {rest : List (SpeedBlock K)} {planned : Nat}
    (within : planned ≤ rest.length) : ∃ current,
      (first :: rest).drop planned = current :: rest.drop planned ∧
      (∀ more, (first :: rest).take planned ++ current :: more =
        first :: (rest.take planned ++ more)) ∧
      current.entrySpeedSqr = lastSpeed first.entrySpeedSqr (speeds (rest.take planned)) ∧
      current.gain = lastGain first.gain ((legs rest).take planned) := by
  induction planned generalizing first rest with
  | zero => exact ⟨first, rfl, fun _ => rfl, rfl, rfl⟩
  | succ planned ih =>
      cases rest with
      | nil => cases within
      | cons next rest =>
          obtain ⟨current, drop, take, speed, gain⟩ := ih next (Nat.le_of_succ_le_succ within)
          exact ⟨current, drop, fun more => congrArg (first :: ·) (take more), speed, gain⟩

omit [IsStrictOrderedRing K] in
theorem front_all (v g : K) (legs : List (Leg K)) : front v g legs [] = profile v g legs := by
  rw [front, List.append_nil, ← length_profile v g legs, List.take_length]

omit [IsStrictOrderedRing K] in
theorem Same.gain {bs' : List (SpeedBlock K)} (same : Same bs bs')
    (gains : ∀ c ∈ bs', 0 ≤ c.gain) : ∀ c ∈ bs, 0 ≤ c.gain := by
  intro c member
  have among : c.leg ∈ Lookahead.legs bs' := by
    rw [← same.legs]
    exact List.mem_map_of_mem member
  obtain ⟨c', member', leg⟩ := List.mem_map.mp among
  have gain : c'.gain = c.gain := congrArg Leg.gain leg
  rw [← gain]
  exact gains c' member'

/-- The pointer is moved to settled blocks only. -/
theorem settled_of_moved {v g : K} {before : List (Leg K)} {n : Nat}
    {legs : List (Leg K)} (gain : 0 ≤ g) (valid : Valid (before ++ legs))
    {current : SpeedBlock K}
    (entry : current.entrySpeedSqr = lastSpeed v (front v g before legs))
    (currentGain : current.gain = lastGain g before) (moved : Moved current legs n) :
    n < legs.length ∧ Settled v g ((before ++ legs).take (before.length + 1 + n))
      ((before ++ legs).drop (before.length + 1 + n)) := by
  obtain ⟨middle, leg, after, rfl, rfl, free⟩ := moved
  have place : before.length + 1 + middle.length = (before ++ (middle ++ [leg])).length := by
    simp only [List.length_append, List.length_singleton]
    omega
  have split : before ++ (middle ++ leg :: after) = before ++ (middle ++ [leg]) ++ after := by
    simp only [List.append_assoc, List.singleton_append]
  have whole : middle ++ [leg] ++ after = middle ++ leg :: after := by
    rw [List.append_assoc]
    rfl
  have speed : lastSpeed v (front v g (before ++ (middle ++ [leg])) after) =
      lastSpeed current.entrySpeedSqr
        (front current.entrySpeedSqr current.gain (middle ++ [leg]) after) := by
    rw [front_append, lastSpeed_append, whole, ← entry, ← currentGain]
  refine ⟨by simp, ?_⟩
  rw [place, split, List.take_left, List.drop_left, ← List.append_assoc]
  rw [← speed, ← List.append_assoc] at free
  obtain less | limit := free
  · refine settled_of_less gain ?_ less
    rw [← List.append_assoc] at valid
    exact (valid_append.mp valid).1
  · exact settled_of_limit limit

/-- The planned pointer after the forward pass. -/
theorem Ready.pointer {first : SpeedBlock K} {n planned : Nat} (ready : Ready first rest n)
    (gain : 0 ≤ first.gain) (valid : Valid (legs rest))
    (entry : current.entrySpeedSqr = lastSpeed first.entrySpeedSqr (SpeedProfile.front
      first.entrySpeedSqr first.gain ((legs rest).take n) ((legs rest).drop n)))
    (currentGain : current.gain = lastGain first.gain ((legs rest).take n))
    (pointer : planned = n ∨ ∃ m, planned = n + 1 + m ∧ Moved current ((legs rest).drop n) m) :
    planned ≤ (legs rest).length ∧ Settled first.entrySpeedSqr first.gain
      ((legs rest).take planned) ((legs rest).drop planned) := by
  have within : n ≤ (legs rest).length := by
    rw [legs, List.length_map]
    exact ready.within
  obtain rfl | ⟨m, rfl, moved⟩ := pointer
  · exact ⟨within, ready.settled⟩
  · have taken : ((legs rest).take n).length = n := List.length_take_of_le within
    obtain ⟨less, settled⟩ := settled_of_moved gain
      (by rw [List.take_append_drop]; exact valid) entry currentGain moved
    rw [List.take_append_drop, taken] at settled
    rw [List.length_drop] at less
    exact ⟨by omega, settled⟩

theorem recalculate_spec {first : SpeedBlock K} (gains : ∀ c ∈ first :: rest, 0 ≤ c.gain)
    (valid : Valid (legs rest)) (blocks : s.blocks = first :: rest)
    (ready : Ready first rest s.planned) :
    ∃ rest', (s.recalculate none).blocks = first :: rest' ∧ Same rest' rest ∧
      Plans first rest' (s.recalculate none).planned := by
  have none_eq (s : Lookahead K) : s.updatePlanBlockParameters none = s := rfl
  unfold recalculate
  split
  · obtain ⟨current, drop, take, entry, currentGain⟩ := planned_block first ready.within
    rw [none_eq, ite_self]
    dsimp only
    rw [blocks, drop]
    dsimp only
    rw [take]
    have legs_drop : legs (rest.drop s.planned) = (legs rest).drop s.planned := List.map_drop
    have legs_take : legs (rest.take s.planned) = (legs rest).take s.planned := List.map_take
    have same := same_reversePass (rest.drop s.planned)
    have reversed := speeds_reversePass (ready.safe.drop s.planned)
    rw [← same.legs] at reversed
    have dropped : ∀ c ∈ current :: rest.drop s.planned, 0 ≤ c.gain := by
      rw [← drop]
      exact fun c member => gains c (List.mem_of_mem_drop member)
    obtain ⟨current_gain, rest_gains⟩ := List.forall_mem_cons.mp dropped
    obtain ⟨forward, driven, pointer⟩ := forwardPass_spec
      (List.forall_mem_cons.mpr ⟨current_gain, same.gain rest_gains⟩) (s.planned + 1) s.planned
      reversed
    have forward := forward.trans same
    rw [same.legs, legs_drop] at driven pointer
    rw [ready.front] at entry
    generalize forwardPass current (s.planned + 1) s.planned (reversePass (rest.drop s.planned)) =
      passed at forward driven pointer ⊢
    obtain ⟨behind, planned⟩ := passed
    dsimp only at forward driven pointer ⊢
    have same' : Same (rest.take s.planned ++ behind) rest := by
      conv_rhs => rw [← List.take_append_drop s.planned rest]
      rw [Same, List.map_append, List.map_append, forward]
    have length := congrArg List.length same'
    rw [List.length_map, List.length_map] at length
    obtain ⟨within, settled⟩ := ready.pointer (gains first (.head _)) valid entry currentGain pointer
    refine ⟨_, rfl, same', ready.start, ?_, ?_, ?_, ?_⟩
    · rw [same'.legs]
      exact ready.slow
    · rw [same'.legs, speeds, List.map_append]
      change speeds _ ++ speeds _ = _
      rw [driven, ready.front, entry, currentGain, ← profile_append, List.take_append_drop]
    · rw [length, ← List.length_map SpeedBlock.leg]
      exact within
    · rw [same'.legs]
      exact settled
  · next last =>
      have whole : s.planned = rest.length := by
        have := ready.within
        rw [blocks, List.length_cons] at last
        omega
      have all : s.planned = (legs rest).length := by rw [whole, legs, List.length_map]
      refine ⟨rest, blocks, rfl, ready.start, ready.slow, ?_, ready.within, ready.settled⟩
      have front := ready.front
      rw [whole, List.take_length, ← whole, all, List.take_length, List.drop_length,
        front_all] at front
      exact front

end

variable {first : SpeedBlock K} {underway : Underway K}

/-- What remains of the first block can be braked to its exit speed. -/
def Brakes (s : Lookahead K) : Underway K → Prop
  | none => True
  | some (speedSqr, millimeters) =>
      0 ≤ speedSqr ∧ 0 ≤ millimeters ∧
        ∀ b ∈ s.blocks.head?,
          speedSqr ≤ s.exitSpeedSqr + { b with millimeters := millimeters }.gain

/-- What remains of the first block can be braked in time for the limits behind it. -/
def InTime (s : Lookahead K) : Underway K → Prop
  | none => ∀ b ∈ s.blocks.head?, b.entrySpeedSqr ≤ brake (legs s.blocks.tail) + b.gain
  | some (speedSqr, millimeters) =>
      0 ≤ speedSqr ∧ 0 ≤ millimeters ∧ ∀ b ∈ s.blocks.head?,
        speedSqr ≤ brake (legs s.blocks.tail) + { b with millimeters := millimeters }.gain

instance decidableBrakes (s : Lookahead K) : DecidablePred s.Brakes
  | none => isTrue trivial
  | some _ => inferInstanceAs (Decidable (_ ∧ _ ∧ ∀ b ∈ s.blocks.head?, _))

instance decidableInTime (s : Lookahead K) : DecidablePred s.InTime
  | none => inferInstanceAs (Decidable (∀ b ∈ s.blocks.head?, _))
  | some _ => inferInstanceAs (Decidable (_ ∧ _ ∧ ∀ b ∈ s.blocks.head?, _))

/-- Between two events. -/
structure Planned (s : Lookahead K) : Prop where
  sound : ∀ b ∈ s.blocks, b.Sound
  empty : s.blocks = [] → s.planned = 0
  plans : ∀ first rest, s.blocks = first :: rest → Plans first rest s.planned

omit [Field K] [LinearOrder K] in
theorem updatePlanBlockParameters_cons (blocks : s.blocks = first :: rest) :
    s.updatePlanBlockParameters underway = { s with blocks := first.during underway :: rest } := by
  unfold updatePlanBlockParameters SpeedBlock.during
  rw [blocks]
  cases underway with
  | none => rw [← blocks]
  | some current => rfl

theorem recalculate_of_ne (behind : s.planned ≠ 0) :
    s.recalculate underway = s.recalculate none := by
  unfold recalculate
  rw [if_neg behind, if_neg behind]

theorem recalculate_of_start (start : s.planned = 0) (two : 1 < s.blocks.length) :
    s.recalculate underway = (s.updatePlanBlockParameters underway).recalculate none := by
  have none_eq (s : Lookahead K) : s.updatePlanBlockParameters none = s := rfl
  obtain ⟨b, bs, blocks⟩ := List.exists_cons_of_length_pos (Nat.zero_lt_of_lt two)
  have update : s.updatePlanBlockParameters underway = _ := updatePlanBlockParameters_cons blocks
  rw [blocks] at two
  unfold recalculate
  rw [none_eq, ite_self, update, blocks, start, if_pos rfl, if_pos two]
  exact (if_pos two).symm

variable [IsStrictOrderedRing K]

theorem gain_nonneg (sound : b.Sound) : 0 ≤ b.gain :=
  mul_nonneg (mul_nonneg zero_le_two sound.acceleration) sound.millimeters

theorem valid_legs (sound : ∀ b ∈ bs, b.Sound) : Valid (legs bs) :=
  List.forall_mem_map.mpr fun b member => ⟨(sound b member).limit, gain_nonneg (sound b member)⟩

omit [IsStrictOrderedRing K] in
theorem Same.sound {bs' : List (SpeedBlock K)} (same : Same bs bs')
    (sound : ∀ b ∈ bs', b.Sound) : ∀ b ∈ bs, b.Sound := by
  intro b member
  have among : b.still ∈ bs'.map SpeedBlock.still := by
    rw [← same]
    exact List.mem_map_of_mem member
  obtain ⟨b', member', still⟩ := List.mem_map.mp among
  have sound' : b'.still.Sound := by
    obtain ⟨acceleration, millimeters, junction, limit⟩ := sound b' member'
    exact ⟨acceleration, millimeters, junction, limit⟩
  rw [still] at sound'
  exact ⟨sound'.acceleration, sound'.millimeters, sound'.junction, sound'.limit⟩

theorem Ready.planned (sound : ∀ b ∈ first :: rest, b.Sound) (blocks : s.blocks = first :: rest)
    (ready : Ready first rest s.planned) : Planned (s.recalculate none) := by
  obtain ⟨first_sound, rest_sound⟩ := List.forall_mem_cons.mp sound
  obtain ⟨rest', blocks', same, plans⟩ := recalculate_spec
    (fun b member => gain_nonneg (sound b member)) (valid_legs rest_sound) blocks ready
  refine ⟨?_, fun none => ?_, fun first' rest'' eq => ?_⟩
  · rw [blocks']
    exact List.forall_mem_cons.mpr ⟨first_sound, same.sound rest_sound⟩
  · rw [blocks'] at none
    cases none
  · rw [blocks'] at eq
    obtain ⟨rfl, rfl⟩ := List.cons.inj eq
    exact plans

omit [IsStrictOrderedRing K] in
theorem ready_of_start (start : 0 ≤ first.entrySpeedSqr)
    (slow : first.entrySpeedSqr ≤ brake (legs rest) + first.gain)
    (safe : SafeToKeep rest) : Ready first rest 0 where
  start := start
  slow := slow
  within := Nat.zero_le _
  front := by simp [speeds]
  settled := by
    rw [List.take_zero, Settled, front_nil]
    rfl
  safe := safe

theorem Plans.feasible {n : Nat} (plans : Plans first rest n)
    (sound : ∀ b ∈ first :: rest, b.Sound) :
    Feasible first.entrySpeedSqr first.gain (legs rest) (Lookahead.speeds rest) := by
  obtain ⟨first_sound, rest_sound⟩ := List.forall_mem_cons.mp sound
  rw [plans.speeds]
  exact feasible_profile (valid_legs rest_sound) plans.start (gain_nonneg first_sound) plans.slow

omit [IsStrictOrderedRing K] in
theorem Plans.safe {n : Nat} (plans : Plans first rest n) : SafeToKeep rest := by
  refine safeToKeep_of_le ?_
  rw [plans.speeds]
  exact profile_le_brakes

omit [IsStrictOrderedRing K] in
/-- The first block, brought up to date, can be braked. -/
theorem start_during (blocks : s.blocks = first :: rest) (sound : first.Sound)
    (start : 0 ≤ first.entrySpeedSqr) (inTime : s.InTime underway) :
    (first.during underway).Sound ∧ 0 ≤ (first.during underway).entrySpeedSqr ∧
      (first.during underway).entrySpeedSqr ≤ brake (legs rest) + (first.during underway).gain := by
  cases underway with
  | none =>
      have slow := inTime first (by rw [blocks]; rfl)
      rw [blocks] at slow
      exact ⟨sound, start, slow⟩
  | some current =>
      obtain ⟨speed, length, slow⟩ := inTime
      have slow := slow first (by rw [blocks]; rfl)
      rw [blocks] at slow
      exact ⟨⟨sound.acceleration, length, sound.junction, sound.limit⟩, speed, slow⟩

/-- The planned exit speed is slow enough for the limits. -/
theorem Planned.inTime (planned : Planned s) (brakes : s.Brakes underway) :
    s.InTime underway := by
  have sound := planned.sound
  cases blocks : s.blocks with
  | nil =>
      unfold Brakes at brakes
      unfold InTime
      rw [blocks] at brakes ⊢
      cases underway with
      | none => exact fun b member => by cases member
      | some current => exact ⟨brakes.1, brakes.2.1, fun b member => by cases member⟩
  | cons first rest =>
      have plans := planned.plans first rest blocks
      rw [blocks] at sound
      have feasible := plans.feasible sound
      cases underway with
      | none =>
          intro b member
          rw [blocks] at member ⊢
          obtain rfl := Option.some.inj member
          exact plans.slow
      | some current =>
          obtain ⟨speed, length, slow⟩ := brakes
          refine ⟨speed, length, fun b member => (slow b member).trans (add_le_add_left ?_ _)⟩
          unfold exitSpeedSqr
          rw [blocks]
          cases rest with
          | nil => exact le_refl 0
          | cons next rest => exact feasible.le_brake

/-- Recalculating the whole buffer. -/
theorem planned_cycleReinitialize (sound : ∀ b ∈ s.blocks, b.Sound)
    (start : ∀ b ∈ s.blocks.head?, 0 ≤ b.entrySpeedSqr) (inTime : s.InTime underway)
    (safe : SafeToKeep s.blocks.tail) : Planned (s.cycleReinitialize underway) := by
  unfold cycleReinitialize
  cases blocks : s.blocks with
  | nil =>
      have same : s.updatePlanBlockParameters underway = s := by
        unfold updatePlanBlockParameters
        rw [blocks]
        cases underway <;> rfl
      have still : ({ s with planned := 0 } : Lookahead K).recalculate none =
          { s with planned := 0 } := by
        unfold recalculate
        rw [blocks]
        rfl
      rw [same, still]
      refine ⟨sound, fun _ => rfl, fun first rest eq => ?_⟩
      rw [blocks] at eq
      cases eq
  | cons first rest =>
      rw [blocks] at sound safe
      obtain ⟨first_sound, rest_sound⟩ := List.forall_mem_cons.mp sound
      obtain ⟨sound', start', slow⟩ :=
        start_during blocks first_sound (start first (by rw [blocks]; rfl)) inTime
      rw [updatePlanBlockParameters_cons blocks]
      exact (ready_of_start start' slow safe).planned
        (List.forall_mem_cons.mpr ⟨sound', rest_sound⟩) rfl

/-- A block as `plan_buffer_line` completes it. -/
def completed (s : Lookahead K) (block : SpeedBlock K) : SpeedBlock K :=
  let block := { block with
    entrySpeedSqr := 0
    maxJunctionSpeedSqr := if s.blocks.isEmpty then 0 else block.maxJunctionSpeedSqr }
  block.profileParameters (block.nominalSpeed s.overrides) s.previousNominalSpeed

theorem limit_profileParameters (junction : 0 ≤ b.maxJunctionSpeedSqr) (nominal prev : K) :
    0 ≤ (b.profileParameters nominal prev).maxEntrySpeedSqr := by
  unfold SpeedBlock.profileParameters
  dsimp only
  repeat' split
  · exact junction
  · exact mul_self_nonneg prev
  · exact junction
  · exact mul_self_nonneg nominal

theorem sound_completed {block : SpeedBlock K} (acceleration : 0 ≤ block.acceleration)
    (millimeters : 0 ≤ block.millimeters) (junction : 0 ≤ block.maxJunctionSpeedSqr) :
    (s.completed block).Sound := by
  have junction' : (0 : K) ≤ if s.blocks.isEmpty then 0 else block.maxJunctionSpeedSqr := by
    split
    · exact le_refl 0
    · exact junction
  exact ⟨acceleration, millimeters, junction', limit_profileParameters junction' _ _⟩

/-- The speeds up to the planned pointer are not changed by a block that is added. -/
theorem Plans.ready_snoc {n : Nat} (plans : Plans first rest n)
    (sound : ∀ c ∈ first :: (rest ++ [b]), c.Sound) (rests : b.entrySpeedSqr = 0) :
    Ready first (rest ++ [b]) n := by
  obtain ⟨first_sound, rest_sound⟩ := List.forall_mem_cons.mp sound
  have valid : Valid (legs (rest ++ [b])) := valid_legs rest_sound
  have legs_snoc : legs (rest ++ [b]) = legs rest ++ [b.leg] := legs_append rest [b]
  rw [legs_snoc] at valid
  obtain ⟨valid_rest, valid_last⟩ := valid_append.mp valid
  have within : n ≤ (legs rest).length := by
    rw [legs, List.length_map]
    exact plans.within
  have room := brake_le_append valid_last
  have take : (legs rest ++ [b.leg]).take n = (legs rest).take n :=
    List.take_append_of_le_length within
  have drop : (legs rest ++ [b.leg]).drop n = (legs rest).drop n ++ [b.leg] :=
    List.drop_append_of_le_length within
  have split : (legs rest).take n ++ (legs rest).drop n = legs rest := List.take_append_drop _ _
  constructor
  · exact plans.start
  · rw [legs_snoc]
    exact plans.slow.trans (add_le_add_left (room _) _)
  · rw [List.length_append]
    exact plans.within.trans (Nat.le_add_right _ _)
  · rw [legs_snoc, take, drop, plans.settled.front_eq (room _) (by rwa [split])
      (by rwa [← List.append_assoc, split]) plans.start (gain_nonneg first_sound)
      (by rw [split]; exact plans.slow)]
    rw [front, split, ← plans.speeds, List.length_take_of_le within,
      List.take_append_of_le_length plans.within, Lookahead.speeds, Lookahead.speeds,
      List.map_take]
  · rw [legs_snoc, take, drop]
    exact plans.settled.more (room _)
  · refine safeToKeep_of_le ?_
    rw [legs_snoc, Lookahead.speeds, List.map_append]
    refine forall₂_brakes_append valid_last ?_ (.cons ?_ .nil)
    · change List.Forall₂ _ (Lookahead.speeds rest) _
      rw [plans.speeds]
      exact profile_le_brakes
    · rw [rests]
      exact brake_nonneg valid_last

theorem Planned.snoc {nominal : K} (planned : Planned s) (sound : b.Sound)
    (rests : b.entrySpeedSqr = 0) (brakes : s.Brakes underway) :
    Planned (({ s with
      blocks := s.blocks ++ [b]
      previousNominalSpeed := nominal } : Lookahead K).recalculate underway) := by
  have all_sound : ∀ c ∈ s.blocks ++ [b], c.Sound :=
    List.forall_mem_append.mpr ⟨planned.sound, List.forall_mem_singleton.mpr sound⟩
  cases blocks : s.blocks with
  | nil =>
      rw [blocks] at all_sound
      have start := planned.empty blocks
      have same (t : Lookahead K) (one : t.blocks.length = 1) : t.recalculate underway = t := by
        unfold recalculate
        rw [one, if_neg (by omega)]
      rw [same _ rfl]
      refine ⟨all_sound, fun none => ?_, fun first rest eq => ?_⟩
      · cases none
      · obtain ⟨rfl, rfl⟩ := List.cons.inj eq
        refine ⟨rests.ge, ?_, rfl, start.le, ?_⟩
        · rw [rests, legs, List.map_nil, brake, zero_add]
          exact gain_nonneg sound
        · rw [Settled]
          simp [legs, lastSpeed, top]
  | cons first rest =>
      rw [blocks, List.cons_append] at all_sound
      obtain ⟨first_sound, rest_sound⟩ := List.forall_mem_cons.mp all_sound
      have plans := planned.plans first rest blocks
      have ready := plans.ready_snoc all_sound rests
      suffices replanned : ∀ t : Lookahead K, t.blocks = first :: (rest ++ [b]) →
          t.planned = s.planned → Planned (t.recalculate underway) from replanned _ rfl rfl
      intro t blocks' planned'
      rw [← planned'] at ready
      by_cases start : t.planned = 0
      · obtain ⟨sound', start', slow⟩ :=
          start_during blocks first_sound plans.start (planned.inTime brakes)
        have valid := valid_legs rest_sound
        rw [legs_append] at valid
        have room := brake_le_append (valid_append.mp valid).2 (legs rest)
        rw [recalculate_of_start start (by simp [blocks']), updatePlanBlockParameters_cons blocks']
        refine Ready.planned (List.forall_mem_cons.mpr ⟨sound', rest_sound⟩) rfl ?_
        show Ready _ _ t.planned
        rw [start]
        refine ready_of_start start' (slow.trans (add_le_add_left ?_ _)) ready.safe
        rwa [legs_append]
      · rw [recalculate_of_ne start]
        exact ready.planned all_sound blocks'

theorem Planned.bufferLine {block : SpeedBlock K} (planned : Planned s)
    (acceleration : 0 ≤ block.acceleration) (millimeters : 0 ≤ block.millimeters)
    (junction : 0 ≤ block.maxJunctionSpeedSqr) (brakes : s.Brakes underway) :
    Planned (s.bufferLine block underway) :=
  planned.snoc (sound_completed acceleration millimeters junction) rfl brakes

theorem Planned.discardCurrentBlock (planned : Planned s) : Planned s.discardCurrentBlock := by
  unfold Lookahead.discardCurrentBlock
  cases blocks : s.blocks with
  | nil =>
      refine ⟨?_, fun _ => ?_, fun first rest eq => ?_⟩
      · intro b member
        cases member
      · show s.planned - 1 = 0
        rw [planned.empty blocks]
      · cases eq
  | cons first rest =>
      have plans := planned.plans first rest blocks
      have sound := planned.sound
      rw [blocks] at sound
      have feasible := plans.feasible sound
      refine ⟨fun b member => sound b (.tail _ member), fun none => ?_, fun next rest' eq => ?_⟩
      · have within := plans.within
        change rest = [] at none
        rw [none] at within
        show s.planned - 1 = 0
        exact Nat.sub_eq_zero_of_le (within.trans (Nat.zero_le 1))
      · change rest = next :: rest' at eq
        subst eq
        obtain ⟨speed, speeds'⟩ := List.cons.inj plans.speeds
        change next.entrySpeedSqr = min (brake (next.leg :: legs rest')) _ at speed
        change speeds rest' = profile (min (brake (next.leg :: legs rest')) _) _ _ at speeds'
        rw [← speed] at speeds'
        refine ⟨feasible.passes.1, ?_, speeds', ?_, ?_⟩
        · exact feasible.le_brake.trans brake_le_gain
        · have within := plans.within
          rw [List.length_cons] at within
          show s.planned - 1 ≤ _
          omega
        · show Settled _ _ ((legs rest').take (s.planned - 1)) ((legs rest').drop (s.planned - 1))
          have settled := plans.settled
          cases pointer : s.planned with
          | zero =>
              rw [Nat.zero_sub, List.take_zero, Settled, front_nil]
              rfl
          | succ n =>
              rw [pointer] at settled
              change Settled _ _ (next.leg :: (legs rest').take n) ((legs rest').drop n) at settled
              have settled := settled.tail
              rw [List.take_append_drop, ← speed] at settled
              exact settled

omit [IsStrictOrderedRing K] in
/-- The same block, perhaps with another limit. -/
def Relimited (b b' : SpeedBlock K) : Prop :=
  ∃ limit, (0 ≤ b.maxJunctionSpeedSqr → 0 ≤ limit) ∧ b' = { b with maxEntrySpeedSqr := limit }

theorem relimited_profileAll (overrides : Overrides) (prev : K) (bs : List (SpeedBlock K)) :
    List.Forall₂ Relimited bs (profileAll overrides prev bs).1 := by
  induction bs generalizing prev with
  | nil => exact .nil
  | cons b bs ih =>
      exact .cons ⟨_, fun junction => limit_profileParameters junction _ _, rfl⟩ (ih _)

omit [IsStrictOrderedRing K] in
theorem sound_relimited {bs' : List (SpeedBlock K)} (relimited : List.Forall₂ Relimited bs bs')
    (sound : ∀ b ∈ bs, b.Sound) : ∀ b ∈ bs', b.Sound := by
  induction relimited with
  | nil => exact sound
  | cons relimited _ ih =>
      obtain ⟨limit, nonneg, rfl⟩ := relimited
      obtain ⟨⟨acceleration, millimeters, junction, -⟩, sound⟩ := List.forall_mem_cons.mp sound
      exact List.forall_mem_cons.mpr
        ⟨⟨acceleration, millimeters, junction, nonneg junction⟩, ih sound⟩

/-- The planner with the limits that an override leads to. -/
def overridden (s : Lookahead K) (feed rapid : Nat) : Lookahead K :=
  let feed := constrain feed minOverride maxOverride
  if feed ≠ s.overrides.feedRate ∨ rapid ≠ s.overrides.rapidRate then
    ({ s with
      overrides.feedRate := feed
      overrides.rapidRate := rapid } : Lookahead K).updateVelocityProfileParameters
  else s

theorem relimited_update (s : Lookahead K) :
    List.Forall₂ Relimited s.blocks s.updateVelocityProfileParameters.blocks := by
  unfold updateVelocityProfileParameters
  split
  · next none =>
      rw [List.isEmpty_iff.mp none]
      exact .nil
  · exact relimited_profileAll _ _ _

omit [IsStrictOrderedRing K] in
theorem planned_update (s : Lookahead K) :
    s.updateVelocityProfileParameters.planned = s.planned := by
  unfold updateVelocityProfileParameters
  split <;> rfl

theorem Planned.relimited {s' : Lookahead K} (planned : Planned s)
    (relimited : List.Forall₂ Relimited s.blocks s'.blocks) (pointer : s'.planned = s.planned)
    (inTime : s'.InTime underway) (safe : SafeToKeep s'.blocks.tail) :
    Planned (if s'.blocks.isEmpty then s' else s'.cycleReinitialize underway) := by
  have sound := sound_relimited relimited planned.sound
  split
  · next none =>
      have none := List.isEmpty_iff.mp none
      refine ⟨sound, fun _ => ?_, fun first rest eq => ?_⟩
      · rw [none] at relimited
        rw [pointer]
        exact planned.empty (List.forall₂_nil_right_iff.mp relimited)
      · rw [none] at eq
        cases eq
  · refine planned_cycleReinitialize sound (fun first' member => ?_) inTime safe
    obtain ⟨rest', blocks'⟩ := List.head?_eq_some_iff.mp member
    rw [blocks'] at relimited
    obtain ⟨first, rest, same, -, blocks⟩ := List.forall₂_cons_right_iff.mp relimited
    obtain ⟨limit, -, rfl⟩ := same
    exact (planned.plans first rest blocks).start

theorem Planned.feedOverride {feed rapid : Nat} (planned : Planned s)
    (inTime : (s.overridden feed rapid).InTime underway)
    (safe : SafeToKeep (s.overridden feed rapid).blocks.tail) :
    Planned (s.feedOverride feed rapid underway) := by
  unfold overridden at inTime safe
  unfold Lookahead.feedOverride
  dsimp only at inTime safe ⊢
  split
  · next changed =>
      rw [if_pos changed] at inTime safe
      have relimited := relimited_update ({ s with
        overrides.feedRate := constrain feed minOverride maxOverride
        overrides.rapidRate := rapid } : Lookahead K)
      exact planned.relimited relimited (planned_update _) inTime safe
  · exact planned

/-- What is asked of the machine: moves have a length, and what remains of the first block can be
braked, after a feed override in time for the new limits. An override must not lower the limit of
a block exactly to its planned speed if braking from it is no longer possible. -/
def Proper (s : Lookahead K) : LookaheadEvent K → Prop
  | .bufferLine block underway =>
      (0 ≤ block.acceleration ∧ 0 ≤ block.millimeters ∧ 0 ≤ block.maxJunctionSpeedSqr) ∧
        s.Brakes underway
  | .discard => True
  | .restart underway => s.Brakes underway
  | .feedOverride feed rapid underway =>
      (s.overridden feed rapid).InTime underway ∧ SafeToKeep (s.overridden feed rapid).blocks.tail

instance decidableProper (s : Lookahead K) : DecidablePred s.Proper
  | .bufferLine _ _ => inferInstanceAs (Decidable (_ ∧ _))
  | .discard => isTrue trivial
  | .restart underway => decidableBrakes s underway
  | .feedOverride _ _ _ => inferInstanceAs (Decidable (_ ∧ _))

theorem Planned.restart (planned : Planned s) (brakes : s.Brakes underway) :
    Planned (s.cycleReinitialize underway) := by
  have plans (first : SpeedBlock K) (rest : List (SpeedBlock K))
      (blocks : s.blocks = first :: rest) := planned.plans first rest blocks
  refine planned_cycleReinitialize planned.sound (fun first member => ?_)
    (planned.inTime brakes) ?_
  · obtain ⟨rest, blocks⟩ := List.head?_eq_some_iff.mp member
    exact (plans first rest blocks).start
  · cases blocks : s.blocks with
    | nil => exact trivial
    | cons first rest => exact (plans first rest blocks).safe

theorem planned_step : Preserves step Proper (Planned (K := K)) := by
  intro s event planned proper
  cases event with
  | bufferLine block underway =>
      obtain ⟨⟨acceleration, millimeters, junction⟩, brakes⟩ := proper
      exact planned.bufferLine acceleration millimeters junction brakes
  | discard => exact planned.discardCurrentBlock
  | restart underway => exact planned.restart proper
  | feedOverride feed rapid underway => exact planned.feedOverride proper.1 proper.2

omit [IsStrictOrderedRing K] in
theorem planned_initial : Planned (initial : Lookahead K) where
  sound := fun b member => by cases member
  empty := fun _ => rfl
  plans := fun first rest eq => by cases eq

omit [LinearOrder K] [IsStrictOrderedRing K] in
/-- Blocks with the same speeds are the same. -/
theorem Same.eq {bs' : List (SpeedBlock K)} (same : Same bs bs')
    (speeds : speeds bs = speeds bs') : bs = bs' := by
  induction bs generalizing bs' with
  | nil => exact (List.map_eq_nil_iff.mp same.symm).symm
  | cons b bs ih =>
      cases bs' with
      | nil => cases same
      | cons b' bs' =>
          obtain ⟨still, same⟩ := List.cons.inj same
          obtain ⟨speed, speeds⟩ := List.cons.inj speeds
          have first : b = b' := by
            obtain ⟨_⟩ := b
            obtain ⟨_⟩ := b'
            simp only [SpeedBlock.still, SpeedBlock.mk.injEq] at still speed ⊢
            exact ⟨speed, still.2⟩
          rw [first, ih same speeds]

/-- The planned speeds are the greatest possible ones, and those that recalculating the whole
buffer gives. -/
structure Optimal (s : Lookahead K) : Prop where
  feasible : ∀ first rest, s.blocks = first :: rest →
    Feasible first.entrySpeedSqr first.gain (legs rest) (speeds rest)
  greatest : ∀ first rest, s.blocks = first :: rest →
    ∀ others, Feasible first.entrySpeedSqr first.gain (legs rest) others →
      List.Forall₂ (· ≤ ·) others (speeds rest)
  recalculated : (s.cycleReinitialize none).blocks = s.blocks

theorem Planned.optimal (planned : Planned s) : Optimal s := by
  have feasible (first : SpeedBlock K) (rest : List (SpeedBlock K))
      (blocks : s.blocks = first :: rest) :
      Feasible first.entrySpeedSqr first.gain (legs rest) (speeds rest) :=
    (planned.plans first rest blocks).feasible (by rw [← blocks]; exact planned.sound)
  refine ⟨feasible, fun first rest blocks others feasible => ?_, ?_⟩
  · rw [(planned.plans first rest blocks).speeds]
    exact le_profile (le_refl _) feasible
  · cases blocks : s.blocks with
    | nil =>
        have same : s.cycleReinitialize none = { s with planned := 0 } := by
          show ({ s with planned := 0 } : Lookahead K).recalculate none = _
          unfold recalculate
          rw [blocks]
          rfl
        rw [same]
        exact blocks
    | cons first rest =>
        have plans := planned.plans first rest blocks
        have sound := planned.sound
        rw [blocks] at sound
        obtain ⟨rest', blocks', same, plans'⟩ := recalculate_spec
          (s := { s with planned := 0 }) (fun b member => gain_nonneg (sound b member))
          (valid_legs fun b member => sound b (.tail _ member)) blocks
          (ready_of_start plans.start plans.slow plans.safe)
        have speeds := plans'.speeds
        rw [same.legs, ← plans.speeds] at speeds
        exact blocks'.trans (congrArg _ (same.eq speeds))

/-- In every run the planner's speeds are the greatest possible ones. -/
theorem plan_optimal (events : List (LookaheadEvent K))
    (proper : Always step Proper initial events) : Optimal (run step initial events) :=
  (planned_step.run planned_initial proper).optimal

/-- A move of ten millimetres. -/
def tenMillimetres (rate junction : ℚ) : SpeedBlock ℚ where
  entrySpeedSqr := 0
  maxEntrySpeedSqr := 0
  maxJunctionSpeedSqr := junction
  acceleration := 1000
  millimeters := 10
  programmedRate := rate
  rapidRate := 5000

/-- Moves follow while the first one is under way, and an override lowers their limits. -/
def fourMoves : List (LookaheadEvent ℚ) :=
  [.bufferLine (tenMillimetres 600 0) none,
    .bufferLine (tenMillimetres 900 90000) none,
    .bufferLine (tenMillimetres 300 40000) (some (2500, 9)),
    .feedOverride 40 100 (some (3600, 8)),
    .bufferLine (tenMillimetres 1200 10000) none,
    .discard,
    .restart (some (0, 4))]

theorem plan_optimal_four_moves :
    speeds (run step initial fourMoves).blocks = [0, 8000, 10000] ∧
      Optimal (run step initial fourMoves) :=
  ⟨by decide +kernel, plan_optimal fourMoves (by decide +kernel)⟩

/-- The override leaves the limit of the second move as it is, which is also its planned speed, and
lowers that of the third one. -/
def loweredLimit : List (LookaheadEvent ℚ) :=
  [.bufferLine (tenMillimetres 600 0) none,
    .bufferLine (tenMillimetres 900 40000) none,
    .bufferLine (tenMillimetres 300 90000) (some (22500, 9)),
    .feedOverride 40 100 none]

-- 34400 is the most from which the second move can be braked to 14400
example : speeds (run step initial loweredLimit).blocks = [22500, 40000, 14400] := by
  decide +kernel

end Lookahead

end Cnc
