import Mathlib.Algebra.Order.Field.Basic
import Mathlib.Algebra.Order.Ring.Rat
import Mathlib.Data.List.Forall2
import Mathlib.Data.List.Induction
import Mathlib.Tactic.Linarith

/-!
# Speed profiles

A path is a sequence of legs. The speed at which a leg is entered is limited, and along a leg the
square of the speed changes by at most the leg's gain. `Feasible` says that squares of entry speeds
keep to this and that the last leg can end at rest. `profile` computes such speeds in two passes:
backwards what braking allows (`brake`), then forwards what accelerating allows. It is the greatest
feasible one (`feasible_profile`, `le_profile`).

A leg is settled if it is entered as fast as accelerating from the start allows (`top`). Whatever is
added behind a settled leg, the speeds up to it stay the same (`Settled.front_eq`).
-/

namespace SpeedProfile

variable {K : Type*} [Field K] [LinearOrder K]

/-- The limit of the entry speed's square and what this square can change by along the leg. -/
structure Leg (K : Type*) where
  limit : K
  gain : K

/-- The legs of a path as it can be. -/
def Valid (legs : List (Leg K)) : Prop := ∀ leg ∈ legs, 0 ≤ leg.limit ∧ 0 ≤ leg.gain

/-- The greatest entry speed from which the path can be braked to its end. -/
def brake : List (Leg K) → K
  | [] => 0
  | leg :: legs => min leg.limit (brake legs + leg.gain)

/-- `brake` for the path and for each part of it that follows a leg. -/
def brakes : List (Leg K) → List K
  | [] => []
  | leg :: legs => brake (leg :: legs) :: brakes legs

/-- The entry speeds after both passes, for a path that follows a leg with entry speed `v` and gain
`g`. -/
def profile (v g : K) : List (Leg K) → List K
  | [] => []
  | leg :: legs =>
      let e := min (brake (leg :: legs)) (v + g)
      e :: profile e leg.gain legs

/-- The greatest speed at which the last leg can be entered, if it is not necessary to brake. -/
def top (v g : K) : List (Leg K) → K
  | [] => v
  | leg :: legs => top (min leg.limit (v + g)) leg.gain legs

/-- The entry speed of the last leg. -/
def lastSpeed (v : K) : List K → K
  | [] => v
  | e :: speeds => lastSpeed e speeds

/-- The gain of the last leg. -/
def lastGain (g : K) : List (Leg K) → K
  | [] => g
  | leg :: legs => lastGain leg.gain legs

/-- The speeds keep to the limits and to the gains. -/
def Passes (v g : K) : List (Leg K) → List K → Prop
  | [], [] => True
  | leg :: legs, e :: speeds =>
      0 ≤ e ∧ e ≤ leg.limit ∧ v ≤ e + g ∧ e ≤ v + g ∧ Passes e leg.gain legs speeds
  | _, _ => False

/-- And the path can end at rest. -/
structure Feasible (v g : K) (legs : List (Leg K)) (speeds : List K) : Prop where
  passes : Passes v g legs speeds
  stops : lastSpeed v speeds ≤ lastGain g legs

variable {v g : K} {legs before after : List (Leg K)} {speeds : List K} {leg : Leg K}

theorem valid_cons : Valid (leg :: legs) ↔ (0 ≤ leg.limit ∧ 0 ≤ leg.gain) ∧ Valid legs :=
  List.forall_mem_cons

theorem valid_append : Valid (before ++ after) ↔ Valid before ∧ Valid after :=
  List.forall_mem_append

theorem brake_le_limit : brake (leg :: legs) ≤ leg.limit := min_le_left _ _

theorem brake_le_gain : brake (leg :: legs) ≤ brake legs + leg.gain := min_le_right _ _

@[simp] theorem length_profile (v g : K) (legs : List (Leg K)) :
    (profile v g legs).length = legs.length := by
  induction legs generalizing v g with
  | nil => rfl
  | cons leg legs ih => simp [profile, ih]

theorem profile_le_brakes : List.Forall₂ (· ≤ ·) (profile v g legs) (brakes legs) := by
  induction legs generalizing v g with
  | nil => exact .nil
  | cons leg legs ih => exact .cons (min_le_left _ _) ih

theorem eq_of_forall₂_le {α : Type*} [PartialOrder α] {es fs : List α}
    (le : List.Forall₂ (· ≤ ·) es fs) (ge : List.Forall₂ (· ≤ ·) fs es) : es = fs := by
  induction le with
  | nil => rfl
  | cons le _ ih =>
      cases ge with
      | cons ge rest => rw [le_antisymm le ge, ih rest]

/-- The speeds of the first legs. -/
def front (v g : K) (before after : List (Leg K)) : List K :=
  (profile v g (before ++ after)).take before.length

@[simp] theorem front_nil : front v g [] after = [] := by simp [front]

theorem front_cons : front v g (leg :: before) after =
    min (brake (leg :: (before ++ after))) (v + g) ::
      front (min (brake (leg :: (before ++ after))) (v + g)) leg.gain before after := rfl

@[simp] theorem length_front : (front v g before after).length = before.length := by
  simp [front]

/-- The profile goes on behind its first legs as if it began there. -/
theorem profile_append : profile v g (before ++ after) =
    front v g before after ++
      profile (lastSpeed v (front v g before after)) (lastGain g before) after := by
  induction before generalizing v g with
  | nil => simp [lastSpeed, lastGain]
  | cons leg before ih =>
      rw [front_cons, List.cons_append, List.cons_append]
      exact congrArg _ ih

/-- The first legs in two parts. -/
theorem front_append {middle : List (Leg K)} : front v g (before ++ middle) after =
    front v g before (middle ++ after) ++
      front (lastSpeed v (front v g before (middle ++ after))) (lastGain g before) middle after := by
  induction before generalizing v g with
  | nil => simp [lastSpeed, lastGain]
  | cons leg before ih =>
      rw [List.cons_append, front_cons, front_cons, List.append_assoc, List.cons_append]
      exact congrArg _ ih

/-- A feasible path consists of feasible parts. -/
theorem passes_append {es fs : List K} (length : es.length = before.length) :
    Passes v g (before ++ after) (es ++ fs) ↔
      Passes v g before es ∧ Passes (lastSpeed v es) (lastGain g before) after fs := by
  induction before generalizing v g es with
  | nil =>
      obtain rfl := List.eq_nil_of_length_eq_zero length
      simp [Passes, lastSpeed, lastGain]
  | cons leg before ih =>
      obtain ⟨e, es, rfl⟩ := List.exists_cons_of_length_eq_add_one length
      have := ih (v := e) (g := leg.gain) (Nat.succ.inj length)
      simp only [List.cons_append, Passes, lastSpeed, lastGain, this, and_assoc]

theorem lastSpeed_append {α : Type*} (v : α) (es fs : List α) :
    lastSpeed v (es ++ fs) = lastSpeed (lastSpeed v es) fs := by
  induction es generalizing v with
  | nil => rfl
  | cons e es ih => exact ih e

theorem lastGain_append {α : Type*} (g : α) (before after : List (Leg α)) :
    lastGain g (before ++ after) = lastGain (lastGain g before) after := by
  induction before generalizing g with
  | nil => rfl
  | cons leg before ih => exact ih leg.gain

theorem lastGain_nonneg (gain : 0 ≤ g) (valid : Valid before) : 0 ≤ lastGain g before := by
  induction before generalizing g with
  | nil => exact gain
  | cons leg before ih =>
      obtain ⟨⟨-, gain'⟩, valid⟩ := valid_cons.mp valid
      exact ih gain' valid

theorem front_snoc : front v g (before ++ [leg]) after =
    front v g before (leg :: after) ++
      [min (brake (leg :: after))
        (lastSpeed v (front v g before (leg :: after)) + lastGain g before)] := by
  induction before generalizing v g with
  | nil => rfl
  | cons first before ih =>
      rw [List.cons_append, front_cons, front_cons, List.append_assoc]
      exact congrArg _ ih

theorem top_snoc : top v g (before ++ [leg]) =
    min leg.limit (top v g before + lastGain g before) := by
  induction before generalizing v g with
  | nil => rfl
  | cons first before ih => exact ih

theorem lastSpeed_front_snoc : lastSpeed v (front v g (before ++ [leg]) after) =
    min (brake (leg :: after))
      (lastSpeed v (front v g before (leg :: after)) + lastGain g before) := by
  rw [front_snoc, lastSpeed_append]
  rfl

variable [IsStrictOrderedRing K]

theorem brake_nonneg (valid : Valid legs) : 0 ≤ brake legs := by
  induction legs with
  | nil => exact le_refl 0
  | cons leg legs ih =>
      obtain ⟨⟨limit, gain⟩, valid⟩ := valid_cons.mp valid
      exact le_min limit (add_nonneg (ih valid) gain)

/-- A start from which the path can be braked leads to a feasible profile. -/
theorem feasible_profile (valid : Valid legs) (start : 0 ≤ v) (gain : 0 ≤ g)
    (slow : v ≤ brake legs + g) : Feasible v g legs (profile v g legs) := by
  induction legs generalizing v g with
  | nil =>
      rw [brake, zero_add] at slow
      exact ⟨trivial, slow⟩
  | cons leg legs ih =>
      obtain ⟨⟨limit, gain'⟩, valid'⟩ := valid_cons.mp valid
      have le : min (brake (leg :: legs)) (v + g) ≤ brake (leg :: legs) := min_le_left _ _
      have nonneg : 0 ≤ min (brake (leg :: legs)) (v + g) :=
        le_min (brake_nonneg valid) (add_nonneg start gain)
      obtain ⟨passes, stops⟩ := ih valid' nonneg gain' (le.trans brake_le_gain)
      refine ⟨⟨nonneg, le.trans brake_le_limit, ?_, min_le_right _ _, passes⟩, stops⟩
      rw [min_add]
      exact le_min slow (by linarith)

/-- Feasible speeds can be braked. -/
theorem Feasible.le_brake {e : K} (feasible : Feasible v g (leg :: legs) (e :: speeds)) :
    e ≤ brake (leg :: legs) := by
  induction legs generalizing v g leg e speeds with
  | nil =>
      obtain ⟨⟨-, limit, -, -, passes⟩, stops⟩ := feasible
      cases speeds with
      | nil =>
          refine le_min limit ?_
          rw [brake, zero_add]
          exact stops
      | cons => cases passes
  | cons next legs ih =>
      obtain ⟨⟨-, limit, -, -, passes⟩, stops⟩ := feasible
      cases speeds with
      | nil => cases passes
      | cons e' speeds =>
          have rest := ih ⟨passes, stops⟩
          exact le_min limit (passes.2.2.1.trans (by linarith))

/-- No feasible speed is greater, not even from a slower start. -/
theorem le_profile {w : K} (slower : v ≤ w) (feasible : Feasible v g legs speeds) :
    List.Forall₂ (· ≤ ·) speeds (profile w g legs) := by
  induction legs generalizing v w g speeds with
  | nil =>
      cases speeds with
      | nil => exact .nil
      | cons => cases feasible.passes
  | cons leg legs ih =>
      cases speeds with
      | nil => cases feasible.passes
      | cons e speeds =>
          have brakes := feasible.le_brake
          obtain ⟨⟨-, -, -, accelerates, passes⟩, stops⟩ := feasible
          have le : e ≤ min (brake (leg :: legs)) (w + g) := le_min brakes (by linarith)
          exact .cons le (ih le ⟨passes, stops⟩)

theorem brake_mono {after' : List (Leg K)} (more : brake after ≤ brake after')
    (before : List (Leg K)) : brake (before ++ after) ≤ brake (before ++ after') := by
  induction before with
  | nil => exact more
  | cons leg before ih => exact min_le_min_left _ (add_le_add_left ih _)

/-- Legs that are added behind give more room to brake. -/
theorem brake_le_append (valid : Valid after) (before : List (Leg K)) :
    brake before ≤ brake (before ++ after) := by
  have room : brake [] ≤ brake after := brake_nonneg valid
  have slower := brake_mono room before
  rwa [List.append_nil] at slower

/-- With more room to brake behind them, and from a faster start, the first legs are not slower. -/
theorem front_mono {w : K} {after' : List (Leg K)} (faster : v ≤ w)
    (more : brake after ≤ brake after') (before : List (Leg K)) :
    List.Forall₂ (· ≤ ·) (front v g before after) (front w g before after') ∧
      lastSpeed v (front v g before after) ≤ lastSpeed w (front w g before after') := by
  induction before generalizing v w g with
  | nil => exact ⟨by simp, by simpa [lastSpeed] using faster⟩
  | cons leg before ih =>
      rw [front_cons, front_cons]
      have le : min (brake (leg :: (before ++ after))) (v + g) ≤
          min (brake (leg :: (before ++ after'))) (w + g) :=
        min_le_min (brake_mono more (leg :: before)) (by linarith)
      obtain ⟨rest, last⟩ := ih (g := leg.gain) le
      exact ⟨.cons le rest, last⟩

theorem top_mono {w : K} (faster : v ≤ w) : top v g legs ≤ top w g legs := by
  induction legs generalizing v w g with
  | nil => exact faster
  | cons leg legs ih => exact ih (min_le_min_left _ (by linarith))

theorem lastSpeed_le_top : lastSpeed v (front v g before after) ≤ top v g before := by
  induction before generalizing v g with
  | nil => simp [lastSpeed, top]
  | cons leg before ih =>
      rw [front_cons]
      exact ih.trans (top_mono (min_le_min_right _ brake_le_limit))

/-- The last of the first legs is entered as fast as accelerating allows. -/
def Settled (v g : K) (before after : List (Leg K)) : Prop :=
  lastSpeed v (front v g before after) = top v g before

/-- The speeds up to a settled leg stay the same if there is more room to brake behind it. -/
theorem Settled.front_eq {after' : List (Leg K)} (settled : Settled v g before after)
    (more : brake after ≤ brake after') (valid : Valid (before ++ after))
    (valid' : Valid (before ++ after')) (start : 0 ≤ v) (gain : 0 ≤ g)
    (slow : v ≤ brake (before ++ after) + g) :
    front v g before after' = front v g before after := by
  obtain ⟨faster, last⟩ := front_mono (g := g) (le_refl v) more before
  have same : lastSpeed v (front v g before after') = lastSpeed v (front v g before after) := by
    refine le_antisymm ?_ last
    rw [settled]
    exact lastSpeed_le_top
  have old := feasible_profile valid start gain slow
  have new := feasible_profile valid' start gain
    (slow.trans (add_le_add_left (brake_mono more before) g))
  -- the new speeds of the first legs, followed by the old ones, are feasible for the old path
  have mixed : Feasible v g (before ++ after) (front v g before after' ++
      profile (lastSpeed v (front v g before after)) (lastGain g before) after) := by
    rw [profile_append] at old new
    have oldPasses := (passes_append length_front).mp old.passes
    have newPasses := (passes_append length_front).mp new.passes
    refine ⟨(passes_append length_front).mpr ⟨newPasses.1, ?_⟩, ?_⟩
    · rw [same]
      exact oldPasses.2
    · rw [lastSpeed_append, same, ← lastSpeed_append]
      exact old.stops
  have slower := le_profile (le_refl v) mixed
  have split : profile v g (before ++ after) = _ := profile_append
  rw [split] at slower
  have slower := List.forall₂_take before.length slower
  rw [List.take_left' length_front, List.take_left' length_front] at slower
  exact eq_of_forall₂_le slower faster

/-- A leg that is entered at its limit is settled. -/
theorem settled_of_limit
    (limit : lastSpeed v (front v g (before ++ [leg]) after) = leg.limit) :
    Settled v g (before ++ [leg]) after := by
  refine le_antisymm lastSpeed_le_top ?_
  rw [top_snoc, limit]
  exact min_le_left _ _

/-- A leg that could be entered faster without having to brake more is settled. -/
theorem settled_of_less (gain : 0 ≤ g) (valid : Valid before)
    (less : lastSpeed v (front v g (before ++ [leg]) after) < brake (leg :: after)) :
    Settled v g (before ++ [leg]) after := by
  induction before using List.reverseRecOn generalizing leg after with
  | nil =>
      refine le_antisymm lastSpeed_le_top ?_
      rw [lastSpeed_front_snoc, min_lt_iff] at less
      rw [top_snoc, lastSpeed_front_snoc, min_eq_right (less.resolve_left (lt_irrefl _)).le]
      exact min_le_right _ _
  | append_singleton before first ih =>
      have valid' := (valid_append.mp valid).1
      have speed : lastSpeed v (front v g (before ++ [first] ++ [leg]) after) =
          min (brake (leg :: after)) (lastSpeed v (front v g (before ++ [first]) (leg :: after)) +
            lastGain g (before ++ [first])) := lastSpeed_front_snoc
      rw [speed, min_lt_iff] at less
      have less := less.resolve_left (lt_irrefl _)
      rw [min_eq_right less.le] at speed
      have first_gain : 0 ≤ lastGain g (before ++ [first]) := lastGain_nonneg gain valid
      have first_brake : brake (first :: leg :: after) =
          min first.limit (brake (leg :: after) + lastGain g (before ++ [first])) := by
        rw [lastGain_append]
        rfl
      have first_le : lastSpeed v (front v g (before ++ [first]) (leg :: after)) ≤
          brake (first :: leg :: after) := lastSpeed_front_snoc.trans_le (min_le_left _ _)
      -- so the leg before was not braked for this one, and has been settled, too
      have settled : Settled v g (before ++ [first]) (leg :: after) := by
        by_cases equal : lastSpeed v (front v g (before ++ [first]) (leg :: after)) =
            brake (first :: leg :: after)
        · apply settled_of_limit
          rw [equal, first_brake, min_eq_left_iff]
          by_contra braked
          rw [first_brake, min_eq_right (not_le.mp braked).le] at equal
          rw [equal] at less
          linarith
        · exact ih valid' (lt_of_le_of_ne first_le equal)
      refine le_antisymm lastSpeed_le_top ?_
      have fastest : top v g (before ++ [first] ++ [leg]) =
          min leg.limit (top v g (before ++ [first]) + lastGain g (before ++ [first])) := top_snoc
      rw [speed, settled, fastest]
      exact min_le_right _ _

/-- Only the room to brake behind it matters. -/
theorem Settled.more {after' : List (Leg K)} (settled : Settled v g before after)
    (more : brake after ≤ brake after') : Settled v g before after' := by
  refine le_antisymm lastSpeed_le_top ?_
  rw [← settled]
  exact (front_mono (le_refl v) more before).2

/-- The first leg can be left out. -/
theorem Settled.tail (settled : Settled v g (leg :: before) after) :
    Settled (min (brake (leg :: (before ++ after))) (v + g)) leg.gain before after := by
  refine le_antisymm lastSpeed_le_top ?_
  have last : lastSpeed v (front v g (leg :: before) after) = top v g (leg :: before) := settled
  rw [front_cons] at last
  refine le_trans ?_ last.ge
  exact top_mono (min_le_min_right _ brake_le_limit)

/-- Speeds that can be braked still can if legs are added behind. -/
theorem forall₂_brakes_append {more : List K} (valid : Valid after)
    (first : List.Forall₂ (· ≤ ·) speeds (brakes before))
    (last : List.Forall₂ (· ≤ ·) more (brakes after)) :
    List.Forall₂ (· ≤ ·) (speeds ++ more) (brakes (before ++ after)) := by
  induction before generalizing speeds with
  | nil =>
      cases first
      exact last
  | cons leg before ih =>
      obtain ⟨e, speeds, le, rest, rfl⟩ := List.forall₂_cons_right_iff.mp first
      exact .cons (le.trans (brake_le_append valid (leg :: before))) (ih rest)

end SpeedProfile
