import CncMachine.Comm.Decoding

/-!
# The machine state

A call of `grblParseState` either finds a new name or leaves the name as it is (`newState`). State
and text always agree. The substate is compared as a word and kept as a byte, so that a second call
with the same text finds nothing new exactly if the number fits into a byte (`state_field_iff`).
-/

namespace Cnc.Comm

open Text

section

variable (data : List Char)

/-- The text before the colon. -/
def nameIn : List Char := data.takeWhile (· ≠ ':')

/-- The number behind the colon, as `atoi` stores it in a word. -/
def substateIn : BitVec 32 :=
  if ':' ∈ data then BitVec.ofInt 32 (atoi ((data.dropWhile (· ≠ ':')).drop 1)) else 0

/-- The state that is looked up, unless the stored text begins with its name. -/
def newState (g : GrblData) : Option (GrblState × List Char) :=
  if (nameIn data).length < 8 ∧ ¬ startsWith g.stateText (nameIn data) then
    grblStateNames.find? (·.2 == nameIn data)
  else none

end

variable {data : List Char} {g : GrblData}

theorem grblParseState_new {state : GrblState} {text : List Char}
    (found : newState data g = some (state, text)) :
    grblParseState data g =
      ({ g with
          state := state, substate := (substateIn data).setWidth 8, stateText := text }, true) := by
  simp only [grblParseState]
  split
  · next known =>
      obtain ⟨rfl, rfl⟩ := Prod.mk.inj (Option.some.inj (known.symm.trans found))
      rfl
  · next unknown => cases unknown.symm.trans found

theorem setWidth_byte {byte : BitVec 8} {word : BitVec 32} (same : byte.setWidth 32 = word) :
    word.setWidth 8 = byte := by
  rw [← same]
  apply BitVec.eq_of_toNat_eq
  simp only [BitVec.toNat_setWidth]
  omega

/-- A byte is compared equal to the word it was cut from if nothing was cut off. -/
theorem setWidth_setWidth_eq_iff (word : BitVec 32) :
    (word.setWidth 8).setWidth 32 = word ↔ word.toNat < 256 := by
  rw [← BitVec.toNat_inj, BitVec.toNat_setWidth, BitVec.toNat_setWidth]
  omega

/-- Without a new name only the substate can change. -/
theorem grblParseState_same (unknown : newState data g = none) :
    grblParseState data g =
      ({ g with substate := (substateIn data).setWidth 8 },
        decide (g.substate.setWidth 32 ≠ substateIn data)) := by
  simp only [grblParseState]
  split
  · next known => cases unknown.symm.trans known
  · change (if g.substate.setWidth 32 ≠ substateIn data then
        ({ g with substate := (substateIn data).setWidth 8 }, true) else (g, false)) = _
    by_cases same : g.substate.setWidth 32 = substateIn data
    · rw [if_neg (not_not.mpr same), setWidth_byte same, decide_eq_false (not_not.mpr same)]
    · rw [if_pos same, decide_eq_true same]

/-- A call that finds nothing new changes nothing. -/
theorem grblParseState_unchanged (unchanged : (grblParseState data g).2 = false) :
    (grblParseState data g).1 = g := by
  cases found : newState data g with
  | some entry =>
      rw [grblParseState_new found] at unchanged
      cases unchanged
  | none =>
      rw [grblParseState_same found] at unchanged ⊢
      have same : g.substate.setWidth 32 = substateIn data := by simpa using unchanged
      simp only [setWidth_byte same]

theorem newState_name {state : GrblState} {text : List Char}
    (found : newState data g = some (state, text)) :
    text = stateName state ∧ nameIn data = stateName state := by
  simp only [newState] at found
  split at found
  · have named := mem_grblStateNames (List.mem_of_find?_eq_some found)
    have same : text = nameIn data := by simpa using List.find?_some found
    exact ⟨named, by rw [← same, named]⟩
  · cases found

/-- A name that is not looked up is the one that is stored. -/
theorem state_of_not_newState (named : Named g) {state : GrblState}
    (known : nameIn data = stateName state) (unknown : newState data g = none) :
    g.state = state := by
  simp only [newState, known, find_stateName] at unknown
  split at unknown
  · cases unknown
  · next stored =>
      rw [not_and_not_right] at stored
      have starts := startsWith_iff.mp (stored (length_stateName state))
      obtain text | ⟨text, -⟩ := named
      · rw [text] at starts
        exact (eq_of_stateName_starts starts).symm
      · rw [text, List.prefix_nil] at starts
        exact absurd starts (stateName_ne_nil state)

theorem grblParseState_named (named : Named g) (data : List Char) :
    Named (grblParseState data g).1 := by
  rw [grblParseState_core]
  exact keptByTokens_named.state data g named

/-- A name becomes the state. -/
theorem grblParseState_state (named : Named g) {state : GrblState}
    (known : nameIn data = stateName state) : (grblParseState data g).1.state = state := by
  cases found : newState data g with
  | some entry =>
      obtain ⟨other, text⟩ := entry
      have same := (newState_name found).2
      rw [known] at same
      rw [grblParseState_new found]
      exact (eq_of_stateName_starts (same ▸ List.prefix_rfl)).symm
  | none =>
      rw [grblParseState_same found]
      exact state_of_not_newState named known found

/-- Any other text leaves the state as it is. -/
theorem grblParseState_other (other : ∀ state, nameIn data ≠ stateName state) :
    (grblParseState data g).1.state = g.state ∧
      (grblParseState data g).1.stateText = g.stateText := by
  cases found : newState data g with
  | some entry => exact absurd (newState_name found).2 (other entry.1)
  | none =>
      rw [grblParseState_same found]
      exact ⟨rfl, rfl⟩

/-- After a call its name is known. -/
theorem newState_again (data : List Char) (g : GrblData) :
    newState data (grblParseState data g).1 = none := by
  cases found : newState data g with
  | some entry =>
      obtain ⟨state, text⟩ := entry
      obtain ⟨named, same⟩ := newState_name found
      rw [grblParseState_new found, newState, if_neg]
      rintro ⟨-, apart⟩
      apply apart
      rw [startsWith_iff, named, same]
  | none =>
      rw [grblParseState_same found]
      exact found

/-- The second call compares the byte with the word. -/
theorem grblParseState_again (data : List Char) (g : GrblData) :
    grblParseState data (grblParseState data g).1 =
      ((grblParseState data g).1, decide (256 ≤ (substateIn data).toNat)) := by
  have kept : (grblParseState data g).1.substate = (substateIn data).setWidth 8 := by
    cases found : newState data g with
    | some entry => rw [grblParseState_new found]
    | none => rw [grblParseState_same found]
  rw [grblParseState_same (newState_again data g), ← kept]
  congr 1
  rw [decide_eq_decide, kept, ne_eq, setWidth_setWidth_eq_iff, not_lt]

/-- The screen fills in the name of the state where the text is still empty. -/
def nameState (g : GrblData) : GrblData :=
  { g with stateText := if g.stateText = [] then "Unknown".toList else g.stateText }

/-- What the three parts of the machine state can be: they start empty, any text is parsed, and
the screen fills in a name. -/
inductive StateReachable : GrblData → Prop
  | initial : StateReachable {}
  | parsed {g : GrblData} (before : StateReachable g) (data : List Char) :
      StateReachable (grblParseState data g).1
  | shown {g : GrblData} (before : StateReachable g) : StateReachable (nameState g)
  | other {g g' : GrblData} (before : StateReachable g) (state : g'.state = g.state)
      (substate : g'.substate = g.substate) (text : g'.stateText = g.stateText) :
      StateReachable g'

theorem nameState_named (named : Named g) : Named (nameState g) := by
  simp only [Named, nameState]
  split
  · next empty =>
      obtain text | ⟨-, unknown⟩ := named
      · rw [empty] at text
        exact absurd text.symm (stateName_ne_nil g.state)
      · exact .inl (by rw [unknown]; rfl)
  · next full =>
      refine .inl (named.resolve_right ?_)
      exact fun both => full both.1

theorem StateReachable.named (reachable : StateReachable g) : Named g := by
  induction reachable with
  | initial => exact .inr ⟨rfl, rfl⟩
  | parsed _ data named => exact grblParseState_named named data
  | shown _ named => exact nameState_named named
  | other _ state _ text named =>
      rw [Named, state, text]
      exact named

/-- After a call state and text agree, a name has become the state, and any other text has changed
neither. A second call finds nothing new exactly if the substate fits into its byte. -/
theorem state_field_iff (reachable : StateReachable g) (data : List Char) :
    (Named (grblParseState data g).1 ∧
      (∀ state, nameIn data = stateName state → (grblParseState data g).1.state = state) ∧
      ((∀ state, nameIn data ≠ stateName state) →
        (grblParseState data g).1.state = g.state ∧
          (grblParseState data g).1.stateText = g.stateText) ∧
      grblParseState data (grblParseState data g).1 = ((grblParseState data g).1, false)) ↔
    (substateIn data).toNat < 256 := by
  have named := reachable.named
  rw [grblParseState_again, Prod.mk.injEq, decide_eq_false_iff_not, not_le]
  constructor
  · rintro ⟨-, -, -, -, fits⟩
    exact fits
  · intro fits
    refine ⟨grblParseState_named named data, ?_, grblParseState_other, rfl, fits⟩
    exact fun state known => grblParseState_state named known

/-- All blanks are skipped, and a number out of range is the largest word of `atoi`. -/
example : substateIn "Hold:\x0b256".toList = 256 ∧
    substateIn "Hold:4294967296".toList = 2147483647 := by
  decide

theorem state_field_iff_hold :
    (Named (grblParseState "Hold:1".toList {}).1 ∧
      (∀ state, nameIn "Hold:1".toList = stateName state →
        (grblParseState "Hold:1".toList {}).1.state = state) ∧
      ((∀ state, nameIn "Hold:1".toList ≠ stateName state) →
        (grblParseState "Hold:1".toList {}).1.state = GrblState.unknown ∧
          (grblParseState "Hold:1".toList {}).1.stateText = []) ∧
      grblParseState "Hold:1".toList (grblParseState "Hold:1".toList {}).1 =
        ((grblParseState "Hold:1".toList {}).1, false)) ↔
    (substateIn "Hold:1".toList).toNat < 256 :=
  state_field_iff .initial "Hold:1".toList

/-- The second report of a substate beyond the byte counts as a change again. -/
theorem not_state_field : ¬ ∀ g, StateReachable g → ∀ data : List Char,
    Named (grblParseState data g).1 ∧
      (∀ state, nameIn data = stateName state → (grblParseState data g).1.state = state) ∧
      ((∀ state, nameIn data ≠ stateName state) →
        (grblParseState data g).1.state = g.state ∧
          (grblParseState data g).1.stateText = g.stateText) ∧
      grblParseState data (grblParseState data g).1 = ((grblParseState data g).1, false) := by
  intro holds
  obtain ⟨-, -, -, again⟩ := holds {} .initial "Hold:256".toList
  have second := congrArg Prod.snd again
  revert second
  decide

end Cnc.Comm
