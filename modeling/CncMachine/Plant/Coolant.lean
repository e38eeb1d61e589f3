import CncMachine.Plant.Modes

/-!
# Coolant toggles

The panel asks for a toggle whenever the request in a frame differs from its copy of the coolant
state, which only a report refreshes. What counts is where the coolant is heading: the state it
will have when the controller has taken every packet on the line. A frame leads it to the request
exactly if the copy shows where it is heading.
-/

namespace Cnc

open Transition

/-- The two coolants. -/
inductive Coolant where
  | flood
  | mist
deriving DecidableEq, Repr

/-- The command that toggles the coolant. -/
def Coolant.toggle : Coolant → Packet
  | .flood => .coolantFloodToggle
  | .mist => .coolantMistToggle

def Accessories.coolant (a : Accessories) : Coolant → Bool
  | .flood => a.flood
  | .mist => a.mist

/-- The panel's copy of the coolant state. -/
def GrblData.coolant (g : GrblData) : Coolant → Bool
  | .flood => g.flood
  | .mist => g.mist

/-- The request in a frame. -/
def PendantData.coolant (data : PendantData) : Coolant → Bool
  | .flood => data.flood
  | .mist => data.mist

def PendantAction.coolant (action : PendantAction) : Coolant → Bool
  | .flood => action.flood
  | .mist => action.mist

theorem Accessories.coolant_execute (a : Accessories) (packet : Packet) (c : Coolant) :
    (a.execute packet).coolant c = (a.coolant c ^^ decide (packet = c.toggle)) := by
  simp only [execute]
  split <;> cases c <;> simp_all [coolant, Coolant.toggle]

/-- A coolant is flipped by each of its toggles. -/
theorem Accessories.coolant_foldl (packets : List Packet) (a : Accessories) (c : Coolant) :
    (packets.foldl execute a).coolant c =
      (a.coolant c ^^ decide (packets.count c.toggle % 2 = 1)) := by
  induction packets generalizing a with
  | nil => simp
  | cons packet rest ih =>
      rw [List.foldl_cons, ih, coolant_execute]
      by_cases toggles : packet = c.toggle
      · rw [toggles, List.count_cons_self]
        obtain even | odd := Nat.mod_two_eq_zero_or_one (rest.count c.toggle)
        · simp [even, Nat.add_mod]
        · simp [odd, Nat.add_mod]
      · simp [toggles, List.count_cons_of_ne toggles]

namespace Panel

theorem callPackets_coolant (g : GrblData) (tx : Tx) (call : Option Bool) (c : Coolant) :
    (g.callPackets tx call).count c.toggle = 0 := by
  apply List.count_eq_zero.mpr
  intro member
  have eq := GrblData.mem_callPackets member
  cases c <;> cases eq

/-- The menu sends no coolant toggles. -/
theorem sentBy_menu_coolant (s : Panel) (input : MenuInput) (c : Coolant) :
    (s.sentBy (.menu input)).count c.toggle = 0 := by
  obtain ⟨packets, manual, eq⟩ := s.sentBy_menu input
  rw [eq, List.count_append, callPackets_coolant, Nat.zero_add]
  apply List.count_eq_zero.mpr
  intro member
  obtain other | ⟨_, _, _, other⟩ := manual _ member <;> cases c <;> cases other

/-- A frame that is acted on asks for a toggle if its request differs from the copy. -/
theorem count_pendantDataToAction (s : Panel) (action : PendantAction) (c : Coolant) :
    (s.pendantDataToAction action).count c.toggle =
      if action.coolant c = s.grblData.coolant c then 0 else 1 := by
  have movement : (s.movementPackets action).count c.toggle = 0 := by
    apply List.count_eq_zero.mpr
    intro member
    obtain ⟨_, _, _, _, eq⟩ := mem_movementPackets member
    cases c <;> cases eq
  have spindle : (s.spindlePackets action).count c.toggle = 0 := by
    apply List.count_eq_zero.mpr
    intro member
    have eq := (mem_spindlePackets member).1
    cases c <;> cases eq
  have system : s.systemPackets.count c.toggle = 0 := by
    apply List.count_eq_zero.mpr
    intro member
    obtain ⟨eq, -⟩ | ⟨eq, -⟩ := mem_systemPackets member <;> cases c <;> cases eq
  rw [pendantDataToAction, List.count_append, List.count_append, List.count_append,
    movement, spindle, system, Nat.zero_add, Nat.add_zero]
  simp only [coolantPackets]
  by_cases flood : action.flood = s.grblData.flood <;>
    by_cases mist : action.mist = s.grblData.mist <;>
      cases c <;> simp [flood, mist, PendantAction.coolant, GrblData.coolant, Coolant.toggle]

/-- The coolant toggles that a frame asks for. -/
theorem count_framePackets (s : Panel) (frame : PendantData) (c : Coolant) :
    (s.framePackets frame).count c.toggle =
      if s.ActsOn frame ∧ frame.coolant c ≠ s.grblData.coolant c then 1 else 0 := by
  by_cases acts : s.ActsOn frame
  · have request : (s.received frame).actedAction.coolant c = frame.coolant c := by
      cases c <;> rfl
    rw [framePackets_of_actsOn acts, count_pendantDataToAction, request]
    by_cases same : frame.coolant c = s.grblData.coolant c <;> simp [acts, received, same]
  · rw [if_neg fun both => acts both.1]
    exact List.count_eq_zero.mpr fun member => acts (mem_framePackets member).1

/-- The coolant toggles that a frame puts on the line. -/
theorem sentBy_frame_coolant (s : Panel) (frame : PendantData) (tx : Tx) (c : Coolant) :
    (s.sentBy (.frame frame tx)).count c.toggle =
      if s.ActsOn frame ∧ tx c.toggle = true ∧ frame.coolant c ≠ s.grblData.coolant c
      then 1 else 0 := by
  rw [sentBy_frame, List.count_append, callPackets_coolant, Nat.zero_add]
  by_cases sent : tx c.toggle = true
  · rw [List.count_filter sent, count_framePackets]
    simp only [sent, true_and]
  · rw [if_neg fun both => sent both.2.1]
    exact List.count_eq_zero.mpr fun member => sent (List.mem_filter.mp member).2

end Panel

namespace Plant

/-- The packets that an event makes the panel put on the line. -/
def sent (s : Plant) : PlantEvent → List Packet
  | .menu input => s.panel.sentBy (.menu input)
  | .tim1 accepted => s.panel.sentBy (.tim1 accepted)
  | .frame frame tx => s.panel.sentBy (.frame frame tx)
  | _ => []

/-- Where spindle and coolant are heading: what the controller will drive when it has taken all
packets on the line. -/
def target (s : Plant) : Accessories :=
  s.panel.controllerLine.foldl Accessories.execute s.accessories

theorem target_step (s : Plant) (e : PlantEvent) :
    (s.step e).target = (s.sent e).foldl Accessories.execute s.target := by
  have panel (event : PanelEvent) (call : Option Bool) :
      (s.panelStep event call).target =
        (s.panel.sentBy event).foldl Accessories.execute s.target := by
    simp only [target, panelStep]
    rw [Panel.controllerLine_step, List.foldl_append]
  cases e with
  | menu input => exact panel _ _
  | tim1 accepted => exact panel _ _
  | frame frame tx => exact panel _ _
  | handle report =>
      show (s.handle report).target = s.target
      simp only [handle, target]
      split
      · rfl
      next rest line => rw [line]; rfl
      next packet rest other line => rw [line]; rfl
  | status report => rfl
  | line line => rfl
  | deliver =>
      show s.deliver.target = s.target
      simp only [deliver]
      split <;> rfl

theorem coolant_step (s : Plant) (e : PlantEvent) (c : Coolant) :
    (s.step e).target.coolant c =
      (s.target.coolant c ^^ decide ((s.sent e).count c.toggle % 2 = 1)) := by
  rw [target_step, Accessories.coolant_foldl]

/-- A condition on the frames that are acted on, and on the state in which they arrive. -/
def WhenActedOn (P : Plant → PendantData → Tx → Prop) (s : Plant) : PlantEvent → Prop
  | .frame frame tx => s.panel.ActsOn frame → P s frame tx
  | _ => True

instance (P : Plant → PendantData → Tx → Prop) [∀ s frame tx, Decidable (P s frame tx)]
    (s : Plant) : (e : PlantEvent) → Decidable (WhenActedOn P s e)
  | .frame frame tx => inferInstanceAs (Decidable (s.panel.ActsOn frame → P s frame tx))
  | .menu _ | .tim1 _ | .handle _ | .status _ | .line _ | .deliver =>
      inferInstanceAs (Decidable True)

/-- The frames that are acted on all request `v`. -/
def Requests (c : Coolant) (v : Bool) : Plant → PlantEvent → Prop :=
  WhenActedOn fun _ frame _ => frame.coolant c = v

/-- When a frame is acted on, the panel's copy shows where the coolant is heading. -/
def CopyCurrent (c : Coolant) : Plant → PlantEvent → Prop :=
  WhenActedOn fun s _ _ => s.panel.grblData.coolant c = s.target.coolant c

instance (c : Coolant) (v : Bool) (s : Plant) (e : PlantEvent) : Decidable (Requests c v s e) :=
  inferInstanceAs (Decidable (WhenActedOn _ s e))

instance (c : Coolant) (s : Plant) (e : PlantEvent) : Decidable (CopyCurrent c s e) :=
  inferInstanceAs (Decidable (WhenActedOn _ s e))

variable {s : Plant} {c : Coolant} {v : Bool}

/-- A frame that is acted on leads the coolant to the request exactly if the copy was current. -/
theorem leads_iff {frame : PendantData} {tx : Tx} (acts : s.panel.ActsOn frame)
    (sent : c.toggle ∈ s.panel.framePackets frame → tx c.toggle = true) :
    (s.step (.frame frame tx)).target.coolant c = frame.coolant c ↔
      s.panel.grblData.coolant c = s.target.coolant c := by
  have count : (s.sent (.frame frame tx)).count c.toggle =
      if frame.coolant c ≠ s.panel.grblData.coolant c then 1 else 0 := by
    rw [Plant.sent, Panel.sentBy_frame_coolant]
    by_cases differs : frame.coolant c ≠ s.panel.grblData.coolant c
    · have asked : c.toggle ∈ s.panel.framePackets frame := by
        rw [← List.count_pos_iff, Panel.count_framePackets, if_pos ⟨acts, differs⟩]
        exact Nat.one_pos
      rw [if_pos ⟨acts, sent asked, differs⟩, if_pos differs]
    · rw [if_neg fun all => differs all.2.2, if_neg differs]
  rw [coolant_step, count]
  cases frame.coolant c <;> cases s.panel.grblData.coolant c <;> cases s.target.coolant c <;> decide

/-- A step sends a toggle only to lead the coolant to the request, and at most one. -/
theorem sent_coolant {e : PlantEvent} (requests : Requests c v s e)
    (current : CopyCurrent c s e) :
    (s.sent e).count c.toggle = 0 ∨
      (s.sent e).count c.toggle = 1 ∧ s.target.coolant c ≠ v := by
  cases e with
  | menu input => exact .inl (s.panel.sentBy_menu_coolant input c)
  | tim1 accepted =>
      have none : s.sent (.tim1 accepted) = [] := s.panel.sentBy_tim1 accepted
      exact .inl (by rw [none]; rfl)
  | frame frame tx =>
      have count := s.panel.sentBy_frame_coolant frame tx c
      split at count
      next toggles =>
        obtain ⟨acts, -, differs⟩ := toggles
        refine .inr ⟨count, ?_⟩
        rw [← current acts, ← show frame.coolant c = v from requests acts]
        exact differs.symm
      next => exact .inl count
  | handle report => exact .inl rfl
  | status report => exact .inl rfl
  | line line => exact .inl rfl
  | deliver => exact .inl rfl

/-- The coolant stays where the frames want it. -/
theorem coolant_stays :
    Preserves step (fun s e => Requests c v s e ∧ CopyCurrent c s e)
      fun s => s.target.coolant c = v := by
  rintro s e there ⟨requests, current⟩
  obtain none | ⟨-, elsewhere⟩ := sent_coolant requests current
  · rw [coolant_step, none]
    simpa using there
  · exact absurd there elsewhere

/-- The toggles of a whole run: none if the coolant is heading for the request, else one. -/
theorem count_toggles {es : List PlantEvent}
    (steps : Always step (fun s e => Requests c v s e ∧ CopyCurrent c s e) s es) :
    (trace step sent s es).count c.toggle ≤ if s.target.coolant c = v then 0 else 1 := by
  induction es generalizing s with
  | nil => exact Nat.zero_le _
  | cons e es ih =>
      obtain ⟨⟨requests, current⟩, rest⟩ := steps
      have later := ih rest
      rw [trace, List.count_append]
      rw [coolant_step] at later
      obtain none | ⟨one, elsewhere⟩ := sent_coolant requests current
      · rw [none] at later ⊢
        simpa using later
      · -- the toggle turns the coolant around, to the request
        have arrives : (s.target.coolant c ^^ decide (1 % 2 = 1)) = v := by
          revert elsewhere
          cases s.target.coolant c <;> cases v <;> decide
        rw [one, arrives, if_pos rfl] at later
        rw [one, if_neg elsewhere]
        omega

/-- In every run in which the frames want the same and are acted on only when the panel's copy is
current, each coolant is toggled at most once, however many reports come in between; and when the
controller has taken the toggles, the coolant is as requested by any frame that was acted on. -/
theorem coolant_toggled_once (startup : Startup) (accessories : Accessories) (c : Coolant)
    (v : Bool) (es : List PlantEvent)
    (requests : Always step (Requests c v) (initial startup accessories) es)
    (current : Always step (CopyCurrent c) (initial startup accessories) es) :
    (trace step sent (initial startup accessories) es).count c.toggle ≤ 1 ∧
      ∀ past frame tx future, es = past ++ .frame frame tx :: future →
        (run step (initial startup accessories) past).panel.ActsOn frame →
        tx c.toggle = true →
        c.toggle ∉ (run step (initial startup accessories) es).panel.controllerLine →
        (run step (initial startup accessories) es).accessories.coolant c = v := by
  have steps := requests.and current
  refine ⟨(count_toggles steps).trans (by split <;> decide), ?_⟩
  rintro past frame tx future rfl acts sent taken
  obtain ⟨-, ⟨request, copy⟩, rest⟩ := (always_append ..).mp steps
  rw [run_append, run_cons] at taken ⊢
  have there := coolant_stays.run
    (((leads_iff acts fun _ => sent).mpr (copy acts)).trans (request acts)) rest
  rw [target, Accessories.coolant_foldl, List.count_eq_zero.mpr taken] at there
  simpa using there

/-- MPG mode is requested by ENTER and answered, a report says that all accessories are off, and
the pendant is polled. -/
def enterMpg : List PlantEvent :=
  askForMpg ++ [.handle (statusOf false true), .deliver, .status (statusOf true false), .deliver] ++
    List.replicate 3 (.tim1 true)

/-- The pendant wants MPG mode and flood, and is polled again. -/
def floodWanted : List PlantEvent :=
  .frame { mpg := true, flood := true } (fun _ => true) :: List.replicate 10 (.tim1 true)

/-- The controller takes a packet and reports its accessories. -/
def takeAndReport : List PlantEvent :=
  [.handle (statusOf true false), .status (statusOf true false), .deliver]

set_option maxRecDepth 8000 in
/-- The toggle is taken and reported before the next frame. -/
theorem coolant_toggled_once_session :
    let es := enterMpg ++ floodWanted ++ takeAndReport ++ floodWanted
    (trace step sent (initial {} {}) es).count .coolantFloodToggle ≤ 1 ∧
      (run step (initial {} {}) es).accessories.flood = true := by
  have once := coolant_toggled_once {} {} .flood true
    (enterMpg ++ floodWanted ++ takeAndReport ++ floodWanted) (by decide) (by decide)
  exact ⟨once.1, once.2 enterMpg { mpg := true, flood := true } (fun _ => true)
    (List.replicate 10 (.tim1 true) ++ takeAndReport ++ floodWanted) rfl (by decide) rfl
    (by decide)⟩

set_option maxRecDepth 8000 in
/-- Between two reports of the accessories two frames ask for flood, and each of them sends a
toggle. When all is taken and reported, flood is off. -/
theorem coolant_toggled_twice :
    let s := run step (initial {} {}) enterMpg
    let es := floodWanted ++ floodWanted
    let s' := run step (run step s es) (.handle (statusOf true false) :: takeAndReport)
    Always step (Requests .flood true) s es ∧
      (trace step sent s es).count .coolantFloodToggle = 2 ∧ s'.panel.controllerLine = [] ∧
      s'.lines = [] ∧ s'.panel.grblData.flood = false ∧ s'.accessories.flood = false := by
  decide

end Plant

end Cnc
