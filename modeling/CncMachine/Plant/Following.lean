import CncMachine.Plant.Coolant

/-!
# The machine follows the pendant

When the controller has executed and reported everything before the next frame, the panel's copy
of spindle and coolant is the machine's state, and a frame makes the machine do what it requests.
The one exception is a running spindle that is to turn the other way: `pendant_data_to_action`
compares the request only with the copy of the spindle's on/off bit.
-/

namespace Cnc

open Transition

/-- The copy is right, as far as `pendant_data_to_action` reads it. -/
structure GrblData.Shows (g : GrblData) (a : Accessories) : Prop where
  spindleOn : g.spindleOn = a.spindleOn
  flood : g.flood = a.flood
  mist : g.mist = a.mist

namespace GrblData.Shows

variable {g : GrblData} {a : Accessories}

theorem coolant (shows : g.Shows a) (c : Coolant) : g.coolant c = a.coolant c := by
  cases c
  · exact shows.flood
  · exact shows.mist

theorem afterCall (shows : g.Shows a) (call : Option Bool) : (g.afterCall call).Shows a := by
  obtain _ | _ | _ := call <;> exact ⟨shows.spindleOn, shows.flood, shows.mist⟩

theorem withMpg (shows : g.Shows a) (mode : Bool) : (g.withMpg mode).Shows a := by
  cases mode
  · exact ⟨shows.spindleOn, shows.flood, shows.mist⟩
  · rw [GrblData.withMpg]
    split
    · exact shows
    · exact ⟨shows.spindleOn, shows.flood, shows.mist⟩

theorem withAccessories (g : GrblData) (a : Accessories) : (g.withAccessories a).Shows a :=
  ⟨rfl, rfl, rfl⟩

/-- A report shows the accessories it carries, and one without them leaves the copy right. -/
theorem reported {report : StatusReport} {mode : Bool} {told : Accessories}
    (shows : if report.accessories then told = a else g.Shows a) :
    (g.reported report mode told).Shows a := by
  have copied : (if report.accessories then g.withAccessories told else g).Shows a := by
    split at shows
    next carried =>
      rw [if_pos carried, shows]
      exact withAccessories g a
    next carried =>
      rw [if_neg carried]
      exact shows
  simp only [GrblData.reported]
  split
  · exact copied.withMpg mode
  · exact copied

end GrblData.Shows

namespace Accessories

variable (a : Accessories)

def spindle : Bool × Bool := (a.spindleOn, a.spindleCcw)

/-- The spindle when a mode has been commanded that `pendant_data_to_action` compares with the
on/off bit only: a running spindle keeps its direction. -/
def spindleAfter (mode : BitVec 8) : Bool × Bool :=
  (decide (mode ≠ spindleModeOff),
    if a.spindleOn = false ∧ mode ≠ spindleModeOff then decide (mode = spindleModeCcw)
    else a.spindleCcw)

/-- The machine does what a frame requests. A spindle that is off has no direction. -/
structure Follows (data : PendantData) : Prop where
  spindleOn : a.spindleOn = decide (data.spindleMode ≠ spindleModeOff)
  cw : data.spindleMode = spindleModeCw → a.spindleCcw = false
  ccw : data.spindleMode = spindleModeCcw → a.spindleCcw = true
  flood : a.flood = data.flood
  mist : a.mist = data.mist

instance (data : PendantData) : Decidable (a.Follows data) :=
  decidable_of_iff (a.spindleOn = decide (data.spindleMode ≠ spindleModeOff) ∧
      (data.spindleMode = spindleModeCw → a.spindleCcw = false) ∧
      (data.spindleMode = spindleModeCcw → a.spindleCcw = true) ∧
      a.flood = data.flood ∧ a.mist = data.mist)
    ⟨fun ⟨on, cw, ccw, flood, mist⟩ => ⟨on, cw, ccw, flood, mist⟩,
      fun ⟨on, cw, ccw, flood, mist⟩ => ⟨on, cw, ccw, flood, mist⟩⟩

/-- The spindle runs, and the frame requests the other direction. -/
def Opposes (data : PendantData) : Prop :=
  a.spindleOn = true ∧
    (data.spindleMode = spindleModeCw ∧ a.spindleCcw = true ∨
      data.spindleMode = spindleModeCcw ∧ a.spindleCcw = false)

instance (data : PendantData) : Decidable (a.Opposes data) := inferInstanceAs (Decidable (_ ∧ _))

/-- What the request made of the accessories is right unless the spindle was to be reversed. -/
theorem follows_iff {a b : Accessories} {data : PendantData}
    (spindle : b.spindle = a.spindleAfter data.spindleMode)
    (coolant : ∀ c, b.coolant c = data.coolant c) : b.Follows data ↔ ¬ a.Opposes data := by
  simp only [Accessories.spindle, spindleAfter, Prod.mk.injEq] at spindle
  obtain ⟨on, direction⟩ := spindle
  constructor
  · rintro follows ⟨running, opposite⟩
    rw [if_neg (by simp [running])] at direction
    obtain ⟨cw, turning⟩ | ⟨ccw, turning⟩ := opposite
    · rw [follows.cw cw, turning] at direction
      cases direction
    · rw [follows.ccw ccw, turning] at direction
      cases direction
  · intro unopposed
    refine ⟨on, ?_, ?_, coolant .flood, coolant .mist⟩
    · intro cw
      rw [direction]
      cases running : a.spindleOn
      · rw [if_pos ⟨rfl, by simp [cw]⟩, cw]
        rfl
      · rw [if_neg (by simp)]
        by_contra turning
        exact unopposed ⟨running, .inl ⟨cw, by simpa using turning⟩⟩
    · intro ccw
      rw [direction]
      cases running : a.spindleOn
      · rw [if_pos ⟨rfl, by simp [ccw]⟩, ccw]
        rfl
      · rw [if_neg (by simp)]
        by_contra turning
        exact unopposed ⟨running, .inr ⟨ccw, by simpa using turning⟩⟩

theorem foldl_execute_inert {packets : List Packet}
    (inert : ∀ packet ∈ packets, ∀ a : Accessories, a.execute packet = a) :
    packets.foldl execute a = a :=
  foldl_keeps (P := fun a' => a' = a) packets
    (fun packet member a' same => (inert packet member a').trans same) rfl

/-- Only spindle commands move the spindle. -/
theorem spindle_foldl {packets : List Packet}
    (other : ∀ mode speed, Packet.spindle mode speed ∉ packets) :
    (packets.foldl execute a).spindle = a.spindle := by
  refine foldl_keeps (P := fun a' : Accessories => a'.spindle = a.spindle) packets ?_ rfl
  intro packet member a' same
  rw [← same]
  cases packet with
  | spindle mode speed => exact absurd member (other mode speed)
  | _ => rfl

end Accessories

namespace Panel

variable (s : Panel)

/-- What the spindle commands of an action do if the copy of the on/off bit is right. -/
theorem spindle_spindlePackets {action : PendantAction} {a : Accessories}
    (copy : s.grblData.spindleOn = a.spindleOn)
    (mode : action.spindleMode ∈ [spindleModeOff, spindleModeCw, spindleModeCcw]) :
    ((s.spindlePackets action).foldl Accessories.execute a).spindle =
      a.spindleAfter action.spindleMode := by
  rw [spindlePackets, spindleCode, copy, Accessories.spindleAfter]
  simp only [List.mem_cons, List.not_mem_nil, or_false] at mode
  obtain off | cw | ccw := mode
  · cases on : a.spindleOn <;> simp [off, on, Accessories.execute, Accessories.spindle]
  · cases on : a.spindleOn <;> simp [cw, on, Accessories.execute, Accessories.spindle]
  · cases on : a.spindleOn <;> simp [ccw, on, Accessories.execute, Accessories.spindle]

/-- The spindle after a frame that is acted on and whose packets get out. -/
theorem spindle_foldl_frame {frame : PendantData} {tx : Tx} (acts : s.ActsOn frame)
    (sent : ∀ packet ∈ s.framePackets frame, tx packet = true) {a : Accessories}
    (copy : s.grblData.spindleOn = a.spindleOn)
    (mode : frame.spindleMode ∈ [spindleModeOff, spindleModeCw, spindleModeCcw]) :
    ((s.sentBy (.frame frame tx)).foldl Accessories.execute a).spindle =
      a.spindleAfter frame.spindleMode := by
  have call : (s.grblData.callPackets tx (s.frameCall frame)).foldl Accessories.execute a = a :=
    a.foldl_execute_inert fun packet member a => by rw [GrblData.mem_callPackets member]; rfl
  have movement : ((s.received frame).movementPackets (s.received frame).actedAction).foldl
      Accessories.execute a = a := by
    apply a.foldl_execute_inert
    intro packet member a
    obtain ⟨_, _, _, _, rfl⟩ := mem_movementPackets member
    rfl
  have coolant (mode : Nat) (speed : Int) :
      .spindle mode speed ∉ (s.received frame).coolantPackets (s.received frame).actedAction := by
    intro member
    obtain ⟨eq, -⟩ | ⟨eq, -⟩ := mem_coolantPackets member <;> cases eq
  have system (mode : Nat) (speed : Int) :
      .spindle mode speed ∉ (s.received frame).systemPackets := by
    intro member
    obtain ⟨eq, -⟩ | ⟨eq, -⟩ := mem_systemPackets member <;> cases eq
  rw [sentBy_frame, List.filter_eq_self.mpr sent, framePackets_of_actsOn acts,
    pendantDataToAction]
  simp only [List.foldl_append]
  rw [Accessories.spindle_foldl _ system, Accessories.spindle_foldl _ coolant, call, movement]
  have acted : (s.received frame).actedAction.spindleMode = frame.spindleMode := rfl
  rw [← acted] at mode ⊢
  exact (s.received frame).spindle_spindlePackets copy mode

end Panel

namespace Plant

/-- What is on the line does not move spindle or coolant any more. -/
def Executed (s : Plant) : Prop := s.target = s.accessories

instance (s : Plant) : Decidable s.Executed := inferInstanceAs (Decidable (_ = _))

/-- The event is a frame that is acted on. -/
def ActsOn (s : Plant) : PlantEvent → Prop
  | .frame frame _ => s.panel.ActsOn frame
  | _ => False

instance (s : Plant) : (e : PlantEvent) → Decidable (s.ActsOn e)
  | .frame frame _ => inferInstanceAs (Decidable (s.panel.ActsOn frame))
  | .menu _ | .tim1 _ | .handle _ | .status _ | .line _ | .deliver =>
      inferInstanceAs (Decidable False)

/-- A frame is acted on only when everything is executed and reported, and its packets get out. -/
def InStep : Plant → PlantEvent → Prop :=
  WhenActedOn fun s frame tx =>
    s.Executed ∧ s.informed = true ∧ ∀ packet ∈ s.panel.framePackets frame, tx packet = true

instance (s : Plant) (e : PlantEvent) : Decidable (s.InStep e) :=
  inferInstanceAs (Decidable (WhenActedOn _ s e))

/-- An informed panel has a right copy. -/
def Synced (s : Plant) : Prop := s.informed = true → s.panel.grblData.Shows s.accessories

variable {s : Plant}

theorem Synced.panelStep (synced : s.Synced) {e : PanelEvent} (other : ∀ chunk, e ≠ .grbl chunk)
    (call : Option Bool) : (s.panelStep e call).Synced := by
  intro informed
  obtain ⟨call, eq⟩ := s.panel.grblData_step other
  show (s.panel.step e).grblData.Shows s.accessories
  rw [eq]
  exact (synced informed).afterCall call

theorem Synced.handle (synced : s.Synced) (report : StatusReport) : (s.handle report).Synced := by
  simp only [Plant.handle]
  split
  · exact synced
  · exact synced
  · intro informed
    obtain ⟨before, same⟩ := Bool.and_eq_true_iff.mp informed
    show s.panel.grblData.Shows (s.accessories.execute _)
    rw [eq_of_beq same]
    exact synced before

theorem Synced.deliver (synced : s.Synced) : s.deliver.Synced := by
  simp only [Plant.deliver]
  split
  · exact synced
  next line rest _ =>
    intro informed
    show (grblCallback line.text s.panel.grblData).Shows s.accessories
    cases line with
    | status report mode told answer =>
        obtain ⟨state, substate, text, eq⟩ := report.grblCallback_text mode told s.panel.grblData
        have shows : (s.panel.grblData.reported report mode told).Shows s.accessories := by
          refine .reported ?_
          replace informed : (if report.accessories then told == s.accessories else s.informed) =
            true := informed
          split
          next carried => exact eq_of_beq (by simpa [carried] using informed)
          next carried => exact synced (by simpa [carried] using informed)
        rw [Line.text, eq]
        exact ⟨shows.spindleOn, shows.flood, shows.mist⟩
    | other line =>
        obtain ⟨before, plain⟩ := Bool.and_eq_true_iff.mp informed
        rw [Line.text, grblCallback_other line.other]
        · exact synced before
        · intro modal
          rw [List.isPrefixOf_iff_prefix.mpr modal] at plain
          cases plain

theorem synced_step (s : Plant) (e : PlantEvent) (synced : s.Synced) : (s.step e).Synced := by
  cases e with
  | menu input => exact synced.panelStep (fun _ eq => by cases eq) _
  | tim1 accepted => exact synced.panelStep (fun _ eq => by cases eq) _
  | frame frame tx => exact synced.panelStep (fun _ eq => by cases eq) _
  | handle report => exact synced.handle report
  | status report => exact synced
  | line line => exact synced
  | deliver => exact synced.deliver

/-- Only frames that are acted on move spindle or coolant. -/
theorem target_keeps (s : Plant) (e : PlantEvent) (other : ¬ s.ActsOn e) :
    (s.step e).target = s.target := by
  rw [target_step]
  apply s.target.foldl_execute_inert
  intro packet member a
  cases e with
  | menu input =>
      obtain ⟨packets, manual, eq⟩ := s.panel.sentBy_menu input
      rw [sent, eq, List.mem_append] at member
      obtain call | packet := member
      · rw [GrblData.mem_callPackets call]
        rfl
      · rcases manual _ packet with rfl | ⟨_, _, _, rfl⟩ <;> rfl
  | tim1 accepted =>
      rw [sent, Panel.sentBy_tim1] at member
      cases member
  | frame frame tx =>
      rw [sent, Panel.sentBy_frame, List.mem_append] at member
      obtain call | action := member
      · rw [GrblData.mem_callPackets call]
        rfl
      · exact absurd (Panel.mem_framePackets (List.mem_filter.mp action).1).1 other
  | _ => cases member

/-- One frame: what the machine will do compared with what the frame requests. -/
theorem follows_target_iff {frame : PendantData} {tx : Tx} (synced : s.Synced)
    (acts : s.panel.ActsOn frame) (inStep : s.InStep (.frame frame tx))
    (mode : frame.spindleMode ∈ [spindleModeOff, spindleModeCw, spindleModeCcw]) :
    (s.step (.frame frame tx)).target.Follows frame ↔ ¬ s.accessories.Opposes frame := by
  obtain ⟨executed, informed, sent⟩ := inStep acts
  have shows := synced informed
  have moved : (s.step (.frame frame tx)).target =
      (s.panel.sentBy (.frame frame tx)).foldl Accessories.execute s.accessories := by
    rw [target_step, show s.target = s.accessories from executed]
    rfl
  have spindle := s.panel.spindle_foldl_frame acts sent shows.spindleOn mode
  rw [← moved] at spindle
  have coolant (c : Coolant) : (s.step (.frame frame tx)).target.coolant c = frame.coolant c :=
    (leads_iff acts (sent _)).mpr (by rw [shows.coolant, executed])
  exact Accessories.follows_iff spindle coolant

/-- In every run in which each frame is acted on only when everything before it is executed and
reported: when the packets of a frame are executed, and no other frame has been acted on since,
the machine follows the frame if and only if the frame did not oppose a running spindle. -/
theorem machine_follows (startup : Startup) (accessories : Accessories)
    (past future : List PlantEvent) (frame : PendantData) (tx : Tx)
    (inStep : Always step InStep (initial startup accessories)
      (past ++ .frame frame tx :: future))
    (acts : (run step (initial startup accessories) past).panel.ActsOn frame)
    (mode : frame.spindleMode ∈ [spindleModeOff, spindleModeCw, spindleModeCcw])
    (last : Always step (fun s e => ¬ s.ActsOn e)
      ((run step (initial startup accessories) past).step (.frame frame tx)) future)
    (executed : (run step (initial startup accessories)
      (past ++ .frame frame tx :: future)).Executed) :
    (run step (initial startup accessories)
        (past ++ .frame frame tx :: future)).accessories.Follows frame ↔
      ¬ (run step (initial startup accessories) past).accessories.Opposes frame := by
  have synced : (run step (initial startup accessories) past).Synced :=
    invariant_run (I := Synced) synced_step (fun informed => by cases informed) past
  obtain ⟨-, now, -⟩ := (always_append ..).mp inStep
  rw [run_append, run_cons] at executed ⊢
  have target : (run step ((run step (initial startup accessories) past).step
      (.frame frame tx)) future).target =
        ((run step (initial startup accessories) past).step (.frame frame tx)).target :=
    Preserves.run (I := fun s : Plant => s.target = _)
      (fun s e same other => (target_keeps s e other).trans same) rfl last
  rw [← executed, target]
  exact follows_target_iff synced acts now mode

/-- A frame with these requests. -/
def wanted (spindleMode : BitVec 8) (flood mist : Bool) : PendantData :=
  { mpg := true, spindleMode, flood, mist }

/-- Two packets are executed and reported, and the pendant is polled again. -/
def executeAndReport : List PlantEvent :=
  .handle (statusOf true false) :: (takeAndReport ++ List.replicate 10 (.tim1 true))

set_option maxRecDepth 8000 in
/-- Spindle and flood are turned on, then the spindle off and mist on. -/
theorem machine_follows_session :
    let past := enterMpg ++ .frame (wanted spindleModeCcw true false) (fun _ => true) ::
      executeAndReport
    (run step (initial {} {}) (past ++ .frame (wanted spindleModeOff true true) (fun _ => true) ::
      executeAndReport)).accessories.Follows (wanted spindleModeOff true true) :=
  (machine_follows {} {} (enterMpg ++ .frame (wanted spindleModeCcw true false) (fun _ => true) ::
      executeAndReport) executeAndReport (wanted spindleModeOff true true) (fun _ => true)
    (by decide) (by decide) (by decide) (by decide) (by decide)).mpr (by decide)

set_option maxRecDepth 8000 in
/-- The spindle runs clockwise when the first frame requests the other direction: flood is turned
on, the direction stays. -/
theorem machine_keeps_turning :
    let frame := wanted spindleModeCcw true false
    let es := enterMpg ++ .frame frame (fun _ => true) :: takeAndReport
    let s := run step (initial {} { spindleOn := true }) enterMpg
    let s' := run step (initial {} { spindleOn := true }) es
    Always step InStep (initial {} { spindleOn := true }) es ∧ s.panel.ActsOn frame ∧
      s'.Executed ∧ s'.informed = true ∧
      s'.accessories = { spindleOn := true, flood := true } ∧ ¬ s'.accessories.Follows frame := by
  decide

end Plant

end Cnc
