import CncMachine.Memory.Layout
import CncMachine.Panel.Gate

/-!
# Frames of the pendant as bytes

The pendant sends a raw copy of its data record and the panel copies what it has received over
its own record. The two records are declared separately, the pendant's has one more member at the
end; both take 20 bytes and share the offsets of their common members. After a complete frame the
panel's record is the pendant's, up to what the handler itself changes in it. The size of what has
been received is not looked at.
-/

namespace Cnc

open Memory Transition

/-- The sizes of the members of the panel's `pendant_data_t`. -/
def PendantData.sizes : List Nat := [4, 4, 1, 1, 1, 1, 1, 1, 1, 1, 1]

/-- The sizes of the members of the pendant's `pendant_data_t`. -/
def SystemData.sizes : List Nat := [4, 4, 1, 1, 1, 1, 1, 1, 1, 1, 1, 1]

def PendantData.values (data : PendantData) : List Nat :=
  [data.encoder1Val.toNat, data.encoder2Val.toNat, data.xAxisMultiplicity.toNat,
    data.yzAxisMultiplicity.toNat, data.yOrZ.toNat, data.jogMode.toNat, data.spindleMode.toNat,
    data.systemStatus.toNat, data.mpg.toNat, data.flood.toNat, data.mist.toNat]

def SystemData.values (data : SystemData) : List Nat :=
  data.toPendantData.values ++ [data.signals.toNat]

/-- The record whose members have these values. -/
def PendantData.ofValues (values : List Nat) : PendantData where
  encoder1Val := BitVec.ofNat 32 (values.getD 0 0)
  encoder2Val := BitVec.ofNat 32 (values.getD 1 0)
  xAxisMultiplicity := BitVec.ofNat 8 (values.getD 2 0)
  yzAxisMultiplicity := BitVec.ofNat 8 (values.getD 3 0)
  yOrZ := values.getD 4 0 != 0
  jogMode := BitVec.ofNat 8 (values.getD 5 0)
  spindleMode := BitVec.ofNat 8 (values.getD 6 0)
  systemStatus := BitVec.ofNat 8 (values.getD 7 0)
  mpg := values.getD 8 0 != 0
  flood := values.getD 9 0 != 0
  mist := values.getD 10 0 != 0

/-- `sizeof(pendant_data_t)` on the pendant. -/
def frameSize : Nat := sizeOfStruct SystemData.sizes

/-- The members of the record in the pendant's memory. -/
def SystemData.fields (data : SystemData) : List (Nat × Nat) := sizes.zip data.values

/-- What `send_system_data` sends: the record as it stands in memory, gaps included. -/
def SystemData.frame (gap : Nat → Byte) (data : SystemData) : List Byte :=
  image gap 0 data.fields ++
    (List.range' (endFrom 0 sizes) (frameSize - endFrom 0 sizes)).map gap

/-- `memcpy(&pendant_data, uart4_rx_buf, sizeof(pendant_data_t))`. -/
def PendantData.ofMemory (memory : List Byte) : PendantData :=
  ofValues (members memory 0 sizes)

theorem PendantData.ofValues_values (data : PendantData) (more : List Nat) :
    ofValues (data.values ++ more) = data := by
  have bit (b : Bool) : (b.toNat != 0) = b := by cases b <;> rfl
  simp [ofValues, values, bit]

/-- The values fit into their members. -/
theorem SystemData.fields_mod (data : SystemData) :
    (data.fields.map fun field => field.2 % 256 ^ field.1) = data.values := by
  have bit (b : Bool) : b.toNat % 256 = b.toNat := by cases b <;> rfl
  have byte (x : BitVec 8) : x.toNat % 256 = x.toNat := Nat.mod_eq_of_lt x.isLt
  have word (x : BitVec 32) : x.toNat % 4294967296 = x.toNat := Nat.mod_eq_of_lt x.isLt
  simp [fields, sizes, values, PendantData.values, bit, byte, word]

/-- The panel reads the common members of a frame as the pendant has stored them. -/
theorem ofMemory_frame (gap : Nat → Byte) (data : SystemData) (after : List Byte) :
    PendantData.ofMemory (data.frame gap ++ after) = data.toPendantData := by
  have positive : ∀ field ∈ data.fields, 0 < field.1 := by
    intro field member
    have size := List.of_mem_zip member
    simp [SystemData.sizes] at size
    omega
  have sizes : data.fields.map Prod.fst = PendantData.sizes ++ [1] := rfl
  have read := members_image gap positive [] ((List.range' (endFrom 0 SystemData.sizes)
    (frameSize - endFrom 0 SystemData.sizes)).map gap ++ after)
  rw [data.fields_mod, sizes, List.nil_append, List.length_nil, members_append,
    SystemData.values] at read
  have common := (List.append_inj read rfl).1
  rw [PendantData.ofMemory, SystemData.frame, List.append_assoc, common,
    ← List.append_nil data.toPendantData.values]
  exact data.toPendantData.ofValues_values []

/-- The panel with the buffer its DMA writes frames to. -/
structure PendantPort where
  panel : Panel
  /-- `uart4_rx_buf`, of `PENDANT_BUF_SIZE` bytes. -/
  rxBuf : List Byte := List.replicate 32 0

inductive PortEvent where
  | chunk (bytes : List Byte) (tx : Tx)
  | panel (e : PanelEvent)

namespace PendantPort

/-- The UART4 part of `HAL_UARTEx_RxEventCallback` for a chunk of bytes, which stands at the start
of the buffer. The size of the chunk plays no part. -/
def chunkCallback (bytes : List Byte) (tx : Tx) (port : PendantPort) : PendantPort :=
  let memory := bytes ++ port.rxBuf.drop bytes.length
  { panel := (port.panel.uart4Callback tx (.ofMemory memory)).1
    rxBuf := List.replicate 32 0 }

def step (port : PendantPort) : PortEvent → PendantPort
  | .chunk bytes tx => port.chunkCallback bytes tx
  | .panel e => { port with panel := port.panel.step e }

def initial (startup : Startup) : PendantPort where
  panel := Panel.initial startup

end PendantPort

/-- What the handler makes of a record it has taken over: while the panel waits for the pendant to
turn its MPG functionality off, the flag is cleared and the status is idle; otherwise a frame that
does not keep up the MPG mode loses the flag and the encoders. -/
def Panel.taken (s : Panel) (data : PendantData) : PendantData :=
  if s.Listens then
    if s.pendantControl.turnOffMpg then
      { data with mpg := false, systemStatus := GrblState.idle.code }
    else if data.mpg && (s.grblData.mpgMode || s.grblData.mpgEnableOngoing) then data
    else { data with mpg := false, encoder1Val := 0, encoder2Val := 0 }
  else data

theorem Panel.uart4Callback_pendantData (s : Panel) (tx : Tx) (data : PendantData) :
    (s.uart4Callback tx data).1.pendantData = s.taken data := by
  simp only [taken]
  obtain ⟨deaf, eq⟩ | ⟨listens, turnOff, eq⟩ | ⟨⟨listens, stays⟩, eq⟩ :=
    uart4Callback_cases tx data s
  · rw [eq, if_neg deaf]
  · rw [eq, if_pos listens, turnOff]
    rfl
  · rw [eq, process_eq, if_pos listens, stays]
    rfl

namespace PendantPort

variable {port : PendantPort}

/-- The panel's record after a chunk is that of the frame the chunk is, and untouched by anything
else than a frame. -/
def Intact (port : PendantPort) (e : PortEvent) : Prop :=
  ∀ bytes tx, e = .chunk bytes tx →
    (∀ gap data, bytes = SystemData.frame gap data →
      (port.step e).panel.pendantData = data.toPendantData) ∧
    (bytes.length ≠ frameSize → (port.step e).panel.pendantData = port.panel.pendantData)

/-- In every run, after a complete frame the panel's record is the pendant's, up to what the
handler itself changes in it. -/
theorem frame_taken (startup : Startup) (es : List PortEvent) :
    Always step (fun port e => ∀ tx gap data, e = .chunk (SystemData.frame gap data) tx →
      (port.step e).panel.pendantData = port.panel.taken data.toPendantData)
      (initial startup) es := by
  refine (always_true _ es).mono ?_
  intro port e _ tx gap data received
  subst received
  show (port.panel.uart4Callback tx _).1.pendantData = _
  rw [Panel.uart4Callback_pendantData, ofMemory_frame]

/-- The pendant asks for MPG mode with its flood switch on. -/
def asking : SystemData := { mpg := true, flood := true }

/-- The Manual menu is open and the controller reports MPG mode or not, with the flood on. -/
def polled (mode : Char) : List PortEvent :=
  Panel.openManual.map .panel ++
    [.panel (.grbl ("<Idle|A:F|MPG:".toList ++ mode :: ">\r\n".toList))]

/-- Its frame, with zeros in the gaps. -/
def askingFrame : List Byte := asking.frame fun _ => 0

set_option maxRecDepth 8000 in
/-- The frame that first asks for MPG mode is stored without the flag. A frame that is cut after
its flag is stored with zeros in place of the rest, and acted on: the panel switches the flood
off. -/
theorem not_intact_polled :
    ¬ Intact (run step (initial {}) (polled '0')) (.chunk askingFrame fun _ => true) ∧
    ¬ Intact (run step (initial {}) (polled '1'))
      (.chunk (askingFrame.take 15) fun _ => true) ∧
    Packet.coolantFloodToggle ∈ ((run step (initial {}) (polled '1')).step
      (.chunk (askingFrame.take 15) fun _ => true)).panel.controllerLine := by
  refine ⟨?_, ?_, by decide⟩
  · intro intact
    have whole := (intact _ _ rfl).1 (fun _ => 0) asking rfl
    exact absurd (congrArg PendantData.mpg whole) (by decide)
  · intro intact
    have cut := (intact _ _ rfl).2 (by decide)
    exact absurd (congrArg PendantData.mpg cut) (by decide)

end PendantPort

end Cnc
