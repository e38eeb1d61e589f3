import CncMachine.Transition.Run

/-!
# Areas of one colour

The screen controller takes commands and data on a parallel bus. An area is filled by setting a
window and flooding it: `R61529_Flood` sends the colour once, then in blocks and then for the rest.
A block is meant to be of 64 pixels and is of 80, so that only an area without blocks is flooded
exactly.
-/

namespace Cnc

open Transition

/-- `Lcd_Write_Reg` or `Lcd_Write_Data`. -/
inductive LcdWrite where
  | reg (index : BitVec 16)
  | data (data : BitVec 16)
deriving DecidableEq, Repr

/-- `while(n--) body` for a body that only writes. -/
def writeTimes (body : List LcdWrite) : Nat → List LcdWrite
  | 0 => []
  | n + 1 => body ++ writeTimes body n

/-- `R61529_SetAddrWindow`. -/
def setAddrWindow (x1 y1 x2 y2 : BitVec 16) : List LcdWrite :=
  [.reg 0x2A, .data (x1 >>> 8), .data (x1 &&& 0xFF), .data (x2 >>> 8), .data (x2 &&& 0xFF),
    .reg 0x2B, .data (y1 >>> 8), .data (y1 &&& 0xFF), .data (y2 >>> 8), .data (y2 &&& 0xFF),
    .reg 0x2C]

/-- A pass of the outer loop of `R61529_Flood`: `i=16; do ... while(--i);`. -/
def floodBlock (color : BitVec 16) : List LcdWrite :=
  writeTimes [.data color, .data color, .data color, .data color, .data color] 16

/-- `R61529_Flood`. -/
def flood (color : BitVec 16) (len : BitVec 32) : List LcdWrite :=
  let rest := len - 1
  let blocks : BitVec 16 := (rest / 64).setWidth 16
  [.reg 0x2C, .data color] ++ writeTimes (floodBlock color) blocks.toNat ++
    writeTimes [.data color] (rest.setWidth 8 &&& 63).toNat

/-- `X_SIZE` and `Y_SIZE`. -/
structure Lcd where
  xSize : BitVec 16 := 480
  ySize : BitVec 16 := 320
deriving DecidableEq, Repr

namespace Lcd

variable (lcd : Lcd)

/-- `R61529_SetRotation`, without its writes. -/
def setRotation (lcd : Lcd) (r : BitVec 8) : Lcd :=
  match r.toNat with
  | 0 => { lcd with xSize := 480, ySize := 320 }
  | 1 => { lcd with xSize := 320, ySize := 480 }
  | 2 => { lcd with xSize := 480, ySize := 320 }
  | 3 => { lcd with xSize := 320, ySize := 480 }
  | _ => lcd

/-- `R61529_FillScreen`. -/
def fillScreen (color : BitVec 16) : List LcdWrite :=
  setAddrWindow 0 0 (lcd.xSize - 1) (lcd.ySize - 1) ++
    flood color (lcd.xSize.setWidth 32 * lcd.ySize.setWidth 32)

/-- `R61529_DrawPixel`. -/
def drawPixel (x y : Int) (color : BitVec 16) : List LcdWrite :=
  if x < 0 ∨ y < 0 ∨ x ≥ lcd.xSize.toNat ∨ y ≥ lcd.ySize.toNat then []
  else
    setAddrWindow (.ofInt 16 x) (.ofInt 16 y) (.ofInt 16 x) (.ofInt 16 y) ++
      [.reg 0x2C, .data color]

/-- The loop of `R61529_DrawLine`, for so many steps along the longer side. -/
def linePixels (steep : Bool) (color : BitVec 16) (dx dy ystep : Int) :
    Nat → BitVec 16 → BitVec 16 → Int → List LcdWrite
  | 0, _, _, _ => []
  | n + 1, x, y, err =>
      (if steep then lcd.drawPixel y.toNat x.toNat color
        else lcd.drawPixel x.toNat y.toNat color) ++
        if err - dy < 0 then linePixels steep color dx dy ystep n (x + 1) (y + .ofInt 16 ystep) dx
        else linePixels steep color dx dy ystep n (x + 1) y (err - dy)

/-- `R61529_DrawLine`. A line up to the last number of 16 bits never ends. -/
def drawLine (color x1 y1 x2 y2 : BitVec 16) : Option (List LcdWrite) :=
  let distance (a b : BitVec 16) : Nat := ((b.toNat : Int) - a.toNat).natAbs
  let steep := distance y1 y2 > distance x1 x2
  let (x1, y1, x2, y2) := if steep then (y1, x1, y2, x2) else (x1, y1, x2, y2)
  let (x1, y1, x2, y2) := if x1 > x2 then (x2, y2, x1, y1) else (x1, y1, x2, y2)
  if x2 = 0xFFFF then none
  else
    let dx := x2.toNat - x1.toNat
    some (lcd.linePixels steep color dx (distance y1 y2) (if y1 < y2 then 1 else -1) (dx + 1)
      x1 y1 (dx / 2))

/-- `R61529_FillRect`, `none` if it does not end. -/
def fillRect (color x1 y1 x2 y2 : BitVec 16) : Option (List LcdWrite) :=
  if (x1 = x2 ∧ y1 ≠ y2) ∨ (x1 ≠ x2 ∧ y1 = y2) then lcd.drawLine color x1 y1 x2 y2
  else
    let x2 := if x2 = 480 then 479 else x2
    let y2 := if y2 = 320 then 319 else y2
    some (setAddrWindow x1 y1 x2 y2 ++
      flood color ((x2 - x1 + 1).setWidth 32 * (y2 - y1 + 1).setWidth 32))

end Lcd

section

variable {color : BitVec 16} {len : BitVec 32}

theorem writeTimes_replicate (k n : Nat) :
    writeTimes (List.replicate k (.data color)) n = List.replicate (k * n) (.data color) := by
  induction n with
  | zero => rfl
  | succ n ih =>
      rw [writeTimes, ih, List.replicate_append_replicate, Nat.mul_succ, Nat.add_comm]

/-- The pixels of a flood, with a number of blocks of 16 bits. -/
def floodCount (len : BitVec 32) : Nat :=
  1 + 80 * ((len.toNat - 1) / 64 % 65536) + (len.toNat - 1) % 64

theorem flood_eq (color : BitVec 16) (some : 1 ≤ len) :
    flood color len = .reg 0x2C :: List.replicate (floodCount len) (.data color) := by
  have block : floodBlock color = List.replicate 80 (.data color) := writeTimes_replicate 5 16
  have rest : (len - 1).toNat = len.toNat - 1 := BitVec.toNat_sub_of_le some
  have blocks : (((len - 1) / 64).setWidth 16).toNat = (len.toNat - 1) / 64 % 65536 := by
    rw [BitVec.toNat_setWidth, BitVec.toNat_udiv, rest]
    rfl
  have last : ((len - 1).setWidth 8 &&& 63).toNat = (len.toNat - 1) % 64 := by
    rw [BitVec.toNat_and, BitVec.toNat_setWidth, rest]
    have low : (len.toNat - 1) % 2 ^ 8 &&& 2 ^ 6 - 1 = (len.toNat - 1) % 2 ^ 8 % 2 ^ 6 :=
      Nat.and_two_pow_sub_one_eq_mod _ 6
    exact low.trans (Nat.mod_mod_of_dvd _ ⟨4, rfl⟩)
  rw [flood, block, blocks, last, writeTimes_replicate]
  have single : ([.data color] : List LcdWrite) = List.replicate 1 (.data color) := rfl
  rw [single, writeTimes_replicate, floodCount, List.replicate_add, List.replicate_add, Nat.one_mul]
  rfl

/-- The blocks are too long by a quarter, so there must not be any. -/
theorem floodCount_eq_iff (some : 1 ≤ len) : floodCount len = len.toNat ↔ len.toNat ≤ 64 := by
  have some : 1 ≤ len.toNat := some
  have range := len.isLt
  simp only [floodCount]
  omega

/-- One command to write to the memory and then so many pixels. -/
def FloodsExactly (color : BitVec 16) (count : Nat) (writes : List LcdWrite) : Prop :=
  writes = .reg 0x2C :: List.replicate count (.data color)

instance (color : BitVec 16) (count : Nat) (writes : List LcdWrite) :
    Decidable (FloodsExactly color count writes) :=
  inferInstanceAs (Decidable (_ = _))

theorem floodsExactly_iff (color : BitVec 16) (some : 1 ≤ len) :
    FloodsExactly color len.toNat (flood color len) ↔ len.toNat ≤ 64 := by
  rw [FloodsExactly, flood_eq color some, ← floodCount_eq_iff some]
  constructor
  · intro same
    simpa using congrArg List.length same
  · intro same
    rw [same]

end

namespace Lcd

variable {lcd : Lcd} {color x1 y1 x2 y2 : BitVec 16}

/-- The rectangle with both corners. -/
def area (x1 y1 x2 y2 : BitVec 16) : Nat :=
  (x2.toNat - x1.toNat + 1) * (y2.toNat - y1.toNat + 1)

/-- A side of a rectangle that fits in 16 bits. -/
theorem toNat_side {a b : BitVec 16} (before : a < b) (inside : b.toNat < 65535) :
    ((b - a + 1).setWidth 32).toNat = b.toNat - a.toNat + 1 := by
  have before : a.toNat < b.toNat := before
  have difference : (b - a).toNat = b.toNat - a.toNat :=
    BitVec.toNat_sub_of_le (Nat.le_of_lt before)
  have one : (1 : BitVec 16).toNat = 1 := rfl
  rw [BitVec.toNat_setWidth, BitVec.toNat_add, difference, one]
  omega

theorem area_bounds (x1 y1 : BitVec 16) (right : x2.toNat < 480) (bottom : y2.toNat < 320) :
    1 ≤ area x1 y1 x2 y2 ∧ area x1 y1 x2 y2 ≤ 480 * 320 := by
  constructor
  · exact Nat.mul_le_mul (Nat.succ_le_succ (Nat.zero_le _)) (Nat.succ_le_succ (Nat.zero_le _))
  · exact Nat.mul_le_mul (by omega) (by omega)

/-- The number of pixels that a rectangle is flooded with. -/
theorem toNat_area (left : x1 < x2) (right : x2.toNat < 480) (top : y1 < y2)
    (bottom : y2.toNat < 320) :
    ((x2 - x1 + 1).setWidth 32 * (y2 - y1 + 1).setWidth 32).toNat = area x1 y1 x2 y2 := by
  have most := (area_bounds x1 y1 right bottom).2
  rw [area] at most
  rw [BitVec.toNat_mul, toNat_side left (by omega), toNat_side top (by omega), area]
  exact Nat.mod_eq_of_lt (by omega)

theorem fillRect_eq (lcd : Lcd) (color : BitVec 16) (left : x1 < x2) (right : x2 < 480)
    (top : y1 < y2) (bottom : y2 < 320) :
    ∃ len : BitVec 32, 1 ≤ len ∧ len.toNat = area x1 y1 x2 y2 ∧
      lcd.fillRect color x1 y1 x2 y2 = some (setAddrWindow x1 y1 x2 y2 ++ flood color len) := by
  have len := toNat_area left right top bottom
  refine ⟨(x2 - x1 + 1).setWidth 32 * (y2 - y1 + 1).setWidth 32, ?_, len, ?_⟩
  · rw [BitVec.le_def, len]
    exact (area_bounds x1 y1 right bottom).1
  · have apart : ¬ ((x1 = x2 ∧ y1 ≠ y2) ∨ (x1 ≠ x2 ∧ y1 = y2)) := by
      rintro (⟨rfl, -⟩ | ⟨-, rfl⟩)
      · exact absurd left (Nat.lt_irrefl _)
      · exact absurd top (Nat.lt_irrefl _)
    have right' : x2 ≠ 480 := by
      rintro rfl
      exact absurd right (by decide)
    have bottom' : y2 ≠ 320 := by
      rintro rfl
      exact absurd bottom (by decide)
    simp only [fillRect]
    rw [if_neg apart, if_neg right', if_neg bottom']

/-- Both sizes of the screen. -/
theorem size_run (rs : List (BitVec 8)) :
    run setRotation {} rs = { xSize := 480, ySize := 320 } ∨
      run setRotation {} rs = { xSize := 320, ySize := 480 } := by
  refine invariant_run (I := fun lcd : Lcd =>
    lcd = { xSize := 480, ySize := 320 } ∨ lcd = { xSize := 320, ySize := 480 }) ?_ (.inl rfl) rs
  intro lcd r size
  simp only [setRotation]
  split
  · exact .inl rfl
  · exact .inr rfl
  · exact .inl rfl
  · exact .inr rfl
  · exact size

/-- A flood sends its pixels and no others exactly up to a length of 64, so a rectangle does up to
an area of 64 and the screen never does. -/
theorem flood_exact_iff (color : BitVec 16) (rs : List (BitVec 8)) :
    (∀ len : BitVec 32, 1 ≤ len →
      (FloodsExactly color len.toNat (flood color len) ↔ len.toNat ≤ 64)) ∧
    (∀ x1 y1 x2 y2 : BitVec 16, x1 < x2 → x2 < 480 → y1 < y2 → y2 < 320 →
      ((∃ writes, (run setRotation {} rs).fillRect color x1 y1 x2 y2 =
          some (setAddrWindow x1 y1 x2 y2 ++ writes) ∧
        FloodsExactly color (area x1 y1 x2 y2) writes) ↔ area x1 y1 x2 y2 ≤ 64)) ∧
    ¬ ∃ writes, (run setRotation {} rs).fillScreen color =
        setAddrWindow 0 0 ((run setRotation {} rs).xSize - 1)
          ((run setRotation {} rs).ySize - 1) ++ writes ∧
      FloodsExactly color
        ((run setRotation {} rs).xSize.toNat * (run setRotation {} rs).ySize.toNat) writes := by
  refine ⟨fun len some => floodsExactly_iff color some, ?_, ?_⟩
  · intro x1 y1 x2 y2 left right top bottom
    obtain ⟨len, some, covers, eq⟩ :=
      fillRect_eq (run setRotation {} rs) color left right top bottom
    rw [eq, ← covers, ← floodsExactly_iff color some]
    constructor
    · rintro ⟨writes, same, exactly⟩
      rw [List.append_cancel_left (Option.some.inj same)]
      exact exactly
    · exact fun exactly => ⟨flood color len, rfl, exactly⟩
  · rintro ⟨writes, same, exactly⟩
    rw [fillScreen] at same
    obtain rfl := List.append_cancel_left same
    obtain size | size := size_run rs
    · rw [size] at exactly
      have some : (1 : BitVec 32) ≤ 480 * 320 := by decide
      have short := (floodsExactly_iff color some).mp exactly
      exact absurd short (by decide)
    · rw [size] at exactly
      have some : (1 : BitVec 32) ≤ 320 * 480 := by decide
      have short := (floodsExactly_iff color some).mp exactly
      exact absurd short (by decide)

/-- The longest flood without a block. -/
theorem flood_sixty_four : FloodsExactly 0xF800 64 (flood 0xF800 64) :=
  ((flood_exact_iff 0xF800 []).1 64 (by decide)).mpr (by decide)

/-- One more pixel makes it a block, and 81 pixels. -/
theorem flood_sixty_five :
    flood 0xF800 65 = .reg 0x2C :: List.replicate 81 (.data 0xF800) ∧
      ¬ FloodsExactly 0xF800 65 (flood 0xF800 65) := by
  decide

end Lcd

end Cnc
