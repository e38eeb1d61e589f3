import Mathlib.Algebra.Order.Ring.Nat
import Mathlib.Data.List.Basic

/-!
# Structs in memory

A struct of integers is laid out member after member, each at the next position that is aligned
to its own size, as the ARM ABI has it; values are little-endian and the gaps hold anything. What
is read at a member's offset is what was stored there (`members_image`), and a struct that starts
with the members of another one has them at the same offsets (`offsetsFrom_append`).
-/

namespace Memory

abbrev Byte := BitVec 8

/-- The next multiple of an alignment. -/
def alignUp (pos size : Nat) : Nat := (pos + (size - 1)) / size * size

/-- The offsets of members with the given sizes. -/
def offsetsFrom (pos : Nat) : List Nat → List Nat
  | [] => []
  | size :: sizes => alignUp pos size :: offsetsFrom (alignUp pos size + size) sizes

/-- The position behind the last member. -/
def endFrom (pos : Nat) : List Nat → Nat
  | [] => pos
  | size :: sizes => endFrom (alignUp pos size + size) sizes

/-- `sizeof` a struct: its end, aligned for its largest member. -/
def sizeOfStruct (sizes : List Nat) : Nat := alignUp (endFrom 0 sizes) (sizes.foldr max 1)

/-- The little-endian bytes of a value. -/
def store : Nat → Nat → List Byte
  | 0, _ => []
  | size + 1, value => BitVec.ofNat 8 value :: store size (value / 256)

/-- The value of little-endian bytes. -/
def load : List Byte → Nat
  | [] => 0
  | byte :: bytes => byte.toNat + 256 * load bytes

/-- The value of `size` bytes at an offset. -/
def read (memory : List Byte) (offset size : Nat) : Nat :=
  load ((memory.drop offset).take size)

/-- The values of a struct's members. -/
def members (memory : List Byte) (pos : Nat) (sizes : List Nat) : List Nat :=
  List.zipWith (read memory) (offsetsFrom pos sizes) sizes

/-- The bytes of members from a position on, each given by its size and value; `gap` is what
stands in the memory between them. -/
def image (gap : Nat → Byte) (pos : Nat) : List (Nat × Nat) → List Byte
  | [] => []
  | (size, value) :: rest =>
      (List.range' pos (alignUp pos size - pos)).map gap ++ store size value ++
        image gap (alignUp pos size + size) rest

@[simp] theorem length_store (size value : Nat) : (store size value).length = size := by
  induction size generalizing value with
  | zero => rfl
  | succ size ih => rw [store, List.length_cons, ih]

theorem load_store (size value : Nat) : load (store size value) = value % 256 ^ size := by
  induction size generalizing value with
  | zero => simp [store, load, Nat.mod_one]
  | succ size ih =>
      have byte : (2 : Nat) ^ 8 = 256 := rfl
      rw [store, load, ih, BitVec.toNat_ofNat, byte, Nat.pow_succ', Nat.mod_mul]

theorem le_alignUp {pos size : Nat} (positive : 0 < size) : pos ≤ alignUp pos size := by
  simp only [alignUp]
  have rounded := Nat.lt_div_mul_add positive (a := pos + (size - 1))
  omega

theorem offsetsFrom_append (pos : Nat) (sizes more : List Nat) :
    offsetsFrom pos (sizes ++ more) =
      offsetsFrom pos sizes ++ offsetsFrom (endFrom pos sizes) more := by
  induction sizes generalizing pos with
  | nil => rfl
  | cons size sizes ih => simp only [List.cons_append, offsetsFrom, endFrom, ih]

@[simp] theorem length_offsetsFrom (pos : Nat) (sizes : List Nat) :
    (offsetsFrom pos sizes).length = sizes.length := by
  induction sizes generalizing pos with
  | nil => rfl
  | cons size sizes ih => rw [offsetsFrom, List.length_cons, ih, List.length_cons]

/-- The members of a shorter struct are read from a longer one that starts with them. -/
theorem members_append (memory : List Byte) (pos : Nat) (sizes more : List Nat) :
    members memory pos (sizes ++ more) =
      members memory pos sizes ++ members memory (endFrom pos sizes) more := by
  rw [members, offsetsFrom_append, List.zipWith_append (by simp)]
  rfl

/-- Reading a value where it was stored. -/
theorem read_stored (before after : List Byte) (size value : Nat) :
    read (before ++ store size value ++ after) before.length size = value % 256 ^ size := by
  rw [read, List.append_assoc, List.drop_left,
    List.take_append_of_le_length (by simp), List.take_of_length_le (by simp), load_store]

/-- The members of an image are its values. -/
theorem members_image (gap : Nat → Byte) {fields : List (Nat × Nat)}
    (positive : ∀ field ∈ fields, 0 < field.1) (before after : List Byte) :
    members (before ++ image gap before.length fields ++ after) before.length
        (fields.map Prod.fst) = fields.map fun field => field.2 % 256 ^ field.1 := by
  induction fields generalizing before with
  | nil => rfl
  | cons field rest ih =>
      obtain ⟨size, value⟩ := field
      have aligned : before.length ≤ alignUp before.length size :=
        le_alignUp (positive (size, value) (.head _))
      -- the member and what stands before it are the memory before the rest
      let padded := before ++
        (List.range' before.length (alignUp before.length size - before.length)).map gap
      have padded_length : padded.length = alignUp before.length size := by
        rw [List.length_append, List.length_map, List.length_range']
        exact Nat.add_sub_cancel' aligned
      have tail := ih (fun field member => positive field (.tail _ member))
        (padded ++ store size value)
      have length : (padded ++ store size value).length = alignUp before.length size + size := by
        rw [List.length_append, padded_length, length_store]
      rw [length] at tail
      have whole : before ++ image gap before.length ((size, value) :: rest) ++ after =
          padded ++ store size value ++
            image gap (alignUp before.length size + size) rest ++ after := by
        simp [image, padded]
      have head : read (padded ++ store size value ++
          image gap (alignUp before.length size + size) rest ++ after)
            (alignUp before.length size) size = value % 256 ^ size := by
        rw [← padded_length, List.append_assoc]
        exact read_stored padded _ size value
      rw [whole, List.map_cons, members, offsetsFrom, List.zipWith_cons_cons, head, List.map_cons]
      exact congrArg _ tail

end Memory
