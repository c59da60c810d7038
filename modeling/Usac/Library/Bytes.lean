import Mathlib.Data.Vector.Basic

namespace Usac.Library

/-!
# Byte strings, fixed-length fields and little-endian words

Wire formats are lists of bytes. A field of known length is a `Bytes n`, so its
length never has to be proved again. Reads are total: a byte beyond the end of
the list reads as zero, and a caller that has checked the length never sees
that case.
-/

/-- What every element of a list has is decided along the list, also where the
elements are of a finite type and could all be tried. -/
instance (priority := 2000) decidableForallMem
    {Element : Type*}
    (holds : Element → Prop)
    [DecidablePred holds]
    (elements : List Element) :
    Decidable (∀ element ∈ elements, holds element) :=
  List.decidableBAll holds elements

/-- What the element of an option has is decided on it. -/
instance (priority := 2000) decidableForallMemOption
    {Element : Type*}
    (holds : Element → Prop)
    [DecidablePred holds]
    (option : Option Element) :
    Decidable (∀ element ∈ option, holds element) :=
  Option.decidableForallMem option

/-- A byte string of a fixed length. -/
abbrev Bytes (length : Nat) := List.Vector UInt8 length

/-- The ids of the protocol have a first byte. -/
instance neZeroIdLength : @NeZero Nat Zero.ofOfNat0 16 :=
  Nat.instNeZeroSucc

/-- The ids of the protocol are compared byte by byte. -/
instance lawfulId : LawfulBEq (Bytes 16) := inferInstance

/-- The byte string of zeros. -/
def Bytes.zero (length : Nat) : Bytes length :=
  List.Vector.replicate length 0

/-- One byte, or zero beyond the end. -/
def byteAt (bytes : List UInt8) (index : Nat) : UInt8 :=
  bytes.getD index 0

/-- The field of a given length that starts at an offset. -/
def slice (bytes : List UInt8) (offset length : Nat) : Bytes length :=
  ⟨(List.range length).map fun index => byteAt bytes (offset + index),
    by simp⟩

/-- A little-endian 16-bit word. -/
def readU16 (bytes : List UInt8) (offset : Nat) : UInt16 :=
  (byteAt bytes offset).toUInt16 |||
    ((byteAt bytes (offset + 1)).toUInt16 <<< 8)

/-- A little-endian 32-bit word. -/
def readU32 (bytes : List UInt8) (offset : Nat) : UInt32 :=
  (byteAt bytes offset).toUInt32 |||
    ((byteAt bytes (offset + 1)).toUInt32 <<< 8) |||
    ((byteAt bytes (offset + 2)).toUInt32 <<< 16) |||
    ((byteAt bytes (offset + 3)).toUInt32 <<< 24)

/-- A little-endian 64-bit word. -/
def readU64 (bytes : List UInt8) (offset : Nat) : UInt64 :=
  (readU32 bytes offset).toUInt64 |||
    ((readU32 bytes (offset + 4)).toUInt64 <<< 32)

/-- The two bytes of a little-endian 16-bit word. -/
def writeU16 (value : UInt16) : List UInt8 :=
  [value.toUInt8, (value >>> 8).toUInt8]

/-- The four bytes of a little-endian 32-bit word. -/
def writeU32 (value : UInt32) : List UInt8 :=
  [value.toUInt8, (value >>> 8).toUInt8,
    (value >>> 16).toUInt8, (value >>> 24).toUInt8]

/-- The eight bytes of a little-endian 64-bit word. -/
def writeU64 (value : UInt64) : List UInt8 :=
  writeU32 value.toUInt32 ++ writeU32 (value >>> 32).toUInt32

@[simp] theorem length_writeU16 (value : UInt16) :
    (writeU16 value).length = 2 := by
  simp only [writeU16, List.length_cons, List.length_nil]

@[simp] theorem length_writeU32 (value : UInt32) :
    (writeU32 value).length = 4 := by
  simp only [writeU32, List.length_cons, List.length_nil]

@[simp] theorem length_writeU64 (value : UInt64) :
    (writeU64 value).length = 8 := by
  simp only [writeU64, List.length_append, length_writeU32]

/-- A byte within the first part of a concatenation. -/
theorem byteAt_append_left
    {first second : List UInt8}
    {index : Nat}
    (inside : index < first.length) :
    byteAt (first ++ second) index = byteAt first index := by
  simp [byteAt, List.getElem?_append_left inside]

/-- A byte behind the first part of a concatenation. -/
theorem byteAt_append_right
    {first second : List UInt8}
    {index : Nat}
    (behind : first.length ≤ index) :
    byteAt (first ++ second) index =
      byteAt second (index - first.length) := by
  simp [byteAt, List.getElem?_append_right behind]

/-- A half word within the first part of a concatenation. -/
theorem readU16_append_left
    {first second : List UInt8}
    {offset : Nat}
    (inside : offset + 2 ≤ first.length) :
    readU16 (first ++ second) offset = readU16 first offset := by
  simp only [readU16]
  rw [byteAt_append_left (by omega), byteAt_append_left (by omega)]

/-- A word within the first part of a concatenation. -/
theorem readU32_append_left
    {first second : List UInt8}
    {offset : Nat}
    (inside : offset + 4 ≤ first.length) :
    readU32 (first ++ second) offset = readU32 first offset := by
  simp only [readU32]
  rw [byteAt_append_left (by omega), byteAt_append_left (by omega),
    byteAt_append_left (by omega), byteAt_append_left (by omega)]

/-- A field behind the first part of a concatenation. -/
theorem slice_append_right
    {first second : List UInt8}
    {offset : Nat}
    (behind : first.length ≤ offset)
    (length : Nat) :
    slice (first ++ second) offset length =
      slice second (offset - first.length) length := by
  apply List.Vector.eq
  simp only [slice, List.Vector.toList_mk, List.map_inj_left]
  intro index _
  rw [byteAt_append_right (by omega)]
  congr 1
  omega

/-- A field of the length of the whole list is the list. -/
theorem slice_toList {length : Nat} (field : Bytes length) :
    slice field.toList 0 length = field := by
  apply List.Vector.eq
  apply List.ext_getElem
  · simp [slice]
  · intro index _ inside
    simp [slice, byteAt, List.getElem?_eq_getElem inside]

/-- A field at the head of a concatenation. -/
theorem slice_append_left
    {length : Nat}
    (field : Bytes length)
    (rest : List UInt8) :
    slice (field.toList ++ rest) 0 length = field := by
  rw [← slice_toList field]
  apply List.Vector.eq
  simp only [slice, List.Vector.toList_mk, List.map_inj_left, List.mem_range]
  intro index inside
  rw [byteAt_append_left (by simpa using inside)]
  simp [byteAt, inside]

/-- A word behind the first part of a concatenation. -/
theorem readU32_append_right
    {first second : List UInt8}
    {offset : Nat}
    (behind : first.length ≤ offset) :
    readU32 (first ++ second) offset =
      readU32 second (offset - first.length) := by
  have shift (index : Nat) :
      offset + index - first.length = offset - first.length + index := by
    omega
  simp only [readU32]
  rw [byteAt_append_right behind, byteAt_append_right (by omega),
    byteAt_append_right (by omega), byteAt_append_right (by omega),
    shift, shift, shift]

/-- A half word behind the first part of a concatenation. -/
theorem readU16_append_right
    {first second : List UInt8}
    {offset : Nat}
    (behind : first.length ≤ offset) :
    readU16 (first ++ second) offset =
      readU16 second (offset - first.length) := by
  have shift :
      offset + 1 - first.length = offset - first.length + 1 := by
    omega
  simp only [readU16]
  rw [byteAt_append_right behind, byteAt_append_right (by omega), shift]

/-- Reading back a word that was written. -/
theorem readU32_writeU32
    (value : UInt32)
    (rest : List UInt8) :
    readU32 (writeU32 value ++ rest) 0 = value := by
  apply UInt32.eq_of_toBitVec_eq
  have eight : UInt32.toBitVec 8 % 32 = 8#32 := rfl
  have sixteen : UInt32.toBitVec 16 % 32 = 16#32 := rfl
  have twentyFour : UInt32.toBitVec 24 % 32 = 24#32 := rfl
  simp only [readU32, writeU32, byteAt, List.cons_append, List.getD_cons_zero,
    List.getD_cons_succ, UInt32.toBitVec_or, UInt32.toBitVec_shiftLeft,
    UInt8.toBitVec_toUInt32, UInt32.toBitVec_toUInt8,
    UInt32.toBitVec_shiftRight, eight, sixteen, twentyFour]
  ext index inside
  simp
  grind

/-- Reading back a word that was written last. -/
theorem readU32_writeU32_last (value : UInt32) :
    readU32 (writeU32 value) 0 = value := by
  simpa using readU32_writeU32 value []

/-- Reading back a half word that was written. -/
theorem readU16_writeU16
    (value : UInt16)
    (rest : List UInt8) :
    readU16 (writeU16 value ++ rest) 0 = value := by
  apply UInt16.eq_of_toBitVec_eq
  have eight : UInt16.toBitVec 8 % 16 = 8#16 := rfl
  simp only [readU16, writeU16, byteAt, List.cons_append, List.getD_cons_zero,
    List.getD_cons_succ, UInt16.toBitVec_or, UInt16.toBitVec_shiftLeft,
    UInt8.toBitVec_toUInt16, UInt16.toBitVec_toUInt8,
    UInt16.toBitVec_shiftRight, eight]
  ext index inside
  simp
  grind

/-- A long word behind the first part of a concatenation. -/
theorem readU64_append_right
    {first second : List UInt8}
    {offset : Nat}
    (behind : first.length ≤ offset) :
    readU64 (first ++ second) offset =
      readU64 second (offset - first.length) := by
  have shift :
      offset + 4 - first.length = offset - first.length + 4 := by
    omega
  simp only [readU64]
  rw [readU32_append_right behind, readU32_append_right (by omega), shift]

/-- Reading back a long word that was written. -/
theorem readU64_writeU64
    (value : UInt64)
    (rest : List UInt8) :
    readU64 (writeU64 value ++ rest) 0 = value := by
  have low :
      readU32 (writeU64 value ++ rest) 0 = value.toUInt32 := by
    rw [writeU64, List.append_assoc]
    exact readU32_writeU32 _ _
  have high :
      readU32 (writeU64 value ++ rest) 4 = (value >>> 32).toUInt32 := by
    rw [writeU64, List.append_assoc, readU32_append_right (by simp)]
    exact readU32_writeU32 _ _
  rw [readU64, Nat.zero_add, low, high]
  apply UInt64.eq_of_toBitVec_eq
  have thirtyTwo : UInt64.toBitVec 32 % 64 = 32#64 := rfl
  simp only [UInt64.toBitVec_or, UInt64.toBitVec_shiftLeft,
    UInt32.toBitVec_toUInt64, UInt64.toBitVec_toUInt32,
    UInt64.toBitVec_shiftRight, thirtyTwo]
  apply BitVec.eq_of_getLsbD_eq
  intro index inside
  simp only [BitVec.getLsbD_or, BitVec.getLsbD_setWidth, BitVec.shiftLeft_eq',
    BitVec.ushiftRight_eq', BitVec.toNat_ofNat, BitVec.getLsbD_shiftLeft,
    BitVec.getLsbD_ushiftRight]
  by_cases low : index < 32
  · simp [low, inside]
  · have back : 32 + (index - 32) = index := by omega
    have near : index - 32 < 32 := by omega
    have inside' : index - 32 < 64 := by omega
    simp [low, inside, back, near, inside']

/-- A byte at the head of a list. -/
theorem byteAt_cons_zero (byte : UInt8) (rest : List UInt8) :
    byteAt (byte :: rest) 0 = byte := by
  rw [byteAt, List.getD_cons_zero]

/-- A byte behind the head of a list. -/
theorem byteAt_cons_succ (byte : UInt8) (rest : List UInt8) (index : Nat) :
    byteAt (byte :: rest) (index + 1) = byteAt rest index := by
  rw [byteAt, List.getD_cons_succ, byteAt]

/-- A half word behind the head of a list. -/
theorem readU16_cons_succ (byte : UInt8) (rest : List UInt8) (offset : Nat) :
    readU16 (byte :: rest) (offset + 1) = readU16 rest offset := by
  simp only [readU16, byteAt_cons_succ]

/-- A word behind the head of a list. -/
theorem readU32_cons_succ (byte : UInt8) (rest : List UInt8) (offset : Nat) :
    readU32 (byte :: rest) (offset + 1) = readU32 rest offset := by
  simp only [readU32, byteAt_cons_succ, Nat.add_right_comm offset 1]

/-- A long word behind the head of a list. -/
theorem readU64_cons_succ (byte : UInt8) (rest : List UInt8) (offset : Nat) :
    readU64 (byte :: rest) (offset + 1) = readU64 rest offset := by
  simp only [readU64, readU32_cons_succ, Nat.add_right_comm offset 1]

/-- A field behind the head of a list. -/
theorem slice_cons_succ
    (byte : UInt8)
    (rest : List UInt8)
    (offset length : Nat) :
    slice (byte :: rest) (offset + 1) length = slice rest offset length := by
  apply List.Vector.eq
  simp only [slice, List.Vector.toList_mk, Nat.add_right_comm offset 1,
    byteAt_cons_succ]

/-- Reading back records of one size that were written one after the other.
The reader finds a record at the head of a list and passes over what lies in
front of it. -/
theorem map_read_records
    {Item Record : Type*}
    {write : Item → List UInt8}
    {read : List UInt8 → Nat → Record}
    {expected : Item → Record}
    {size : Nat}
    (sized : ∀ item, (write item).length = size)
    (passes : ∀ (first second : List UInt8) (offset : Nat),
      first.length ≤ offset →
        read (first ++ second) offset = read second (offset - first.length))
    (reads : ∀ item rest, read (write item ++ rest) 0 = expected item)
    (items : List Item)
    (rest : List UInt8) :
    (List.range items.length).map (fun index =>
        read (items.flatMap write ++ rest) (size * index)) =
      items.map expected := by
  induction items with
  | nil =>
      rfl
  | cons item others inductionHypothesis =>
      rw [List.length_cons, List.range_succ_eq_map, List.map_cons,
        List.map_map, List.map_cons, List.flatMap_cons, List.append_assoc,
        Nat.mul_zero, reads]
      refine congrArg (List.cons _) (Eq.trans ?_ inductionHypothesis)
      refine List.map_congr_left fun index _ => ?_
      have further : size * (index + 1) = size + size * index := by
        rw [Nat.mul_succ, Nat.add_comm]
      show read (write item ++ (others.flatMap write ++ rest))
        (size * (index + 1)) = _
      rw [further, passes _ _ _ (by rw [sized]; exact Nat.le_add_right _ _),
        sized, Nat.add_sub_cancel_left]

/-- Reading back pairs of bytes that were written one after the other. -/
theorem map_byteAt_pairs
    (pairs : List (UInt8 × UInt8))
    (rest : List UInt8) :
    (List.range pairs.length).map (fun index =>
        (byteAt (pairs.flatMap (fun pair => [pair.1, pair.2]) ++ rest)
            (2 * index),
          byteAt (pairs.flatMap (fun pair => [pair.1, pair.2]) ++ rest)
            (2 * index + 1))) =
      pairs := by
  have read :=
    @map_read_records _ _ (fun pair : UInt8 × UInt8 => [pair.1, pair.2])
      (fun data offset => (byteAt data offset, byteAt data (offset + 1)))
      id 2 (fun _ => rfl)
  refine (read ?_ (fun _ _ => rfl) pairs rest).trans (List.map_id pairs)
  intro first second offset behind
  have shift : offset + 1 - first.length = offset - first.length + 1 := by
    omega
  rw [byteAt_append_right behind, byteAt_append_right (by omega), shift]

end Usac.Library
