import Usac.Library.Bytes

namespace Usac.Library

/-!
# Byte strings as sequences of their fields

What is written back from the fields of a byte string is the string again, as
long as the fields cover it without a gap. A segment is what a field of a given
length takes of the string. Writing back a word that has been read gives the
segment of the word, and neighbouring segments join.
-/

/-- The bytes of a string from an offset on, up to a length. -/
def segment (data : List UInt8) (offset length : Nat) : List UInt8 :=
  (data.drop offset).take length

/-- Neighbouring segments join. -/
theorem segment_append
    {data : List UInt8}
    {offset first next : Nat}
    (second : Nat)
    (adjacent : offset + first = next) :
    segment data offset first ++ segment data next second =
      segment data offset (first + second) := by
  unfold segment
  rw [← adjacent, ← List.drop_drop, List.take_add]

/-- The segment of all bytes is the string. -/
theorem segment_all
    {data : List UInt8}
    {length : Nat}
    (whole : data.length = length) :
    segment data 0 length = data := by
  unfold segment
  rw [List.drop_zero, ← whole, List.take_length]

/-- What is left behind an offset is a segment. -/
theorem drop_eq_segment
    {data : List UInt8}
    {offset length : Nat}
    (whole : data.length = offset + length) :
    data.drop offset = segment data offset length := by
  unfold segment
  rw [List.take_of_length_le]
  rw [List.length_drop, whole, Nat.add_sub_cancel_left]

/-- A segment that lies inside the string has its full length. -/
theorem length_segment
    {data : List UInt8}
    {offset length : Nat}
    (inside : offset + length ≤ data.length) :
    (segment data offset length).length = length := by
  unfold segment
  rw [List.length_take, List.length_drop]
  omega

/-- A segment is the list of its bytes. -/
theorem segment_eq_map
    {data : List UInt8}
    {offset length : Nat}
    (inside : offset + length ≤ data.length) :
    segment data offset length =
      (List.range length).map fun index => byteAt data (offset + index) := by
  apply List.ext_getElem
  · rw [length_segment inside, List.length_map, List.length_range]
  · intro index here there
    have within := here
    rw [length_segment inside] at within
    have present : offset + index < data.length := by omega
    simp [segment, byteAt, List.getD_eq_getElem?_getD,
      List.getElem?_eq_getElem present]

/-- A field is a segment. -/
theorem toList_slice
    {data : List UInt8}
    {offset length : Nat}
    (inside : offset + length ≤ data.length) :
    (slice data offset length).toList = segment data offset length :=
  (segment_eq_map inside).symm

/-- A single byte is a segment. -/
theorem singleton_byteAt
    {data : List UInt8}
    {offset : Nat}
    (inside : offset + 1 ≤ data.length) :
    [byteAt data offset] = segment data offset 1 :=
  (segment_eq_map inside).symm

/-- The bytes of a half word come back. -/
theorem writeU16_bytes (low high : UInt8) :
    writeU16 (low.toUInt16 ||| (high.toUInt16 <<< 8)) = [low, high] := by
  have eight : UInt16.toBitVec 8 % 16 = 8#16 := rfl
  unfold writeU16
  congr 1
  · apply UInt8.eq_of_toBitVec_eq
    simp only [UInt16.toBitVec_or, UInt16.toBitVec_shiftLeft,
      UInt8.toBitVec_toUInt16, UInt16.toBitVec_toUInt8, eight]
    ext index inside
    simp
  · congr 1
    apply UInt8.eq_of_toBitVec_eq
    simp only [UInt16.toBitVec_or, UInt16.toBitVec_shiftLeft,
      UInt8.toBitVec_toUInt16, UInt16.toBitVec_toUInt8,
      UInt16.toBitVec_shiftRight, eight]
    ext index inside
    simp
    grind

/-- The bytes of a word come back. -/
theorem writeU32_bytes (first second third fourth : UInt8) :
    writeU32 (first.toUInt32 ||| (second.toUInt32 <<< 8) |||
        (third.toUInt32 <<< 16) ||| (fourth.toUInt32 <<< 24)) =
      [first, second, third, fourth] := by
  have eight : UInt32.toBitVec 8 % 32 = 8#32 := rfl
  have sixteen : UInt32.toBitVec 16 % 32 = 16#32 := rfl
  have twentyFour : UInt32.toBitVec 24 % 32 = 24#32 := rfl
  unfold writeU32
  refine congrArg₂ _ ?_ (congrArg₂ _ ?_ (congrArg₂ _ ?_ (congrArg₂ _ ?_ rfl)))
  all_goals
    apply UInt8.eq_of_toBitVec_eq
    simp only [UInt32.toBitVec_or, UInt32.toBitVec_shiftLeft,
      UInt8.toBitVec_toUInt32, UInt32.toBitVec_toUInt8,
      UInt32.toBitVec_shiftRight, eight, sixteen, twentyFour]
    ext index inside
    simp
  all_goals grind

/-- A half word that is read is written back. -/
theorem writeU16_readU16
    {data : List UInt8}
    {offset : Nat}
    (inside : offset + 2 ≤ data.length) :
    writeU16 (readU16 data offset) = segment data offset 2 := by
  rw [segment_eq_map inside]
  exact writeU16_bytes _ _

/-- A word that is read is written back. -/
theorem writeU32_readU32
    {data : List UInt8}
    {offset : Nat}
    (inside : offset + 4 ≤ data.length) :
    writeU32 (readU32 data offset) = segment data offset 4 := by
  rw [segment_eq_map inside]
  exact writeU32_bytes _ _ _ _

/-- The two words of a long word come back. -/
theorem words_of_long (low high : UInt32) :
    (low.toUInt64 ||| (high.toUInt64 <<< 32)).toUInt32 = low ∧
      ((low.toUInt64 ||| (high.toUInt64 <<< 32)) >>> 32).toUInt32 = high := by
  have thirtyTwo : UInt64.toBitVec 32 % 64 = 32#64 := rfl
  constructor
  · apply UInt32.eq_of_toBitVec_eq
    simp only [UInt64.toBitVec_or, UInt64.toBitVec_shiftLeft,
      UInt32.toBitVec_toUInt64, UInt64.toBitVec_toUInt32, thirtyTwo]
    ext index inside
    simp
  · apply UInt32.eq_of_toBitVec_eq
    simp only [UInt64.toBitVec_or, UInt64.toBitVec_shiftLeft,
      UInt32.toBitVec_toUInt64, UInt64.toBitVec_toUInt32,
      UInt64.toBitVec_shiftRight, thirtyTwo]
    apply BitVec.eq_of_getLsbD_eq
    intro index inside
    have above : ¬32 + index < 32 := by omega
    have within : 32 + index < 64 := by omega
    have back : 32 + index - 32 = index := by omega
    simp [inside, above, within, back]

/-- A long word that is read is written back. -/
theorem writeU64_readU64
    {data : List UInt8}
    {offset : Nat}
    (inside : offset + 8 ≤ data.length) :
    writeU64 (readU64 data offset) = segment data offset 8 := by
  obtain ⟨low, high⟩ :=
    words_of_long (readU32 data offset) (readU32 data (offset + 4))
  unfold writeU64 readU64
  rw [low, high, writeU32_readU32 (by omega), writeU32_readU32 (by omega),
    segment_append 4 rfl]

/-- Reading back a half word that was written last. -/
theorem readU16_writeU16_last (value : UInt16) :
    readU16 (writeU16 value) 0 = value := by
  have read := readU16_writeU16 value []
  rw [List.append_nil] at read
  exact read

/-- Records of one size that lie one behind the other are a segment. -/
theorem flatMap_segments
    (data : List UInt8)
    (offset size count : Nat) :
    (List.range count).flatMap
        (fun index => segment data (offset + size * index) size) =
      segment data offset (size * count) := by
  induction count with
  | zero => rfl
  | succ count inductionHypothesis =>
      rw [List.range_succ, List.flatMap_append, inductionHypothesis,
        List.flatMap_singleton, segment_append size rfl, Nat.mul_succ]

/-- What is written back record by record is the segment of the records. -/
theorem flatMap_map_segments
    {Record : Type*}
    {data : List UInt8}
    {offset size count : Nat}
    {read : Nat → Record}
    {write : Record → List UInt8}
    (writesBack :
      ∀ index < count,
        write (read index) = segment data (offset + size * index) size) :
    ((List.range count).map read).flatMap write =
      segment data offset (size * count) := by
  rw [← flatMap_segments, List.flatMap_map]
  refine List.flatMap_congr fun index member => ?_
  exact writesBack index (List.mem_range.1 member)

/-- Records of one size have that many bytes each. -/
theorem length_flatMap_records
    {Record : Type*}
    {write : Record → List UInt8}
    {size : Nat}
    (sized : ∀ record, (write record).length = size)
    (records : List Record) :
    (records.flatMap write).length = size * records.length := by
  induction records with
  | nil => rfl
  | cons record rest inductionHypothesis =>
      rw [List.flatMap_cons, List.length_append, inductionHypothesis, sized,
        List.length_cons, Nat.mul_succ, Nat.add_comm]

/-- A single byte at the head of a list is a segment. -/
theorem cons_byteAt
    {data : List UInt8}
    {offset : Nat}
    (inside : offset + 1 ≤ data.length)
    (rest : List UInt8) :
    byteAt data offset :: rest = segment data offset 1 ++ rest := by
  rw [← singleton_byteAt inside]
  rfl

end Usac.Library
