import Usac.Library.Bytes

namespace Usac.Library

/-!
# Reads that stay inside their buffer

The plain reads have a value everywhere. The checked ones have none outside the
buffer, so a computation that agrees with its checked form reads nothing there.
The other way round, a computation reads no more than some ranges when it
agrees for any two buffers that agree on them.
-/

/-- The byte at an index of the buffer. -/
def byteAt? (bytes : List UInt8) (index : Nat) : Option UInt8 :=
  if index < bytes.length then some (byteAt bytes index) else none

/-- A field of fixed length inside the buffer. -/
def slice? (bytes : List UInt8) (offset length : Nat) :
    Option (Bytes length) :=
  if offset + length ≤ bytes.length then
    some (slice bytes offset length)
  else
    none

/-- A 16-bit field inside the buffer. -/
def readU16? (bytes : List UInt8) (offset : Nat) : Option UInt16 :=
  if offset + 2 ≤ bytes.length then some (readU16 bytes offset) else none

/-- A 32-bit field inside the buffer. -/
def readU32? (bytes : List UInt8) (offset : Nat) : Option UInt32 :=
  if offset + 4 ≤ bytes.length then some (readU32 bytes offset) else none

/-- The bytes of a range inside the buffer. -/
def range? (bytes : List UInt8) (offset length : Nat) :
    Option (List UInt8) :=
  if offset + length ≤ bytes.length then
    some ((bytes.drop offset).take length)
  else
    none

section Checked

variable {bytes : List UInt8} {offset length : Nat}

theorem byteAt?_eq (inside : offset < bytes.length) :
    byteAt? bytes offset = some (byteAt bytes offset) :=
  if_pos inside

theorem slice?_eq (inside : offset + length ≤ bytes.length) :
    slice? bytes offset length = some (slice bytes offset length) :=
  if_pos inside

theorem readU16?_eq (inside : offset + 2 ≤ bytes.length) :
    readU16? bytes offset = some (readU16 bytes offset) :=
  if_pos inside

theorem readU32?_eq (inside : offset + 4 ≤ bytes.length) :
    readU32? bytes offset = some (readU32 bytes offset) :=
  if_pos inside

theorem range?_eq (inside : offset + length ≤ bytes.length) :
    range? bytes offset length = some ((bytes.drop offset).take length) :=
  if_pos inside

end Checked

section Congruence

variable {left right : List UInt8} {first second : Nat}

/-- Fields are the same when their bytes are. -/
theorem slice_congr
    {length : Nat}
    (same : ∀ index < length,
      byteAt left (first + index) = byteAt right (second + index)) :
    slice left first length = slice right second length := by
  apply Subtype.ext
  apply List.map_congr_left
  intro index member
  exact same index (List.mem_range.1 member)

/-- 32-bit fields are the same when their bytes are. -/
theorem readU32_congr
    (same : ∀ index < 4,
      byteAt left (first + index) = byteAt right (second + index)) :
    readU32 left first = readU32 right second := by
  unfold readU32
  rw [show byteAt left first = byteAt right second from same 0 (by decide),
    same 1 (by decide), same 2 (by decide), same 3 (by decide)]

end Congruence

section Window

variable {bytes : List UInt8} {start length : Nat}

/-- A byte of a range of the buffer. -/
theorem byteAt_window
    {index : Nat}
    (inside : index < length) :
    byteAt ((bytes.drop start).take length) index =
      byteAt bytes (start + index) := by
  simp [byteAt, inside]

/-- A field of a range of the buffer. -/
theorem slice_window
    {offset size : Nat}
    (inside : offset + size ≤ length) :
    slice ((bytes.drop start).take length) offset size =
      slice bytes (start + offset) size := by
  apply slice_congr
  intro index within
  rw [byteAt_window (by omega), Nat.add_assoc]

/-- A 32-bit field of a range of the buffer. -/
theorem readU32_window
    {offset : Nat}
    (inside : offset + 4 ≤ length) :
    readU32 ((bytes.drop start).take length) offset =
      readU32 bytes (start + offset) := by
  apply readU32_congr
  intro index within
  rw [byteAt_window (by omega), Nat.add_assoc]

end Window

/-- Two buffers agree on the bytes of some ranges, each an offset and a
length. -/
def Agree (ranges : List (Nat × Nat)) (left right : List UInt8) : Prop :=
  ∀ range ∈ ranges, ∀ index < range.2,
    byteAt left (range.1 + index) = byteAt right (range.1 + index)

namespace Agree

variable {ranges : List (Nat × Nat)} {left right : List UInt8} {offset : Nat}

/-- Fields of one of the ranges are the same. -/
theorem slice
    {length : Nat}
    (agree : Agree ranges left right)
    (member : (offset, length) ∈ ranges) :
    Library.slice left offset length = Library.slice right offset length :=
  slice_congr (agree _ member)

/-- 32-bit fields of one of the ranges are the same. -/
theorem readU32
    (agree : Agree ranges left right)
    (member : (offset, 4) ∈ ranges) :
    Library.readU32 left offset = Library.readU32 right offset :=
  readU32_congr (agree _ member)

/-- Bytes of one of the ranges are the same. -/
theorem byteAt
    {length : Nat}
    (agree : Agree ranges left right)
    (member : (offset, length) ∈ ranges)
    {index : Nat}
    (inside : index < length) :
    Library.byteAt left (offset + index) =
      Library.byteAt right (offset + index) :=
  agree _ member index inside

end Agree

end Usac.Library
