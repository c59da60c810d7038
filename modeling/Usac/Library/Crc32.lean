import Usac.Library.Bytes

namespace Usac.Library.Crc32

/-!
# CRC-32/ISO-HDLC

The reflected form of the polynomial `0x04C11DB7`, one bit at a time, with the
initial and final complement. The running remainder of a concatenation is the
remainder of its second part started from that of its first, so a checksum can
be accumulated over segments.
-/

/-- The reflected polynomial. -/
def polynomial : UInt32 := 0xEDB88320

/-- Shift one bit out of the remainder. -/
def bitStep (remainder : UInt32) : UInt32 :=
  if remainder &&& 1 ≠ 0 then
    (remainder >>> 1) ^^^ polynomial
  else
    remainder >>> 1

/-- Absorb one byte into the remainder. -/
def byteStep (remainder : UInt32) (byte : UInt8) : UInt32 :=
  bitStep (bitStep (bitStep (bitStep (bitStep (bitStep (bitStep (bitStep
    (remainder ^^^ byte.toUInt32))))))))

/-- Absorb a segment into the remainder. -/
def update (remainder : UInt32) (segment : List UInt8) : UInt32 :=
  segment.foldl byteStep remainder

/-- The checksum of a byte string. -/
def checksum (bytes : List UInt8) : UInt32 :=
  update 0xFFFFFFFF bytes ^^^ 0xFFFFFFFF

/-- Segments may be absorbed one after the other. -/
theorem update_append
    (remainder : UInt32)
    (first second : List UInt8) :
    update remainder (first ++ second) =
      update (update remainder first) second := by
  simp [update]

end Usac.Library.Crc32
