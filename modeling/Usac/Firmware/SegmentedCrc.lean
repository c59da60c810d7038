import Usac.Firmware.Capture
import Usac.Library.CrcDivision

namespace Usac.Firmware

open Library

/-!
# Checksums over segments

The two checksum loops of the firmware, bit by bit and with their 16-bit
index. A capture frame is never in one buffer: its checksum is carried over
the header, the metadata and the samples, and is that of the whole frame.
-/

/-- Bits of the inner loop. -/
def crcBits : Nat → UInt32 → UInt32
  | 0, crc => crc
  | bits + 1, crc =>
      crcBits bits
        (if crc &&& 1 ≠ 0 then (crc >>> 1) ^^^ 0xEDB88320 else crc >>> 1)

/-- The outer loop, from an index on. -/
def crcBytes (data : List UInt8) (length : UInt16) :
    Nat → UInt16 → UInt32 → UInt32
  | 0, _, crc => crc
  | fuel + 1, index, crc =>
      if index < length then
        crcBytes data length fuel (index + 1)
          (crcBits 8 (crc ^^^ (byteAt data index.toNat).toUInt32))
      else
        crc

/-- `usac_mcu_crc32`, loop by loop. -/
def Mcu.crc32Loop (data : List UInt8) (length : UInt16) : UInt32 :=
  crcBytes data length length.toNat 0 0xFFFFFFFF ^^^ 0xFFFFFFFF

/-- `usac_crc32_update`, loop by loop. -/
def CaptureStream.crc32UpdateLoop
    (crc : UInt32)
    (data : List UInt8)
    (length : UInt16) :
    UInt32 :=
  crcBytes data length length.toNat 0 crc

/-- The inner loop absorbs one byte. -/
theorem crcBits_eq_byteStep (crc : UInt32) (byte : UInt8) :
    crcBits 8 (crc ^^^ byte.toUInt32) = Crc32.byteStep crc byte :=
  rfl

/-- The outer loop absorbs what is behind its index. -/
theorem crcBytes_eq_update
    {data : List UInt8}
    (within : data.length < 65536)
    (count index : Nat)
    (rest : index + count = data.length)
    (crc : UInt32) :
    crcBytes data data.length.toUInt16 count index.toUInt16 crc =
      Crc32.update crc (data.drop index) := by
  have small (number : Nat) (short : number < 65536) :
      number.toUInt16.toNat = number := by
    rw [Nat.toUInt16_eq, UInt16.toNat_ofNat']
    exact Nat.mod_eq_of_lt short
  induction count generalizing index crc with
  | zero =>
      rw [List.drop_of_length_le (by omega)]
      rfl
  | succ count inductionHypothesis =>
      have before : index.toUInt16 < data.length.toUInt16 := by
        rw [UInt16.lt_iff_toNat_lt, small _ (by omega), small _ within]
        omega
      have next : index.toUInt16 + 1 = (index + 1).toUInt16 := by
        apply UInt16.toNat_inj.1
        rw [UInt16.toNat_add, small _ (by omega), small _ (by omega)]
        show (index + 1) % 65536 = index + 1
        omega
      have present : index < data.length := by omega
      have byte : byteAt data index = data[index] := by
        rw [byteAt, List.getD_eq_getElem?_getD,
          List.getElem?_eq_getElem present, Option.getD_some]
      rw [crcBytes, if_pos before, next, inductionHypothesis _ (by omega),
        small _ (by omega), byte, crcBits_eq_byteStep,
        List.drop_eq_getElem_cons present]
      rfl

/-- The loops over a whole buffer. -/
theorem crcBytes_eq
    {data : List UInt8}
    (within : data.length < 65536)
    (crc : UInt32) :
    crcBytes data data.length.toUInt16 data.length.toUInt16.toNat 0 crc =
      Crc32.update crc data := by
  have length : data.length.toUInt16.toNat = data.length := by
    rw [Nat.toUInt16_eq, UInt16.toNat_ofNat']
    exact Nat.mod_eq_of_lt within
  rw [length]
  exact crcBytes_eq_update within data.length 0 (Nat.zero_add _) crc

/-- The loops compute the checksum the frames are modelled with. -/
theorem Mcu.crc32Loop_eq
    {data : List UInt8}
    (within : data.length < 65536) :
    Mcu.crc32Loop data data.length.toUInt16 = Mcu.crc32 data := by
  rw [Mcu.crc32Loop, crcBytes_eq within]
  rfl

namespace CaptureStream

/-- The loops absorb a segment as the captures are modelled with. -/
theorem crc32UpdateLoop_eq
    {data : List UInt8}
    (within : data.length < 65536)
    (crc : UInt32) :
    crc32UpdateLoop crc data data.length.toUInt16 = crc32Update crc data :=
  crcBytes_eq within crc

/-- What one call of `usac_crc32_update` can be given. -/
structure Segment where
  bytes : List UInt8
  short : bytes.length < 65536

/-- A checksum carried over segments. -/
def crc32Segmented (segments : List Segment) : UInt32 :=
  crc32Finish
    (segments.foldl
      (fun crc segment =>
        crc32UpdateLoop crc segment.bytes segment.bytes.length.toUInt16)
      crc32Begin)

/-- Segments are absorbed as one buffer. -/
theorem foldl_crc32UpdateLoop (segments : List Segment) (crc : UInt32) :
    segments.foldl
        (fun crc segment =>
          crc32UpdateLoop crc segment.bytes segment.bytes.length.toUInt16)
        crc =
      Crc32.update crc (segments.flatMap Segment.bytes) := by
  induction segments generalizing crc with
  | nil => rfl
  | cons segment rest inductionHypothesis =>
      rw [List.foldl_cons, inductionHypothesis, List.flatMap_cons,
        Crc32.update_append, crc32UpdateLoop_eq segment.short]
      rfl

/--
However a message is cut, its checksum is the remainder of the division, and
that of the message in one buffer where a buffer can hold it.
-/
theorem crc32Segmented_eq_isoHdlc (segments : List Segment) :
    crc32Segmented segments =
        Crc32.isoHdlc (segments.flatMap Segment.bytes) ∧
      ((segments.flatMap Segment.bytes).length < 65536 →
        crc32Segmented segments =
          Mcu.crc32Loop (segments.flatMap Segment.bytes)
            (segments.flatMap Segment.bytes).length.toUInt16) := by
  have whole :
      crc32Segmented segments =
        Crc32.checksum (segments.flatMap Segment.bytes) := by
    rw [crc32Segmented, foldl_crc32UpdateLoop]
    rfl
  constructor
  · rw [whole, Crc32.checksum_eq_isoHdlc]
  · intro within
    rw [whole, Mcu.crc32Loop_eq within]
    rfl

/-- The check value of the checksum, with its message cut in two. -/
theorem crc32Segmented_checkValue :
    Mcu.crc32Loop [0x31, 0x32, 0x33, 0x34, 0x35, 0x36, 0x37, 0x38, 0x39] 9 =
      0xCBF43926 ∧
    crc32Segmented
        [⟨[0x31, 0x32, 0x33, 0x34], by decide⟩,
          ⟨[0x35, 0x36, 0x37, 0x38, 0x39], by decide⟩] =
      Mcu.crc32Loop [0x31, 0x32, 0x33, 0x34, 0x35, 0x36, 0x37, 0x38, 0x39]
        9 :=
  ⟨by decide +kernel, (crc32Segmented_eq_isoHdlc _).2 (by decide)⟩

/-- The checksum of a capture frame is that of its bytes. -/
theorem frameCrc_eq_isoHdlc
    (descriptor : CaptureDescriptor)
    (samples : Waveform) :
    frameCrc descriptor samples =
      Crc32.isoHdlc (frameHeader descriptor ++ metadata descriptor ++
        sampleBytes samples) := by
  rw [← Crc32.checksum_eq_isoHdlc, Crc32.checksum, Crc32.update_append,
    Crc32.update_append]
  rfl

end CaptureStream

end Usac.Firmware
