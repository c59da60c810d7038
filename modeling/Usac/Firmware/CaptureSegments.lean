import Usac.Firmware.Capture

namespace Usac.Firmware.CaptureStream

open Library

/-!
# The segments of a CAPTURE_DATA frame

The samples are never copied: a stream owns the header, the metadata and the
checksum, and offers them and the sample buffer one after the other. A segment
is committed once it has been sent, and after the fourth one the stream ends.
-/

/-- `USAC_CAPTURE_METADATA_MAX_LENGTH`. -/
def metadataMaxLength : Nat := 480

/-- An event takes sixteen bytes. -/
@[simp] theorem length_eventBytes (event : CaptureEvent) :
    (eventBytes event).length = 16 := by
  simp [eventBytes]

/-- The metadata without its registers and events. -/
@[simp] theorem length_metadataHead (descriptor : CaptureDescriptor) :
    (metadataHead descriptor).length = 120 := by
  simp [metadataHead]

@[simp] theorem length_metadataTiming (descriptor : CaptureDescriptor) :
    (metadataTiming descriptor).length = 52 := by
  simp [metadataTiming]

/-- The length of the metadata. -/
theorem length_metadata (descriptor : CaptureDescriptor) :
    (metadata descriptor).length =
      208 + 16 * descriptor.events.val.length := by
  have events : (descriptor.events.val.flatMap eventBytes).length =
      16 * descriptor.events.val.length := by
    simp [List.length_flatMap, Nat.mul_comm]
  have registers : (descriptor.registerPairs.toList.flatMap
      fun pair => [pair.address, pair.value]).length = 20 := by
    rw [List.length_flatMap]
    show (descriptor.registerPairs.toList.map fun _ => 2).sum = 20
    rw [List.map_const', descriptor.registerPairs.toList_length]
    rfl
  simp only [metadata, metadataTail, List.length_append, length_metadataHead,
    length_metadataTiming, length_writeU32, List.length_cons, List.length_nil,
    events, registers]
  omega

/-- The metadata fits the buffer the stream keeps for it. -/
theorem length_metadata_le (descriptor : CaptureDescriptor) :
    (metadata descriptor).length ≤ metadataMaxLength := by
  have count : descriptor.events.val.length ≤ 17 := descriptor.events.property
  rw [length_metadata, metadataMaxLength]
  omega

/-- `usac_capture_stream_t`. -/
structure Segments where
  frameHeader : Bytes 16
  metadata : {bytes : List UInt8 // bytes.length ≤ metadataMaxLength}
  frameCrc : Bytes 4
  samples : Waveform
  phase : UInt8
  active : Bool

namespace Segments

/-- `usac_capture_stream_init`. -/
def init (descriptor : CaptureDescriptor) (samples : Waveform) : Segments where
  frameHeader :=
    ⟨Mcu.magic ++ CaptureStream.frameHeader descriptor, by
      simp [Mcu.magic, CaptureStream.frameHeader]⟩
  metadata :=
    ⟨CaptureStream.metadata descriptor, length_metadata_le descriptor⟩
  frameCrc :=
    ⟨writeU32 (CaptureStream.frameCrc descriptor samples), by simp⟩
  samples := samples
  phase := 0
  active := true

/-- `usac_capture_stream_peek`. -/
def peek (segments : Segments) : Option (List UInt8) :=
  if !segments.active then
    none
  else if segments.phase = 0 then
    some segments.frameHeader.toList
  else if segments.phase = 1 then
    some segments.metadata.val
  else if segments.phase = 2 then
    some (sampleBytes segments.samples)
  else if segments.phase = 3 then
    some segments.frameCrc.toList
  else
    none

/-- `usac_capture_stream_commit`, and whether it committed a segment. -/
def commit (segments : Segments) : Segments × Bool :=
  if !segments.active || decide (4 ≤ segments.phase) then
    (segments, false)
  else
    let phase := segments.phase + 1
    ({ segments with
        phase := phase
        active := if phase = 4 then false else segments.active },
      true)

/-- The bytes of a number of segments, each sent and then committed. -/
def sent (segments : Segments) : Nat → List UInt8
  | 0 => []
  | turns + 1 =>
      match segments.peek with
      | none => []
      | some bytes => bytes ++ sent segments.commit.1 turns

/-- A stream that has ended sends nothing. -/
theorem sent_of_ended
    {segments : Segments}
    (ended : segments.active = false)
    (turns : Nat) :
    segments.sent turns = [] := by
  cases turns with
  | zero => rfl
  | succ turns => simp [sent, peek, ended]

/-- A stream sends its frame and then ends, however often it is asked. -/
theorem sent_init
    (descriptor : CaptureDescriptor)
    (samples : Waveform)
    (further : Nat) :
    (init descriptor samples).sent (4 + further) =
      frame descriptor samples := by
  have ended : ((init descriptor samples).commit.1.commit.1.commit.1.commit.1
      ).active = false := rfl
  have turns : 4 + further = further + 4 := Nat.add_comm _ _
  rw [turns]
  show (Mcu.magic ++ CaptureStream.frameHeader descriptor) ++
      (CaptureStream.metadata descriptor ++
        (sampleBytes samples ++
          (writeU32 (CaptureStream.frameCrc descriptor samples) ++
            sent _ further))) = _
  rw [sent_of_ended ended, List.append_nil]
  simp only [frame, List.append_assoc]

end Segments

end Usac.Firmware.CaptureStream
