import Usac.Host.CompositeFormat
import Usac.Host.MessageCodecs

namespace Usac.Host

open Library

/-!
# The message formats

For each message format a byte string is decoded to a message exactly when the
message is encoded to it. Two decoders are more liberal than their encoders.
-/

namespace HelloRequest

theorem exact (data : List UInt8) : Exact encode decode data := by
  intro message
  constructor
  · intro decoded
    obtain ⟨⟨⟩, sized, decoded⟩ := bind_eq_ok.1 decoded
    obtain ⟨⟨⟩, reserved, decoded⟩ := bind_eq_ok.1 decoded
    obtain ⟨⟨⟩, valid, decoded⟩ := bind_eq_ok.1 decoded
    cases decoded
    have length := require_eq_ok.1 sized
    rw [encode, valid, ok_bind, ← require_eq_ok.1 reserved]
    refine congrArg Except.ok ?_
    simp (disch := omega) only [toList_slice, cons_byteAt, writeU16_readU16,
      List.append_nil, segment_append, segment_all]
  · intro encoded
    obtain ⟨⟨⟩, valid, encoded⟩ := bind_eq_ok.1 encoded
    cases encoded
    simp [decode, slice_append_left, byteAt_append_right, byteAt_cons_zero,
      byteAt_cons_succ, readU16_append_right, readU16_cons_succ,
      readU16_writeU16_last, valid]

end HelloRequest

namespace HelloResponse

theorem exact (data : List UInt8) : Exact encode decode data := by
  intro message
  constructor
  · intro decoded
    obtain ⟨⟨⟩, sized, decoded⟩ := bind_eq_ok.1 decoded
    obtain ⟨⟨⟩, reserved, decoded⟩ := bind_eq_ok.1 decoded
    cases decoded
    have length := require_eq_ok.1 sized
    rw [encode, ← require_eq_ok.1 reserved]
    refine congrArg Except.ok ?_
    simp (disch := omega) only [toList_slice, cons_byteAt, writeU16_readU16,
      writeU32_readU32, List.append_nil, segment_append, segment_all]
  · intro encoded
    cases encoded
    simp [decode, slice_append_left, slice_append_right, slice_cons_succ,
      slice_toList, byteAt_append_right, byteAt_cons_zero, byteAt_cons_succ,
      readU16_append_right, readU16_cons_succ, readU16_writeU16,
      readU32_append_right, readU32_cons_succ, readU32_writeU32]

end HelloResponse

namespace CapabilitiesResponse

theorem exact (data : List UInt8) : Exact encode decode data := by
  intro message
  constructor
  · intro decoded
    obtain ⟨⟨⟩, sized, decoded⟩ := bind_eq_ok.1 decoded
    obtain ⟨⟨⟩, reserved, decoded⟩ := bind_eq_ok.1 decoded
    obtain ⟨⟨⟩, valid, decoded⟩ := bind_eq_ok.1 decoded
    cases decoded
    have length := require_eq_ok.1 sized
    rw [encode, valid, ok_bind, ← require_eq_ok.1 reserved]
    refine congrArg Except.ok ?_
    simp (disch := omega) only [toList_slice, cons_byteAt, writeU16_readU16,
      writeU32_readU32, List.append_nil, segment_append, segment_all]
  · intro encoded
    obtain ⟨⟨⟩, valid, encoded⟩ := bind_eq_ok.1 encoded
    cases encoded
    simp [decode, slice_append_right, slice_cons_succ, slice_toList,
      byteAt_append_right, byteAt_cons_zero, byteAt_cons_succ,
      readU16_append_right, readU16_writeU16, readU32_writeU32, valid]

end CapabilitiesResponse

namespace StartPeriodicRequest

theorem exact (data : List UInt8) : Exact encode decode data := by
  intro message
  constructor
  · intro decoded
    obtain ⟨⟨⟩, sized, decoded⟩ := bind_eq_ok.1 decoded
    obtain ⟨bytes, encoded, decoded⟩ := bind_eq_ok.1 decoded
    cases decoded
    have length := require_eq_ok.1 sized
    rw [encoded]
    obtain ⟨⟨⟩, _, encoded⟩ := bind_eq_ok.1 encoded
    obtain ⟨⟨⟩, _, encoded⟩ := bind_eq_ok.1 encoded
    obtain ⟨⟨⟩, _, encoded⟩ := bind_eq_ok.1 encoded
    rw [← encoded]
    refine congrArg Except.ok ?_
    simp (disch := omega) only [toList_slice, writeU32_readU32,
      segment_append, segment_all]
  · intro encoded
    have again := encoded
    obtain ⟨⟨⟩, _, encoded⟩ := bind_eq_ok.1 encoded
    obtain ⟨⟨⟩, _, encoded⟩ := bind_eq_ok.1 encoded
    obtain ⟨⟨⟩, _, encoded⟩ := bind_eq_ok.1 encoded
    cases encoded
    simp [decode, slice_append_left, slice_append_right, readU32_append_right,
      readU32_writeU32, readU32_writeU32_last, again]

end StartPeriodicRequest

namespace RenewPeriodicLease

theorem exact (data : List UInt8) : Exact encode decode data := by
  intro message
  constructor
  · intro decoded
    obtain ⟨⟨⟩, sized, decoded⟩ := bind_eq_ok.1 decoded
    obtain ⟨⟨⟩, valid, decoded⟩ := bind_eq_ok.1 decoded
    cases decoded
    have length := require_eq_ok.1 sized
    rw [encode, valid, ok_bind]
    refine congrArg Except.ok ?_
    simp (disch := omega) only [toList_slice, writeU32_readU32,
      segment_append, segment_all]
  · intro encoded
    obtain ⟨⟨⟩, valid, encoded⟩ := bind_eq_ok.1 encoded
    cases encoded
    simp [decode, slice_append_left, slice_append_right, readU32_append_right,
      readU32_writeU32, readU32_writeU32_last, valid]

end RenewPeriodicLease

namespace StopRequest

/-- The encoder of a STOP raises nothing. -/
theorem exact (data : List UInt8) :
    Exact (fun message => .ok (encode message)) decode data := by
  intro message
  constructor
  · intro decoded
    obtain ⟨⟨⟩, sized, decoded⟩ := bind_eq_ok.1 decoded
    cases decoded
    have length := require_eq_ok.1 sized
    refine congrArg Except.ok ?_
    unfold encode
    simp (disch := omega) only [toList_slice, segment_append, segment_all]
  · intro encoded
    cases encoded
    simp [decode, encode, slice_append_left, slice_append_right, slice_toList]

end StopRequest

namespace StatusResponse

theorem exact (data : List UInt8) : Exact encode decode data := by
  intro message
  constructor
  · intro decoded
    obtain ⟨⟨⟩, sized, decoded⟩ := bind_eq_ok.1 decoded
    obtain ⟨⟨⟩, reserved, decoded⟩ := bind_eq_ok.1 decoded
    obtain ⟨⟨⟩, valid, decoded⟩ := bind_eq_ok.1 decoded
    cases decoded
    have length := require_eq_ok.1 sized
    obtain ⟨first, second⟩ := require_eq_ok.1 reserved
    rw [encode, valid, ok_bind, ← first, ← second]
    refine congrArg Except.ok ?_
    simp (disch := omega) only [toList_slice, cons_byteAt, writeU16_readU16,
      writeU32_readU32, List.append_nil, segment_append, segment_all]
  · intro encoded
    obtain ⟨⟨⟩, valid, encoded⟩ := bind_eq_ok.1 encoded
    cases encoded
    simp [decode, slice_append_left, slice_append_right, slice_cons_succ,
      byteAt_append_right, byteAt_cons_zero, byteAt_cons_succ,
      readU16_append_right, readU16_cons_succ, readU16_writeU16,
      readU32_append_right, readU32_cons_succ, readU32_writeU32,
      readU32_writeU32_last, valid]

end StatusResponse

namespace Io2LoopbackRequest

theorem exact (data : List UInt8) : Exact encode decode data := by
  intro message
  constructor
  · intro decoded
    obtain ⟨⟨⟩, sized, decoded⟩ := bind_eq_ok.1 decoded
    obtain ⟨⟨⟩, reserved, decoded⟩ := bind_eq_ok.1 decoded
    obtain ⟨⟨⟩, valid, decoded⟩ := bind_eq_ok.1 decoded
    cases decoded
    have length := require_eq_ok.1 sized
    rw [encode, valid, ok_bind, ← require_eq_ok.1 reserved]
    refine congrArg Except.ok ?_
    simp (disch := omega) only [toList_slice, cons_byteAt, writeU32_readU32,
      List.append_nil, segment_append, segment_all]
  · intro encoded
    obtain ⟨⟨⟩, valid, encoded⟩ := bind_eq_ok.1 encoded
    cases encoded
    simp [decode, slice_append_left, slice_append_right, slice_cons_succ,
      slice_toList, byteAt_append_right, byteAt_cons_zero,
      readU32_append_right, readU32_writeU32, valid]

end Io2LoopbackRequest

namespace Ack

theorem exact (data : List UInt8) : Exact encode decode data := by
  intro message
  constructor
  · intro decoded
    obtain ⟨⟨⟩, sized, decoded⟩ := bind_eq_ok.1 decoded
    obtain ⟨⟨⟩, status, decoded⟩ := bind_eq_ok.1 decoded
    cases decoded
    have length := require_eq_ok.1 sized
    rw [encode, require_pos (require_eq_ok.1 status), ok_bind]
    refine congrArg Except.ok ?_
    simp (disch := omega) only [toList_slice, cons_byteAt, writeU16_readU16,
      writeU32_readU32, List.append_nil, segment_append, segment_all]
  · intro encoded
    obtain ⟨⟨⟩, status, encoded⟩ := bind_eq_ok.1 encoded
    cases encoded
    have accepted := require_eq_ok.1 status
    simp [decode, slice_append_left, byteAt_append_right, byteAt_cons_zero,
      byteAt_cons_succ, readU16_append_right, readU16_cons_succ,
      readU16_writeU16, readU32_append_right, readU32_cons_succ,
      readU32_writeU32_last, accepted]
    rw [← accepted]

end Ack

namespace CaptureCommittedRequest

/-- The encoder of a receipt raises nothing. -/
theorem exact (data : List UInt8) :
    Exact (fun message => .ok (encode message)) decode data := by
  intro message
  constructor
  · intro decoded
    obtain ⟨⟨⟩, sized, decoded⟩ := bind_eq_ok.1 decoded
    cases decoded
    have length := require_eq_ok.1 sized
    refine congrArg Except.ok ?_
    unfold encode
    simp (disch := omega) only [toList_slice, writeU32_readU32,
      writeU64_readU64, segment_append, segment_all]
  · intro encoded
    cases encoded
    exact decode_encode message

end CaptureCommittedRequest

namespace Io2LoopbackResult

theorem exact (data : List UInt8) : Exact encode decode data := by
  intro message
  constructor
  · intro decoded
    obtain ⟨⟨⟩, sized, decoded⟩ := bind_eq_ok.1 decoded
    obtain ⟨⟨⟩, reserved, decoded⟩ := bind_eq_ok.1 decoded
    obtain ⟨⟨⟩, valid, decoded⟩ := bind_eq_ok.1 decoded
    cases decoded
    have length := require_eq_ok.1 sized
    have ticks :
        ((List.range 8).map fun index =>
            readU16 data (56 + 2 * index)).flatMap writeU16 =
          segment data 56 16 :=
      flatMap_map_segments fun index inside => writeU16_readU16 (by omega)
    rw [encode, valid, ok_bind, ticks, ← require_eq_ok.1 reserved]
    refine congrArg Except.ok ?_
    simp (disch := omega) only [toList_slice, cons_byteAt, writeU16_readU16,
      writeU32_readU32, List.append_nil, segment_append, segment_all]
  · intro encoded
    obtain ⟨⟨⟩, valid, encoded⟩ := bind_eq_ok.1 encoded
    cases encoded
    obtain ⟨⟨⟩, eight, -⟩ := bind_eq_ok.1 valid
    have count := require_eq_ok.1 eight
    have ticks (rest : List UInt8) :
        (List.range 8).map (fun index =>
            readU16 (message.captureTicks.flatMap writeU16 ++ rest)
              (2 * index)) =
          message.captureTicks := by
      rw [← count]
      exact (map_read_records length_writeU16
        (fun _ _ _ behind => readU16_append_right behind) readU16_writeU16
        message.captureTicks rest).trans (List.map_id _)
    have tickLength :=
      @length_flatMap_records _ writeU16 2 length_writeU16 message.captureTicks
    rw [count] at tickLength
    let head :=
      message.requestId.toList ++ message.profileSha256.toList ++
        writeU32 message.deviceConfigCrc32 ++
        writeU16 message.burstPeriodTicks ++
        [message.capturedEdges, message.resultFlags]
    let tail :=
      writeU16 message.minimumIntervalTicks ++
        writeU16 message.maximumIntervalTicks ++
        [message.preSpiStatus, message.preDevStat, message.preTofConfig,
          message.preVdrvCtrl, message.postSpiStatus, message.postDevStat,
          message.postTofConfig, message.postVdrvCtrl, message.finalIo2Level,
          0]
    have headLength : head.length = 56 := by simp [head]
    have tailLength : tail.length = 14 := by simp [tail]
    have opening (rest : List UInt8) :
        slice (head ++ rest) 0 16 = message.requestId ∧
          slice (head ++ rest) 16 32 = message.profileSha256 ∧
          readU32 (head ++ rest) 48 = message.deviceConfigCrc32 ∧
          readU16 (head ++ rest) 52 = message.burstPeriodTicks ∧
          byteAt (head ++ rest) 54 = message.capturedEdges ∧
          byteAt (head ++ rest) 55 = message.resultFlags := by
      simp [head, slice_append_left, slice_append_right, readU32_append_right,
        readU32_writeU32, readU16_append_right, readU16_writeU16,
        byteAt_append_right, byteAt_cons_zero, byteAt_cons_succ]
    have closing :
        readU16 tail 0 = message.minimumIntervalTicks ∧
          readU16 tail 2 = message.maximumIntervalTicks ∧
          byteAt tail 4 = message.preSpiStatus ∧
          byteAt tail 5 = message.preDevStat ∧
          byteAt tail 6 = message.preTofConfig ∧
          byteAt tail 7 = message.preVdrvCtrl ∧
          byteAt tail 8 = message.postSpiStatus ∧
          byteAt tail 9 = message.postDevStat ∧
          byteAt tail 10 = message.postTofConfig ∧
          byteAt tail 11 = message.postVdrvCtrl ∧
          byteAt tail 12 = message.finalIo2Level ∧ byteAt tail 13 = 0 := by
      simp [tail, readU16_append_right, readU16_writeU16,
        byteAt_append_right, byteAt_cons_zero, byteAt_cons_succ]
    have shape :
        message.requestId.toList ++ message.profileSha256.toList ++
            writeU32 message.deviceConfigCrc32 ++
            writeU16 message.burstPeriodTicks ++
            [message.capturedEdges, message.resultFlags] ++
            message.captureTicks.flatMap writeU16 ++
            writeU16 message.minimumIntervalTicks ++
            writeU16 message.maximumIntervalTicks ++
            [message.preSpiStatus, message.preDevStat, message.preTofConfig,
              message.preVdrvCtrl, message.postSpiStatus, message.postDevStat,
              message.postTofConfig, message.postVdrvCtrl,
              message.finalIo2Level, 0] =
          head ++ (message.captureTicks.flatMap writeU16 ++ tail) := by
      simp only [head, tail, List.append_assoc]
    rw [shape]
    clear_value head tail
    have length :
        (head ++ (message.captureTicks.flatMap writeU16 ++ tail)).length =
          86 := by
      rw [List.length_append, List.length_append, headLength, tickLength,
        tailLength]
    simp [decode, length, opening, readU16_append_right,
      byteAt_append_right, headLength, tickLength, closing, ticks, valid]

end Io2LoopbackResult

namespace SetConfigRequest

theorem exact (data : List UInt8) : Exact encode decode data := by
  intro message
  constructor
  · intro decoded
    obtain ⟨⟨⟩, sized, decoded⟩ := bind_eq_ok.1 decoded
    obtain ⟨config, inner, decoded⟩ := bind_eq_ok.1 decoded
    cases decoded
    have length := require_eq_ok.1 sized
    have encoded := (AcquisitionConfigV2.exact _ _).1 inner
    unfold encode
    dsimp only
    rw [encoded, ok_bind]
    refine congrArg Except.ok ?_
    rw [toList_slice (by omega), toList_slice (by omega),
      segment_append 32 rfl]
    exact List.take_append_drop 48 data
  · intro encoded
    obtain ⟨config, inner, encoded⟩ := bind_eq_ok.1 encoded
    cases encoded
    have decoded := (AcquisitionConfigV2.exact _ _).2 inner
    have sized := (AcquisitionConfigV2.accepted_of_decode decoded).sized
    have enough : 52 ≤ config.length := by
      rw [sized, AcquisitionConfigV2.prefixSize]
      omega
    have dropped :
        (message.requestId.toList ++ message.expectedProfileSha256.toList ++
            config).drop 48 =
          config :=
      List.drop_left' (by simp)
    have long :
        100 ≤
          (message.requestId.toList ++ message.expectedProfileSha256.toList ++
            config).length := by
      simp
      omega
    unfold decode
    rw [require_pos long, ok_bind, dropped, decoded, ok_bind,
      List.append_assoc, slice_append_left, slice_append_right (by simp)]
    simp [slice_append_left]
    rfl

end SetConfigRequest

namespace TriggerSource

/-- A code is that of the trigger source it names. -/
theorem code_of_ofCode?
    {code : UInt8}
    {source : TriggerSource}
    (known : ofCode? code = some source) :
    source.code = code := by
  unfold ofCode? at known
  have same := List.find?_some known
  exact beq_iff_eq.1 same

@[simp] theorem ofCode?_code (source : TriggerSource) :
    ofCode? source.code = some source := by
  cases source <;> rfl

end TriggerSource

namespace ErrorResponse

/-- A text is decoded from the bytes it is encoded to, and from no others. -/
theorem fromUTF8?_eq_some {bytes : List UInt8} {text : String} :
    String.fromUTF8? bytes.toByteArray = some text ↔
      text.toUTF8.data.toList = bytes := by
  unfold String.fromUTF8?
  constructor
  · intro decoded
    split at decoded
    · cases decoded
      exact List.toList_data_toByteArray
    · cases decoded
  · rintro rfl
    have back : text.toUTF8.data.toList.toByteArray = text.toByteArray := by
      apply ByteArray.ext
      rw [List.data_toByteArray]
      rfl
    rw [back, dif_pos text.isValidUTF8]
    rfl

theorem exact (data : List UInt8) : Exact encode decode data := by
  intro message
  constructor
  · intro decoded
    obtain ⟨⟨⟩, bounds, decoded⟩ := bind_eq_ok.1 decoded
    obtain ⟨⟨⟩, sized, decoded⟩ := bind_eq_ok.1 decoded
    split at decoded
    · cases decoded
    · next text spelled =>
        cases decoded
        have written := fromUTF8?_eq_some.1 spelled
        obtain ⟨long, short⟩ := require_eq_ok.1 bounds
        have total : data.length = 29 + (byteAt data 28).toNat :=
          require_eq_ok.1 sized
        have rest :
            data.drop prefixSize =
              segment data 29 (byteAt data 28).toNat :=
          drop_eq_segment total
        have count :
            (data.drop prefixSize).length = (byteAt data 28).toNat := by
          rw [rest, length_segment (by omega)]
        have announced :
            (data.drop prefixSize).length.toUInt8 = byteAt data 28 := by
          rw [count]
          exact UInt8.ofNat_toNat
        have few : (data.drop prefixSize).length ≤ 63 := by
          unfold prefixSize at *
          omega
        unfold encode
        dsimp only
        rw [written, require_pos few, ok_bind, announced, rest]
        refine congrArg Except.ok ?_
        simp (disch := omega) only [toList_slice, cons_byteAt,
          writeU16_readU16, writeU32_readU32, List.append_nil, segment_append,
          segment_all]
  · intro encoded
    obtain ⟨⟨⟩, short, encoded⟩ := bind_eq_ok.1 encoded
    cases encoded
    have few := require_eq_ok.1 short
    have spelled :=
      (@fromUTF8?_eq_some message.message.toUTF8.data.toList
        message.message).2 rfl
    generalize message.message.toUTF8.data.toList = text at few spelled ⊢
    have announced : text.length.toUInt8.toNat = text.length := by
      rw [Nat.toUInt8_eq, UInt8.toNat_ofNat']
      omega
    let head :=
      message.requestId.toList ++ [message.failedType, message.currentState] ++
        writeU16 message.errorCode ++ writeU32 message.detailArg0 ++
        writeU32 message.detailArg1 ++ [text.length.toUInt8]
    have headLength : head.length = 29 := by simp [head]
    have fields :
        slice (head ++ text) 0 16 = message.requestId ∧
          byteAt (head ++ text) 16 = message.failedType ∧
          byteAt (head ++ text) 17 = message.currentState ∧
          readU16 (head ++ text) 18 = message.errorCode ∧
          readU32 (head ++ text) 20 = message.detailArg0 ∧
          readU32 (head ++ text) 24 = message.detailArg1 ∧
          byteAt (head ++ text) 28 = text.length.toUInt8 := by
      simp [head, slice_append_left, byteAt_append_right, byteAt_cons_zero,
        byteAt_cons_succ, readU16_append_right, readU16_cons_succ,
        readU16_writeU16, readU32_append_right, readU32_cons_succ,
        readU32_writeU32]
    obtain ⟨requestId, failed, state, code, first, second, size⟩ := fields
    have dropped : (head ++ text).drop prefixSize = text :=
      List.drop_left' headLength
    have length : (head ++ text).length = prefixSize + text.length := by
      rw [List.length_append, headLength]
      rfl
    have bounds :
        prefixSize ≤ (head ++ text).length ∧
          (head ++ text).length ≤ prefixSize + 63 := by
      omega
    show decode (head ++ text) = .ok message
    unfold decode
    rw [require_pos bounds, ok_bind, size, announced, require_pos length,
      ok_bind, dropped, spelled]
    dsimp only
    rw [requestId, failed, state, code, first, second]
    rfl

end ErrorResponse

namespace CaptureOnceRequest

/-- A trigger source and a timeout that belong together. -/
def TriggerTimes (code : UInt8) (timeoutMs : UInt32) : Prop :=
  (code = 1 ∧ 1 ≤ timeoutMs ∧ timeoutMs ≤ 60000) ∨
    ((code = 0 ∨ code = 2) ∧ timeoutMs = 0)

instance (code : UInt8) (timeoutMs : UInt32) :
    Decidable (TriggerTimes code timeoutMs) :=
  inferInstanceAs (Decidable (_ ∨ _))

/-- What has been checked of a CAPTURE_ONCE that is encoded. -/
theorem encode_eq_ok
    {message : CaptureOnceRequest}
    {data : List UInt8} :
    message.encode = .ok data ↔
      TriggerTimes message.triggerSource.code message.syncTimeoutMs ∧
        message.requestId.toList ++ message.expectedProfileSha256.toList ++
            writeU32 message.expectedDeviceConfigCrc32 ++
            [message.triggerSource.code, 0, 0, 0] ++
            writeU32 message.syncTimeoutMs = data := by
  unfold encode
  constructor
  · intro encoded
    split at encoded
    · next slave =>
        obtain ⟨⟨⟩, inRange, encoded⟩ := bind_eq_ok.1 encoded
        rw [slave] at encoded ⊢
        exact ⟨.inl ⟨rfl, require_eq_ok.1 inRange⟩, Except.ok.inj encoded⟩
    · next other =>
        obtain ⟨⟨⟩, zero, encoded⟩ := bind_eq_ok.1 encoded
        refine ⟨.inr ⟨?_, require_eq_ok.1 zero⟩, Except.ok.inj encoded⟩
        cases source : message.triggerSource with
        | software => exact .inl rfl
        | externalSyncSlave => exact absurd source other
        | externalSyncMaster => exact .inr rfl
  · rintro ⟨slave | other, rfl⟩
    · have source : message.triggerSource = .externalSyncSlave := by
        cases source : message.triggerSource with
        | software => rw [source] at slave; exact absurd slave.1 (by decide)
        | externalSyncSlave => rfl
        | externalSyncMaster =>
            rw [source] at slave; exact absurd slave.1 (by decide)
      rw [if_pos source, require_pos slave.2, ok_bind]
      rfl
    · have source : message.triggerSource ≠ .externalSyncSlave := by
        intro source
        rw [source] at other
        exact absurd other.1 (by decide)
      rw [if_neg source, require_pos other.2, ok_bind]
      rfl

/-- What has been checked of a CAPTURE_ONCE that is decoded. -/
theorem decode_eq_ok {data : List UInt8} {message : CaptureOnceRequest} :
    decode data = .ok message ↔
      data.length = 60 ∧
        TriggerTimes (byteAt data 52) (readU32 data 56) ∧
        TriggerSource.ofCode? (byteAt data 52) = some message.triggerSource ∧
        message = {
          requestId := slice data 0 16
          expectedProfileSha256 := slice data 16 32
          expectedDeviceConfigCrc32 := readU32 data 48
          triggerSource := message.triggerSource
          syncTimeoutMs := readU32 data 56
        } := by
  constructor
  · intro decoded
    obtain ⟨⟨⟩, sized, decoded⟩ := bind_eq_ok.1 decoded
    split at decoded
    · cases decoded
    · next source known =>
        obtain ⟨bytes, encoded, decoded⟩ := bind_eq_ok.1 decoded
        cases decoded
        have times := (encode_eq_ok.1 encoded).1
        rw [TriggerSource.code_of_ofCode? known] at times
        exact ⟨require_eq_ok.1 sized, times, known, rfl⟩
  · rintro ⟨sized, times, known, read⟩
    unfold decode
    rw [require_pos sized, ok_bind, known]
    dsimp only
    rw [← TriggerSource.code_of_ofCode? known] at times
    rw [← read]
    have encoded : ∃ bytes, message.encode = .ok bytes := by
      refine ⟨_, encode_eq_ok.2 ⟨?_, rfl⟩⟩
      rw [read]
      exact times
    obtain ⟨bytes, encoded⟩ := encoded
    rw [encoded]
    rfl

/-- The decoder does not look at the bytes behind the trigger source. -/
def Unambiguous (data : List UInt8) : Prop :=
  data.length = 60 →
    TriggerTimes (byteAt data 52) (readU32 data 56) →
      slice data 53 3 = Bytes.zero 3

/-- A CAPTURE_ONCE that can be encoded is decoded to itself. -/
theorem decode_of_encode
    {message : CaptureOnceRequest}
    {data : List UInt8}
    (encoded : message.encode = .ok data) :
    decode data = .ok message := by
  obtain ⟨times, rfl⟩ := encode_eq_ok.1 encoded
  apply decode_eq_ok.2
  simp [slice_append_left, slice_append_right, byteAt_append_right,
    byteAt_cons_zero, readU32_append_right, readU32_cons_succ,
    readU32_writeU32, readU32_writeU32_last, times]

theorem exact_iff (data : List UInt8) :
    Exact encode decode data ↔ Unambiguous data := by
  constructor
  · intro exact sized times
    have known :
        ∃ source, TriggerSource.ofCode? (byteAt data 52) = some source := by
      rcases times with ⟨code, -⟩ | ⟨code | code, -⟩ <;> rw [code]
      · exact ⟨.externalSyncSlave, rfl⟩
      · exact ⟨.software, rfl⟩
      · exact ⟨.externalSyncMaster, rfl⟩
    obtain ⟨source, known⟩ := known
    have decoded :
        decode data =
          .ok ⟨slice data 0 16, slice data 16 32, readU32 data 48, source,
            readU32 data 56⟩ :=
      decode_eq_ok.2 ⟨sized, times, known, rfl⟩
    have encoded := (exact _).1 decoded
    rw [← (encode_eq_ok.1 encoded).2]
    simp [slice_append_right, slice_cons_succ]
    rfl
  · intro unambiguous message
    refine ⟨fun decoded => ?_, decode_of_encode⟩
    obtain ⟨sized, times, known, read⟩ := decode_eq_ok.1 decoded
    have code := TriggerSource.code_of_ofCode? known
    have reserved : [(0 : UInt8), 0, 0] = (slice data 53 3).toList := by
      rw [unambiguous sized times]
      rfl
    rw [read]
    refine encode_eq_ok.2 ⟨code ▸ times, ?_⟩
    rw [code, reserved]
    simp (disch := omega) only [toList_slice, cons_byteAt, writeU32_readU32,
      segment_append, segment_all]

end CaptureOnceRequest

namespace CaptureCommittedResponse

/-- The decoder does not look at the disposition. -/
def Unambiguous (data : List UInt8) : Prop :=
  data.length = 24 →
    slice data 17 7 = Bytes.zero 7 →
      byteAt data 16 = 1 ∨ byteAt data 16 = 2

theorem exact_iff (data : List UInt8) :
    Exact encode decode data ↔ Unambiguous data := by
  constructor
  · intro exact sized reserved
    have decoded :
        decode data =
          .ok ⟨readU64 data 0, readU64 data 8, byteAt data 16⟩ := by
      unfold decode
      rw [require_pos sized, ok_bind, require_pos reserved, ok_bind]
      rfl
    obtain ⟨⟨⟩, disposition, -⟩ := bind_eq_ok.1 ((exact _).1 decoded)
    exact require_eq_ok.1 disposition
  · intro unambiguous message
    refine ⟨fun decoded => ?_, decode_of_encode⟩
    obtain ⟨⟨⟩, sized, decoded⟩ := bind_eq_ok.1 decoded
    obtain ⟨⟨⟩, reserved, decoded⟩ := bind_eq_ok.1 decoded
    cases decoded
    have length := require_eq_ok.1 sized
    have zero := require_eq_ok.1 reserved
    have zeros : List.replicate 7 (0 : UInt8) = (slice data 17 7).toList := by
      rw [zero]
      rfl
    unfold encode
    dsimp only
    rw [require_pos (unambiguous length zero), ok_bind, zeros]
    refine congrArg Except.ok ?_
    simp (disch := omega) only [toList_slice, singleton_byteAt,
      writeU64_readU64, segment_append, segment_all]

end CaptureCommittedResponse

end Usac.Host
