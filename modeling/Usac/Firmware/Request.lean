import Usac.Firmware.Run

namespace Usac.Firmware.Request

open Library

/-!
# Well-formed requests

The command frames a host sends, built from their fields. Each is a frame the
parser accepts, so each is an input of the application in some run.
-/

/-- A HELLO for protocol version 1. -/
def helloFrame (sequence : UInt32) (hostNonce : Id16) : Mcu.FrameView where
  messageType := Message.hello
  flags := 0
  sequence := sequence
  payload := hostNonce.toList ++ [1, 1, 0, 0]

/-- A SET_CONFIG that names the configuration it expects to replace. -/
def setConfigFrame
    (sequence : UInt32)
    (requestId : Id16)
    (expectedCurrentHash : Bytes 32)
    (config : ConfigV2) :
    Mcu.FrameView where
  messageType := Message.setConfig
  flags := 0
  sequence := sequence
  payload :=
    requestId.toList ++ expectedCurrentHash.toList ++ config.wireForm

/-- A CAPTURE_ONCE bound to a configuration, with an internal trigger. -/
def captureOnceFrame
    (sequence : UInt32)
    (requestId : Id16)
    (config : ConfigV2) :
    Mcu.FrameView where
  messageType := Message.captureOnce
  flags := 0
  sequence := sequence
  payload :=
    requestId.toList ++ config.profileSha256.toList ++
      (writeU32 config.deviceConfigCrc32 ++ [0, 0, 0, 0, 0, 0, 0, 0])

/-- A START_PERIODIC bound to a configuration. -/
def startPeriodicFrame
    (sequence : UInt32)
    (requestId scheduleId : Id16)
    (config : ConfigV2)
    (periodUs captureCount leaseTimeoutMs : UInt32) :
    Mcu.FrameView where
  messageType := Message.startPeriodic
  flags := 0
  sequence := sequence
  payload :=
    requestId.toList ++ (scheduleId.toList ++
      (config.profileSha256.toList ++
        (writeU32 config.deviceConfigCrc32 ++ (writeU32 periodUs ++
          (writeU32 captureCount ++ (writeU32 leaseTimeoutMs ++ []))))))

/-- The parser accepts every HELLO. -/
theorem helloFrame_accepted (sequence : UInt32) (hostNonce : Id16) :
    (helloFrame sequence hostNonce).Accepted where
  flags := by simp [helloFrame]
  bounded := by simp [helloFrame, Mcu.maxCommandPayload]
  length := by simp [helloFrame, Mcu.lengthAllowed, Mcu.requiredLength?]
  payload := by
    have field (index : Nat) :
        byteAt (hostNonce.toList ++ [1, 1, 0, 0]) (16 + index) =
          byteAt [1, 1, 0, 0] index := by
      rw [byteAt_append_right (by simp)]
      simp
    simp only [helloFrame, Mcu.payloadAllowed, if_true, field 0, field 1,
      field 2, field 3]
    decide

/-- The parser accepts every SET_CONFIG. -/
theorem setConfigFrame_accepted
    (sequence : UInt32)
    (requestId : Id16)
    (expectedCurrentHash : Bytes 32)
    (config : ConfigV2) :
    (setConfigFrame sequence requestId expectedCurrentHash config).Accepted
    where
  flags := by simp [setConfigFrame]
  bounded := by
    simp [setConfigFrame, Mcu.maxCommandPayload, ConfigV2.wireLength]
  length := by
    simp [setConfigFrame, Mcu.lengthAllowed, Mcu.requiredLength?,
      ConfigV2.wireLength]
    decide
  payload := by
    have count :
        byteAt (requestId.toList ++ expectedCurrentHash.toList ++
          config.wireForm) 62 = 10 := by
      rw [byteAt_append_right (by simp)]
      simp [ConfigV2.wireForm, byteAt, writeU16]
      rfl
    simp [setConfigFrame, Mcu.payloadAllowed, Message.setConfig,
      Message.hello, -List.append_assoc, count]

/-- The parser accepts every CAPTURE_ONCE. -/
theorem captureOnceFrame_accepted
    (sequence : UInt32)
    (requestId : Id16)
    (config : ConfigV2) :
    (captureOnceFrame sequence requestId config).Accepted where
  flags := by simp [captureOnceFrame]
  bounded := by simp [captureOnceFrame, Mcu.maxCommandPayload]
  length := by
    simp [captureOnceFrame, Mcu.lengthAllowed, Mcu.requiredLength?]
    decide
  payload := by
    have field (index : Nat) :
        byteAt (requestId.toList ++ config.profileSha256.toList ++
            (writeU32 config.deviceConfigCrc32 ++ [0, 0, 0, 0, 0, 0, 0, 0]))
            (52 + index) =
          byteAt [0, 0, 0, 0, 0, 0, 0, 0] index := by
      rw [byteAt_append_right (by simp; omega),
        byteAt_append_right (by simp; omega)]
      congr 1
      simp
      omega
    simp only [captureOnceFrame, Mcu.payloadAllowed, Message.captureOnce,
      Message.hello, Message.setConfig, field 0, field 1, field 2, field 3]
    simp [byteAt]

/-- The words of a START_PERIODIC behind its identities. -/
theorem startPeriodicFrame_words
    (sequence : UInt32)
    (requestId scheduleId : Id16)
    (config : ConfigV2)
    (periodUs captureCount leaseTimeoutMs : UInt32) :
    let payload :=
      (startPeriodicFrame sequence requestId scheduleId config periodUs
        captureCount leaseTimeoutMs).payload
    slice payload 16 16 = scheduleId ∧
      slice payload 32 32 = config.profileSha256 ∧
      readU32 payload 64 = config.deviceConfigCrc32 ∧
      readU32 payload 68 = periodUs ∧
      readU32 payload 72 = captureCount ∧
      readU32 payload 76 = leaseTimeoutMs := by
  simp only [startPeriodicFrame]
  refine ⟨?_, ?_, ?_, ?_, ?_, ?_⟩
  · rw [slice_append_right (by simp)]
    simp [slice_append_left]
  · rw [slice_append_right (by simp), slice_append_right (by simp)]
    simp [slice_append_left]
  · rw [readU32_append_right (by simp), readU32_append_right (by simp),
      readU32_append_right (by simp)]
    simp [readU32_writeU32]
  · rw [readU32_append_right (by simp), readU32_append_right (by simp),
      readU32_append_right (by simp), readU32_append_right (by simp)]
    simp [readU32_writeU32]
  · rw [readU32_append_right (by simp), readU32_append_right (by simp),
      readU32_append_right (by simp), readU32_append_right (by simp),
      readU32_append_right (by simp)]
    simp [readU32_writeU32]
  · rw [readU32_append_right (by simp), readU32_append_right (by simp),
      readU32_append_right (by simp), readU32_append_right (by simp),
      readU32_append_right (by simp), readU32_append_right (by simp)]
    simpa using readU32_writeU32 leaseTimeoutMs []

/-- The parser accepts a START_PERIODIC within the limits of the protocol. -/
theorem startPeriodicFrame_accepted
    (sequence : UInt32)
    (requestId scheduleId : Id16)
    (config : ConfigV2)
    (periodUs captureCount leaseTimeoutMs : UInt32)
    (identified : scheduleId ≠ Bytes.zero 16)
    (period : 100000 ≤ periodUs)
    (shortest : 1000 ≤ leaseTimeoutMs)
    (longest : leaseTimeoutMs ≤ 10000) :
    (startPeriodicFrame sequence requestId scheduleId config periodUs
      captureCount leaseTimeoutMs).Accepted where
  flags := by simp [startPeriodicFrame]
  bounded := by simp [startPeriodicFrame, Mcu.maxCommandPayload]
  length := by
    simp [startPeriodicFrame, Mcu.lengthAllowed, Mcu.requiredLength?]
    decide
  payload := by
    obtain ⟨schedule, -, -, periodWord, -, lease⟩ :=
      startPeriodicFrame_words sequence requestId scheduleId config periodUs
        captureCount leaseTimeoutMs
    have type :
        (startPeriodicFrame sequence requestId scheduleId config periodUs
          captureCount leaseTimeoutMs).messageType =
            Message.startPeriodic :=
      rfl
    simp only [Mcu.payloadAllowed, type, schedule, periodWord, lease]
    simp [identified, period, shortest, longest, Message.startPeriodic,
      Message.hello, Message.setConfig, Message.captureOnce,
      Message.runIo2LoopbackTest]

/-! ## Requests as the parser hands them over -/

/-- A HELLO. -/
def hello (sequence : UInt32) (hostNonce : Id16) : Mcu.ParsedFrame :=
  ⟨helloFrame sequence hostNonce, helloFrame_accepted sequence hostNonce⟩

/-- A SET_CONFIG. -/
def setConfig
    (sequence : UInt32)
    (requestId : Id16)
    (expectedCurrentHash : Bytes 32)
    (config : ConfigV2) :
    Mcu.ParsedFrame :=
  ⟨setConfigFrame sequence requestId expectedCurrentHash config,
    setConfigFrame_accepted sequence requestId expectedCurrentHash config⟩

/-- A CAPTURE_ONCE. -/
def captureOnce
    (sequence : UInt32)
    (requestId : Id16)
    (config : ConfigV2) :
    Mcu.ParsedFrame :=
  ⟨captureOnceFrame sequence requestId config,
    captureOnceFrame_accepted sequence requestId config⟩

/-- A START_PERIODIC on the default configuration, ten captures a second. -/
def startDefault : Mcu.ParsedFrame :=
  ⟨startPeriodicFrame 2 (Id16.ofByte 1) (Id16.ofByte 2) ConfigV2.initD10x4
      100000 0 1000,
    startPeriodicFrame_accepted 2 (Id16.ofByte 1) (Id16.ofByte 2)
      ConfigV2.initD10x4 100000 0 1000 (by decide) (by decide) (by decide)
      (by decide)⟩

end Usac.Firmware.Request
