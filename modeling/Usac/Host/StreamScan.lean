import Usac.Host.FrameFormat
import Usac.Host.StreamParser

namespace Usac.Host

open Library

/-!
# What the stream parser finds

The parser works through its buffer by searching for a magic, keeping the
beginning of one, and refusing a header before its payload is there. What comes
of it is the greedy scan: at each position either the valid frame that starts
there, or one byte that is passed over.
-/

namespace StreamScan

/-- The size a header announces. -/
def frameSize (data : List UInt8) : Nat :=
  Frame.headerSize + (readU32 data 12).toNat + Frame.crcSize

/-- What is wrong with a header. -/
def headerFault (data : List UInt8) : Option Fault :=
  if Frame.hostMaxPayloadLength < (readU32 data 12).toNat then
    some .invalidLength
  else
    match MessageType.ofCode? (byteAt data 5) with
    | none => some .invalidHeader
    | some messageType =>
        if byteAt data 4 ≠ Frame.currentVersion ∨
            readU16 data 6 &&& ~~~Frame.validFlagsMask ≠ 0 then
          some .invalidHeader
        else if flagsAreValidForMessage messageType (readU16 data 6) ≠ true then
          some .invalidHeader
        else if payloadLengthIsValid messageType (readU16 data 6)
            (readU32 data 12).toNat ≠ true then
          some .invalidLength
        else
          none

/-- What starts at the front of the stream: a frame, or the beginning of one,
or nothing. -/
def judge (data : List UInt8) : Verdict Frame Fault :=
  if data.length < 4 ∧ data <+: Frame.magic then
    .wait
  else if ¬Frame.magic <+: data then
    .reject .noMagic
  else if data.length < Frame.headerSize then
    .wait
  else
    match headerFault data with
    | some fault => .reject fault
    | none =>
        if data.length < frameSize data then
          .wait
        else
          match Frame.decode (data.take (frameSize data)) with
          | .ok frame => .found frame (frameSize data)
          | .error _ => .reject .crcError

/-- A magic has four bytes. -/
theorem four_le_of_magic
    {data : List UInt8}
    (opens : Frame.magic <+: data) :
    4 ≤ data.length :=
  opens.length_le

/-- The verdict on a candidate. -/
theorem judge_of_magic
    {data : List UInt8}
    (opens : Frame.magic <+: data) :
    judge data =
      if data.length < Frame.headerSize then
        .wait
      else
        match headerFault data with
        | some fault => .reject fault
        | none =>
            if data.length < frameSize data then
              .wait
            else
              match Frame.decode (data.take (frameSize data)) with
              | .ok frame => .found frame (frameSize data)
              | .error _ => .reject .crcError := by
  unfold judge
  rw [if_neg, if_neg (not_not.2 opens)]
  rintro ⟨short, -⟩
  exact absurd (four_le_of_magic opens) (Nat.not_le.2 short)

/-- The verdict on a position without a magic. -/
theorem judge_of_not_magic
    {data : List UInt8}
    (other : ¬Frame.magic <+: data)
    (whole : ¬(data.length < 4 ∧ data <+: Frame.magic)) :
    judge data = .reject .noMagic := by
  unfold judge
  rw [if_neg whole, if_pos other]

/-- The header decides on its first bytes. -/
theorem headerFault_append
    {data : List UInt8}
    (complete : Frame.headerSize ≤ data.length)
    (more : List UInt8) :
    headerFault (data ++ more) = headerFault data ∧
      frameSize (data ++ more) = frameSize data := by
  have sixteen : 16 ≤ data.length := complete
  unfold headerFault frameSize
  rw [readU32_append_left (by omega), readU16_append_left (by omega),
    byteAt_append_left (by omega), byteAt_append_left (by omega)]
  exact ⟨rfl, rfl⟩

/-- A verdict that is given stays. -/
theorem judge_stable
    {data : List UInt8}
    (more : List UInt8)
    (decided : judge data ≠ .wait) :
    judge (data ++ more) = judge data := by
  by_cases opens : Frame.magic <+: data
  · rw [judge_of_magic (opens.trans (List.prefix_append data more)),
      judge_of_magic opens]
    rw [judge_of_magic opens] at decided
    by_cases short : data.length < Frame.headerSize
    · rw [if_pos short] at decided
      exact absurd rfl decided
    · rw [if_neg short] at decided ⊢
      obtain ⟨sameFault, sameSize⟩ :=
        headerFault_append (Nat.not_lt.1 short) more
      rw [sameFault, sameSize, if_neg]
      · cases fault : headerFault data with
        | some fault => rfl
        | none =>
            rw [fault] at decided
            dsimp only at decided ⊢
            by_cases partly : data.length < frameSize data
            · rw [if_pos partly] at decided
              exact absurd rfl decided
            · rw [if_neg partly, if_neg,
                List.take_append_of_le_length (Nat.not_lt.1 partly)]
              rw [List.length_append]
              exact fun less =>
                partly (Nat.lt_of_le_of_lt (Nat.le_add_right _ _) less)
      · rw [List.length_append]
        exact fun less =>
          short (Nat.lt_of_le_of_lt (Nat.le_add_right _ _) less)
  · by_cases begins : data.length < 4 ∧ data <+: Frame.magic
    · unfold judge at decided
      rw [if_pos begins] at decided
      exact absurd rfl decided
    · rw [judge_of_not_magic opens begins]
      refine judge_of_not_magic (fun present => ?_) fun begun => ?_
      · rcases List.prefix_or_prefix_of_prefix present
          (List.prefix_append data more) with here | shorter
        · exact opens here
        · refine begins ⟨Nat.lt_of_le_of_ne shorter.length_le fun same => ?_,
            shorter⟩
          exact opens (shorter.eq_of_length same ▸ List.prefix_refl _)
      · refine begins ⟨?_, (List.prefix_append data more).trans begun.2⟩
        refine Nat.lt_of_le_of_lt ?_ begun.1
        rw [List.length_append]
        exact Nat.le_add_right _ _

theorem judge_found_size
    {data : List UInt8}
    {frame : Frame}
    {size : Nat}
    (found : judge data = .found frame size) :
    size = frameSize data ∧ size ≤ data.length ∧
      Frame.magic <+: data ∧ headerFault data = none ∧
      Frame.headerSize ≤ data.length ∧
      Frame.decode (data.take size) = .ok frame := by
  unfold judge at found
  split at found
  · cases found
  · split at found
    · cases found
    · next opens =>
        split at found
        · cases found
        · next complete =>
            split at found
            · cases found
            · next faultless =>
                split at found
                · cases found
                · next whole =>
                    split at found
                    · next decoded =>
                        cases found
                        exact ⟨rfl, Nat.not_lt.1 whole, not_not.1 opens,
                          faultless, Nat.not_lt.1 complete, decoded⟩
                    · cases found

end StreamScan

/-- The scanner of the host. -/
def streamScanner : Scanner UInt8 Frame Fault where
  judge := StreamScan.judge
  judge_nil := rfl
  found_size := by
    intro data frame size found
    obtain ⟨rfl, fits, -⟩ := StreamScan.judge_found_size found
    exact ⟨Nat.add_pos_right _ (by decide), fits⟩
  stable := StreamScan.judge_stable

namespace StreamScan

/-- The checks a header without fault has passed. -/
theorem headerFault_none
    {data : List UInt8}
    (faultless : headerFault data = none) :
    ∃ messageType,
      MessageType.ofCode? (byteAt data 5) = some messageType ∧
        (readU32 data 12).toNat ≤ Frame.hostMaxPayloadLength ∧
        byteAt data 4 = Frame.currentVersion ∧
        readU16 data 6 &&& ~~~Frame.validFlagsMask = 0 ∧
        flagsAreValidForMessage messageType (readU16 data 6) = true ∧
        payloadLengthIsValid messageType (readU16 data 6)
            (readU32 data 12).toNat =
          true := by
  unfold headerFault at faultless
  split at faultless
  · cases faultless
  · next short =>
      split at faultless
      · cases faultless
      · next messageType known =>
          split at faultless
          · cases faultless
          · next fields =>
              split at faultless
              · cases faultless
              · next flags =>
                  split at faultless
                  · cases faultless
                  · next length =>
                      obtain ⟨version, reserved⟩ := not_or.1 fields
                      exact ⟨messageType, known, Nat.not_lt.1 short,
                        not_not.1 version, not_not.1 reserved, not_not.1 flags,
                        not_not.1 length⟩

/-- Bytes with a header that is accepted fail by their CRC only. -/
theorem decode_error_kind
    {piece : List UInt8}
    {size : Nat}
    {messageType : MessageType}
    {raised : Raised}
    (sized : piece.length = size)
    (opens : piece.take 4 = Frame.magic)
    (announced :
      size = Frame.headerSize + (readU32 piece 12).toNat + Frame.crcSize)
    (short : (readU32 piece 12).toNat ≤ Frame.hostMaxPayloadLength)
    (known : MessageType.ofCode? (byteAt piece 5) = some messageType)
    (version : byteAt piece 4 = Frame.currentVersion)
    (reserved : readU16 piece 6 &&& ~~~Frame.validFlagsMask = 0)
    (fails : Frame.decode piece = .error raised) :
    raised.kind = .crcMismatchError := by
  have exactly_ :
      piece.length =
        Frame.headerSize + (readU32 piece 12).toNat + Frame.crcSize :=
    sized.trans announced
  have enough : Frame.headerSize + Frame.crcSize ≤ piece.length := by
    rw [exactly_]
    exact Nat.add_le_add_right (Nat.le_add_right _ _) _
  have payload :
      ((piece.drop Frame.headerSize).take (readU32 piece 12).toNat).length ≤
        Frame.hostMaxPayloadLength :=
    Nat.le_trans (List.length_take_le _ _) short
  unfold Frame.decode Frame.validateFields at fails
  rw [require_pos enough, ok_bind, require_pos opens, ok_bind] at fails
  dsimp only at fails
  rw [require_pos short, ok_bind, require_pos exactly_, ok_bind, known] at fails
  dsimp only at fails
  rw [require_pos version, ok_bind, require_pos reserved, ok_bind,
    require_pos payload, ok_bind] at fails
  cases matches_ :
      require
        (Frame.crc32IsoHdlc
            ((piece.drop 4).take (12 + (readU32 piece 12).toNat)) =
          readU32 piece (Frame.headerSize + (readU32 piece 12).toNat))
        (Frame.crcMismatch
          (readU32 piece (Frame.headerSize + (readU32 piece 12).toNat))
          (Frame.crc32IsoHdlc
            ((piece.drop 4).take (12 + (readU32 piece 12).toNat)))) with
  | ok checked =>
      rw [matches_] at fails
      cases fails
  | error mismatch =>
      rw [matches_] at fails
      cases fails
      obtain ⟨-, rfl⟩ := require_eq_error.1 matches_
      rfl

/-- All that can be wrong with a complete candidate is its CRC. -/
theorem decode_candidate
    {data : List UInt8}
    (opens : Frame.magic <+: data)
    (faultless : headerFault data = none)
    (whole : frameSize data ≤ data.length)
    {raised : Raised}
    (fails : Frame.decode (data.take (frameSize data)) = .error raised) :
    raised.kind = .crcMismatchError := by
  obtain ⟨messageType, known, short, version, reserved, -⟩ :=
    headerFault_none faultless
  have sixteen : 16 ≤ frameSize data := Nat.le_trans (Nat.le_add_right _ _)
    (Nat.le_add_right _ _)
  have taken : (data.take (frameSize data)).length = frameSize data :=
    List.length_take_of_le whole
  have front : data.take (frameSize data) ++ data.drop (frameSize data) =
      data :=
    List.take_append_drop _ _
  have magic : (data.take (frameSize data)).take 4 = Frame.magic := by
    rw [List.take_take, Nat.min_eq_left (by omega)]
    exact (List.prefix_iff_eq_take.1 opens).symm
  have size : readU32 (data.take (frameSize data)) 12 = readU32 data 12 := by
    rw [← congrArg (readU32 · 12) front]
    exact (readU32_append_left (by omega)).symm
  have code : byteAt (data.take (frameSize data)) 5 = byteAt data 5 := by
    rw [← congrArg (byteAt · 5) front]
    exact (byteAt_append_left (by omega)).symm
  have current : byteAt (data.take (frameSize data)) 4 = byteAt data 4 := by
    rw [← congrArg (byteAt · 4) front]
    exact (byteAt_append_left (by omega)).symm
  have flags : readU16 (data.take (frameSize data)) 6 = readU16 data 6 := by
    rw [← congrArg (readU16 · 6) front]
    exact (readU16_append_left (by omega)).symm
  refine decode_error_kind taken magic ?_ ?_ ((congrArg _ code).trans known)
    ?_ ?_ fails
  · rw [size]
    rfl
  · rw [size]
    exact short
  · rw [current]
    exact version
  · rw [flags]
    exact reserved

end StreamScan

/-! ## Valid frames -/

namespace StreamScan

/-- The policy of the host lets a frame pass. -/
structure Allowed (frame : Frame) : Prop where
  flags : flagsAreValidForMessage frame.messageType frame.flags = true
  length :
    payloadLengthIsValid frame.messageType frame.flags frame.payload.length =
      true

/-- What the fields of an accepted frame are read from. -/
theorem fields_of_accepted
    {data : List UInt8}
    {frame : Frame}
    (accepted : frame.Accepted data) :
    MessageType.ofCode? (byteAt data 5) = some frame.messageType ∧
      frame.flags = readU16 data 6 ∧
      frame.payload.length = (readU32 data 12).toNat ∧
      byteAt data 4 = Frame.currentVersion ∧
      readU16 data 6 &&& ~~~Frame.validFlagsMask = 0 ∧
      (readU32 data 12).toNat ≤ Frame.hostMaxPayloadLength := by
  obtain ⟨-, sized, ⟨messageType, known, rfl⟩, valid, -⟩ := accepted
  have total : data.length = 16 + (readU32 data 12).toNat + 4 := sized
  obtain ⟨⟨⟩, version, valid⟩ := bind_eq_ok.1 valid
  obtain ⟨⟨⟩, reserved, short⟩ := bind_eq_ok.1 valid
  have length :
      (Frame.read data messageType).payload.length =
        (readU32 data 12).toNat := by
    show (segment data 16 _).length = _
    exact length_segment (by omega)
  refine ⟨known, rfl, length, require_eq_ok.1 version,
    require_eq_ok.1 reserved, ?_⟩
  rw [← length]
  exact require_eq_ok.1 short

/-- An allowed frame is found where its bytes are. -/
theorem judge_of_encode
    {frame : Frame}
    {bytes : List UInt8}
    (encoded : frame.encode = .ok bytes)
    (allowed : Allowed frame)
    (more : List UInt8) :
    judge (bytes ++ more) = .found frame bytes.length := by
  have decoded := Frame.decode_of_encode encoded
  have accepted := Frame.accepted_of_decode decoded
  obtain ⟨known, flags, length, version, reserved, short⟩ :=
    fields_of_accepted accepted
  have total : bytes.length = frameSize bytes := accepted.sized
  have opens : Frame.magic <+: bytes := by
    rw [← accepted.opens]
    exact List.take_prefix _ _
  have faultless : headerFault bytes = none := by
    unfold headerFault
    rw [if_neg (Nat.not_lt.2 short), known]
    dsimp only
    rw [if_neg (not_or.2 ⟨not_not.2 version, not_not.2 reserved⟩), ← flags,
      ← length, if_neg (not_not.2 allowed.flags),
      if_neg (not_not.2 allowed.length)]
  have found : judge bytes = .found frame bytes.length := by
    have complete : ¬bytes.length < Frame.headerSize := by
      rw [total]
      exact Nat.not_lt.2
        (Nat.le_trans (Nat.le_add_right _ _) (Nat.le_add_right _ _))
    rw [judge_of_magic opens, if_neg complete, faultless]
    dsimp only
    rw [← total, if_neg (Nat.lt_irrefl _), List.take_length, decoded]
  exact streamScanner.judge_append_of_found found more

/--
A position is accepted exactly when the bytes of an allowed frame start there.
-/
theorem judge_eq_found
    {data : List UInt8}
    {frame : Frame}
    {size : Nat} :
    judge data = .found frame size ↔
      ∃ bytes,
        frame.encode = .ok bytes ∧ bytes <+: data ∧ bytes.length = size ∧
          Allowed frame := by
  constructor
  · intro found
    obtain ⟨announced, fits, opens, faultless, complete, decoded⟩ :=
      judge_found_size found
    have encoded := Frame.encode_of_decode decoded
    refine ⟨data.take size, encoded, List.take_prefix _ _,
      List.length_take_of_le fits, ?_⟩
    obtain ⟨known, flags, length, -⟩ :=
      fields_of_accepted (Frame.accepted_of_decode decoded)
    obtain ⟨messageType, sameType, -, -, -, validFlags, validLength⟩ :=
      headerFault_none faultless
    have sixteen : 16 ≤ size := by
      rw [announced]
      exact Nat.le_trans (Nat.le_add_right _ _) (Nat.le_add_right _ _)
    have taken : (data.take size).length = size := List.length_take_of_le fits
    have front : data.take size ++ data.drop size = data :=
      List.take_append_drop _ _
    have code : byteAt (data.take size) 5 = byteAt data 5 := by
      rw [← congrArg (byteAt · 5) front]
      exact (byteAt_append_left (by omega)).symm
    have sameFlags : readU16 (data.take size) 6 = readU16 data 6 := by
      rw [← congrArg (readU16 · 6) front]
      exact (readU16_append_left (by omega)).symm
    have sameSize : readU32 (data.take size) 12 = readU32 data 12 := by
      rw [← congrArg (readU32 · 12) front]
      exact (readU32_append_left (by omega)).symm
    rw [code] at known
    cases sameType.symm.trans known
    constructor
    · rw [flags, sameFlags]
      exact validFlags
    · rw [flags, sameFlags, length, sameSize]
      exact validLength
  · rintro ⟨bytes, encoded, ⟨more, rfl⟩, rfl, allowed⟩
    exact judge_of_encode encoded allowed more

end StreamScan

namespace HostStreamParser

open StreamScan

/-- What becomes of a candidate on which there is a verdict. -/
def answer (parser : HostStreamParser) : Verdict Frame Fault → Turn
  | .wait => .stop parser
  | .reject fault => .again (parser.refuse fault)
  | .found frame size =>
      .accept frame { parser with
        buffer := parser.buffer.drop size
        candidateStartedMs := none }

/-- A candidate is treated by its verdict. It is never the reason for an
exception. -/
theorem examine_eq_answer
    {parser : HostStreamParser}
    (opens : Frame.magic <+: parser.buffer) :
    parser.examine = parser.answer (judge parser.buffer) := by
  rw [judge_of_magic opens]
  unfold examine
  by_cases short : parser.buffer.length < Frame.headerSize
  · rw [if_pos short, if_pos short]
    rfl
  · rw [if_neg short, if_neg short]
    cases fault : headerFault parser.buffer with
    | some fault =>
        unfold headerFault at fault
        dsimp only
        split at fault
        · next long =>
            cases fault
            rw [if_pos long]
            rfl
        · next fits =>
            rw [if_neg fits]
            cases known : MessageType.ofCode? (byteAt parser.buffer 5) with
            | none =>
                rw [known] at fault
                cases fault
                rfl
            | some messageType =>
                rw [known] at fault
                dsimp only at fault ⊢
                split at fault
                · next fields =>
                    cases fault
                    rw [if_pos fields]
                    rfl
                · next fields =>
                    rw [if_neg fields]
                    split at fault
                    · next flags =>
                        cases fault
                        rw [if_pos flags]
                        rfl
                    · next flags =>
                        rw [if_neg flags]
                        split at fault
                        · next length =>
                            cases fault
                            rw [if_pos length]
                            rfl
                        · cases fault
    | none =>
        obtain ⟨messageType, known, fits, version, reserved, flags, length⟩ :=
          headerFault_none fault
        dsimp only
        rw [if_neg (Nat.not_lt.2 fits), known]
        dsimp only
        rw [if_neg (not_or.2 ⟨not_not.2 version, not_not.2 reserved⟩),
          if_neg (not_not.2 flags), if_neg (not_not.2 length)]
        show (if parser.buffer.length < frameSize parser.buffer then _
          else _) = _
        by_cases partly : parser.buffer.length < frameSize parser.buffer
        · rw [if_pos partly, if_pos partly]
          rfl
        · rw [if_neg partly, if_neg partly]
          show (match
              Frame.decode (parser.buffer.take (frameSize parser.buffer)) with
            | .ok frame => _
            | .error raised => _) = _
          cases decoded :
              Frame.decode (parser.buffer.take (frameSize parser.buffer)) with
          | ok frame => rfl
          | error raised =>
              have mismatch :=
                decode_candidate opens fault (Nat.not_lt.1 partly) decoded
              have caught : raised.isA .crcMismatchError = true := by
                unfold Raised.isA
                rw [mismatch]
                rfl
              dsimp only
              rw [if_pos caught]
              rfl

/-- What one turn of the loop does with its buffer. -/
inductive Turns (parser : HostStreamParser) (nowMs : Int) : Turn → Prop where
  | cleared (nowhere : find Frame.magic parser.buffer = none) :
      Turns parser nowMs
        (.stop (parser.discardGarbage
          (parser.buffer.length - magicPrefixLength parser.buffer)))
  | waits
      (index : Nat)
      (started : Int)
      (found : find Frame.magic parser.buffer = some index)
      (judged : judge (parser.buffer.drop index) = .wait)
      (since : started = nowMs ∨ parser.candidateStartedMs = some started) :
      Turns parser nowMs
        (.stop ⟨parser.buffer.drop index, some started,
          parser.diagnostics.discard index⟩)
  | expires
      (started : Int)
      (found : find Frame.magic parser.buffer = some 0)
      (since : parser.candidateStartedMs = some started)
      (old : 2000 < nowMs - started) :
      Turns parser nowMs (.again parser.expire)
  | rejects
      (index : Nat)
      (fault : Fault)
      (found : find Frame.magic parser.buffer = some index)
      (judged : judge (parser.buffer.drop index) = .reject fault) :
      Turns parser nowMs
        (.again ⟨(parser.buffer.drop index).tail, none,
          ((parser.diagnostics.discard index).count fault).discard 1⟩)
  | accepts
      (index : Nat)
      (frame : Frame)
      (size : Nat)
      (found : find Frame.magic parser.buffer = some index)
      (judged : judge (parser.buffer.drop index) = .found frame size) :
      Turns parser nowMs
        (.accept frame
          ⟨(parser.buffer.drop index).drop size, none,
            parser.diagnostics.discard index⟩)

/-- A candidate at the front of the buffer is treated by its verdict. -/
theorem turns_examine
    {parser : HostStreamParser}
    {nowMs started : Int}
    {index : Nat}
    (found : find Frame.magic parser.buffer = some index)
    (since : started = nowMs ∨ parser.candidateStartedMs = some started) :
    Turns parser nowMs
      (examine ⟨parser.buffer.drop index, some started,
        parser.diagnostics.discard index⟩) := by
  rw [examine_eq_answer (find_eq_some found).2.1]
  dsimp only
  cases judged : judge (parser.buffer.drop index) with
  | wait => exact .waits index started found judged since
  | reject fault => exact .rejects index fault found judged
  | found frame size => exact .accepts index frame size found judged

/-- Every turn is one of the cases. -/
theorem turn_turns (parser : HostStreamParser) (nowMs : Int) :
    Turns parser nowMs (parser.turn nowMs) := by
  unfold turn
  split
  · next nowhere => exact .cleared nowhere
  · next found =>
      unfold check
      split
      · exact turns_examine found (.inl rfl)
      · next started since =>
          split
          · next old => exact .expires started found since old
          · have same :
                parser =
                  ⟨parser.buffer.drop 0, some started,
                    parser.diagnostics.discard 0⟩ := by
              obtain ⟨buffer, candidate, diagnostics⟩ := parser
              obtain rfl : candidate = some started := since
              rfl
            have turned :=
              @turns_examine parser nowMs started 0 found (.inr since)
            rw [← same] at turned
            exact turned
  · next found => exact turns_examine found (.inl rfl)

end HostStreamParser

/-! ## The parser and the scan -/

namespace StreamScan

/-- The frames a scan has found. -/
def frames (findings : List (Finding Frame Fault)) : List Frame :=
  findings.filterMap fun
    | .item frame => some frame
    | .skipped _ => none

/-- The counters after what a scan has found. -/
def tally (diagnostics : ParserDiagnostics) :
    List (Finding Frame Fault) → ParserDiagnostics
  | [] => diagnostics
  | .item _ :: findings => tally diagnostics findings
  | .skipped fault :: findings =>
      tally ((diagnostics.count fault).discard 1) findings

/-- A run of garbage is no frame, and is counted by its length. -/
theorem findings_skips
    (length : Nat)
    (diagnostics : ParserDiagnostics)
    (findings : List (Finding Frame Fault)) :
    frames (List.replicate length (.skipped .noMagic) ++ findings) =
        frames findings ∧
      tally diagnostics
          (List.replicate length (.skipped .noMagic) ++ findings) =
        tally (diagnostics.discard length) findings := by
  induction length generalizing diagnostics with
  | zero => exact ⟨rfl, rfl⟩
  | succ length inductionHypothesis =>
      obtain ⟨same, counted⟩ := inductionHypothesis (diagnostics.discard 1)
      refine ⟨same, ?_⟩
      have together :
          (diagnostics.discard 1).discard length =
            diagnostics.discard (length + 1) := by
        unfold ParserDiagnostics.discard
        dsimp only
        rw [Nat.add_assoc, Nat.add_comm 1]
      rw [together] at counted
      exact counted

/-- Garbage is passed over byte by byte. -/
theorem scan_garbage
    {data : List UInt8}
    {length : Nat}
    (garbage :
      ∀ before < length, before < data.length →
        ¬Frame.magic <+: data.drop before)
    (hopeless :
      ∀ before < length,
        ¬((data.drop before).length < 4 ∧
          data.drop before <+: Frame.magic)) :
    streamScanner.scan data =
      (List.replicate (data.take length).length (.skipped .noMagic) ++
          (streamScanner.scan (data.drop length)).1,
        (streamScanner.scan (data.drop length)).2) := by
  have skips :=
    @Scanner.scan_skips _ _ _ streamScanner (data.take length)
      (data.drop length) Fault.noMagic
  rw [List.take_append_drop] at skips
  refine skips fun dropped kept shape present => ?_
  have lengths := congrArg List.length shape
  rw [List.length_append, List.length_take] at lengths
  have positive := List.length_pos_iff.2 present
  have inside : dropped.length < length := by omega
  have within : dropped.length < data.length := by omega
  have whole : dropped ++ (kept ++ data.drop length) = data := by
    rw [← List.append_assoc, shape, List.take_append_drop]
  have behind := congrArg (List.drop dropped.length) whole
  rw [List.drop_left] at behind
  rw [behind]
  exact judge_of_not_magic (garbage _ inside within) (hopeless _ inside)

/-- In front of a magic everything is garbage. -/
theorem scan_of_found
    {data : List UInt8}
    {index : Nat}
    (found : find Frame.magic data = some index) :
    streamScanner.scan data =
      (List.replicate index (.skipped .noMagic) ++
          (streamScanner.scan (data.drop index)).1,
        (streamScanner.scan (data.drop index)).2) := by
  obtain ⟨inside, here, notBefore⟩ := find_eq_some found
  have four := here.length_le
  rw [List.length_drop] at four
  have garbage :=
    @scan_garbage data index (fun before earlier _ => notBefore before earlier)
      fun before earlier begun => by
        rw [List.length_drop] at begun
        have opens : Frame.magic.length = 4 := rfl
        omega
  rw [List.length_take_of_le inside] at garbage
  exact garbage

/-- Without a magic everything is garbage that cannot become one. -/
theorem scan_of_nowhere
    {data : List UInt8}
    (nowhere : find Frame.magic data = none) :
    streamScanner.scan data =
      (List.replicate (data.length - magicPrefixLength data)
          (.skipped .noMagic),
        data.drop (data.length - magicPrefixLength data)) := by
  obtain ⟨bounded, begun, longest⟩ :=
    longestMagicPrefix_spec data (min 3 data.length)
  have garbage :=
    @scan_garbage data (data.length - magicPrefixLength data)
      (fun before _ inside => find_eq_none nowhere before inside)
      fun before earlier begins => by
        obtain ⟨short, opens⟩ := begins
        rw [List.length_drop] at short
        refine longest (data.length - before) ?_ ?_ ?_
        · have := earlier
          unfold magicPrefixLength at this
          omega
        · omega
        · have taken := List.prefix_iff_eq_take.1 opens
          rw [List.length_drop] at taken
          rw [← taken]
          congr 1
          omega
  have waits :
      streamScanner.judge
          (data.drop (data.length - magicPrefixLength data)) =
        .wait := by
    show judge _ = _
    unfold judge
    refine if_pos ⟨?_, ?_⟩
    · rw [List.length_drop]
      unfold magicPrefixLength
      omega
    · unfold magicPrefixLength
      rw [begun]
      exact List.take_prefix _ _
  rw [Scanner.scan_wait waits, List.append_nil,
    List.length_take_of_le (Nat.sub_le _ _)] at garbage
  exact garbage

end StreamScan

namespace HostStreamParser

open StreamScan

/-- The turns of the loop of `feed`, from a parser to the one it stops with. -/
inductive Drains (nowMs : Int) :
    HostStreamParser → Nat → List Frame → HostStreamParser → Prop where
  | stop
      {parser after : HostStreamParser}
      (turned : parser.turn nowMs = .stop after) :
      Drains nowMs parser 1 [] after
  | again
      {parser next after : HostStreamParser}
      {turns : Nat}
      {frames : List Frame}
      (turned : parser.turn nowMs = .again next)
      (rest : Drains nowMs next turns frames after) :
      Drains nowMs parser (turns + 1) frames after
  | accept
      {parser next after : HostStreamParser}
      {turns : Nat}
      {frame : Frame}
      {frames : List Frame}
      (turned : parser.turn nowMs = .accept frame next)
      (rest : Drains nowMs next turns frames after) :
      Drains nowMs parser (turns + 1) (frame :: frames) after

/-- No turn raises. -/
theorem turn_quiet
    (parser : HostStreamParser)
    (nowMs : Int)
    (raised : Raised) :
    parser.turn nowMs ≠ .raises raised := by
  intro turned
  have turns := parser.turn_turns nowMs
  rw [turned] at turns
  cases turns

/--
The loop of `feed` ends, after at most one turn for each byte of its buffer and
one more, and never raises.
-/
theorem drain_drains (parser : HostStreamParser) (nowMs : Int) :
    ∃ turns frames after,
      turns ≤ parser.buffer.length + 1 ∧
        parser.drain nowMs = .ok (frames, after) ∧
        Drains nowMs parser turns frames after := by
  induction parser using drain.induct nowMs with
  | case1 parser after turned =>
      refine ⟨1, [], after, Nat.le_add_left _ _, ?_, .stop turned⟩
      unfold drain
      split
      · next other =>
          cases turned.symm.trans other
          rfl
      all_goals next other => cases turned.symm.trans other
  | case2 parser next turned inductionHypothesis =>
      obtain ⟨turns, frames, after, few, drained, drains⟩ :=
        inductionHypothesis
      have shorter := parser.turn_shortens nowMs
      rw [turned] at shorter
      refine ⟨turns + 1, frames, after, ?_, ?_, .again turned drains⟩
      · exact Nat.succ_le_succ (Nat.le_trans few shorter)
      · rw [← drained]
        conv_lhs => unfold drain
        split
        · next other => cases turned.symm.trans other
        · next other =>
            cases turned.symm.trans other
            rfl
        all_goals next other => cases turned.symm.trans other
  | case3 parser frame next turned inductionHypothesis =>
      obtain ⟨turns, frames, after, few, drained, drains⟩ :=
        inductionHypothesis
      have shorter := parser.turn_shortens nowMs
      rw [turned] at shorter
      refine ⟨turns + 1, frame :: frames, after, ?_, ?_,
        .accept turned drains⟩
      · exact Nat.succ_le_succ (Nat.le_trans few shorter)
      · unfold drain
        split
        · next other => cases turned.symm.trans other
        · next other => cases turned.symm.trans other
        · next other =>
            cases turned.symm.trans other
            rw [drained]
            rfl
        · next other => cases turned.symm.trans other
  | case4 parser raised turned => exact absurd turned (turn_quiet _ _ _)

/-- The loop of `feed` is the scan, as long as no candidate expires. -/
theorem Drains.scan
    {parser after : HostStreamParser}
    {nowMs : Int}
    {turns : Nat}
    {found : List Frame}
    (drains : Drains nowMs parser turns found after)
    (young :
      parser.candidateStartedMs = none ∨
        parser.candidateStartedMs = some nowMs) :
    (after.candidateStartedMs = none ∨
        after.candidateStartedMs = some nowMs) ∧
      found = frames (streamScanner.scan parser.buffer).1 ∧
      after.buffer = (streamScanner.scan parser.buffer).2 ∧
      after.diagnostics =
        tally parser.diagnostics (streamScanner.scan parser.buffer).1 := by
  induction drains with
  | stop turned =>
      rename_i parser after
      have cases_ := parser.turn_turns nowMs
      rw [turned] at cases_
      cases cases_ with
      | cleared nowhere =>
          obtain ⟨none_, counted⟩ :=
            findings_skips
              (parser.buffer.length - magicPrefixLength parser.buffer)
              parser.diagnostics []
          rw [List.append_nil] at none_ counted
          rw [scan_of_nowhere nowhere]
          exact ⟨.inl rfl, none_.symm, rfl, counted.symm⟩
      | waits index started located judged since =>
          obtain ⟨none_, counted⟩ :=
            findings_skips index parser.diagnostics []
          rw [List.append_nil] at none_ counted
          rw [scan_of_found located, Scanner.scan_wait judged]
          dsimp only
          rw [List.append_nil]
          refine ⟨?_, none_.symm, rfl, counted.symm⟩
          rcases since with rfl | same
          · exact .inr rfl
          · exact young.imp (fun fresh => by cases same.symm.trans fresh)
              fun kept => same.symm.trans kept
  | again turned rest inductionHypothesis =>
      rename_i parser next after turns found
      have cases_ := parser.turn_turns nowMs
      rw [turned] at cases_
      cases cases_ with
      | expires started located since old =>
          rcases young with fresh | same
          · cases since.symm.trans fresh
          · cases since.symm.trans same
            rw [Int.sub_self] at old
            exact absurd old (by decide)
      | rejects index fault located judged =>
          obtain ⟨kept, results⟩ := inductionHypothesis (.inl rfl)
          refine ⟨kept, ?_⟩
          have present := drop_ne_nil_of_find located
          rw [scan_of_found located]
          cases behind : parser.buffer.drop index with
          | nil => exact absurd behind present
          | cons byte others =>
              rw [behind] at judged results
              rw [Scanner.scan_reject judged]
              obtain ⟨same, counted⟩ :=
                findings_skips index parser.diagnostics
                  (.skipped fault :: (streamScanner.scan others).1)
              dsimp only
              rw [same, counted]
              exact results
  | accept turned rest inductionHypothesis =>
      rename_i parser next after turns frame found
      have cases_ := parser.turn_turns nowMs
      rw [turned] at cases_
      cases cases_ with
      | accepts index _ size located judged =>
          obtain ⟨kept, same, left, counted⟩ := inductionHypothesis (.inl rfl)
          obtain ⟨skipped, tallied⟩ :=
            findings_skips index parser.diagnostics
              (.item frame ::
                (streamScanner.scan
                  ((parser.buffer.drop index).drop size)).1)
          rw [scan_of_found located, Scanner.scan_found judged]
          dsimp only
          rw [skipped, tallied]
          exact ⟨kept, congrArg (List.cons frame) same, left, counted⟩

/-- One call of `feed` after the other. -/
def feedAll (parser : HostStreamParser) :
    List (List UInt8 × Int) → Except Raised (List Frame × HostStreamParser)
  | [] => .ok ([], parser)
  | (data, nowMs) :: calls => do
      let first ← parser.feed data nowMs
      let others ← first.2.feedAll calls
      pure (first.1 ++ others.1, others.2)

/-- No call makes the buffer exceed its limit. -/
def Fits (parser : HostStreamParser) : List (List UInt8 × Int) → Prop
  | [] => True
  | (data, nowMs) :: calls =>
      (parser.buffer ++ data).length ≤ hostRxBufferLimit ∧
        ∀ frames after,
          parser.feed data nowMs = .ok (frames, after) → after.Fits calls

/-- The calls that feed the pieces of a stream, all at one time. -/
def callsAt (nowMs : Int) (pieces : List (List UInt8)) :
    List (List UInt8 × Int) :=
  pieces.map fun piece => (piece, nowMs)

/-- What calls return that do what the scan does. -/
def ScansTo
    (parser : HostStreamParser)
    (calls : List (List UInt8 × Int))
    (data : List UInt8) :
    Prop :=
  ∃ after,
    parser.feedAll calls =
        .ok (frames (streamScanner.scan (parser.buffer ++ data)).1, after) ∧
      after.buffer = (streamScanner.scan (parser.buffer ++ data)).2 ∧
      after.diagnostics =
        tally parser.diagnostics
          (streamScanner.scan (parser.buffer ++ data)).1

/-- The counters of two scans one after the other. -/
theorem tally_append
    (diagnostics : ParserDiagnostics)
    (first second : List (Finding Frame Fault)) :
    tally diagnostics (first ++ second) =
      tally (tally diagnostics first) second := by
  induction first generalizing diagnostics with
  | nil => rfl
  | cons finding rest inductionHypothesis =>
      cases finding with
      | item frame => exact inductionHypothesis diagnostics
      | skipped fault => exact inductionHypothesis _

/-- One call scans what it is given behind what is left. -/
theorem feed_scans
    {parser : HostStreamParser}
    {data : List UInt8}
    {nowMs : Int}
    (young :
      parser.candidateStartedMs = none ∨
        parser.candidateStartedMs = some nowMs)
    (fits : (parser.buffer ++ data).length ≤ hostRxBufferLimit) :
    ∃ after,
      parser.feed data nowMs =
          .ok (frames (streamScanner.scan (parser.buffer ++ data)).1, after) ∧
        (after.candidateStartedMs = none ∨
          after.candidateStartedMs = some nowMs) ∧
        after.buffer = (streamScanner.scan (parser.buffer ++ data)).2 ∧
        after.diagnostics =
          tally parser.diagnostics
            (streamScanner.scan (parser.buffer ++ data)).1 := by
  have received :
      parser.receive data = { parser with buffer := parser.buffer ++ data } := by
    unfold receive
    exact if_neg (Nat.not_lt.2 fits)
  obtain ⟨turns, found, after, -, drained, drains⟩ :=
    drain_drains { parser with buffer := parser.buffer ++ data } nowMs
  obtain ⟨kept, rfl, left, counted⟩ := drains.scan young
  unfold feed
  rw [received]
  exact ⟨after, drained, kept, left, counted⟩

/-- Calls at one time scan the stream behind what is left. -/
theorem feedAll_scans
    {parser : HostStreamParser}
    {nowMs : Int}
    (pieces : List (List UInt8))
    (young :
      parser.candidateStartedMs = none ∨
        parser.candidateStartedMs = some nowMs)
    (scanned : streamScanner.judge parser.buffer = .wait)
    (fits : parser.Fits (callsAt nowMs pieces)) :
    parser.ScansTo (callsAt nowMs pieces) pieces.flatten := by
  induction pieces generalizing parser with
  | nil =>
      refine ⟨parser, ?_⟩
      rw [List.flatten_nil, List.append_nil, Scanner.scan_wait scanned]
      exact ⟨rfl, rfl, rfl⟩
  | cons piece pieces inductionHypothesis =>
      obtain ⟨short, later⟩ := fits
      obtain ⟨middle, fed, kept, left, counted⟩ := feed_scans young short
      have waits : streamScanner.judge middle.buffer = .wait := by
        rw [left]
        exact Scanner.judge_scan _
      obtain ⟨after, others, rest, total⟩ :=
        inductionHypothesis kept waits (later _ _ fed)
      refine ⟨after, ?_⟩
      rw [List.flatten_cons, ← List.append_assoc,
        Scanner.scan_append (parser.buffer ++ piece), ← left]
      dsimp only
      refine ⟨?_, rest, ?_⟩
      · show (parser.feed piece nowMs >>= fun first =>
          first.2.feedAll (callsAt nowMs pieces) >>= fun others => _) = _
        rw [fed, ok_bind, others, ok_bind]
        unfold frames
        rw [List.filterMap_append]
        rfl
      · rw [total, counted, tally_append]

/--
However a stream is cut into calls of `feed` at one time, as long as no call
makes the buffer exceed its limit, the frames returned, the buffer that is left
and the counters are those of the scan of the whole stream.
-/
theorem stream_parser_is_scan
    (nowMs : Int)
    (pieces : List (List UInt8))
    (fits : init.Fits (callsAt nowMs pieces)) :
    ∃ after,
      init.feedAll (callsAt nowMs pieces) =
          .ok (frames (streamScanner.scan pieces.flatten).1, after) ∧
        after.buffer = (streamScanner.scan pieces.flatten).2 ∧
        after.diagnostics =
          tally .zero (streamScanner.scan pieces.flatten).1 :=
  feedAll_scans pieces (.inl rfl) rfl fits

/-- A byte of garbage and a STOP request, cut within the magic. -/
def cutStop : List (List UInt8) :=
  let bytes :=
    (Frame.command .stop 7 (List.replicate 32 1)).encode.toOption.getD []
  [0x55 :: bytes.take 2, bytes.drop 2]

/-- The pieces fit, and the scan finds the request. -/
theorem stream_parser_is_scan_cutStop :
    ∃ after,
      init.feedAll (callsAt 0 cutStop) =
          .ok (frames (streamScanner.scan cutStop.flatten).1, after) ∧
        after.buffer = (streamScanner.scan cutStop.flatten).2 ∧
        after.diagnostics =
          tally .zero (streamScanner.scan cutStop.flatten).1 := by
  refine stream_parser_is_scan 0 cutStop
    ⟨by decide, fun frames after fed => ⟨?_, fun _ _ _ => trivial⟩⟩
  have first :
      init.feed [0x55, 0x55, 0x53] 0 =
        .ok ([], ⟨[0x55, 0x53], none, ParserDiagnostics.zero.discard 1⟩) := by
    decide +kernel
  cases first.symm.trans fed
  decide +kernel

end HostStreamParser

end Usac.Host
