import Mathlib.Algebra.GroupWithZero.Nat
import Usac.Host.StreamScan

namespace Usac.Host

open Library

/-!
# What becomes of the bytes

The stream parser gives an account of every byte it is fed: it is part of a
frame that has been returned, or counted as discarded, or still in the buffer.
This holds for all calls, those included that overflow the buffer or find a
candidate that has waited for too long.
-/

/-- A stream is made of frames and of bytes that are discarded, in this
order. -/
inductive Parts : List UInt8 → List Frame → Nat → Prop where
  | nil : Parts [] [] 0
  | discarded
      {data : List UInt8}
      {frames : List Frame}
      {count : Nat}
      (before : Parts data frames count)
      (bytes : List UInt8) :
      Parts (data ++ bytes) frames (count + bytes.length)
  | frame
      {data bytes : List UInt8}
      {frames : List Frame}
      {count : Nat}
      (before : Parts data frames count)
      (frame : Frame)
      (encoded : frame.encode = .ok bytes) :
      Parts (data ++ bytes) (frames ++ [frame]) count

/-- The size of a frame on the wire. -/
def Frame.size (frame : Frame) : Nat :=
  headerSize + frame.payload.length + crcSize

/-- A frame is encoded to its size. -/
theorem Frame.length_encode
    {frame : Frame}
    {bytes : List UInt8}
    (encoded : frame.encode = .ok bytes) :
    bytes.length = frame.size := by
  obtain ⟨⟨⟩, _, encoded⟩ := bind_eq_ok.1 encoded
  cases encoded
  have opens : magic.length = 4 := rfl
  have header : frame.header.length = 12 := by simp [Frame.header]
  simp only [List.length_append, opens, header, length_writeU32]
  rfl

/-- The bytes of a stream are those of its frames and the discarded ones. -/
theorem Parts.length_eq
    {data : List UInt8}
    {frames : List Frame}
    {count : Nat}
    (parts : Parts data frames count) :
    data.length = (frames.map Frame.size).sum + count := by
  induction parts with
  | nil => rfl
  | discarded before bytes inductionHypothesis =>
      rw [List.length_append, inductionHypothesis, Nat.add_assoc]
  | frame before frame encoded inductionHypothesis =>
      rw [List.length_append, inductionHypothesis, Frame.length_encode encoded,
        List.map_append, List.sum_append]
      show _ = _ + (frame.size + 0) + _
      omega

namespace HostStreamParser

open StreamScan

/-- The account a parser gives of what it has been fed. -/
def Accounts
    (fed : List UInt8)
    (frames : List Frame)
    (parser : HostStreamParser) :
    Prop :=
  ∃ handled,
    fed = handled ++ parser.buffer ∧
      Parts handled frames parser.diagnostics.resyncDiscardedBytes

variable {fed : List UInt8} {frames : List Frame}
  {parser after : HostStreamParser}

/-- Bytes from the front of the buffer are discarded. -/
theorem Accounts.discard
    (accounts : Accounts fed frames parser)
    {length : Nat}
    (present : length ≤ parser.buffer.length)
    (left : after.buffer = parser.buffer.drop length)
    (counted :
      after.diagnostics.resyncDiscardedBytes =
        parser.diagnostics.resyncDiscardedBytes + length) :
    Accounts fed frames after := by
  obtain ⟨handled, rfl, parts⟩ := accounts
  refine ⟨handled ++ parser.buffer.take length, ?_, ?_⟩
  · rw [left, List.append_assoc, List.take_append_drop]
  · have more := parts.discarded (parser.buffer.take length)
    rw [List.length_take_of_le present] at more
    rw [counted]
    exact more

/-- A frame is taken from the front of the buffer. -/
theorem Accounts.accept
    (accounts : Accounts fed frames parser)
    {frame : Frame}
    {bytes : List UInt8}
    (encoded : frame.encode = .ok bytes)
    (shape : parser.buffer = bytes ++ after.buffer)
    (counted :
      after.diagnostics.resyncDiscardedBytes =
        parser.diagnostics.resyncDiscardedBytes) :
    Accounts fed (frames ++ [frame]) after := by
  obtain ⟨handled, rfl, parts⟩ := accounts
  refine ⟨handled ++ bytes, ?_, ?_⟩
  · rw [shape, List.append_assoc]
  · rw [counted]
    exact parts.frame frame encoded

/-- New bytes are accounted for, also when the buffer overflows. -/
theorem Accounts.receive
    (accounts : Accounts fed frames parser)
    (data : List UInt8) :
    Accounts (fed ++ data) frames (parser.receive data) := by
  have grown :
      Accounts (fed ++ data) frames
        { parser with buffer := parser.buffer ++ data } := by
    obtain ⟨handled, rfl, parts⟩ := accounts
    exact ⟨handled, List.append_assoc _ _ _, parts⟩
  unfold HostStreamParser.receive
  dsimp only
  split
  · exact grown.discard (Nat.sub_le _ 3) rfl rfl
  · exact grown

/-- The counters of a fault are not those of discarded bytes. -/
theorem count_resyncDiscardedBytes
    (diagnostics : ParserDiagnostics)
    (fault : Fault) :
    (diagnostics.count fault).resyncDiscardedBytes =
      diagnostics.resyncDiscardedBytes := by
  cases fault <;> rfl

/-- One more byte is discarded behind some. -/
theorem Accounts.discardNext
    (accounts : Accounts fed frames parser)
    {index : Nat}
    (located : find Frame.magic parser.buffer = some index)
    (left : after.buffer = (parser.buffer.drop index).tail)
    (counted :
      after.diagnostics.resyncDiscardedBytes =
        parser.diagnostics.resyncDiscardedBytes + (index + 1)) :
    Accounts fed frames after := by
  have present := List.length_pos_iff.2 (drop_ne_nil_of_find located)
  rw [List.length_drop] at present
  have inside : index + 1 ≤ parser.buffer.length := by omega
  refine accounts.discard inside ?_ counted
  rw [left, List.tail_drop]

/-- What a parser keeps is shorter than some frame the policy lets pass. -/
def ShorterThanAllowed (buffer : List UInt8) : Prop :=
  ∃ messageType flags length,
    flagsAreValidForMessage messageType flags = true ∧
      payloadLengthIsValid messageType flags length = true ∧
      buffer.length < Frame.headerSize + length + Frame.crcSize

/-- Less than the header of a frame is shorter than a HELLO. -/
theorem shorterThanAllowed_of_header
    {buffer : List UInt8}
    (short : buffer.length < Frame.headerSize) :
    ShorterThanAllowed buffer :=
  ⟨.hello, Flags.none, 20, rfl, rfl,
    Nat.lt_of_lt_of_le short
      (Nat.le_trans (Nat.le_add_right _ _) (Nat.le_add_right _ _))⟩

/-- A candidate that waits is shorter than the frame it announces. -/
theorem shorterThanAllowed_of_wait
    {data : List UInt8}
    (opens : Frame.magic <+: data)
    (judged : judge data = .wait) :
    ShorterThanAllowed data := by
  rw [judge_of_magic opens] at judged
  split at judged
  · next short => exact shorterThanAllowed_of_header short
  · split at judged
    · cases judged
    · next faultless =>
        obtain ⟨messageType, -, -, -, -, flags, length⟩ :=
          headerFault_none faultless
        split at judged
        · next partly => exact ⟨_, _, _, flags, length, partly⟩
        · split at judged <;> cases judged

/-- The loop of `feed` keeps the account, and leaves a short buffer. -/
theorem Drains.accounts
    {nowMs : Int}
    {turns : Nat}
    {found : List Frame}
    (drains : Drains nowMs parser turns found after)
    (accounts : Accounts fed frames parser) :
    Accounts fed (frames ++ found) after ∧ ShorterThanAllowed after.buffer := by
  induction drains generalizing frames with
  | stop turned =>
      rename_i parser after
      have cases_ := parser.turn_turns nowMs
      rw [turned] at cases_
      rw [List.append_nil]
      cases cases_ with
      | cleared nowhere =>
          refine ⟨accounts.discard (Nat.sub_le _ _) rfl rfl,
            shorterThanAllowed_of_header ?_⟩
          show (List.drop _ parser.buffer).length < 16
          have kept :=
            (longestMagicPrefix_spec parser.buffer
              (min 3 parser.buffer.length)).1
          rw [List.length_drop]
          unfold magicPrefixLength
          omega
      | waits index started located judged since =>
          exact ⟨accounts.discard (find_eq_some located).1 rfl rfl,
            shorterThanAllowed_of_wait (find_eq_some located).2.1 judged⟩
  | again turned rest inductionHypothesis =>
      rename_i parser next after turns found
      have cases_ := parser.turn_turns nowMs
      rw [turned] at cases_
      cases cases_ with
      | expires started located since old =>
          exact inductionHypothesis (accounts.discardNext located rfl rfl)
      | rejects index fault located judged =>
          refine inductionHypothesis (accounts.discardNext located rfl ?_)
          show ((parser.diagnostics.discard index).count
            fault).resyncDiscardedBytes + 1 = _
          rw [count_resyncDiscardedBytes]
          rfl
  | accept turned rest inductionHypothesis =>
      rename_i parser next after turns frame found
      have cases_ := parser.turn_turns nowMs
      rw [turned] at cases_
      cases cases_ with
      | accepts index _ size located judged =>
          obtain ⟨bytes, encoded, ⟨more, shape⟩, rfl, -⟩ :=
            judge_eq_found.1 judged
          have skipped :
              Accounts fed frames (parser.discardGarbage index) :=
            accounts.discard (find_eq_some located).1 rfl rfl
          have behind :
              (parser.discardGarbage index).buffer =
                bytes ++ (parser.buffer.drop index).drop bytes.length := by
            show parser.buffer.drop index = _
            rw [← shape, List.drop_left]
          have taken := inductionHypothesis
            (skipped.accept encoded behind rfl)
          rw [List.append_assoc] at taken
          exact taken

/-- What is known after calls of `feed`. -/
structure Accounted
    (fed : List UInt8)
    (frames : List Frame)
    (parser : HostStreamParser) :
    Prop where
  /-- Every byte is in a frame, or discarded, or in the buffer. -/
  total :
    fed.length =
      (frames.map Frame.size).sum +
        parser.diagnostics.resyncDiscardedBytes + parser.buffer.length
  /-- The frames lie in the stream, one behind the other, and the buffer is its
  end. -/
  parts :
    ∃ handled,
      fed = handled ++ parser.buffer ∧
        Parts handled frames parser.diagnostics.resyncDiscardedBytes
  /-- The buffer is shorter than some frame that would be accepted. -/
  short : ShorterThanAllowed parser.buffer

/-- An account with a short buffer is all there is to know. -/
theorem Accounts.accounted
    (accounts : Accounts fed frames parser)
    (short : ShorterThanAllowed parser.buffer) :
    Accounted fed frames parser := by
  refine ⟨?_, accounts, short⟩
  obtain ⟨handled, rfl, parts⟩ := accounts
  rw [List.length_append, parts.length_eq]

/-- Calls of `feed` keep the account. -/
theorem feedAll_accounts
    (calls : List (List UInt8 × Int))
    (accounts : Accounts fed frames parser)
    (short : ShorterThanAllowed parser.buffer) :
    ∃ found after,
      parser.feedAll calls = .ok (found, after) ∧
        Accounts (fed ++ (calls.map Prod.fst).flatten) (frames ++ found)
          after ∧
        ShorterThanAllowed after.buffer := by
  induction calls generalizing parser fed frames with
  | nil =>
      refine ⟨[], parser, rfl, ?_, short⟩
      rw [List.append_nil]
      exact (List.append_nil fed).symm ▸ accounts
  | cons call calls inductionHypothesis =>
      obtain ⟨data, nowMs⟩ := call
      obtain ⟨turns, first, middle, -, drained, drains⟩ :=
        drain_drains (parser.receive data) nowMs
      obtain ⟨kept, stillShort⟩ := drains.accounts (accounts.receive data)
      obtain ⟨found, after, others, total, last⟩ :=
        inductionHypothesis kept stillShort
      refine ⟨first ++ found, after, ?_, ?_, last⟩
      · show (parser.feed data nowMs >>= fun first =>
          first.2.feedAll calls >>= fun others => _) = _
        unfold feed
        rw [drained, ok_bind, others, ok_bind]
        rfl
      · rw [List.map_cons, List.flatten_cons, ← List.append_assoc,
          ← List.append_assoc]
        exact total

/--
The parser loses and invents nothing, whatever it is fed and whenever: each
call ends after at most one turn for each byte in the buffer and one more, and
after the calls every byte is accounted for.
-/
theorem stream_parser_accounts (calls : List (List UInt8 × Int)) :
    (∀ (parser : HostStreamParser) (data : List UInt8) (nowMs : Int),
        ∃ turns frames after,
          turns ≤ (parser.receive data).buffer.length + 1 ∧
            parser.feed data nowMs = .ok (frames, after) ∧
            Drains nowMs (parser.receive data) turns frames after) ∧
      ∃ frames after,
        init.feedAll calls = .ok (frames, after) ∧
          Accounted (calls.map Prod.fst).flatten frames after := by
  refine ⟨fun parser data nowMs => drain_drains (parser.receive data) nowMs, ?_⟩
  obtain ⟨frames, after, fed, accounts, short⟩ :=
    @feedAll_accounts [] [] init calls ⟨[], rfl, .nil⟩
      (shorterThanAllowed_of_header (by decide))
  exact ⟨frames, after, fed, accounts.accounted short⟩

end HostStreamParser

end Usac.Host
