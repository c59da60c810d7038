import Usac.Firmware.ParserBounds
import Usac.Library.HastyScan

namespace Usac.Firmware.Mcu

open Library

/-!
# Finding the next command

Without timeouts the parser is a hasty scan of the stream: it drops the header
of a candidate that it refuses, and the whole of a candidate whose checksum or
payload is wrong. It emits what the scan that advances by one byte finds exactly
when no command starts inside what it drops.
-/

/-- The size of the frame that carries a command. -/
def FrameView.size (view : FrameView) : Nat :=
  headerSize + view.payload.length + crcSize

namespace Parser

/-- The size of the frame that a header announces. -/
def frameSize (data : List UInt8) : Nat :=
  headerSize + announced data + crcSize

/-- The complete valid command frame at the front of a stream. -/
def frameAt? (data : List UInt8) : Option FrameView :=
  if magic <+: data ∧ headerSize ≤ data.length ∧
      validateHeader data (announced data) = none ∧
      frameSize data ≤ data.length then
    (complete (data.take (frameSize data))).2.frame?
  else
    none

/-- What the parser drops with the first byte of a candidate: the rest of a
header that is refused, or else the rest of the frame it announces. -/
def dropped (data : List UInt8) : Nat :=
  if magic <+: data then
    if validateHeader data (announced data) = none then
      frameSize data - 1
    else
      headerSize - 1
  else
    0

/-- The frames that are emitted while a stream is fed, each with the number of
bytes that have been fed. -/
def emissions
    (parser : Parser)
    (fed : Nat) :
    List UInt8 → List (Nat × FrameView)
  | [] => []
  | byte :: rest =>
      let outcome := parser.feed byte
      (outcome.2.frame?.map fun view => (fed + 1, view)).toList ++
        emissions outcome.1 (fed + 1) rest

/-- A candidate that is emitted has the payload its header announces. -/
theorem payload_of_complete
    {buffer : List UInt8}
    {view : FrameView}
    (emitted : (complete buffer).2.frame? = some view) :
    view.payload = (buffer.drop headerSize).take (announced buffer) := by
  have frame := frame?_eq_some.1 emitted
  unfold complete at frame
  dsimp only at frame
  split_ifs at frame with checksum payload
  rw [← ParseResult.frame.inj frame]
  rfl

/-- A frame at the front of a stream. -/
theorem of_frameAt?
    {data : List UInt8}
    {view : FrameView}
    (found : frameAt? data = some view) :
    magic <+: data ∧ frameSize data ≤ data.length ∧
      view.size = frameSize data := by
  unfold frameAt? at found
  split_ifs at found with here
  obtain ⟨opens, -, -, fits⟩ := here
  refine ⟨opens, fits, ?_⟩
  have size : (data.take (frameSize data)).length = frameSize data :=
    List.length_take_of_le fits
  have long : headerSize ≤ (data.take (frameSize data)).length := by
    rw [size, frameSize, Nat.add_assoc]
    exact Nat.le_add_right _ _
  have same : announced (data.take (frameSize data)) = announced data := by
    conv_rhs => rw [← List.take_append_drop (frameSize data) data]
    exact (announced_append long).symm
  have length : view.payload.length = announced data := by
    rw [payload_of_complete found, same, List.length_take, List.length_drop,
      size, frameSize]
    omega
  rw [FrameView.size, length, frameSize]

/-- The commands of a stream. -/
def commands : Finder UInt8 FrameView where
  find? := frameAt?
  size := FrameView.size
  fits found := by
    obtain ⟨-, fits, same⟩ := of_frameAt? found
    rw [same]
    refine ⟨?_, fits⟩
    rw [frameSize, headerSize]
    omega

/-- Where no magic starts, one byte is passed over. -/
theorem scan_of_not_magic
    {byte : UInt8}
    {rest : List UInt8}
    (other : ¬magic <+: byte :: rest)
    (position : Nat) :
    commands.scan dropped position (byte :: rest) =
      commands.scan dropped (position + 1) rest := by
  have nothing : commands.find? (byte :: rest) = none :=
    if_neg fun here => other here.1
  have one : dropped (byte :: rest) = 0 := if_neg other
  rw [Finder.scan_passed nothing, one]
  rfl

/-- A candidate at which nothing starts is dropped. -/
theorem scan_of_dropped
    {candidate rest : List UInt8}
    (nothing : frameAt? (candidate ++ rest) = none)
    (drops : dropped (candidate ++ rest) + 1 = candidate.length)
    (position : Nat) :
    commands.scan dropped position (candidate ++ rest) =
      commands.scan dropped (position + candidate.length) rest := by
  cases candidate with
  | nil => exact absurd drops (Nat.succ_ne_zero _)
  | cons byte others =>
      have count : dropped (byte :: (others ++ rest)) = others.length :=
        Nat.succ.inj drops
      rw [List.cons_append] at nothing ⊢
      rw [Finder.scan_passed nothing, count, List.drop_left,
        List.length_cons, Nat.add_assoc, Nat.add_comm 1]

/-- In a stream that is shorter than a frame nothing is found. -/
theorem scan_short
    {skipped : List UInt8 → Nat}
    {data : List UInt8}
    (short : data.length < headerSize + crcSize)
    (position : Nat) :
    commands.scan skipped position data = [] := by
  induction position, data using Finder.scan.induct commands skipped with
  | case1 position => exact Finder.scan_nil position
  | case2 position byte rest view found inductionHypothesis =>
      obtain ⟨-, fits, -⟩ := of_frameAt? found
      rw [frameSize] at fits
      omega
  | case3 position byte rest nothing inductionHypothesis =>
      rw [Finder.scan_passed nothing]
      apply inductionHypothesis
      rw [List.length_cons] at short
      rw [List.length_drop]
      omega

/-- A header says the same when more bytes follow. -/
theorem header_append
    {buffer : List UInt8}
    (long : headerSize ≤ buffer.length)
    (rest : List UInt8) :
    validateHeader (buffer ++ rest) (announced (buffer ++ rest)) =
        validateHeader buffer (announced buffer) ∧
      frameSize (buffer ++ rest) = frameSize buffer := by
  rw [validateHeader_append long, frameSize, frameSize, announced_append long]
  exact ⟨rfl, rfl⟩

/-- A header that is refused is dropped. -/
theorem scan_refused
    {buffer : List UInt8}
    {rejection : ParseResult}
    (opens : magic <+: buffer)
    (sized : buffer.length = headerSize)
    (refused : validateHeader buffer (announced buffer) = some rejection)
    (position : Nat)
    (rest : List UInt8) :
    commands.scan dropped position (buffer ++ rest) =
      commands.scan dropped (position + buffer.length) rest := by
  obtain ⟨header, -⟩ := header_append sized.ge rest
  have present : magic <+: buffer ++ rest :=
    opens.trans (List.prefix_append buffer rest)
  apply scan_of_dropped
  · refine if_neg ?_
    rintro ⟨-, -, validated, -⟩
    cases (refused.symm.trans header.symm).trans validated
  · rw [dropped, if_pos present, header, refused, if_neg nofun, sized]
    rfl

/-- A complete candidate is found or dropped. -/
theorem scan_completed
    {buffer : List UInt8}
    (opens : magic <+: buffer)
    (validated : validateHeader buffer (announced buffer) = none)
    (sized : buffer.length = frameSize buffer)
    (position : Nat)
    (rest : List UInt8) :
    commands.scan dropped position (buffer ++ rest) =
      ((complete buffer).2.frame?.map fun view =>
          (position + buffer.length, view)).toList ++
        commands.scan dropped (position + buffer.length) rest := by
  have long : headerSize ≤ buffer.length := by
    rw [sized, frameSize, Nat.add_assoc]
    exact Nat.le_add_right _ _
  obtain ⟨header, size⟩ := header_append long rest
  have present : magic <+: buffer ++ rest :=
    opens.trans (List.prefix_append buffer rest)
  have found :
      frameAt? (buffer ++ rest) = (complete buffer).2.frame? := by
    unfold frameAt?
    rw [size, ← sized, header, List.take_left, List.length_append]
    exact if_pos ⟨present, Nat.le_add_right_of_le long, validated,
      Nat.le_add_right _ _⟩
  cases emitted : (complete buffer).2.frame? with
  | none =>
      rw [emitted] at found
      refine scan_of_dropped found ?_ position
      rw [dropped, if_pos present, header, if_pos validated, size, ← sized]
      exact Nat.sub_add_cancel (Nat.le_trans (by decide) long)
  | some view =>
      rw [emitted] at found
      have length : commands.size view = buffer.length := by
        obtain ⟨-, -, same⟩ := of_frameAt? found
        exact (same.trans size).trans sized.symm
      rw [Finder.scan_of_found found, length, List.drop_left]
      rfl

/-- What a parser holds starts like a magic. -/
structure Tracks (parser : Parser) : Prop where
  wellFormed : parser.WellFormed
  opens : parser.buffer.take 4 <+: magic

/-- An empty parser tracks the stream. -/
theorem init_tracks : init.Tracks :=
  ⟨init_wellFormed, List.nil_prefix⟩

/-- What a byte does to a parser. -/
inductive Step (parser : Parser) (byte : UInt8) : Prop where
  | mismatched
      (short : parser.count < 4)
      (other : byte ≠ byteAt magic parser.count)
      (held :
        (parser.feed byte).1.buffer =
          if byte = byteAt magic 0 then [byte] else [])
      (result : (parser.feed byte).2 = .incomplete)
  | kept
      (opens : (parser.buffer ++ [byte]).take 4 <+: magic)
      (held : (parser.feed byte).1.buffer = parser.buffer ++ [byte])
      (result : (parser.feed byte).2 = .incomplete)
  | refused
      (rejection : ParseResult)
      (opens : magic <+: parser.buffer ++ [byte])
      (sized : (parser.buffer ++ [byte]).length = headerSize)
      (header :
        validateHeader (parser.buffer ++ [byte])
          (announced (parser.buffer ++ [byte])) = some rejection)
      (fed : parser.feed byte = (init, rejection))
  | completed
      (opens : magic <+: parser.buffer ++ [byte])
      (header :
        validateHeader (parser.buffer ++ [byte])
          (announced (parser.buffer ++ [byte])) = none)
      (sized :
        (parser.buffer ++ [byte]).length = frameSize (parser.buffer ++ [byte]))
      (fed : parser.feed byte = complete (parser.buffer ++ [byte]))

/-- The bytes of a candidate that has a magic. -/
theorem magic_of_take
    {buffer : List UInt8}
    (opens : buffer.take 4 <+: magic)
    (long : 4 ≤ buffer.length) :
    magic <+: buffer := by
  have same : buffer.take 4 = magic :=
    opens.eq_of_length (List.length_take_of_le long)
  exact same ▸ List.take_prefix 4 buffer

/-- A byte that continues the magic, or follows it. -/
theorem Tracks.opens_concat
    {parser : Parser}
    (tracks : parser.Tracks)
    {byte : UInt8}
    (matches? : ¬(parser.count < 4 ∧ byte ≠ byteAt magic parser.count)) :
    (parser.buffer ++ [byte]).take 4 <+: magic := by
  have opens := tracks.opens
  rcases Nat.lt_or_ge parser.count 4 with short | long
  · have same : byte = byteAt magic parser.count := by
      by_contra other
      exact matches? ⟨short, other⟩
    rw [count] at short same
    have held : parser.buffer <+: magic := by
      rwa [List.take_of_length_le (Nat.le_of_lt short)] at opens
    have fits : (parser.buffer ++ [byte]).length ≤ 4 := by
      rw [List.length_append]
      exact short
    rw [List.take_of_length_le fits, List.prefix_iff_eq_take.1 held, same]
    generalize parser.buffer.length = length at short
    have listed : length = 0 ∨ length = 1 ∨ length = 2 ∨ length = 3 := by
      omega
    rcases listed with rfl | rfl | rfl | rfl <;> decide
  · rwa [List.take_append_of_le_length long]

/-- A byte mismatches, is kept, or ends a candidate. -/
theorem Tracks.step
    {parser : Parser}
    (tracks : parser.Tracks)
    (byte : UInt8) :
    Step parser byte := by
  have wellFormed := tracks.wellFormed
  have grown : (parser.buffer ++ [byte]).length = parser.count + 1 := by
    simp [count]
  by_cases mismatch : parser.count < 4 ∧ byte ≠ byteAt magic parser.count
  · apply Step.mismatched mismatch.1 mismatch.2
    · rw [feed, if_pos mismatch]
    · rw [feed, if_pos mismatch]
  have opens := tracks.opens_concat mismatch
  have room : ¬rxRingSize ≤ parser.count := wellFormed.bounded.notFull
  have fed :
      parser.feed byte =
        if (parser.buffer ++ [byte]).length = headerSize then
          (validateHeader (parser.buffer ++ [byte])
              (announced (parser.buffer ++ [byte]))).elim
            (advance {
              buffer := parser.buffer ++ [byte]
              expectedTotal := frameSize (parser.buffer ++ [byte])
            })
            fun rejection => (init, rejection)
        else
          advance { parser with buffer := parser.buffer ++ [byte] } := by
    rw [feed, if_neg mismatch, if_neg room]
    simp only [count, announced, frameSize]
    cases validateHeader (parser.buffer ++ [byte])
      (readU32 (parser.buffer ++ [byte]) 12).toNat <;> rfl
  by_cases header : (parser.buffer ++ [byte]).length = headerSize
  · rw [if_pos header] at fed
    cases validated : validateHeader (parser.buffer ++ [byte])
        (announced (parser.buffer ++ [byte])) with
    | some rejection =>
        rw [validated] at fed
        exact Step.refused rejection
          (magic_of_take opens (header ▸ by decide)) header validated fed
    | none =>
        rw [validated] at fed
        have partly :
            (parser.buffer ++ [byte]).length <
              frameSize (parser.buffer ++ [byte]) := by
          rw [header, frameSize, crcSize]
          omega
        have kept := fed.trans (if_pos (Or.inr partly))
        exact Step.kept opens (congrArg (buffer ∘ Prod.fst) kept)
          (congrArg Prod.snd kept)
  · rw [if_neg header] at fed
    by_cases partly :
        parser.expectedTotal = 0 ∨
          (parser.buffer ++ [byte]).length < parser.expectedTotal
    · have kept := fed.trans (if_pos partly)
      exact Step.kept opens (congrArg (buffer ∘ Prod.fst) kept)
        (congrArg Prod.snd kept)
    · -- The byte ends the frame that the header announces.
      have whole := fed.trans (if_neg partly)
      obtain ⟨opened, least⟩ := not_or.1 partly
      have before : headerSize ≤ parser.count := by
        by_contra less
        exact opened (wellFormed.opening (Nat.lt_of_not_le less))
      have incomplete := wellFormed.incomplete before
      have expected := wellFormed.expected before
      obtain ⟨same, size⟩ := header_append before [byte]
      apply Step.completed (magic_of_take opens ?_)
        (same.trans (wellFormed.validated before)) ?_ whole
      · rw [grown]
        exact Nat.le_succ_of_le (Nat.le_trans (by decide) before)
      · rw [size, frameSize, ← expected, grown]
        rw [grown] at least
        omega

/-- At a byte that does not continue a magic, what was held of one is passed
over. -/
theorem scan_mismatched
    {buffer : List UInt8}
    {byte : UInt8}
    (held : buffer <+: magic)
    (short : buffer.length < 4)
    (other : byte ≠ byteAt magic buffer.length)
    (position : Nat)
    (rest : List UInt8) :
    commands.scan dropped position (buffer ++ byte :: rest) =
      commands.scan dropped (position + buffer.length) (byte :: rest) := by
  have shape := List.prefix_iff_eq_take.1 held
  generalize buffer.length = length at short other shape ⊢
  subst shape
  match length, short with
  | 0, _ => rfl
  | 1, _ =>
      have other : ¬(83 : UInt8) = byte := Ne.symm other
      exact scan_of_not_magic (by simp [magic, other]) position
  | 2, _ =>
      have other : ¬(65 : UInt8) = byte := Ne.symm other
      exact (scan_of_not_magic (by simp [magic, other]) position).trans
        (scan_of_not_magic (by simp [magic]) _)
  | 3, _ =>
      have other : ¬(67 : UInt8) = byte := Ne.symm other
      exact ((scan_of_not_magic (by simp [magic, other]) position).trans
        (scan_of_not_magic (by simp [magic]) _)).trans
          (scan_of_not_magic (by simp [magic]) _)

/-- A byte that does not start a magic is passed over. -/
theorem scan_not_first
    {byte : UInt8}
    (other : byte ≠ byteAt magic 0)
    (position : Nat)
    (rest : List UInt8) :
    commands.scan dropped position (byte :: rest) =
      commands.scan dropped (position + 1) rest := by
  apply scan_of_not_magic
  intro opens
  exact other (List.cons_prefix_cons.1 opens).1.symm

/-- A byte that is fed takes the parser along the scan of the stream. -/
theorem Tracks.feed_scan
    {parser : Parser}
    (tracks : parser.Tracks)
    (byte : UInt8)
    (rest : List UInt8)
    (position : Nat) :
    (parser.feed byte).1.Tracks ∧
      ∃ position',
        position' + (parser.feed byte).1.count =
            position + parser.count + 1 ∧
          commands.scan dropped position (parser.buffer ++ byte :: rest) =
            ((parser.feed byte).2.frame?.map fun view =>
                (position + parser.count + 1, view)).toList ++
              commands.scan dropped position'
                ((parser.feed byte).1.buffer ++ rest) := by
  have wellFormed := (feed_fed tracks.wellFormed byte).wellFormed
  have grown : (parser.buffer ++ [byte]).length = parser.count + 1 := by
    simp [count]
  have data : parser.buffer ++ byte :: rest =
      (parser.buffer ++ [byte]) ++ rest := by
    simp
  cases tracks.step byte with
  | mismatched short other held result =>
      have opens := tracks.opens
      rw [count] at short other
      rw [List.take_of_length_le (Nat.le_of_lt short)] at opens
      rw [count, held, result, scan_mismatched opens short other]
      by_cases first : byte = byteAt magic 0
      · rw [if_pos first] at held ⊢
        refine ⟨⟨wellFormed, ?_⟩, position + parser.count, rfl, rfl⟩
        rw [held, first]
        decide
      · rw [if_neg first] at held ⊢
        exact ⟨⟨wellFormed, held ▸ List.nil_prefix⟩,
          position + parser.count + 1, rfl, scan_not_first first _ rest⟩
  | kept opens held result =>
      rw [count, held, result, data, grown]
      exact ⟨⟨wellFormed, held ▸ opens⟩, position, rfl, rfl⟩
  | refused rejection opens sized header fed =>
      have silent : rejection.frame? = none := by
        cases emitted : rejection.frame? with
        | none => rfl
        | some view =>
            exact absurd (frame?_eq_some.1 emitted)
              (validateHeader_ne_frame header view)
      rw [fed, data, scan_refused opens sized header, grown, silent]
      exact ⟨init_tracks, position + parser.count + 1, rfl, rfl⟩
  | completed opens header sized fed =>
      have empty := complete_init (parser.buffer ++ [byte])
      rw [fed, data, scan_completed opens header sized, empty, grown]
      exact ⟨init_tracks, position + parser.count + 1, rfl, rfl⟩

/-- What the parser still holds at the end of the stream is passed over. -/
theorem Tracks.scan_held
    {parser : Parser}
    (tracks : parser.Tracks)
    (position : Nat) :
    commands.scan dropped position parser.buffer = [] := by
  rcases Nat.lt_or_ge parser.count headerSize with short | long
  · exact scan_short (Nat.lt_add_right crcSize short) position
  · -- The candidate is not complete, and all of it is dropped.
    have incomplete := tracks.wellFormed.incomplete long
    rw [tracks.wellFormed.expected long] at incomplete
    have partly : parser.buffer.length < frameSize parser.buffer := incomplete
    have opens := magic_of_take tracks.opens
      (Nat.le_trans (by decide) long)
    have validated := tracks.wellFormed.validated long
    have nothing : commands.find? parser.buffer = none :=
      if_neg fun here => Nat.not_le.2 partly here.2.2.2
    have drops : dropped parser.buffer = frameSize parser.buffer - 1 := by
      rw [dropped, if_pos opens, if_pos validated]
    cases held : parser.buffer with
    | nil => exact Finder.scan_nil position
    | cons byte rest =>
        rw [held] at nothing drops partly
        rw [Finder.scan_passed nothing, drops, List.drop_of_length_le,
          Finder.scan_nil]
        exact Nat.le_sub_one_of_lt (Nat.lt_of_succ_lt partly)

/-- The parser emits what the hasty scan of its stream finds. -/
theorem Tracks.emissions_eq_scan
    {parser : Parser}
    (tracks : parser.Tracks)
    (position : Nat)
    (stream : List UInt8) :
    emissions parser (position + parser.count) stream =
      commands.scan dropped position (parser.buffer ++ stream) := by
  induction stream generalizing parser position with
  | nil =>
      rw [List.append_nil, tracks.scan_held]
      rfl
  | cons byte rest inductionHypothesis =>
      obtain ⟨following, position', places, scanned⟩ :=
        tracks.feed_scan byte rest position
      rw [scanned, emissions, ← places, inductionHypothesis following]

/-- The reference scan: at each position it takes a complete valid command
frame and jumps behind it, or it advances by one byte. -/
def reference : List UInt8 → List (Nat × FrameView) :=
  commands.patient 0

/-- The parser emits the frames of the reference scan exactly when no command
starts inside a candidate that it drops or that the stream leaves
incomplete. -/
theorem resynchronizes_iff
    (stream : List UInt8) :
    emissions init 0 stream = reference stream ↔
      commands.Clear dropped stream := by
  have scanned :
      emissions init 0 stream = commands.scan dropped 0 stream :=
    init_tracks.emissions_eq_scan 0 stream
  rw [scanned, reference]
  exact Finder.scan_eq_patient_iff 0 stream

/-- A command behind a HELLO that was cut behind its header, and the front of
the next one. -/
def truncatedHello : List UInt8 :=
  [0x55, 0x53, 0x41, 0x43, 1, 1, 0, 0, 1, 0, 0, 0, 20, 0, 0, 0] ++
    [0x55, 0x53, 0x41, 0x43, 1, 3, 0, 0, 3, 0, 0, 0, 0, 0, 0, 0,
      0xE2, 0xEB, 0x1D, 0xF7] ++
    [0x55, 0x53, 0x41, 0x43]

/-- The command that the HELLO swallows. -/
def swallowedCommand : FrameView where
  messageType := Message.getConfig
  flags := 0
  sequence := 3
  payload := []

/-- The command is dropped with the candidate that has swallowed it. -/
theorem swallowed_command :
    emissions init 0 truncatedHello = [] ∧
      reference truncatedHello = [(36, swallowedCommand)] := by
  have nothing : ∀ index < 16,
      commands.find? (truncatedHello.drop index) = none := by
    decide +kernel
  have found :
      commands.find? (truncatedHello.drop 16) = some swallowedCommand := by
    decide +kernel
  refine ⟨by decide +kernel, ?_⟩
  rw [reference, Finder.patient_drop nothing, Finder.patient,
    Finder.scan_of_found found]
  exact congrArg (List.cons _) (scan_short (by decide) _)

end Parser

end Usac.Firmware.Mcu
