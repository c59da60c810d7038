import Usac.Host.MessageLengths
import Usac.Library.Resync

namespace Usac.Host

open Library

/-!
# The stream parser of the host

`HostStreamParser` of `stream.py`: a buffer, the time since which its first
magic has been waiting, and counters. A candidate that is wrong, or that waits
for too long, loses its first byte only, so that a magic behind it is found.
-/

/-- `HOST_RX_BUFFER_LIMIT`. -/
def hostRxBufferLimit : Nat := 16424

/-- `ParserDiagnostics`. -/
structure ParserDiagnostics where
  invalidHeader : Nat
  invalidLength : Nat
  crcError : Nat
  resyncDiscardedBytes : Nat
  rxBufferLimit : Nat
  incompleteTimeout : Nat
  deriving Repr, DecidableEq

namespace ParserDiagnostics

/-- The counters of a new parser. -/
def zero : ParserDiagnostics := ⟨0, 0, 0, 0, 0, 0⟩

/-- `resync_discarded_bytes += count`. -/
def discard (diagnostics : ParserDiagnostics) (count : Nat) :
    ParserDiagnostics :=
  { diagnostics with
    resyncDiscardedBytes := diagnostics.resyncDiscardedBytes + count }

end ParserDiagnostics

/-- `HostStreamParser`. -/
structure HostStreamParser where
  buffer : List UInt8
  candidateStartedMs : Option Int
  diagnostics : ParserDiagnostics
  deriving Repr, DecidableEq

/-- Why a byte is discarded from the front of the buffer. -/
inductive Fault where
  | noMagic
  | invalidHeader
  | invalidLength
  | crcError
  deriving Repr, DecidableEq

/-- The counter of a fault. Garbage in front of a magic has none. -/
def ParserDiagnostics.count (diagnostics : ParserDiagnostics) :
    Fault → ParserDiagnostics
  | .noMagic => diagnostics
  | .invalidHeader =>
      { diagnostics with invalidHeader := diagnostics.invalidHeader + 1 }
  | .invalidLength =>
      { diagnostics with invalidLength := diagnostics.invalidLength + 1 }
  | .crcError => { diagnostics with crcError := diagnostics.crcError + 1 }

/-- `bytes.find`. -/
def find (pattern : List UInt8) : List UInt8 → Option Nat
  | [] => if pattern = [] then some 0 else none
  | byte :: rest =>
      if pattern.isPrefixOf (byte :: rest) then
        some 0
      else
        (find pattern rest).map Nat.succ

/-- The loop of `_magic_prefix_length`, from a length downwards. -/
def longestMagicPrefix (data : List UInt8) : Nat → Nat
  | 0 => 0
  | length + 1 =>
      if data.drop (data.length - (length + 1)) =
          Frame.magic.take (length + 1) then
        length + 1
      else
        longestMagicPrefix data length

/-- `_magic_prefix_length`. -/
def magicPrefixLength (data : List UInt8) : Nat :=
  longestMagicPrefix data (min 3 data.length)

namespace HostStreamParser

/-- A new parser. -/
def init : HostStreamParser := ⟨[], none, .zero⟩

/-- `_discard_candidate_byte`. -/
def discardCandidateByte (parser : HostStreamParser) : HostStreamParser where
  buffer := parser.buffer.tail
  candidateStartedMs := none
  diagnostics := parser.diagnostics.discard 1

/-- A candidate that is wrong is counted, and loses a byte. -/
def refuse (parser : HostStreamParser) (fault : Fault) : HostStreamParser :=
  { parser with
    diagnostics := parser.diagnostics.count fault }.discardCandidateByte

/-- How one turn of the loop of `feed` ends. -/
inductive Turn where
  | stop (parser : HostStreamParser)
  | again (parser : HostStreamParser)
  | accept (frame : Frame) (parser : HostStreamParser)
  | raises (raised : Raised)

/-- The part of a turn behind the time check. -/
def examine (parser : HostStreamParser) : Turn :=
  if parser.buffer.length < Frame.headerSize then
    .stop parser
  else
    let version := byteAt parser.buffer 4
    let rawFlags := readU16 parser.buffer 6
    let payloadLength := (readU32 parser.buffer 12).toNat
    if Frame.hostMaxPayloadLength < payloadLength then
      .again (parser.refuse .invalidLength)
    else
      match MessageType.ofCode? (byteAt parser.buffer 5) with
      | none => .again (parser.refuse .invalidHeader)
      | some messageType =>
          if version ≠ Frame.currentVersion ∨
              rawFlags &&& ~~~Frame.validFlagsMask ≠ 0 then
            .again (parser.refuse .invalidHeader)
          else if flagsAreValidForMessage messageType rawFlags ≠ true then
            .again (parser.refuse .invalidHeader)
          else if payloadLengthIsValid messageType rawFlags payloadLength ≠
              true then
            .again (parser.refuse .invalidLength)
          else
            let frameSize := Frame.headerSize + payloadLength + Frame.crcSize
            if parser.buffer.length < frameSize then
              .stop parser
            else
              match Frame.decode (parser.buffer.take frameSize) with
              | .ok frame =>
                  .accept frame { parser with
                    buffer := parser.buffer.drop frameSize
                    candidateStartedMs := none }
              | .error raised =>
                  if raised.isA .crcMismatchError then
                    .again (parser.refuse .crcError)
                  else if raised.isA .protocolError then
                    .again (parser.refuse .invalidHeader)
                  else
                    .raises raised

/-- A candidate that has waited for too long is counted, and loses a byte. -/
def expire (parser : HostStreamParser) : HostStreamParser :=
  { parser with
    diagnostics := { parser.diagnostics with
      incompleteTimeout := parser.diagnostics.incompleteTimeout + 1 }
    }.discardCandidateByte

/-- The part of a turn behind the search for a magic. -/
def check (parser : HostStreamParser) (nowMs : Int) : Turn :=
  match parser.candidateStartedMs with
  | none => { parser with candidateStartedMs := some nowMs }.examine
  | some started =>
      if 2000 < nowMs - started then
        .again parser.expire
      else
        parser.examine

/-- Garbage of a given length is discarded from the front of the buffer. -/
def discardGarbage (parser : HostStreamParser) (length : Nat) :
    HostStreamParser where
  buffer := parser.buffer.drop length
  candidateStartedMs := none
  diagnostics := parser.diagnostics.discard length

/-- One turn of the loop of `feed`. -/
def turn (parser : HostStreamParser) (nowMs : Int) : Turn :=
  match find Frame.magic parser.buffer with
  | none =>
      .stop (parser.discardGarbage
        (parser.buffer.length - magicPrefixLength parser.buffer))
  | some 0 => parser.check nowMs
  | some magicIndex => (parser.discardGarbage magicIndex).check nowMs

end HostStreamParser

/-! ## What one turn does -/

/-- A prefix that is found lies where it is found, and nowhere before. -/
theorem find_eq_some
    {pattern data : List UInt8}
    {index : Nat}
    (found : find pattern data = some index) :
    index ≤ data.length ∧ pattern <+: data.drop index ∧
      ∀ before < index, ¬pattern <+: data.drop before := by
  induction data generalizing index with
  | nil =>
      unfold find at found
      split at found
      · next empty =>
          cases found
          rw [empty]
          exact ⟨Nat.le_refl _, List.nil_prefix, nofun⟩
      · cases found
  | cons byte rest inductionHypothesis =>
      unfold find at found
      split at found
      · next here =>
          cases found
          exact ⟨Nat.zero_le _, List.isPrefixOf_iff_prefix.1 here, nofun⟩
      · next elsewhere =>
          obtain ⟨later, foundLater, rfl⟩ := Option.map_eq_some_iff.1 found
          obtain ⟨inside, here, notBefore⟩ := inductionHypothesis foundLater
          refine ⟨Nat.succ_le_succ inside, here, fun before earlier => ?_⟩
          cases before with
          | zero =>
              exact fun present =>
                elsewhere (List.isPrefixOf_iff_prefix.2 present)
          | succ before => exact notBefore before (Nat.lt_of_succ_lt_succ earlier)

/-- A prefix that is not found is nowhere. -/
theorem find_eq_none
    {pattern data : List UInt8}
    (nowhere : find pattern data = none)
    (index : Nat)
    (inside : index < data.length) :
    ¬pattern <+: data.drop index := by
  induction data generalizing index with
  | nil => cases inside
  | cons byte rest inductionHypothesis =>
      unfold find at nowhere
      split at nowhere
      · cases nowhere
      · next elsewhere =>
          cases index with
          | zero =>
              exact fun present =>
                elsewhere (List.isPrefixOf_iff_prefix.2 present)
          | succ index =>
              exact inductionHypothesis (Option.map_eq_none_iff.1 nowhere)
                index (Nat.lt_of_succ_lt_succ inside)

/-- The length that is kept is that of the longest end that could still become
a magic. -/
theorem longestMagicPrefix_spec (data : List UInt8) (longest : Nat) :
    longestMagicPrefix data longest ≤ longest ∧
      data.drop (data.length - longestMagicPrefix data longest) =
        Frame.magic.take (longestMagicPrefix data longest) ∧
      ∀ length,
        longestMagicPrefix data longest < length → length ≤ longest →
          data.drop (data.length - length) ≠ Frame.magic.take length := by
  induction longest with
  | zero =>
      refine ⟨Nat.le_refl _, ?_, fun length positive none_ => ?_⟩
      · exact List.drop_length
      · exact absurd (Nat.lt_of_lt_of_le positive none_) (Nat.lt_irrefl _)
  | succ longest inductionHypothesis =>
      obtain ⟨bounded, ends, others⟩ := inductionHypothesis
      unfold longestMagicPrefix
      split
      · next whole =>
          exact ⟨Nat.le_refl _, whole, fun length longer shorter =>
            absurd (Nat.lt_of_lt_of_le longer shorter) (Nat.lt_irrefl _)⟩
      · next differs =>
          refine ⟨Nat.le_succ_of_le bounded, ends, fun length longer shorter => ?_⟩
          rcases Nat.le_succ_iff.1 shorter with within | rfl
          · exact others length longer within
          · exact differs

namespace HostStreamParser

/-- The loop goes on with a shorter buffer only. -/
def Turn.Shortens (length : Nat) : Turn → Prop
  | .again parser => parser.buffer.length < length
  | .accept _ parser => parser.buffer.length < length
  | .stop _ | .raises _ => True

/-- A byte that is discarded shortens the buffer. -/
theorem length_discardCandidateByte
    {parser : HostStreamParser}
    (waiting : parser.buffer ≠ []) :
    parser.discardCandidateByte.buffer.length < parser.buffer.length := by
  show parser.buffer.tail.length < parser.buffer.length
  rw [List.length_tail]
  exact Nat.sub_lt (List.length_pos_iff.2 waiting) Nat.one_pos

theorem examine_shortens
    {parser : HostStreamParser}
    (waiting : parser.buffer ≠ []) :
    parser.examine.Shortens parser.buffer.length := by
  have refused (fault : Fault) :
      (Turn.again (parser.refuse fault)).Shortens parser.buffer.length :=
    length_discardCandidateByte waiting
  unfold examine
  split
  · trivial
  · dsimp only
    split
    · exact refused _
    · split
      · exact refused _
      · split
        · exact refused _
        · split
          · exact refused _
          · split
            · exact refused _
            · split
              · trivial
              · split
                · show (List.drop _ parser.buffer).length < _
                  rw [List.length_drop]
                  refine Nat.sub_lt (List.length_pos_iff.2 waiting) ?_
                  exact Nat.add_pos_right _ (by decide)
                · split
                  · exact refused _
                  · split
                    · exact refused _
                    · trivial

theorem check_shortens
    {parser : HostStreamParser}
    (waiting : parser.buffer ≠ [])
    (nowMs : Int) :
    (parser.check nowMs).Shortens parser.buffer.length := by
  unfold check
  split
  · exact examine_shortens waiting
  · split
    · exact length_discardCandidateByte waiting
    · exact examine_shortens waiting

/-- A magic that is found is there. -/
theorem drop_ne_nil_of_find
    {data : List UInt8}
    {index : Nat}
    (found : find Frame.magic data = some index) :
    data.drop index ≠ [] := by
  intro empty
  have here := (find_eq_some found).2.1
  rw [empty] at here
  exact List.cons_ne_nil _ _ (List.prefix_nil.1 here)

theorem turn_shortens (parser : HostStreamParser) (nowMs : Int) :
    (parser.turn nowMs).Shortens parser.buffer.length := by
  unfold turn
  split
  · trivial
  · next found => exact check_shortens (drop_ne_nil_of_find found) nowMs
  · next magicIndex _ found =>
      have shortens :=
        @check_shortens (parser.discardGarbage magicIndex)
          (drop_ne_nil_of_find found) nowMs
      have shorter :
          (parser.discardGarbage magicIndex).buffer.length ≤
            parser.buffer.length := by
        show (List.drop magicIndex parser.buffer).length ≤ _
        rw [List.length_drop]
        exact Nat.sub_le _ _
      revert shortens
      cases (parser.discardGarbage magicIndex).check nowMs with
      | stop after => exact id
      | again after => exact fun less => Nat.lt_of_lt_of_le less shorter
      | accept frame after => exact fun less => Nat.lt_of_lt_of_le less shorter
      | raises raised => exact id

/-- The loop of `feed`. -/
def drain (parser : HostStreamParser) (nowMs : Int) :
    Except Raised (List Frame × HostStreamParser) :=
  match _turned : parser.turn nowMs with
  | .stop after => .ok ([], after)
  | .again after => after.drain nowMs
  | .accept frame after => do
      let rest ← after.drain nowMs
      pure (frame :: rest.1, rest.2)
  | .raises raised => .error raised
termination_by parser.buffer.length
decreasing_by
  · have shortens := parser.turn_shortens nowMs
    rw [_turned] at shortens
    exact shortens
  · have shortens := parser.turn_shortens nowMs
    rw [_turned] at shortens
    exact shortens

/-- New bytes in the buffer. Too many of them leave the last three. -/
def receive (parser : HostStreamParser) (data : List UInt8) :
    HostStreamParser :=
  let buffer := parser.buffer ++ data
  if hostRxBufferLimit < buffer.length then
    { parser with
      buffer := buffer.drop (buffer.length - 3)
      diagnostics :=
        { parser.diagnostics with
          rxBufferLimit := parser.diagnostics.rxBufferLimit + 1
        }.discard (buffer.length - 3) }
  else
    { parser with buffer := buffer }

/-- `feed`. -/
def feed (parser : HostStreamParser) (data : List UInt8) (nowMs : Int) :
    Except Raised (List Frame × HostStreamParser) :=
  (parser.receive data).drain nowMs

end HostStreamParser

end Usac.Host
