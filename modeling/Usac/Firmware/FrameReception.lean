import Usac.Firmware.Protocol

namespace Usac.Firmware.Mcu.Parser

open Library

/-!
# Receiving a whole frame

A parser that holds less than a magic takes the bytes of a frame one by one:
every byte but the last leaves the frame incomplete, and the last one emits it.
-/

/-- What reaches a parser: a byte, or the end of the time for a frame. -/
inductive Signal where
  | byte (byte : UInt8)
  | timeout
  deriving DecidableEq

/-- A parser after a signal. -/
def hear (parser : Parser) : Signal → Parser
  | .byte byte => (parser.feed byte).1
  | .timeout => parser.expire.1

/-- A parser after what it has heard since its start. -/
def after (signals : List Signal) : Parser :=
  signals.foldl hear init

/-- What a parser has heard leaves it well formed. -/
theorem after_wellFormed (signals : List Signal) :
    (after signals).WellFormed := by
  suffices keeps :
      ∀ parser : Parser,
        parser.WellFormed → (signals.foldl hear parser).WellFormed from
    keeps init init_wellFormed
  induction signals with
  | nil => exact fun _ wellFormed => wellFormed
  | cons signal rest inductionHypothesis =>
      intro parser wellFormed
      apply inductionHypothesis
      cases signal with
      | byte byte => exact (feed_fed wellFormed byte).wellFormed
      | timeout => exact init_wellFormed

/-- The results for a list of bytes that is fed byte by byte. -/
def answers (parser : Parser) : List UInt8 → Parser × List ParseResult
  | [] => (parser, [])
  | byte :: rest =>
      let fed := parser.feed byte
      let following := fed.1.answers rest
      (following.1, fed.2 :: following.2)

/-- A byte string the parser takes for one frame. -/
structure Whole (bytes : List UInt8) (view : FrameView) : Prop where
  opens : bytes.take 4 = magic
  sized : bytes.length = headerSize + announced bytes + crcSize
  short : announced bytes ≤ maxCommandPayload
  validated : validateHeader bytes (announced bytes) = none
  completes : complete bytes = (init, .frame view)

/-- A parser that holds the front of a frame. -/
def holding (bytes : List UInt8) (count : Nat) : Parser where
  buffer := bytes.take count
  expectedTotal := if count < headerSize then 0 else bytes.length

namespace Whole

variable {bytes : List UInt8} {view : FrameView}

/-- A frame has a header and a checksum, and fits into the ring. -/
theorem bounds (whole : Whole bytes view) :
    20 ≤ bytes.length ∧ bytes.length ≤ 212 := by
  have sized := whole.sized
  have short := whole.short
  rw [headerSize, crcSize] at sized
  rw [maxCommandPayload] at short
  omega

/-- The bytes of the magic. -/
theorem byteAt_magic
    (whole : Whole bytes view)
    {index : Nat}
    (inside : index < 4) :
    byteAt bytes index = byteAt magic index := by
  rw [← whole.opens]
  simp [byteAt, inside]

/-- The front of a frame grows by the next byte. -/
theorem take_concat
    {count : Nat}
    (inside : count < bytes.length) :
    bytes.take count ++ [byteAt bytes count] = bytes.take (count + 1) := by
  have same : byteAt bytes count = bytes[count] := by
    simp [byteAt, inside]
  rw [same, List.take_append_getElem inside]

/-- The first byte starts a frame, whatever part of a magic is held. -/
theorem feed_first
    (whole : Whole bytes view)
    {parser : Parser}
    (short : parser.count < 4)
    (idle : parser.expectedTotal = 0) :
    parser.feed (byteAt bytes 0) = (holding bytes 1, .incomplete) := by
  have started : bytes.take 1 = [byteAt bytes 0] :=
    (take_concat (Nat.lt_of_lt_of_le (by decide) whole.bounds.1)).symm
  have opens : byteAt bytes 0 = byteAt magic 0 :=
    whole.byteAt_magic (by decide)
  have target :
      holding bytes 1 = { buffer := [byteAt bytes 0], expectedTotal := 0 } := by
    rw [holding, started]
    rfl
  rw [target]
  unfold feed
  by_cases mismatch : byteAt bytes 0 ≠ byteAt magic parser.count
  · rw [if_pos ⟨short, mismatch⟩, if_pos opens, idle]
  · have first : parser.count = 0 := by
      have same := not_not.1 mismatch
      rw [opens] at same
      generalize parser.count = count at short same
      match count, short, same with
      | 0, _, _ => rfl
      | 1, _, same => exact absurd same (by decide)
      | 2, _, same => exact absurd same (by decide)
      | 3, _, same => exact absurd same (by decide)
    have empty : parser.buffer = [] := List.length_eq_zero_iff.1 first
    rw [if_neg (fun both => mismatch both.2), first, if_neg (by decide)]
    dsimp only
    rw [empty, idle]
    rfl

/-- The front of a frame has as many bytes as are held. -/
theorem count_holding
    {count : Nat}
    (inside : count ≤ bytes.length) :
    (holding bytes count).count = count :=
  List.length_take_of_le inside

/-- The header says the same in the front of a frame that holds it. -/
theorem validated_take
    (whole : Whole bytes view) :
    announced (bytes.take headerSize) = announced bytes ∧
      validateHeader (bytes.take headerSize) (announced bytes) = none := by
  have long : headerSize ≤ (bytes.take headerSize).length := by
    rw [List.length_take, Nat.min_eq_left]
    exact Nat.le_trans (by decide) whole.bounds.1
  have split := List.take_append_drop headerSize bytes
  constructor
  · rw [← announced_append long, split]
  · rw [← validateHeader_append long, split]
    exact whole.validated

/-- A byte behind the front of a frame is stored. -/
theorem feed_stores
    (whole : Whole bytes view)
    {count : Nat}
    (inside : count < bytes.length) :
    (holding bytes count).feed (byteAt bytes count) =
      advance (holding bytes (count + 1)) := by
  have held : (holding bytes count).count = count :=
    count_holding (Nat.le_of_lt inside)
  have matching :
      ¬((holding bytes count).count < 4 ∧
        byteAt bytes count ≠ byteAt magic (holding bytes count).count) := by
    rw [held]
    exact fun ⟨short, other⟩ => other (whole.byteAt_magic short)
  have room : ¬rxRingSize ≤ (holding bytes count).count := by
    rw [held, rxRingSize]
    have bounds := whole.bounds.2
    omega
  have stored :
      (holding bytes count).buffer ++ [byteAt bytes count] =
        bytes.take (count + 1) :=
    take_concat inside
  unfold feed
  rw [if_neg matching, if_neg room, stored]
  dsimp only
  have grown (total : Nat) :
      ({ buffer := bytes.take (count + 1), expectedTotal := total } :
        Parser).count = count + 1 :=
    List.length_take_of_le inside
  rw [grown]
  by_cases header : count + 1 = headerSize
  · obtain ⟨same, validated⟩ := whole.validated_take
    have total : (readU32 (bytes.take headerSize) 12).toNat =
        announced bytes := same
    rw [if_pos header, header, total, validated]
    dsimp only
    rw [← whole.sized]
    rfl
  · rw [if_neg header]
    refine congrArg (fun total => advance ⟨bytes.take (count + 1), total⟩) ?_
    show (if count < headerSize then 0 else bytes.length) =
      if count + 1 < headerSize then 0 else bytes.length
    by_cases short : count < headerSize
    · rw [if_pos short, if_pos (Nat.lt_of_le_of_ne short header)]
    · rw [if_neg short, if_neg fun less => short (Nat.lt_of_succ_lt less)]

/-- A byte that is not the last leaves the frame incomplete. -/
theorem feed_between
    (whole : Whole bytes view)
    {count : Nat}
    (inside : count + 1 < bytes.length) :
    (holding bytes count).feed (byteAt bytes count) =
      (holding bytes (count + 1), .incomplete) := by
  rw [whole.feed_stores (Nat.lt_of_succ_lt inside)]
  unfold advance
  rw [if_pos]
  by_cases header : count + 1 < headerSize
  · exact .inl (if_pos header)
  · refine .inr ?_
    rw [count_holding (Nat.le_of_lt inside)]
    exact Nat.lt_of_lt_of_eq inside (if_neg header).symm

/-- The last byte emits the frame. -/
theorem feed_last
    (whole : Whole bytes view)
    {count : Nat}
    (last : count + 1 = bytes.length) :
    (holding bytes count).feed (byteAt bytes count) =
      (init, .frame view) := by
  have long := whole.bounds.1
  have behind : ¬count + 1 < headerSize := by
    rw [headerSize]
    omega
  have total : (holding bytes (count + 1)).expectedTotal = bytes.length :=
    if_neg behind
  rw [whole.feed_stores (Nat.lt_of_succ_le (Nat.le_of_eq last))]
  unfold advance
  rw [total, count_holding (Nat.le_of_eq last), last, if_neg]
  · show complete (bytes.take bytes.length) = _
    rw [List.take_length]
    exact whole.completes
  · rintro (none | less)
    · omega
    · exact Nat.lt_irrefl _ less

/-- What is behind the front of a frame starts with the next byte. -/
theorem drop_eq_cons
    {count : Nat}
    (inside : count < bytes.length) :
    bytes.drop count = byteAt bytes count :: bytes.drop (count + 1) := by
  rw [List.drop_eq_getElem_cons inside]
  simp [byteAt, inside]

/-- From the front of a frame on, the rest of it is taken. -/
theorem answers_from
    (whole : Whole bytes view)
    {count left : Nat}
    (remaining : count + left + 1 = bytes.length) :
    (holding bytes count).answers (bytes.drop count) =
      (init, List.replicate left .incomplete ++ [.frame view]) := by
  have inside : count < bytes.length := by omega
  induction left generalizing count with
  | zero =>
      rw [drop_eq_cons inside, answers, whole.feed_last remaining,
        List.drop_eq_nil_of_le (Nat.le_of_eq remaining.symm)]
      rfl
  | succ left inductionHypothesis =>
      have following :
          (holding bytes (count + 1)).answers (bytes.drop (count + 1)) =
            (init, List.replicate left .incomplete ++ [.frame view]) :=
        inductionHypothesis (by omega) (by omega)
      rw [drop_eq_cons inside, answers, whole.feed_between (by omega)]
      dsimp only
      rw [following]
      rfl

/--
A parser that holds less than a magic takes a whole frame: each byte but the
last leaves it incomplete, and the last emits it.
-/
theorem answers_whole
    (whole : Whole bytes view)
    {parser : Parser}
    (wellFormed : parser.WellFormed)
    (short : parser.count < 4) :
    parser.answers bytes =
      (init,
        List.replicate (bytes.length - 1) .incomplete ++ [.frame view]) := by
  have idle : parser.expectedTotal = 0 :=
    wellFormed.opening (Nat.lt_trans short (by decide))
  obtain ⟨left, size⟩ : ∃ left, bytes.length = left + 2 :=
    ⟨bytes.length - 2, by have := whole.bounds.1; omega⟩
  have rest :
      (holding bytes 1).answers (bytes.drop 1) =
        (init, List.replicate left .incomplete ++ [.frame view]) :=
    whole.answers_from (by omega)
  have opening : bytes = byteAt bytes 0 :: bytes.drop 1 := by
    have inside : 0 < bytes.length := by omega
    exact List.drop_zero.symm.trans (drop_eq_cons inside)
  calc parser.answers bytes
    _ = parser.answers (byteAt bytes 0 :: bytes.drop 1) :=
        congrArg parser.answers opening
    _ = (init, .incomplete ::
          (List.replicate left .incomplete ++ [.frame view])) := by
        rw [answers, whole.feed_first short idle]
        dsimp only
        rw [rest]
    _ = _ := by
        rw [size]
        rfl

end Whole

end Usac.Firmware.Mcu.Parser
