import Usac.Library.Sha256

namespace Usac.Firmware

open Library

/-!
# The allocation-free SHA-256 of the firmware

`usac_sha256` hashes a buffer in place: whole blocks straight from the input,
then one or two final blocks built in a local buffer. Offsets are 16-bit words
and the bit length is a 32-bit word, as in the source.
-/

namespace Sha256

open Library.Sha256 (Words roundConstants readWord writeWord rotateRight)

/-- One entry of the word buffer beyond the block itself. -/
def extendWords (words : List UInt32) (index : Nat) : List UInt32 :=
  let w15 := words.getD (index - 15) 0
  let w2 := words.getD (index - 2) 0
  let s0 := rotateRight w15 7 ^^^ rotateRight w15 18 ^^^ (w15 >>> 3)
  let s1 := rotateRight w2 17 ^^^ rotateRight w2 19 ^^^ (w2 >>> 10)
  words ++
    [words.getD (index - 16) 0 + s0 + words.getD (index - 7) 0 + s1]

/-- The body of the round loop. -/
def round (state : Words) (keyed : UInt32 × UInt32) : Words :=
  let s1 :=
    rotateRight state.e 6 ^^^ rotateRight state.e 11 ^^^
      rotateRight state.e 25
  let choice := (state.e &&& state.f) ^^^ (~~~state.e &&& state.g)
  let temp1 := state.h + s1 + choice + keyed.1 + keyed.2
  let s0 :=
    rotateRight state.a 2 ^^^ rotateRight state.a 13 ^^^
      rotateRight state.a 22
  let majority :=
    (state.a &&& state.b) ^^^ (state.a &&& state.c) ^^^ (state.b &&& state.c)
  let temp2 := s0 + majority
  ⟨temp1 + temp2, state.a, state.b, state.c,
    state.d + temp1, state.e, state.f, state.g⟩

/-- Mix the first 64 bytes of a buffer into the state. -/
def transform (state : Words) (block : List UInt8) : Words :=
  let words :=
    (List.range' 16 48).foldl extendWords
      ((List.range 16).map fun index => readWord block (4 * index))
  state.add ((roundConstants.zip words).foldl round state)

/-- The loop over whole blocks, with the offset it stops at. -/
def absorb
    (data : List UInt8)
    (length : UInt16) :
    Nat → UInt16 → Words → UInt16 × Words
  | 0, offset, state => (offset, state)
  | fuel + 1, offset, state =>
      if 64 ≤ length - offset then
        absorb data length fuel (offset + 64)
          (transform state (data.drop offset.toNat))
      else
        (offset, state)

/-- Fill a buffer with zeros up to a length. -/
def zeroFill (bytes : List UInt8) (length : Nat) : List UInt8 :=
  bytes ++ List.replicate (length - bytes.length) 0

end Sha256

open Library.Sha256 (Words writeWord) in
/-- `usac_sha256`. -/
def sha256 (data : List UInt8) : Bytes 32 :=
  let length := data.length.toUInt16
  let bitLength := length.toUInt32 * 8
  let (offset, absorbed) :=
    Sha256.absorb data length (data.length / 64) 0 Words.initial
  let remaining := (length - offset).toNat
  let block := (data.drop offset.toNat).take remaining ++ [0x80]
  let state :=
    if 56 ≤ remaining then
      Sha256.transform
        (Sha256.transform absorbed (Sha256.zeroFill block 64))
        (Sha256.zeroFill [] 60 ++ writeWord bitLength)
    else
      Sha256.transform absorbed
        (Sha256.zeroFill block 60 ++ writeWord bitLength)
  ⟨writeWord state.a ++ writeWord state.b ++ writeWord state.c ++
    writeWord state.d ++ writeWord state.e ++ writeWord state.f ++
    writeWord state.g ++ writeWord state.h, rfl⟩

namespace Sha256

/-- The word buffer grows by the entries of the schedule. -/
theorem extendWords_eq_extend : extendWords = Library.Sha256.extend := by
  funext words index
  simp only [extendWords, Library.Sha256.extend, Library.Sha256.sigma0,
    Library.Sha256.sigma1]
  congr 2
  ac_rfl

/-- The round loop is the loop of the specification. -/
theorem transform_eq_compress : transform = Library.Sha256.compress := by
  funext state block
  simp only [transform, Library.Sha256.compress, Library.Sha256.schedule,
    extendWords_eq_extend]
  rfl

/-- The loop stops behind the last whole block. -/
theorem absorb_blocks
    {data : List UInt8}
    (within : data.length < 65536)
    (count offset : Nat)
    (fits : offset + 64 * count ≤ data.length)
    (state : Library.Sha256.Words) :
    absorb data data.length.toUInt16 count offset.toUInt16 state =
      ((offset + 64 * count).toUInt16,
        (Library.Sha256.blocks ((data.drop offset).take (64 * count))).foldl
          Library.Sha256.compress state) := by
  induction count generalizing offset state with
  | zero =>
      rw [Nat.mul_zero, List.take_zero]
      rfl
  | succ count inductionHypothesis =>
      have left :
          64 ≤ data.length.toUInt16 - offset.toUInt16 := by
        rw [UInt16.le_iff_toNat_le, UInt16.toNat_sub_of_le]
        · simp only [Nat.toUInt16_eq, UInt16.toNat_ofNat']
          show 64 ≤ _
          omega
        · rw [UInt16.le_iff_toNat_le]
          simp only [Nat.toUInt16_eq, UInt16.toNat_ofNat']
          omega
      have next : offset.toUInt16 + 64 = (offset + 64).toUInt16 := by
        apply UInt16.toNat_inj.1
        simp only [UInt16.toNat_add, Nat.toUInt16_eq, UInt16.toNat_ofNat']
        show (offset % 65536 + 64) % 65536 = _
        omega
      have here : offset.toUInt16.toNat = offset := by
        simp only [Nat.toUInt16_eq, UInt16.toNat_ofNat']
        omega
      have whole : 64 ≤ ((data.drop offset).take (64 * (count + 1))).length := by
        rw [List.length_take, List.length_drop]
        omega
      rw [absorb, if_pos left, next,
        inductionHypothesis (offset + 64) (by omega), transform_eq_compress,
        here, Library.Sha256.blocks_cons whole, List.foldl_cons,
        List.take_take, Nat.min_eq_left (by omega),
        Library.Sha256.compress_take, List.drop_take, List.drop_drop,
        show 64 * (count + 1) - 64 = 64 * count by omega,
        show offset + 64 + 64 * count = offset + 64 * (count + 1) by omega]

/-- The end of a message is padded to one block, or to two. -/
theorem blocks_padded
    {data : List UInt8}
    (within : data.length < 65536) :
    Library.Sha256.blocks (data ++ Library.Sha256.padding data.length) =
      Library.Sha256.blocks (data.take (64 * (data.length / 64))) ++
        if 56 ≤ data.length % 64 then
          [zeroFill (data.drop (64 * (data.length / 64)) ++ [0x80]) 64,
            zeroFill [] 60 ++
              Library.Sha256.writeWord (data.length.toUInt16.toUInt32 * 8)]
        else
          [zeroFill (data.drop (64 * (data.length / 64)) ++ [0x80]) 60 ++
            Library.Sha256.writeWord (data.length.toUInt16.toUInt32 * 8)] := by
  have bits :
      Library.Sha256.lengthField (8 * data.length) =
        List.replicate 4 0 ++
          Library.Sha256.writeWord (data.length.toUInt16.toUInt32 * 8) := by
    have word :
        (8 * data.length).toUInt32 = data.length.toUInt16.toUInt32 * 8 := by
      apply UInt32.toNat_inj.1
      simp only [Nat.toUInt16_eq, Nat.toUInt32_eq, UInt32.toNat_ofNat',
        UInt32.toNat_mul, UInt16.toNat_toUInt32, UInt16.toNat_ofNat']
      show _ = _ * 8 % _
      omega
    rw [Library.Sha256.lengthField_of_lt (by omega), word]
    rfl
  have whole :
      (data.take (64 * (data.length / 64))).length =
        64 * (data.length / 64) := by
    rw [List.length_take]
    omega
  have rest :
      (data.drop (64 * (data.length / 64))).length = data.length % 64 := by
    rw [List.length_drop]
    omega
  conv_lhs =>
    rw [← List.take_append_drop (64 * (data.length / 64)) data,
      List.append_assoc, List.take_append_drop]
  rw [Library.Sha256.blocks_append _ whole]
  refine congrArg _ ?_
  generalize data.drop (64 * (data.length / 64)) = tail at rest
  unfold Library.Sha256.padding
  rw [bits]
  have four :
      (Library.Sha256.writeWord
        (data.length.toUInt16.toUInt32 * 8)).length = 4 := rfl
  generalize Library.Sha256.writeWord (data.length.toUInt16.toUInt32 * 8) =
    word at four
  split_ifs with long
  · have zeros :
        List.replicate ((119 - data.length % 64) % 64) (0 : UInt8) ++
            (List.replicate 4 0 ++ word) =
          List.replicate (64 - (tail ++ [0x80]).length) 0 ++
            (zeroFill [] 60 ++ word) := by
      have count :
          (119 - data.length % 64) % 64 + 4 =
            64 - (tail ++ [0x80]).length + 60 := by
        rw [List.length_append, List.length_singleton, rest]
        omega
      rw [zeroFill, List.nil_append, List.length_nil, Nat.sub_zero,
        ← List.append_assoc, ← List.append_assoc, ← List.replicate_add,
        ← List.replicate_add, count]
    have shape :
        tail ++ (0x80 :: List.replicate ((119 - data.length % 64) % 64) 0 ++
            (List.replicate 4 0 ++ word)) =
          zeroFill (tail ++ [0x80]) 64 ++ (zeroFill [] 60 ++ word) := by
      rw [List.cons_append, zeros]
      simp only [zeroFill, List.append_assoc, List.nil_append,
        List.cons_append]
    rw [shape, Library.Sha256.blocks_append 1,
      Library.Sha256.blocks_of_whole, Library.Sha256.blocks_of_whole]
    · rfl
    · simp [zeroFill, four]
    · simp [zeroFill, rest]
      omega
    · simp [zeroFill, rest]
      omega
  · have zeros :
        List.replicate ((119 - data.length % 64) % 64) (0 : UInt8) ++
            List.replicate 4 0 =
          List.replicate (60 - (tail ++ [0x80]).length) 0 := by
      rw [← List.replicate_add, List.length_append, List.length_singleton,
        rest]
      congr 1
      omega
    have shape :
        tail ++ (0x80 :: List.replicate ((119 - data.length % 64) % 64) 0 ++
            (List.replicate 4 0 ++ word)) =
          zeroFill (tail ++ [0x80]) 60 ++ word := by
      rw [List.cons_append, ← List.append_assoc (List.replicate _ _), zeros]
      simp only [zeroFill, List.append_assoc, List.nil_append,
        List.cons_append]
    rw [shape, Library.Sha256.blocks_of_whole]
    simp [zeroFill, rest, four]
    omega

end Sha256

/-- The firmware computes the digest of every message it can be given. -/
theorem sha256_eq_digest
    {data : List UInt8}
    (within : data.length < 65536) :
    sha256 data = Library.Sha256.digest data := by
  have absorbed :
      Sha256.absorb data data.length.toUInt16 (data.length / 64) 0
          Library.Sha256.Words.initial =
        ((64 * (data.length / 64)).toUInt16,
          (Library.Sha256.blocks (data.take (64 * (data.length / 64)))).foldl
            Library.Sha256.compress Library.Sha256.Words.initial) := by
    have whole := Sha256.absorb_blocks within (data.length / 64) 0 (by omega)
      Library.Sha256.Words.initial
    rw [Nat.zero_add, List.drop_zero] at whole
    exact whole
  have offset :
      (64 * (data.length / 64)).toUInt16.toNat = 64 * (data.length / 64) := by
    rw [Nat.toUInt16_eq, UInt16.toNat_ofNat']
    omega
  have remaining :
      (data.length.toUInt16 - (64 * (data.length / 64)).toUInt16).toNat =
        data.length % 64 := by
    rw [UInt16.toNat_sub_of_le]
    · rw [offset, Nat.toUInt16_eq, UInt16.toNat_ofNat']
      omega
    · rw [UInt16.le_iff_toNat_le, offset, Nat.toUInt16_eq,
        UInt16.toNat_ofNat']
      omega
  have tail :
      (data.drop (64 * (data.length / 64))).take (data.length % 64) =
        data.drop (64 * (data.length / 64)) := by
    apply List.take_of_length_le
    rw [List.length_drop]
    omega
  have state :
      (if 56 ≤ (data.length.toUInt16 -
          (64 * (data.length / 64)).toUInt16).toNat then
        Sha256.transform
          (Sha256.transform
            ((Library.Sha256.blocks
              (data.take (64 * (data.length / 64)))).foldl
                Library.Sha256.compress Library.Sha256.Words.initial)
            (Sha256.zeroFill
              ((data.drop (64 * (data.length / 64)).toUInt16.toNat).take
                (data.length.toUInt16 -
                  (64 * (data.length / 64)).toUInt16).toNat ++ [0x80]) 64))
          (Sha256.zeroFill [] 60 ++
            Library.Sha256.writeWord (data.length.toUInt16.toUInt32 * 8))
      else
        Sha256.transform
          ((Library.Sha256.blocks
            (data.take (64 * (data.length / 64)))).foldl
              Library.Sha256.compress Library.Sha256.Words.initial)
          (Sha256.zeroFill
              ((data.drop (64 * (data.length / 64)).toUInt16.toNat).take
                (data.length.toUInt16 -
                  (64 * (data.length / 64)).toUInt16).toNat ++ [0x80]) 60 ++
            Library.Sha256.writeWord (data.length.toUInt16.toUInt32 * 8))) =
        (Library.Sha256.blocks
          (data ++ Library.Sha256.padding data.length)).foldl
            Library.Sha256.compress Library.Sha256.Words.initial := by
    rw [remaining, offset, tail, Sha256.blocks_padded within,
      List.foldl_append, Sha256.transform_eq_compress]
    by_cases long : 56 ≤ data.length % 64
    · rw [if_pos long, if_pos long, List.foldl_cons, List.foldl_cons,
        List.foldl_nil]
    · rw [if_neg long, if_neg long, List.foldl_cons, List.foldl_nil]
  unfold sha256 Library.Sha256.digest
  dsimp only
  rw [absorbed]
  dsimp only
  apply List.Vector.eq
  simp only [List.Vector.toList_mk, state]
  rfl

end Usac.Firmware
