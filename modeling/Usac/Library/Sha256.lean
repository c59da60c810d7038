import Usac.Library.Bytes

namespace Usac.Library.Sha256

/-!
# SHA-256

The hash function over byte strings: the message is padded to whole blocks of
64 bytes, every block extends to a schedule of 64 words, and 64 rounds mix the
schedule into the chaining value.
-/

/-- The round constants. -/
def roundConstants : List UInt32 := [
  0x428A2F98, 0x71374491, 0xB5C0FBCF, 0xE9B5DBA5,
  0x3956C25B, 0x59F111F1, 0x923F82A4, 0xAB1C5ED5,
  0xD807AA98, 0x12835B01, 0x243185BE, 0x550C7DC3,
  0x72BE5D74, 0x80DEB1FE, 0x9BDC06A7, 0xC19BF174,
  0xE49B69C1, 0xEFBE4786, 0x0FC19DC6, 0x240CA1CC,
  0x2DE92C6F, 0x4A7484AA, 0x5CB0A9DC, 0x76F988DA,
  0x983E5152, 0xA831C66D, 0xB00327C8, 0xBF597FC7,
  0xC6E00BF3, 0xD5A79147, 0x06CA6351, 0x14292967,
  0x27B70A85, 0x2E1B2138, 0x4D2C6DFC, 0x53380D13,
  0x650A7354, 0x766A0ABB, 0x81C2C92E, 0x92722C85,
  0xA2BFE8A1, 0xA81A664B, 0xC24B8B70, 0xC76C51A3,
  0xD192E819, 0xD6990624, 0xF40E3585, 0x106AA070,
  0x19A4C116, 0x1E376C08, 0x2748774C, 0x34B0BCB5,
  0x391C0CB3, 0x4ED8AA4A, 0x5B9CCA4F, 0x682E6FF3,
  0x748F82EE, 0x78A5636F, 0x84C87814, 0x8CC70208,
  0x90BEFFFA, 0xA4506CEB, 0xBEF9A3F7, 0xC67178F2]

/-- The chaining value. -/
structure Words where
  a : UInt32
  b : UInt32
  c : UInt32
  d : UInt32
  e : UInt32
  f : UInt32
  g : UInt32
  h : UInt32
  deriving Repr, DecidableEq

namespace Words

/-- The initial chaining value. -/
def initial : Words :=
  ⟨0x6A09E667, 0xBB67AE85, 0x3C6EF372, 0xA54FF53A,
    0x510E527F, 0x9B05688C, 0x1F83D9AB, 0x5BE0CD19⟩

/-- Word-wise addition. -/
def add (left right : Words) : Words :=
  ⟨left.a + right.a, left.b + right.b, left.c + right.c, left.d + right.d,
    left.e + right.e, left.f + right.f, left.g + right.g, left.h + right.h⟩

/-- The words in order. -/
def toList (words : Words) : List UInt32 :=
  [words.a, words.b, words.c, words.d, words.e, words.f, words.g, words.h]

end Words

/-- Rotation to the right. -/
def rotateRight (value count : UInt32) : UInt32 :=
  (value >>> count) ||| (value <<< (32 - count))

/-- The function `σ₀` of the schedule. -/
def sigma0 (word : UInt32) : UInt32 :=
  rotateRight word 7 ^^^ rotateRight word 18 ^^^ (word >>> 3)

/-- The function `σ₁` of the schedule. -/
def sigma1 (word : UInt32) : UInt32 :=
  rotateRight word 17 ^^^ rotateRight word 19 ^^^ (word >>> 10)

/-- The function `Σ₀` of a round. -/
def bigSigma0 (word : UInt32) : UInt32 :=
  rotateRight word 2 ^^^ rotateRight word 13 ^^^ rotateRight word 22

/-- The function `Σ₁` of a round. -/
def bigSigma1 (word : UInt32) : UInt32 :=
  rotateRight word 6 ^^^ rotateRight word 11 ^^^ rotateRight word 25

/-- The choice function of a round. -/
def choose (x y z : UInt32) : UInt32 :=
  (x &&& y) ^^^ (~~~x &&& z)

/-- The majority function of a round. -/
def majority (x y z : UInt32) : UInt32 :=
  (x &&& y) ^^^ (x &&& z) ^^^ (y &&& z)

/-- A big-endian word. -/
def readWord (bytes : List UInt8) (offset : Nat) : UInt32 :=
  ((byteAt bytes offset).toUInt32 <<< 24) |||
    ((byteAt bytes (offset + 1)).toUInt32 <<< 16) |||
    ((byteAt bytes (offset + 2)).toUInt32 <<< 8) |||
    (byteAt bytes (offset + 3)).toUInt32

/-- The four bytes of a big-endian word. -/
def writeWord (word : UInt32) : List UInt8 :=
  [(word >>> 24).toUInt8, (word >>> 16).toUInt8,
    (word >>> 8).toUInt8, word.toUInt8]

/-- Append the word of the given index to a schedule that reaches up to it. -/
def extend (schedule : List UInt32) (index : Nat) : List UInt32 :=
  schedule ++
    [sigma1 (schedule.getD (index - 2) 0) + schedule.getD (index - 7) 0 +
      sigma0 (schedule.getD (index - 15) 0) + schedule.getD (index - 16) 0]

/-- The schedule of one block. -/
def schedule (block : List UInt8) : List UInt32 :=
  (List.range' 16 48).foldl extend
    ((List.range 16).map fun index => readWord block (4 * index))

/-- One round with its constant and its schedule word. -/
def round (words : Words) (keyed : UInt32 × UInt32) : Words :=
  let first :=
    words.h + bigSigma1 words.e + choose words.e words.f words.g +
      keyed.1 + keyed.2
  let second := bigSigma0 words.a + majority words.a words.b words.c
  ⟨first + second, words.a, words.b, words.c,
    words.d + first, words.e, words.f, words.g⟩

/-- Mix one block into the chaining value. -/
def compress (words : Words) (block : List UInt8) : Words :=
  words.add ((roundConstants.zip (schedule block)).foldl round words)

/-- The eight bytes of a message length in bits. -/
def lengthField (bits : Nat) : List UInt8 :=
  (List.range 8).map fun index => UInt8.ofNat (bits / 256 ^ (7 - index))

/-- The bytes that complete a message to whole blocks. -/
def padding (length : Nat) : List UInt8 :=
  0x80 :: List.replicate ((119 - length % 64) % 64) 0 ++
    lengthField (8 * length)

/-- Cut a byte string into whole blocks. -/
def blocks (bytes : List UInt8) : List (List UInt8) :=
  (List.range (bytes.length / 64)).map fun index =>
    (bytes.drop (64 * index)).take 64

/-- The digest of a message. -/
def digest (message : List UInt8) : Bytes 32 :=
  let words :=
    (blocks (message ++ padding message.length)).foldl compress Words.initial
  ⟨writeWord words.a ++ writeWord words.b ++ writeWord words.c ++
    writeWord words.d ++ writeWord words.e ++ writeWord words.f ++
    writeWord words.g ++ writeWord words.h, rfl⟩

/-! ## Blocks -/

/-- A byte string with a whole block starts with it. -/
theorem blocks_cons
    {bytes : List UInt8}
    (whole : 64 ≤ bytes.length) :
    blocks bytes = bytes.take 64 :: blocks (bytes.drop 64) := by
  have count : bytes.length / 64 = (bytes.length - 64) / 64 + 1 := by omega
  unfold blocks
  rw [List.length_drop, count, List.range_succ_eq_map, List.map_cons,
    List.map_map]
  refine congrArg₂ List.cons (by simp) (List.map_congr_left fun index _ => ?_)
  simp only [Function.comp_apply, List.drop_drop]
  rw [Nat.add_comm 64, Nat.mul_succ]

/-- What is left of a block is none. -/
theorem blocks_of_short
    {bytes : List UInt8}
    (short : bytes.length < 64) :
    blocks bytes = [] := by
  unfold blocks
  rw [Nat.div_eq_of_lt short]
  rfl

/-- A byte string of one block. -/
theorem blocks_of_whole
    {bytes : List UInt8}
    (whole : bytes.length = 64) :
    blocks bytes = [bytes] := by
  rw [blocks_cons whole.ge, List.take_of_length_le whole.le,
    blocks_of_short (by rw [List.length_drop, whole]; decide)]

/-- Whole blocks are cut off the front. -/
theorem blocks_append
    {front : List UInt8}
    (count : Nat)
    (whole : front.length = 64 * count)
    (back : List UInt8) :
    blocks (front ++ back) = blocks front ++ blocks back := by
  induction count generalizing front with
  | zero =>
      obtain rfl := List.length_eq_zero_iff.1 whole
      rfl
  | succ count inductionHypothesis =>
      have first : 64 ≤ front.length := by omega
      have rest : (front.drop 64).length = 64 * count := by
        rw [List.length_drop]
        omega
      rw [blocks_cons first, blocks_cons (by rw [List.length_append]; omega),
        List.take_append_of_le_length first,
        List.drop_append_of_le_length first, inductionHypothesis rest,
        List.cons_append]

/-- The schedule looks at the first 64 bytes. -/
theorem schedule_take (bytes : List UInt8) :
    schedule (bytes.take 64) = schedule bytes := by
  have same :
      ∀ index < 64, byteAt (bytes.take 64) index = byteAt bytes index := by
    intro index within
    unfold byteAt
    rw [List.getD_eq_getElem?_getD, List.getD_eq_getElem?_getD,
      List.getElem?_take_of_lt within]
  have words :
      ∀ index < 16,
        readWord (bytes.take 64) (4 * index) = readWord bytes (4 * index) := by
    intro index within
    unfold readWord
    rw [same _ (by omega), same _ (by omega), same _ (by omega),
      same _ (by omega)]
  unfold schedule
  rw [List.map_congr_left fun index member =>
    words index (List.mem_range.1 member)]

/-- So does the compression. -/
theorem compress_take (words : Words) (bytes : List UInt8) :
    compress words (bytes.take 64) = compress words bytes := by
  unfold compress
  rw [schedule_take]

/-- The length of a message of less than 2³² bits is one word. -/
theorem lengthField_of_lt
    {bits : Nat}
    (short : bits < 4294967296) :
    lengthField bits = [0, 0, 0, 0] ++ writeWord bits.toUInt32 := by
  have shifted (count : UInt32) :
      (bits.toUInt32 >>> count).toUInt8 =
        UInt8.ofNat (bits / 2 ^ (count.toNat % 32)) := by
    apply UInt8.toNat_inj.1
    rw [UInt32.toNat_toUInt8, UInt32.toNat_shiftRight,
      Nat.toUInt32_eq, UInt32.toNat_ofNat_of_lt' short, UInt8.toNat_ofNat',
      Nat.shiftRight_eq_div_pow]
  have low : bits.toUInt32.toUInt8 = UInt8.ofNat bits := by
    apply UInt8.toNat_inj.1
    rw [UInt32.toNat_toUInt8, Nat.toUInt32_eq,
      UInt32.toNat_ofNat_of_lt' short, UInt8.toNat_ofNat']
  have zero (power : Nat) (large : 4 ≤ power) :
      UInt8.ofNat (bits / 256 ^ power) = 0 := by
    rw [Nat.div_eq_of_lt]
    · rfl
    · calc
        bits < 256 ^ 4 := short
        _ ≤ 256 ^ power := Nat.pow_le_pow_right (by decide) large
  unfold lengthField writeWord
  rw [shifted, shifted, shifted, low]
  simp only [List.range, List.range.loop, List.map_cons, List.map_nil]
  rw [zero 7 (by decide), zero 6 (by decide), zero 5 (by decide),
    zero 4 (by decide)]
  simp

end Usac.Library.Sha256
