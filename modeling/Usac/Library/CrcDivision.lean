import Mathlib.Algebra.Field.ZMod
import Mathlib.Algebra.Polynomial.OfFn
import Mathlib.RingTheory.AdjoinRoot
import Usac.Library.Crc32

namespace Usac.Library.Crc32

open Polynomial

/-!
# CRC-32/ISO-HDLC by polynomial division

A message is a polynomial over the field of two elements, its first bit the
coefficient of the highest power, and the bits of a byte go from the least
significant one on. The checksum is the remainder of the message, with the
preset in front, read in the same order of bits and complemented. The shift
register holds the remainder of what it has absorbed.
-/

/-- The generator, of degree 32. -/
noncomputable def generator : (ZMod 2)[X] :=
  X ^ 32 + X ^ 26 + X ^ 23 + X ^ 22 + X ^ 16 + X ^ 12 + X ^ 11 + X ^ 10 +
    X ^ 8 + X ^ 7 + X ^ 5 + X ^ 4 + X ^ 2 + X + 1

/-- A bit as an element of the field. -/
def bit (value : Bool) : ZMod 2 :=
  if value then 1 else 0

/-- The polynomial of a byte. -/
noncomputable def bytePolynomial (byte : UInt8) : (ZMod 2)[X] :=
  ofFn 8 fun power => bit (byte.toBitVec.getLsbD (7 - power))

/-- The polynomial of a message. -/
noncomputable def messagePolynomial : List UInt8 → (ZMod 2)[X]
  | [] => 0
  | byte :: rest =>
      bytePolynomial byte * X ^ (8 * rest.length) + messagePolynomial rest

/-- The preset: 32 ones. -/
noncomputable def preset : (ZMod 2)[X] :=
  ofFn 32 fun _ => 1

/-- The remainder of a message behind the preset. -/
noncomputable def remainder (bytes : List UInt8) : (ZMod 2)[X] :=
  (preset * X ^ (8 * bytes.length) + messagePolynomial bytes * X ^ 32) %ₘ
    generator

/-- The word of a remainder, its highest coefficient in the least significant
bit. -/
noncomputable def reflect (remainder : (ZMod 2)[X]) : UInt32 :=
  .ofBitVec (BitVec.ofBoolListLE ((List.range 32).map fun index =>
    decide (remainder.coeff (31 - index) = 1)))

/-- CRC-32/ISO-HDLC. -/
noncomputable def isoHdlc (bytes : List UInt8) : UInt32 :=
  reflect (remainder bytes) ^^^ 0xFFFFFFFF

/-! ## The shift register -/

/-- The polynomial in the shift register. -/
noncomputable def register (value : UInt32) : (ZMod 2)[X] :=
  ofFn 32 fun power => bit (value.toBitVec.getLsbD (31 - power))

/-- The coefficients of a register are its bits. -/
theorem register_coeff (value : UInt32) (power : Nat) :
    (register value).coeff power =
      bit (decide (power < 32) && value.toBitVec.getLsbD (31 - power)) := by
  by_cases within : power < 32
  · rw [register, ofFn_coeff_eq_val_of_lt _ within]
    simp [within]
  · rw [register, ofFn_coeff_eq_zero_of_ge _ (not_lt.1 within)]
    simp [within, bit]

/-- The sum of two bits. -/
theorem bit_xor (left right : Bool) :
    bit (left ^^ right) = bit left + bit right := by
  cases left <;> cases right <;> rfl

/-- Registers are added bit by bit. -/
theorem register_xor (left right : UInt32) :
    register (left ^^^ right) = register left + register right := by
  ext power
  rw [coeff_add, register_coeff, register_coeff, register_coeff, ← bit_xor,
    UInt32.toBitVec_xor, BitVec.getLsbD_xor, Bool.and_xor_distrib_left]

/-- A shift multiplies by `X` and drops the bit that is shifted out. -/
theorem register_shift (value : UInt32) :
    register value * X =
      register (value >>> 1) + C (bit (value.toBitVec.getLsbD 0)) * X ^ 32 := by
  ext power
  rw [coeff_add, coeff_C_mul, coeff_X_pow, register_coeff]
  have shifted (index : Nat) :
      (value >>> 1).toBitVec.getLsbD index =
        value.toBitVec.getLsbD (1 + index) := by
    rw [UInt32.toBitVec_shiftRight]
    exact BitVec.getLsbD_ushiftRight _ _ _
  rw [shifted]
  cases power with
  | zero =>
      rw [mul_coeff_zero, coeff_X_zero, mul_zero]
      simp [bit]
  | succ power =>
      rw [coeff_mul_X, register_coeff]
      rcases lt_trichotomy power 31 with below | rfl | above
      · rw [show 1 + (31 - (power + 1)) = 31 - power by omega]
        simp [show power < 32 by omega, show power + 1 < 32 by omega,
          show power ≠ 31 by omega, bit]
      · simp [bit]
      · simp [bit, show ¬power < 32 by omega, show ¬power + 1 < 32 by omega,
          show power ≠ 31 by omega]

/-- The generator without its leading term. -/
theorem generator_eq : generator = X ^ 32 + register polynomial := by
  have bits :
      ∀ power < 33,
        ((if power = 32 then 1 else 0) + (if power = 26 then 1 else 0) +
          (if power = 23 then 1 else 0) + (if power = 22 then 1 else 0) +
          (if power = 16 then 1 else 0) + (if power = 12 then 1 else 0) +
          (if power = 11 then 1 else 0) + (if power = 10 then 1 else 0) +
          (if power = 8 then 1 else 0) + (if power = 7 then 1 else 0) +
          (if power = 5 then 1 else 0) + (if power = 4 then 1 else 0) +
          (if power = 2 then 1 else 0) + (if 1 = power then 1 else 0) +
          (if power = 0 then 1 else 0) : ZMod 2) =
        (if power = 32 then 1 else 0) +
          bit (decide (power < 32) &&
            polynomial.toBitVec.getLsbD (31 - power)) := by
    decide
  ext power
  simp only [generator, coeff_add, coeff_X_pow, coeff_X, coeff_one,
    register_coeff]
  by_cases within : power < 33
  · exact bits power within
  · have above (low : Nat) (small : low < 33) : ¬power = low := by omega
    have unit : ¬1 = power := by omega
    simp [above, unit, bit, show ¬power < 32 by omega]

/-- A register is below the degree of the generator. -/
theorem degree_register_lt (value : UInt32) :
    (register value).degree < (32 : ℕ) :=
  ofFn_degree_lt _

/-- The generator is monic. -/
theorem generator_monic : generator.Monic := by
  rw [generator_eq]
  exact monic_X_pow_add (degree_register_lt _)

/-- The degree of the generator. -/
theorem degree_generator : generator.degree = (32 : ℕ) := by
  rw [generator_eq,
    degree_add_eq_left_of_degree_lt
      (by rw [degree_X_pow]; exact degree_register_lt _),
    degree_X_pow]

/-! ## What the register has absorbed -/

/-- The residue of a polynomial modulo the generator. -/
noncomputable def residue : (ZMod 2)[X] →+* AdjoinRoot generator :=
  AdjoinRoot.mk generator

/-- The leading term and the rest of the generator are the same. -/
theorem residue_leading : residue (register polynomial) = residue X ^ 32 := by
  have zero : residue (X ^ 32 + register polynomial) = 0 := by
    rw [← generator_eq]
    exact AdjoinRoot.mk_self
  have double : residue (X ^ 32) + residue (X ^ 32) = 0 := by
    rw [← map_add, ← two_mul, show (2 : (ZMod 2)[X]) = 0 from
      CharTwo.two_eq_zero, zero_mul, map_zero]
  rw [map_add] at zero
  rw [← map_pow]
  exact add_left_cancel (zero.trans double.symm)

/-- The least significant bit. -/
theorem and_one_ne_zero_iff (value : UInt32) :
    value &&& 1 ≠ 0 ↔ value.toBitVec.getLsbD 0 = true := by
  rw [← UInt32.toNat_inj.ne, UInt32.toNat_and, ← UInt32.toNat_toBitVec value,
    BitVec.getLsbD, Nat.testBit_zero]
  show value.toBitVec.toNat &&& 1 ≠ 0 ↔ _
  rw [Nat.and_one_is_mod]
  simp

/-- One bit of the register is one multiplication by `X`. -/
theorem residue_bitStep (value : UInt32) :
    residue (register (bitStep value)) =
      residue (register value) * residue X := by
  rw [← map_mul, register_shift, map_add, map_mul, map_pow]
  unfold bitStep
  by_cases set : value.toBitVec.getLsbD 0 = true
  · rw [if_pos ((and_one_ne_zero_iff value).2 set), register_xor, map_add,
      residue_leading, set]
    simp [bit]
  · rw [if_neg ((and_one_ne_zero_iff value).not.2 set),
      Bool.eq_false_of_not_eq_true set]
    simp [bit]

/-- A byte is absorbed at the high end. -/
theorem register_byte (byte : UInt8) :
    register byte.toUInt32 = bytePolynomial byte * X ^ 24 := by
  have widened (index : Nat) :
      byte.toUInt32.toBitVec.getLsbD index =
        (decide (index < 32) && byte.toBitVec.getLsbD index) := by
    rw [UInt8.toBitVec_toUInt32]
    exact BitVec.getLsbD_setWidth _ _ _
  ext power
  rw [register_coeff, coeff_mul_X_pow', widened]
  by_cases high : 24 ≤ power
  · rw [if_pos high]
    by_cases within : power < 32
    · rw [bytePolynomial, ofFn_coeff_eq_val_of_lt _ (by omega),
        show 7 - (power - 24) = 31 - power by omega]
      simp [within, show 31 - power < 32 by omega]
    · rw [bytePolynomial, ofFn_coeff_eq_zero_of_ge _ (by omega)]
      simp [within, bit]
  · rw [if_neg high, BitVec.getLsbD_of_ge _ _ (by omega)]
    simp [bit]

/-- What a byte adds. -/
theorem residue_byteStep (value : UInt32) (byte : UInt8) :
    residue (register (byteStep value byte)) =
      residue (register value) * residue X ^ 8 +
        residue (bytePolynomial byte) * residue X ^ 32 := by
  unfold byteStep
  simp only [residue_bitStep]
  rw [register_xor, register_byte, map_add, map_mul, map_pow]
  ring

/-- What a segment adds. -/
theorem residue_update (value : UInt32) (bytes : List UInt8) :
    residue (register (update value bytes)) =
      residue (register value) * residue X ^ (8 * bytes.length) +
        residue (messagePolynomial bytes) * residue X ^ 32 := by
  induction bytes generalizing value with
  | nil => simp [update, messagePolynomial]
  | cons byte rest inductionHypothesis =>
      have step : update value (byte :: rest) =
          update (byteStep value byte) rest := rfl
      rw [step, inductionHypothesis, residue_byteStep, messagePolynomial,
        map_add, map_mul, map_pow, List.length_cons, Nat.mul_succ]
      ring

/-- The initial register holds the preset. -/
theorem register_preset : register 0xFFFFFFFF = preset := by
  have ones : ∀ power < 32,
      (0xFFFFFFFF : UInt32).toBitVec.getLsbD (31 - power) = true := by
    decide
  ext power
  rw [register_coeff, preset]
  by_cases within : power < 32
  · rw [ofFn_coeff_eq_val_of_lt _ within, ones power within]
    simp [within, bit]
  · rw [ofFn_coeff_eq_zero_of_ge _ (not_lt.1 within)]
    simp [within, bit]

/-- The register holds the remainder of what it has absorbed. -/
theorem register_update (bytes : List UInt8) :
    register (update 0xFFFFFFFF bytes) = remainder bytes := by
  have same :
      residue (register (update 0xFFFFFFFF bytes)) =
        residue (preset * X ^ (8 * bytes.length) +
          messagePolynomial bytes * X ^ 32) := by
    rw [residue_update, register_preset, map_add, map_mul, map_mul, map_pow,
      map_pow]
  have divides := AdjoinRoot.mk_eq_mk.1 same
  rw [remainder, ← modByMonic_eq_of_dvd_sub generator_monic divides,
    (modByMonic_eq_self_iff generator_monic).2]
  rw [degree_generator]
  exact degree_register_lt _

/-- A register is read back from its polynomial. -/
theorem reflect_register (value : UInt32) :
    reflect (register value) = value := by
  have field (flag : Bool) : decide (bit flag = 1) = flag := by
    cases flag <;> rfl
  apply UInt32.toBitVec_inj.1
  apply BitVec.eq_of_getLsbD_eq
  intro index within
  refine Eq.trans BitVec.getLsbD_ofBoolListLE ?_
  rw [List.getD_eq_getElem?_getD, List.getElem?_map,
    List.getElem?_range within, Option.map_some, Option.getD_some,
    register_coeff, field]
  simp [show 31 - (31 - index) = index by omega,
    show 31 - index < 32 by omega]

/-- The checksum is the remainder of the division. -/
theorem checksum_eq_isoHdlc (bytes : List UInt8) :
    checksum bytes = isoHdlc bytes := by
  rw [checksum, isoHdlc, ← register_update, reflect_register]

end Usac.Library.Crc32
