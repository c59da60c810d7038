import Usac.Firmware.App
import Usac.Link.Codec

namespace Usac.Link

open Library

/-!
# Digests on both sides

The identities of a device, of a boot and of a capture, and the hash of a
profile, are digests of fixed material. The firmware takes them with its loop
over 16-bit offsets, a host with the hash function of its library.
-/

open Firmware in
/-- The digests of the firmware are those of SHA-256, for every buffer it can
be given and for the material of every identity. -/
structure TakesDigests : Prop where
  buffer :
    ∀ data : List UInt8,
      data.length < 65536 → sha256 data = Sha256.digest data
  profile :
    ∀ (config : ConfigV2) canonical,
      config.canonicalBytes? = some canonical →
        config.rehash.profileSha256 = Sha256.digest canonical
  device :
    ∀ dieRecord : Bytes 10,
      identityDerive dieRecord =
        slice (Sha256.digest
          ("USAC-DEVICE-ID-V1".toUTF8.data.toList ++
            dieRecord.toList)).toList 0 16
  boot :
    ∀ deviceId hostNonce : Bytes 16,
      bootIdDerive deviceId hostNonce =
        slice (Sha256.digest
          ("USAC-BOOT-ID-V1".toUTF8.data.toList ++ deviceId.toList ++
            hostNonce.toList)).toList 0 16
  capture :
    ∀ (bootId requestId : Bytes 16) captureSequence,
      CaptureStream.captureId bootId requestId captureSequence =
        slice (Sha256.digest
          (bootId.toList ++ requestId.toList ++
            writeU32 captureSequence)).toList 0 16

/-- The domain of device identities. -/
theorem deviceDomain :
    "USAC-DEVICE-ID-V1".toUTF8.data.toList =
      [0x55, 0x53, 0x41, 0x43, 0x2D, 0x44, 0x45, 0x56, 0x49, 0x43, 0x45, 0x2D,
        0x49, 0x44, 0x2D, 0x56, 0x31] := by
  decide

/-- The domain of boot identities. -/
theorem bootDomain :
    "USAC-BOOT-ID-V1".toUTF8.data.toList =
      [0x55, 0x53, 0x41, 0x43, 0x2D, 0x42, 0x4F, 0x4F, 0x54, 0x2D,
        0x49, 0x44, 0x2D, 0x56, 0x31] := by
  decide

/-- Every digest of the firmware is a SHA-256 digest. -/
theorem takesDigests : TakesDigests where
  buffer _ within := Firmware.sha256_eq_digest within
  profile config canonical present := by
    have form : canonical = config.canonicalForm := by
      unfold Firmware.ConfigV2.canonicalBytes? at present
      split at present
      · exact (Option.some.inj present).symm
      · cases present
    have within : canonical.length < 65536 := by
      rw [form, length_canonicalForm]
      decide
    unfold Firmware.ConfigV2.rehash
    rw [present]
    exact Firmware.sha256_eq_digest within
  device dieRecord := by
    rw [deviceDomain, ← Firmware.sha256_eq_digest (by simp)]
    rfl
  boot deviceId hostNonce := by
    rw [bootDomain, ← Firmware.sha256_eq_digest (by simp)]
    rfl
  capture bootId requestId captureSequence := by
    rw [← Firmware.sha256_eq_digest (by simp)]
    rfl

/-- A message of 56 bytes, whose padding takes a block of its own. -/
theorem takesDigests_twoBlocks :
    Firmware.sha256 (List.replicate 56 0x61) =
      Sha256.digest (List.replicate 56 0x61) :=
  takesDigests.buffer _ (by decide)

end Usac.Link
