import VpExchange.Jose.ContentKey
import VpExchange.Proofs.Bytes

set_option autoImplicit false

namespace VpExchange.ContentKey

-- Whatever follows it, the length in front says where a part ends.
theorem lengthPrefixed_append_inj {a b rest rest' : Bytes} (ha : a.length < 2 ^ 32)
    (hb : b.length < 2 ^ 32) (same : lengthPrefixed a ++ rest = lengthPrefixed b ++ rest') :
    a = b ∧ rest = rest' := by
  simp only [lengthPrefixed, List.append_assoc] at same
  obtain ⟨lengths, same⟩ := List.append_inj same (by simp)
  exact List.append_inj same (Bytes.ofNat_injective ha hb lengths)

@[ext]
structure Agreement where
  secret : Bytes
  algorithm : String
  apu : Bytes
  apv : Bytes
  keyBits : UInt32

namespace Agreement

def digested (a : Agreement) : Bytes := input a.secret a.algorithm a.apu a.apv a.keyBits.toNat

def key? (a : Agreement) : Option Bytes := derive? a.secret a.algorithm a.apu a.apv a.keyBits.toNat

structure IsMeasured (a : Agreement) : Prop where
  algorithm : (Bytes.ofText a.algorithm).length < 2 ^ 32
  apu : a.apu.length < 2 ^ 32
  apv : a.apv.length < 2 ^ 32

theorem digested_injective {a b : Agreement} (ha : a.IsMeasured) (hb : b.IsMeasured)
    (secrets : a.secret.length = b.secret.length) (same : a.digested = b.digested) : a = b := by
  simp only [digested, input, List.append_assoc] at same
  obtain ⟨-, same⟩ := List.append_inj same rfl
  obtain ⟨secret, same⟩ := List.append_inj same secrets
  obtain ⟨algorithm, same⟩ := lengthPrefixed_append_inj ha.algorithm hb.algorithm same
  obtain ⟨apu, same⟩ := lengthPrefixed_append_inj ha.apu hb.apu same
  obtain ⟨apv, same⟩ := lengthPrefixed_append_inj ha.apv hb.apv same
  have keyBits := Bytes.ofNat_injective a.keyBits.toNat_lt b.keyBits.toNat_lt same
  exact Agreement.ext secret (Bytes.ofText_injective algorithm) apu apv (UInt32.toNat_inj.mp keyBits)

theorem key?_eq_some_iff {a : Agreement} {key : Bytes} : a.key? = some key ↔
    (0 < a.keyBits.toNat ∧ 8 ∣ a.keyBits.toNat ∧ a.keyBits.toNat ≤ 256) ∧
      key = (Sha256.digest a.digested).take (a.keyBits.toNat / 8) := by
  rw [key?, derive?]
  split_ifs with unsupported
  · simp only [false_iff, not_and]
    omega
  · rw [Option.some.injEq, eq_comm]
    exact (and_iff_right (by omega)).symm

/-- There is a key for every whole number of bytes from one to thirty-two, the front of the digest, and for no
other length; and what is digested comes of one agreement alone, among those on secrets of one length. -/
theorem key_of_agreement (a : Agreement) :
    ((∃ key, a.key? = some key) ↔
      0 < a.keyBits.toNat ∧ 8 ∣ a.keyBits.toNat ∧ a.keyBits.toNat ≤ 256) ∧
    (∀ key, a.key? = some key →
      key.length = a.keyBits.toNat / 8 ∧ key <+: Sha256.digest a.digested) ∧
    ∀ b : Agreement, a.IsMeasured → b.IsMeasured → a.secret.length = b.secret.length →
      a.digested = b.digested → a = b := by
  refine ⟨?_, fun key derived => ?_, fun b => digested_injective⟩
  · simp only [key?_eq_some_iff, exists_and_left, exists_eq, and_true]
  · obtain ⟨⟨-, -, within⟩, rfl⟩ := key?_eq_some_iff.mp derived
    refine ⟨?_, List.take_prefix _ _⟩
    rw [List.length_take, Sha256.length_digest]
    omega

-- The secret of the example in RFC 7518, Appendix C.
def sample (apu apv : Bytes) : Agreement where
  secret := [0x9e, 0x56, 0xd9, 0x1d, 0x81, 0x71, 0x35, 0xd3, 0x72, 0x83, 0x42, 0x83, 0xbf, 0x84, 0x26, 0x9c,
    0xfb, 0x31, 0x6e, 0xa3, 0xda, 0x80, 0x6a, 0x48, 0xf6, 0xda, 0xa7, 0x79, 0x8c, 0xfe, 0x90, 0xc4]
  algorithm := "A128GCM"
  apu := apu
  apv := apv
  keyBits := 128

theorem isMeasured_sample {apu apv : Bytes} (hu : apu.length < 2 ^ 32) (hv : apv.length < 2 ^ 32) :
    (sample apu apv).IsMeasured :=
  ⟨(by decide : (Bytes.ofText "A128GCM").length < 2 ^ 32), hu, hv⟩

theorem key_of_agreement_sample :
    (∃ key, (sample (Bytes.ofText "Alice") (Bytes.ofText "Bob")).key? = some key ∧ key.length = 16) ∧
    sample (Bytes.ofText "Alice") (Bytes.ofText "Bob") =
      sample [65, 108, 105, 99, 101] [66, 111, 98] ∧
    (sample (Bytes.ofText "Alice") (Bytes.ofText "Bob")).digested ≠
      (sample (Bytes.ofText "AliceB") (Bytes.ofText "ob")).digested := by
  have measured : (sample (Bytes.ofText "Alice") (Bytes.ofText "Bob")).IsMeasured :=
    isMeasured_sample (by decide) (by decide)
  obtain ⟨exists_iff, length, apart⟩ := key_of_agreement (sample (Bytes.ofText "Alice") (Bytes.ofText "Bob"))
  refine ⟨?_, ?_, fun same => ?_⟩
  · obtain ⟨key, derived⟩ := exists_iff.mpr (by decide)
    exact ⟨key, derived, (length key derived).1⟩
  · exact apart (sample [65, 108, 105, 99, 101] [66, 111, 98]) measured
      (isMeasured_sample (by decide) (by decide)) rfl (by decide)
  · have equal := apart (sample (Bytes.ofText "AliceB") (Bytes.ofText "ob")) measured
      (isMeasured_sample (by decide) (by decide)) rfl same
    exact absurd (congrArg apu equal) (by decide)

example : (sample (Bytes.ofText "Alice") (Bytes.ofText "Bob")).key? =
    some [0x56, 0xaa, 0x8d, 0xea, 0xf8, 0x23, 0x6d, 0x20, 0x5c, 0x22, 0x28, 0xcd, 0x71, 0xa7, 0x10, 0x1a] := by
  decide +kernel

end Agreement

end VpExchange.ContentKey
