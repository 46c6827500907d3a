import VpExchange.Proofs.Crypto.Group
import VpExchange.Proofs.Jose.Token

set_option autoImplicit false

namespace VpExchange

open P256

namespace Jwk

theorem publicPoint_eq_ok_iff {k : Scalar} {q : Point} :
    publicPoint k = .ok q ↔ multiple k generator = .ok q :=
  mapError_eq_ok_iff

end Jwk

namespace KeyMaterial

-- A key without a public part has the point of its scalar.
structure IsPaired (m : KeyMaterial) (d : Scalar) : Prop where
  scalar : m.privateJwk.IsPrivate d
  point : ∀ j, m.publicJwk = some j → ∃ q, j.IsPublic q ∧ multiple d generator = .ok q

theorem IsPaired.scalar_eq {m : KeyMaterial} {d : Scalar} (h : m.IsPaired d) : m.scalar = .ok d :=
  Jwk.scalar_eq_ok_iff.mpr h.scalar

theorem IsPaired.point_eq {m : KeyMaterial} {d : Scalar} (h : m.IsPaired d) :
    ∃ q, m.point = .ok q ∧ multiple d generator = .ok q := by
  rw [KeyMaterial.point]
  cases given : m.publicJwk with
  | none =>
    obtain ⟨q, hq, -⟩ := multiple_generator d
    exact ⟨q, by rw [h.scalar_eq]; exact Jwk.publicPoint_eq_ok_iff.mpr hq, hq⟩
  | some j =>
    obtain ⟨q, isPublic, hq⟩ := h.point j given
    exact ⟨q, Jwk.point_eq_ok_iff.mpr isPublic, hq⟩

end KeyMaterial

namespace Token

def headerFor (keyId : String) (ephemeral : Point) : TokenHeader :=
  ⟨keyAgreement, encryption, some keyId, Jwk.ofPoint ephemeral⟩

def headerBytes (keyId : String) (ephemeral : Point) : Bytes :=
  Bytes.ofText (TokenHeader.format.encode (headerFor keyId ephemeral))

def sealed (keyId : String) (ephemeral : Point) (secret iv text : Bytes) : Token where
  headerSegment := headerSegmentOf keyId ephemeral
  kid := some keyId
  ephemeral := ephemeral
  iv := iv
  text := Gcm.crypt (cipher secret) iv text
  tag := Gcm.tag (cipher secret) iv (Bytes.ofText (headerSegmentOf keyId ephemeral))
    (Gcm.crypt (cipher secret) iv text)

theorem encrypt_eq_ok_iff {keyId : String} {q : Point} {k : Scalar} {iv text : Bytes} {s : String} :
    encrypt keyId q k iv text = .ok s ↔ ∃ ephemeral z, multiple k generator = .ok ephemeral ∧
      multiple k q = .ok z ∧ s = (sealed keyId ephemeral (Bytes.ofNat 32 z.x) iv text).spelling := by
  simp only [encrypt, bind_eq_ok_iff, Refusal.ofChain_eq_ok_iff, mapError_eq_ok_iff,
    Jwk.publicPoint_eq_ok_iff, agree_eq_ok_iff, pure_eq_ok_iff]
  constructor
  · rintro ⟨ephemeral, hE, secret, ⟨z, hz, rfl⟩, rfl⟩
    exact ⟨ephemeral, z, hE, hz, rfl⟩
  · rintro ⟨ephemeral, z, hE, hz, rfl⟩
    exact ⟨ephemeral, hE, _, ⟨z, hz, rfl⟩, rfl⟩

theorem onBlocks_cipher (secret : Bytes) : Gcm.OnBlocks (cipher secret) :=
  fun _ h => Aes.length_encrypt (by simp [ContentKey.ofSecret]) h

theorem spelled_sealed {keyId : String} {ephemeral : Point} {secret iv text : Bytes}
    (hiv : iv.length = 12) :
    Spelled (sealed keyId ephemeral secret iv text).spelling (headerBytes keyId ephemeral)
      (headerFor keyId ephemeral) (sealed keyId ephemeral secret iv text) where
  text := Text.trim_of_not_blank (not_blank_of_mem_compact fun _ => Base64.not_blank_of_mem_encode)
  headerSegment := rfl
  decoded := TokenHeader.decode_encode _
  alg := rfl
  enc := rfl
  kid := rfl
  ephemeral := Jwk.isPublic_ofPoint ephemeral
  iv := hiv
  tag := by
    -- Unfolded first, so that the tag is never computed.
    simp only [sealed]
    exact Gcm.length_tag (onBlocks_cipher secret) hiv _ _

theorem decrypt?_sealed (keyId : String) (ephemeral : Point) (secret : Bytes) {iv : Bytes}
    (hiv : iv.length = 12) (text : Bytes) :
    Gcm.decrypt? (cipher secret) iv (Bytes.ofText (headerSegmentOf keyId ephemeral))
      (sealed keyId ephemeral secret iv text).text (sealed keyId ephemeral secret iv text).tag =
      some text :=
  Gcm.decrypt?_encrypt (onBlocks_cipher secret) hiv _ text

end Token

end VpExchange
