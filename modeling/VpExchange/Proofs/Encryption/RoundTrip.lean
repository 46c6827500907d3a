import VpExchange.Proofs.Encryption.Delivery
import VpExchange.Proofs.Json.RoundTrip

set_option autoImplicit false

namespace VpExchange.Encryption

open P256

variable {b : Backend} {profile : Profile} {m : KeyMaterial} {d : Scalar}

theorem envelop_of_paired (key : b.key profile = .ok m) (paired : m.IsPaired d) (payload : Members)
    (e : Entropy) : ∃ ephemeral z iv, iv.length = 12 ∧ multiple d ephemeral = .ok z ∧
      (envelop b profile payload e).1 = .ok (envelopeOf m ephemeral z iv payload) := by
  -- Sender and verifier multiply by each other's scalar, in either order.
  obtain ⟨q, point, hq⟩ := paired.point_eq
  obtain ⟨ephemeral, hE, -⟩ := multiple_generator e.scalar.1
  obtain ⟨z, hk, hd⟩ := multiple_multiple hq hE
  exact ⟨ephemeral, z, e.scalar.2.peek 12, Entropy.length_peek _ _, hd,
    envelop_eq_ok_iff.mpr ⟨m, q, ephemeral, z, key, point, hE, hk, rfl⟩⟩

theorem result_decrypt_envelope (key : b.key profile = .ok m) (paired : m.IsPaired d)
    {ephemeral z : Point} (hz : multiple d ephemeral = .ok z) {iv : Bytes} (hiv : iv.length = 12)
    (payload : Members) (requestId : String) :
    (decrypt b requestId profile (envelopeOf m ephemeral z iv payload).token).result =
      (payloadOf (plaintext payload)).map fun payload =>
        ⟨requestId, profile, some m.keyId, payload⟩ := by
  let t := Token.sealed m.keyId ephemeral (Bytes.ofNat 32 z.x) iv (plaintext payload)
  have shared : Shared b profile t (Bytes.ofNat 32 z.x) := by
    refine ⟨m, d, z, key, ?_, paired.scalar, hz, rfl⟩
    rintro kid ⟨⟩
    rfl
  have reached : (handed b requestId profile (envelopeOf m ephemeral z iv payload).token).result =
      .ok (Bytes.ofNat 32 z.x, t) :=
    handed_eq_ok_iff.mpr ⟨⟨_, _, Token.spelled_sealed hiv⟩, shared⟩
  have unsealed : unsealed (Bytes.ofNat 32 z.x) t = .ok (plaintext payload) :=
    unsealed_eq_ok_iff.mpr (Token.decrypt?_sealed m.keyId ephemeral _ hiv _)
  rw [decrypt_eq_handed, Logged.bind_of_ok reached, result_opened, unsealed]
  rfl

theorem payloadOf_plaintext {payload : Members} (whole : (Json.obj payload).IsWhole)
    (canonical : (Json.obj payload).IsCanonical) :
    payloadOf (plaintext payload) =
      if (Json.obj payload).depth ≤ 127 then .ok payload
      else .error ((Refusal.invalidRequest "direct_post.jwt payload is not valid JSON").withCause
        Json.Fault.malformed.chain) := by
  rw [payloadOf, plaintext, Json.read_text whole canonical, Json.Reader.within, Json.maxDepth]
  split_ifs <;> rfl

/-- A payload of whole numbers that is encrypted to a verifier's key comes back under the id of the key,
or is refused if it nests deeper than is read; no other payload ever comes back in its place. -/
theorem decrypt_encrypt {b : Backend} {m : KeyMaterial} {d : Scalar} (key : b.key .haip = .ok m)
    (paired : m.IsPaired d) {payload : Members} (whole : (Json.obj payload).IsWhole)
    (canonical : (Json.obj payload).IsCanonical) (requestId requestId' : String) (uri : Option Url)
    (e : Entropy) (clock : Clock) :
    ∃ delivery v,
      (encrypt b ⟨requestId, .haip, .directPostJwt⟩ uri payload e clock).1.result = .ok delivery ∧
      delivery.envelope = some v ∧ v.keyId = m.keyId ∧
      ((Json.obj payload).depth ≤ 127 → (decrypt b requestId' .haip v.token).result =
        .ok ⟨requestId', .haip, some m.keyId, payload⟩) ∧
      (127 < (Json.obj payload).depth → ∃ r,
        (decrypt b requestId' .haip v.token).result = .error r ∧ r.code = .invalidRequest) ∧
      ∀ o, (decrypt b requestId' .haip v.token).result = .ok o → o.payload = payload := by
  obtain ⟨ephemeral, z, iv, hiv, hz, enveloped⟩ := envelop_of_paired key paired payload e
  have sent := result_encrypt b ⟨requestId, .haip, .directPostJwt⟩ uri payload e clock
  rw [enveloped] at sent
  have result := result_decrypt_envelope key paired hz hiv payload requestId'
  rw [payloadOf_plaintext whole canonical] at result
  refine ⟨_, _, sent, rfl, rfl, fun shallow => ?_, fun deep => ?_, fun o opened => ?_⟩
  · rw [result, if_pos shallow]
    rfl
  · rw [result, if_neg (Nat.not_le_of_lt deep)]
    exact ⟨_, rfl, rfl⟩
  · rw [result] at opened
    split_ifs at opened with shallow
    · cases opened
      rfl
    · cases opened

def sampleScalar : Scalar := ⟨1, rfl⟩

def sampleKey : KeyMaterial where
  keyId := "key-1"
  publicJwk := some (Jwk.ofPoint generator)
  privateJwk := Jwk.ofScalarText "AAAAAAAAAAAAAAAAAAAAAAAAAAAAAAAAAAAAAAAAAAE"

def sampleBackend : Backend := ⟨Store.empty.putKey .haip sampleKey, Outage.none⟩

def samplePayload : Members :=
  [("claims", .arr [.int (-1), .obj [("limit", .int 18446744073709551615)]]), ("text", .str "\n\"é")]

theorem isPaired_sample : sampleKey.IsPaired sampleScalar where
  scalar := Jwk.scalar_eq_ok_iff.mp (by decide +kernel)
  point := by
    rintro j ⟨⟩
    exact ⟨generator, Jwk.isPublic_ofPoint generator, by decide +kernel⟩

theorem isWhole_sample : (Json.obj samplePayload).IsWhole := by
  simp [samplePayload, Json.IsWhole, Json.MembersWhole, Json.ItemsWhole, Json.Reader.InRange]

theorem isCanonical_sample : (Json.obj samplePayload).IsCanonical := by
  have sorted : samplePayload.Sorted := by decide
  refine ⟨sorted, ?_⟩
  simp [samplePayload, Json.IsCanonical, Json.MembersCanonical, Json.ItemsCanonical, Members.Sorted]

theorem depth_sample_le : (Json.obj samplePayload).depth ≤ 127 := by
  simp [samplePayload, Json.depth, Json.depthMembers, Json.depthItems]

theorem decrypt_encrypt_sample : ∃ delivery v,
    (encrypt sampleBackend ⟨"request-1", .haip, .directPostJwt⟩ none samplePayload (Entropy.ofBytes [])
      ⟨[]⟩).1.result = .ok delivery ∧ delivery.envelope = some v ∧
      (decrypt sampleBackend "request-2" .haip v.token).result =
        .ok ⟨"request-2", .haip, some "key-1", samplePayload⟩ := by
  obtain ⟨delivery, v, sent, envelope, -, shallow, -⟩ := decrypt_encrypt (b := sampleBackend) rfl
    isPaired_sample isWhole_sample isCanonical_sample "request-1" "request-2" none (Entropy.ofBytes [])
    ⟨[]⟩
  exact ⟨delivery, v, sent, envelope, shallow depth_sample_le⟩

end VpExchange.Encryption
