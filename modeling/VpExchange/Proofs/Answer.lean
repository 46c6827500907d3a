import VpExchange.Answer.Mdoc
import VpExchange.Proofs.Trust

set_option autoImplicit false

namespace VpExchange.Answer

variable {b : Backend}

namespace SdJwt

def presented (c : AnswerCommand SdJwt) (k : SdJwt) (verdict : Option TrustVerdict) : Answer :=
  let payload := payloadFor c.exchange k.credentialId k.format k.compact
  ⟨c.exchange, c.presetId, presentation k verdict payload, payload⟩

theorem result_assemble (b : Backend) (c : AnswerCommand SdJwt) : (assemble b c).result =
    (Encryption.ensure b c.exchange).result >>= fun _ => credential (load b) c >>= fun k =>
      (trustDecision c.policy k.policies).map (presented c k) := by
  simp only [assemble, Logged.result_bind, Logged.result_liftM, result_matchPolicy, Logged.debug,
    Logged.result_write, Logged.result_pure]
  rfl

theorem assemble_eq_ok_iff {c : AnswerCommand SdJwt} {a : Answer} :
    (assemble b c).result = .ok a ↔ (Encryption.ensure b c.exchange).result = .ok () ∧
      ∃ credential, Answer.credential (load b) c = .ok credential ∧
        Satisfied c.policy credential.policies ∧
          a = presented c credential (verdictOf c.policy) := by
  simp only [result_assemble, bind_eq_ok_iff, map_eq_ok_iff, trustDecision_eq_ok_iff]
  constructor
  · rintro ⟨⟨⟩, ensured, credential, source, -, ⟨satisfied, rfl⟩, rfl⟩
    exact ⟨ensured, credential, source, satisfied, rfl⟩
  · rintro ⟨ensured, credential, source, satisfied, rfl⟩
    exact ⟨(), ensured, credential, source, _, ⟨satisfied, rfl⟩, rfl⟩

theorem answer_eq_ok_iff {c : AnswerCommand SdJwt} {t : Traced Answer} :
    (answer b c).result = .ok t ↔
      ∃ a, (assemble b c).result = .ok a ∧ Traced.of c.verbose trace a = t :=
  Logged.result_map_eq_ok_iff

end SdJwt

namespace Mdoc

def presented (c : AnswerCommand Mdoc) (k : Mdoc) (claims : List ClaimEvaluation) (bytes : Bytes)
    (verdict : Option TrustVerdict) : Document :=
  let payload := payloadFor c.exchange k.credentialId k.format k.deviceResponse
  let digest := Sha256.hex bytes
  ⟨⟨c.exchange, c.presetId, presentation k verdict payload digest, payload⟩, k.docType, digest, claims⟩

theorem result_assemble (b : Backend) (trust : TrustIndex) (c : AnswerCommand Mdoc)
    (pointers : List String) : (assemble b trust c pointers).result =
      (Encryption.ensure b c.exchange).result >>= fun _ => credential (load b) c >>= fun k =>
        (Claims.evaluate k.claims pointers).result >>= fun claims => deviceResponse k >>= fun bytes =>
          (trust.evaluate c.policy k.policies).result.map (presented c k claims bytes) := by
  simp only [assemble, Logged.result_bind, Logged.result_liftM, Logged.debug, Logged.result_write,
    Logged.result_pure]
  rfl

theorem deviceResponse_eq_ok_iff {c : Mdoc} {bs : Bytes} :
    deviceResponse c = .ok bs ↔ Base64.decodeLenient? c.deviceResponse = some bs := by
  rw [deviceResponse, Refusal.ofChain_eq_ok_iff, Base64.decodeValue]
  cases Base64.decodeLenient? c.deviceResponse with
  | none => exact ⟨nofun, nofun⟩
  | some bytes => rw [Except.ok.injEq, Option.some.injEq]

theorem assemble_eq_ok_iff {trust : TrustIndex} {c : AnswerCommand Mdoc} {pointers : List String}
    {d : Document} :
    (assemble b trust c pointers).result = .ok d ↔
      (Encryption.ensure b c.exchange).result = .ok () ∧
        ∃ credential claims bytes, Answer.credential (load b) c = .ok credential ∧
          (Claims.evaluate credential.claims pointers).result = .ok claims ∧
          Base64.decodeLenient? credential.deviceResponse = some bytes ∧
          Satisfied c.policy credential.policies ∧
            d = presented c credential claims bytes ((verdictOf c.policy).map trust.labelled) := by
  simp only [result_assemble, bind_eq_ok_iff, map_eq_ok_iff, deviceResponse_eq_ok_iff,
    TrustIndex.evaluate_eq_ok_iff]
  constructor
  · rintro ⟨⟨⟩, ensured, credential, source, claims, present, bytes, decoded, -, ⟨satisfied, rfl⟩, rfl⟩
    exact ⟨ensured, credential, claims, bytes, source, present, decoded, satisfied, rfl⟩
  · rintro ⟨ensured, credential, claims, bytes, source, present, decoded, satisfied, rfl⟩
    exact ⟨(), ensured, credential, source, claims, present, bytes, decoded, _, ⟨satisfied, rfl⟩, rfl⟩

theorem answer_eq_ok_iff {trust : TrustIndex} {c : AnswerCommand Mdoc} {pointers : List String}
    {t : Traced Document} :
    (answer b trust c pointers).result = .ok t ↔
      ∃ d, (assemble b trust c pointers).result = .ok d ∧ Traced.of c.verbose trace d = t :=
  Logged.result_map_eq_ok_iff

end Mdoc

end VpExchange.Answer
