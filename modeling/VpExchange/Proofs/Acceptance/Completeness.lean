import VpExchange.Proofs.Acceptance.Decision
import VpExchange.Proofs.Answer

set_option autoImplicit false

namespace VpExchange

def Delivery.sent (d : Delivery) (payload : Members) : Sent :=
  match d.envelope with
  | none => .plain payload
  | some v => .encrypted v.token

namespace Submission

variable {b : Backend}

theorem receive_delivered {x : Exchange} {payload : Members} (whole : (Json.obj payload).IsWhole)
    (canonical : (Json.obj payload).IsCanonical) (shallow : (Json.obj payload).depth ≤ 127)
    (paired : x.isEncrypted = true → ∃ m d, b.key x.profile = .ok m ∧ m.IsPaired d)
    (uri : Option Url) (e : Entropy) (clock : Clock) :
    ∃ delivery, (Encryption.encrypt b x uri payload e clock).1.result = .ok delivery ∧
      delivery.isEncrypted = x.isEncrypted ∧
      ∀ p : InlinePresentation, p.vpToken = delivery.sent payload →
        (receive b x p).result = .ok (ofInline p payload x.isEncrypted) := by
  have sent := Encryption.result_encrypt b x uri payload e clock
  -- In the open the payload is sent as it is; in an envelope it is the payload that was encrypted.
  cases encrypted : x.isEncrypted with
  | false =>
    rw [encrypted] at sent
    refine ⟨_, sent, rfl, fun p hp => ?_⟩
    rw [receive, hp, encrypted]
    rfl
  | true =>
    obtain ⟨m, d, key, paired⟩ := paired encrypted
    obtain ⟨ephemeral, z, iv, hiv, hz, enveloped⟩ :=
      Encryption.envelop_of_paired key paired payload e
    rw [encrypted, enveloped] at sent
    refine ⟨_, sent, rfl, fun p hp => ?_⟩
    have opened := Encryption.result_decrypt_envelope key paired hz hiv payload x.requestId
    rw [Encryption.payloadOf_plaintext whole canonical, if_pos shallow] at opened
    rw [receive, hp, encrypted]
    simp only [Delivery.sent, Logged.bind_of_ok opened]
    rfl

theorem vpToken?_ofInline {p : InlinePresentation} {decrypted : Bool} {token : String}
    {description : Json} (h : Text.isBlankText token = false) :
    (ofInline p (responsePayload token description) decrypted).vpToken? = some token := by
  simp only [vpToken?_responsePayload, h, Bool.false_eq_true, if_false]

theorem description_ofInline {p : InlinePresentation} {decrypted : Bool} {token : String}
    {description : Members} :
    (ofInline p (responsePayload token (.obj description)) decrypted).description = description := by
  simp only [Submission.description, ofInline, get?_description, Option.bind_some, Json.members?,
    Option.getD_some]

end Submission

namespace Answer.SdJwt

theorem isWhole_payloadFor (x : Exchange) (credentialId format vpToken : String) :
    (Json.obj (payloadFor x credentialId format vpToken)).IsWhole :=
  isWhole_payload (isWhole_submission x.requestId credentialId format)

theorem isCanonical_payloadFor (x : Exchange) (credentialId format vpToken : String) :
    (Json.obj (payloadFor x credentialId format vpToken)).IsCanonical :=
  isCanonical_payload (isCanonical_submission x.requestId credentialId format)

theorem depth_payloadFor_le (x : Exchange) (credentialId format vpToken : String) :
    (Json.obj (payloadFor x credentialId format vpToken)).depth ≤ 127 :=
  (depth_payload_le (depth_submission_le x.requestId credentialId format)).trans (by decide)

end Answer.SdJwt

def AnswerCommand.acceptance (c : AnswerCommand SdJwt) (credential : SdJwt) (body : Sent)
    (dcql : Option String) (verbose : Bool) : AcceptanceCommand where
  requestId := c.exchange.requestId
  profile := c.exchange.profile
  responseMode := some c.exchange.responseMode
  storedPresentationId := none
  inlinePresentation := some ⟨credential.credentialId, credential.format, body, credential.disclosures,
    credential.keyBindingJwt, credential.policies⟩
  policy := c.policy
  dcql := dcql
  verbose := verbose

/-- What a verifier reports of an answer is what the wallet has put into it. -/
structure Acceptance.Mirrors (r : Acceptance) (x : Exchange) (credential : SdJwt) (a : Answer) : Prop where
  exchange : r.exchange = x
  vpToken : r.presentation.vpToken = a.presentation.vpToken
  holderBinding : r.presentation.holderBinding = a.presentation.holderBinding
  grounds : r.presentation.trustedAuthorityMatch.map TrustVerdict.grounds =
    a.presentation.trustedAuthorityMatch.map TrustVerdict.grounds
  submission : a.payload.get? "presentation_submission" = some (.obj r.evidence.presentationSubmission)
  vpTokenHash : r.evidence.vpTokenHash = Sha256.labelled credential.compact
  keyBindingJwtHash : r.evidence.keyBindingJwtHash = credential.keyBindingJwt.map Sha256.labelled
  disclosureHashes : r.evidence.disclosureHashes = credential.disclosures.map Sha256.labelled
  decrypted : r.evidence.decrypted = x.isEncrypted

/-- An answer with an SD-JWT credential is accepted once it has been sent. -/
theorem check_of_answer {b : Backend} {c : AnswerCommand SdJwt} {t : Traced Answer}
    (answered : (Answer.SdJwt.answer b c).result = .ok t)
    (paired : c.exchange.isEncrypted = true →
      ∃ m d, b.key c.exchange.profile = .ok m ∧ m.IsPaired d)
    (config : Config) (uri : Option Url) (e : Entropy) (clock : Clock) (dcql : Option String)
    (verbose : Bool) :
    ∃ credential delivery accepted,
      Answer.credential (Answer.SdJwt.load b) c = .ok credential ∧
      (Encryption.encrypt b c.exchange uri t.answer.payload e clock).1.result = .ok delivery ∧
      delivery.isEncrypted = c.exchange.isEncrypted ∧
      ((c.acceptance credential (delivery.sent t.answer.payload) dcql verbose).check config b).result =
        .ok accepted ∧
      accepted.answer.Mirrors c.exchange credential t.answer := by
  -- What the wallet has checked, then the way, then what the verifier checks: the same policy on the
  -- same credential, and a token that is never blank.
  obtain ⟨a, assembled, rfl⟩ := Answer.SdJwt.answer_eq_ok_iff.mp answered
  obtain ⟨-, credential, source, satisfied, rfl⟩ := Answer.SdJwt.assemble_eq_ok_iff.mp assembled
  obtain ⟨delivery, sent, encrypted, received⟩ := Submission.receive_delivered
    (Answer.SdJwt.isWhole_payloadFor c.exchange credential.credentialId credential.format credential.compact)
    (Answer.SdJwt.isCanonical_payloadFor _ _ _ _) (Answer.SdJwt.depth_payloadFor_le _ _ _ _) paired uri e
    clock
  have arrived := received (⟨credential.credentialId, credential.format, delivery.sent _,
    credential.disclosures, credential.keyBindingJwt, credential.policies⟩) rfl
  have accepted := (@Acceptance.assemble_eq_ok_iff config b
    (c.acceptance credential (delivery.sent _) dcql verbose) _).mpr
    ⟨_, _, arrived, satisfied, Submission.vpToken?_ofInline credential.compact_not_blank, rfl⟩
  refine ⟨credential, delivery, _, source, sent, encrypted,
    Logged.result_map_eq_ok_iff.mpr ⟨_, accepted, rfl⟩, ?_⟩
  exact {
    exchange := rfl
    vpToken := rfl
    holderBinding := rfl
    grounds := config.trustIndex.grounds_labelled _
    submission := get?_description.trans (congrArg (some ∘ Json.obj) Submission.description_ofInline.symm)
    vpTokenHash := rfl
    keyBindingJwtHash := rfl
    disclosureHashes := rfl
    decrypted := rfl }

def sampleCredential : SdJwt where
  credentialId := "pid-1"
  format := Presentation.sdJwtFormat
  issuerJwt := "issuer.signed.jwt"
  disclosures := ["WyJzYWx0Il0"]
  disclosureHashes := none
  keyBindingJwt := some "key.binding.jwt"
  policies := ["aki:key"]

def sampleAnswer : AnswerCommand SdJwt :=
  ⟨⟨"request-1", .haip, .directPostJwt⟩, none, some sampleCredential, some "aki:key", false⟩

theorem check_of_answer_sample : ∃ t delivery accepted,
    (Answer.SdJwt.answer Encryption.sampleBackend sampleAnswer).result = .ok t ∧
    (Encryption.encrypt Encryption.sampleBackend sampleAnswer.exchange none t.answer.payload
      (Entropy.ofBytes []) ⟨[]⟩).1.result = .ok delivery ∧
    ((sampleAnswer.acceptance sampleCredential (delivery.sent t.answer.payload) none false).check
      Config.default Encryption.sampleBackend).result = .ok accepted ∧
    accepted.answer.presentation.trustedAuthorityMatch.map TrustVerdict.grounds =
      some ("aki", "key", "aki:key") ∧
    accepted.answer.evidence.vpTokenHash =
      "sha-256:04528333104fd2721dffd9196b8af0bf1448e1d74dd3fc9442cd984c773c8a72" ∧
    accepted.answer.evidence.decrypted = true := by
  obtain ⟨q, point, -⟩ := Encryption.isPaired_sample.point_eq
  have ensured := Encryption.ensure_eq_ok_iff (b := Encryption.sampleBackend) (x := sampleAnswer.exchange).mpr
    fun _ => ⟨_, q, rfl, point⟩
  have satisfied : Satisfied sampleAnswer.policy sampleCredential.policies := by
    rintro _ ⟨⟩
    exact List.mem_singleton_self _
  have answered := Answer.SdJwt.answer_eq_ok_iff (b := Encryption.sampleBackend) (c := sampleAnswer).mpr
    ⟨_, Answer.SdJwt.assemble_eq_ok_iff.mpr ⟨ensured, _, rfl, satisfied, rfl⟩, rfl⟩
  obtain ⟨_, delivery, accepted, ⟨⟩, sent, -, checked, mirrors⟩ :=
    check_of_answer answered (fun _ => ⟨_, _, rfl, Encryption.isPaired_sample⟩) Config.default none
      (Entropy.ofBytes []) ⟨[]⟩ none false
  exact ⟨_, delivery, accepted, answered, sent, checked, mirrors.grounds.trans (by decide),
    mirrors.vpTokenHash.trans (by decide +kernel), mirrors.decrypted⟩

end VpExchange
