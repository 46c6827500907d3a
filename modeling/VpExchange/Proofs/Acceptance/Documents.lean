import VpExchange.Proofs.Acceptance.Decision
import VpExchange.Proofs.Answer
import VpExchange.Proofs.Text

set_option autoImplicit false

namespace VpExchange

theorem Base64.decodeLenient?_of_blank {s : String} (h : Text.isBlankText s = true) :
    decodeLenient? s = some [] := by
  rw [decodeLenient?, Text.trimChars_of_blank (List.all_eq_true.mp h)]
  rfl

def Mdoc.sent (credential : Mdoc) (payload : Members) : InlinePresentation where
  credentialId := credential.credentialId
  format := credential.format
  vpToken := .plain payload
  disclosures := []
  keyBindingJwt := none
  policies := credential.policies

/-- A command to check what a wallet has answered with a document: the payload in the open, under the
profile, the mode and the policy of the wallet's command. -/
structure AcceptanceCommand.Receives (v : AcceptanceCommand) (c : AnswerCommand Mdoc) (credential : Mdoc)
    (payload : Members) : Prop where
  profile : v.profile = c.exchange.profile
  responseMode : v.responseMode.getD v.profile.defaultMode = c.exchange.responseMode
  policy : v.policy = c.policy
  alone : v.storedPresentationId = none
  given : v.inlinePresentation = some (credential.sent payload)

section Received

variable {config : Config} {b : Backend} {c : AnswerCommand Mdoc} {v : AcceptanceCommand}
  {credential : Mdoc} {payload : Members}

theorem AcceptanceCommand.Receives.resolve (h : v.Receives c credential payload)
    (inOpen : c.exchange.isEncrypted = false) :
    (Submission.resolve b v).result = .ok (Submission.ofInline (credential.sent payload) payload false) := by
  apply Submission.resolve_eq_ok_iff.mpr
  refine .plain h.alone h.given rfl ?_
  rw [h.responseMode, h.profile, ← Exchange.isEncrypted_iff, inOpen]
  exact Bool.false_ne_true

theorem Acceptance.assemble_of_missing {s : Submission} (resolved : (Submission.resolve b v).result = .ok s)
    (satisfied : Satisfied v.policy s.policies) (missing : s.vpToken? = none) :
    (assemble config b v).result = .error Submission.tokenMissing := by
  have evaluated := (TrustIndex.evaluate_eq_ok_iff (i := config.trustIndex)).mpr ⟨satisfied, rfl⟩
  rw [assemble, Logged.bind_of_ok resolved, Logged.bind_of_ok evaluated, Submission.vpToken, missing]
  rfl

theorem check_received (received : v.Receives c credential payload)
    (inOpen : c.exchange.isEncrypted = false) (satisfied : Satisfied c.policy credential.policies)
    {token : String}
    (found : (Submission.ofInline (credential.sent payload) payload false).vpToken? = some token) :
    ∃ a, (v.check config b).result = .ok a ∧ a.answer.presentation.vpToken = .obj payload ∧
      a.answer.presentation.trustedAuthorityMatch =
        (verdictOf c.policy).map config.trustIndex.labelled := by
  rw [← received.policy] at satisfied ⊢
  have assembled := (@Acceptance.assemble_eq_ok_iff config b v _).mpr
    ⟨_, token, received.resolve inOpen, satisfied, found, rfl⟩
  exact ⟨_, Acceptance.result_check_eq_ok_iff.mpr ⟨_, assembled, rfl⟩, rfl, rfl⟩

theorem check_received_missing (received : v.Receives c credential payload)
    (inOpen : c.exchange.isEncrypted = false) (satisfied : Satisfied c.policy credential.policies)
    (missing : (Submission.ofInline (credential.sent payload) payload false).vpToken? = none) :
    (v.check config b).result = .error Submission.tokenMissing := by
  rw [← received.policy] at satisfied
  have refused :=
    @Acceptance.assemble_of_missing config b v _ (received.resolve inOpen) satisfied missing
  show (Acceptance.assemble config b v >>= fun a => pure (Traced.of _ _ a)).result = _
  rw [Logged.bind_of_error refused]

end Received

/-- An answer with a document that is sent in the open is accepted as it is, under the wallet's own
verdict, if the device response is not blank, and is refused for its token if it is. -/
theorem check_of_document {config : Config} {b : Backend} {c : AnswerCommand Mdoc} {pointers : List String}
    {t : Traced Answer.Mdoc.Document}
    (answered : (Answer.Mdoc.answer b config.trustIndex c pointers).result = .ok t)
    (inOpen : c.exchange.isEncrypted = false) :
    ∃ credential, Answer.credential (Answer.Mdoc.load b) c = .ok credential ∧
      ∀ v : AcceptanceCommand, v.Receives c credential t.answer.answer.payload →
        (Text.isBlankText credential.deviceResponse = false → ∃ a, (v.check config b).result = .ok a ∧
          a.answer.presentation.vpToken = .obj t.answer.answer.payload ∧
          a.answer.presentation.trustedAuthorityMatch =
            t.answer.answer.presentation.trustedAuthorityMatch) ∧
        (Text.isBlankText credential.deviceResponse = true → (v.check config b).result = .error
          ⟨.invalidPresentation, "vp_token must be a non-blank string", [⟨"vp_token", "missing or blank"⟩],
            []⟩) := by
  obtain ⟨d, assembled, rfl⟩ := Answer.Mdoc.answer_eq_ok_iff.mp answered
  obtain ⟨-, credential, claims, bytes, source, -, -, satisfied, rfl⟩ :=
    Answer.Mdoc.assemble_eq_ok_iff.mp assembled
  refine ⟨credential, source, fun v received => ⟨fun notBlank => ?_, fun blank => ?_⟩⟩
  · have given : ¬Text.isBlankText credential.deviceResponse = true := by simp [notBlank]
    exact check_received received inOpen satisfied
      (Submission.vpToken?_responsePayload.trans (if_neg given))
  · exact check_received_missing received inOpen satisfied
      (Submission.vpToken?_responsePayload.trans (if_pos blank))

def sampleDocument (deviceResponse : String) : Mdoc where
  credentialId := "mdl-1"
  format := Presentation.mdocFormat
  docType := "org.iso.18013.5.1.mDL"
  deviceResponse := deviceResponse
  claims := []
  policies := []

def sampleDocumentAnswer (deviceResponse : String) : AnswerCommand Mdoc :=
  ⟨⟨"request-1", .baseline, .directPost⟩, none, some (sampleDocument deviceResponse), none, false⟩

def sampleDocumentCheck (deviceResponse : String) : AcceptanceCommand where
  requestId := "request-1"
  profile := .baseline
  responseMode := none
  storedPresentationId := none
  inlinePresentation := some ((sampleDocument deviceResponse).sent (Answer.payloadFor
    ⟨"request-1", .baseline, .directPost⟩ "mdl-1" Presentation.mdocFormat deviceResponse))
  policy := none
  dcql := none
  verbose := false

theorem receives_sample (deviceResponse : String) : (sampleDocumentCheck deviceResponse).Receives
    (sampleDocumentAnswer deviceResponse) (sampleDocument deviceResponse)
    (Answer.payloadFor ⟨"request-1", .baseline, .directPost⟩ "mdl-1" Presentation.mdocFormat
      deviceResponse) :=
  ⟨rfl, rfl, rfl, rfl, rfl⟩

theorem answer_sampleDocument {deviceResponse : String} {bytes : Bytes}
    (decoded : Base64.decodeLenient? deviceResponse = some bytes) :
    ∃ t, (Answer.Mdoc.answer ⟨Store.empty, Outage.none⟩ Config.default.trustIndex
        (sampleDocumentAnswer deviceResponse) []).result = .ok t ∧
      t.answer.answer.payload = Answer.payloadFor ⟨"request-1", .baseline, .directPost⟩ "mdl-1"
        Presentation.mdocFormat deviceResponse := by
  have satisfied : Satisfied none (sampleDocument deviceResponse).policies := nofun
  exact ⟨_, Answer.Mdoc.answer_eq_ok_iff.mpr ⟨_, Answer.Mdoc.assemble_eq_ok_iff.mpr
    ⟨rfl, sampleDocument deviceResponse, [], bytes, rfl, rfl, decoded, satisfied, rfl⟩, rfl⟩, rfl⟩

theorem check_of_document_sample : ∃ t a,
    (Answer.Mdoc.answer ⟨Store.empty, Outage.none⟩ Config.default.trustIndex
      (sampleDocumentAnswer "oA") []).result = .ok t ∧
    ((sampleDocumentCheck "oA").check Config.default ⟨Store.empty, Outage.none⟩).result = .ok a ∧
    a.answer.presentation.vpToken = .obj t.answer.answer.payload := by
  obtain ⟨t, answered, payload⟩ :=
    answer_sampleDocument (show Base64.decodeLenient? "oA" = some [0xa0] by decide)
  obtain ⟨_, ⟨⟩, checked⟩ := check_of_document answered rfl
  obtain ⟨a, accepted, same, -⟩ :=
    (checked (sampleDocumentCheck "oA") (payload ▸ receives_sample "oA")).1 (by decide)
  exact ⟨t, a, answered, accepted, same⟩

theorem empty_document_refused : ∃ t,
    (Answer.Mdoc.answer ⟨Store.empty, Outage.none⟩ Config.default.trustIndex
      (sampleDocumentAnswer "") []).result = .ok t ∧
    (sampleDocumentCheck "").Receives (sampleDocumentAnswer "") (sampleDocument "")
      t.answer.answer.payload ∧
    ((sampleDocumentCheck "").check Config.default ⟨Store.empty, Outage.none⟩).result = .error
      ⟨.invalidPresentation, "vp_token must be a non-blank string", [⟨"vp_token", "missing or blank"⟩],
        []⟩ := by
  have blank : Text.isBlankText "" = true := by decide
  obtain ⟨t, answered, payload⟩ := answer_sampleDocument (Base64.decodeLenient?_of_blank blank)
  have satisfied : Satisfied none (sampleDocument "").policies := nofun
  have received := receives_sample ""
  exact ⟨t, answered, payload ▸ received, check_received_missing received rfl satisfied
    (Submission.vpToken?_responsePayload.trans (if_pos blank))⟩

end VpExchange
