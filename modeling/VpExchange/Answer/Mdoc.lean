import VpExchange.Answer.Basic

set_option autoImplicit false

namespace VpExchange.Answer.Mdoc

def load (b : Backend) (id : String) : Except Refusal Mdoc :=
  (loaded "device response" id (b.devicePreset id)).map (·.credential)

structure Document where
  answer : Answer
  docType : String
  digest : String
  claims : List ClaimEvaluation

def deviceResponse (c : Mdoc) : Except Refusal Bytes :=
  Refusal.ofChain .invalidRequest "device response is not valid base64"
    (Base64.decodeValue c.deviceResponse)

def presentation (c : Mdoc) (verdict : Option TrustVerdict) (payload : Members) (digest : String) :
    Presentation where
  credentialId := c.credentialId
  format := c.format
  holderBinding := false
  trustedAuthorityMatch := verdict
  vpToken := .obj payload
  disclosureHashes := [digest]

def assemble (b : Backend) (trust : TrustIndex) (c : AnswerCommand Mdoc) (pointers : List String) :
    Logged Document := do
  Encryption.ensure b c.exchange
  let credential ← credential (load b) c
  let claims ← Claims.evaluate credential.claims pointers
  let bytes ← deviceResponse credential
  Logged.debug "decoded device response"
    [("request_id", .str c.exchange.requestId), ("doc_type", .str credential.docType),
      ("bytes", .int bytes.length)]
  let verdict ← trust.evaluate c.policy credential.policies
  let payload :=
    payloadFor c.exchange credential.credentialId credential.format credential.deviceResponse
  let digest := Sha256.hex bytes
  return ⟨⟨c.exchange, c.presetId, presentation credential verdict payload digest, payload⟩,
    credential.docType, digest, claims⟩

def success (d : Document) : Event :=
  d.answer.exchange.success Telemetry.walletResponded
    |>.field "format" (.str d.answer.presentation.format)
    |>.field "docType" (.str d.docType)
    |>.field "claims" (.int d.claims.length)

def trace (d : Document) : Trace :=
  d.answer.exchange.trace "oid4vp.wallet.simulate.mdoc"
    |>.withStep (TraceStep.new "document" "device response selected"
      |>.withAttribute "credentialId" (.str d.answer.presentation.credentialId)
      |>.withAttribute "docType" (.str d.docType)
      |>.withAttribute "digest" (.str d.digest)
      |>.withAttribute? "presetId" (d.answer.presetId.map .str))
    |>.withStep (TraceStep.new "claims" "requested claims evaluated"
      |>.withAttribute "claims" (.arr (d.claims.map fun e => (ClaimEvaluation.format.toJson e).canonical)))
    |>.withStep (TraceStep.new "trust" "trusted authority evaluated"
      |>.withAttribute? "policy" d.answer.policyAttribute
      |>.withAttribute? "label" (d.answer.presentation.trustedAuthorityMatch.map fun v => .str v.label))
    |>.withStep d.answer.encryptionStep

def answer (b : Backend) (trust : TrustIndex) (c : AnswerCommand Mdoc) (pointers : List String) :
    Reported (Traced Document) :=
  Logged.reported (Traced.of c.verbose trace <$> assemble b trust c pointers)
    (fun t => success t.answer) (failure c.exchange Presentation.mdocFormat)

end VpExchange.Answer.Mdoc
