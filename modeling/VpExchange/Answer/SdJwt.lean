import VpExchange.Answer.Basic

set_option autoImplicit false

namespace VpExchange.Answer.SdJwt

def load (b : Backend) (id : String) : Except Refusal SdJwt :=
  (loaded "wallet" id (b.walletPreset id)).map (·.credential)

def matchPolicy (policy : Option String) (c : SdJwt) : Logged (Option TrustVerdict) :=
  match requestedPolicy policy with
  | none => return none
  | some policy => do
    if c.policies.contains policy then return some (.ofPolicy policy)
    else
      Logged.warn "wallet credential does not carry requested policy" [("policy", .str policy)]
      throw (unsatisfiedPolicy policy)

def presentation (c : SdJwt) (verdict : Option TrustVerdict) (payload : Members) : Presentation where
  credentialId := c.credentialId
  format := c.format
  holderBinding := c.keyBindingJwt.isSome
  trustedAuthorityMatch := verdict
  vpToken := .obj payload
  disclosureHashes := Presentation.hashes c.disclosures c.disclosureHashes

def assemble (b : Backend) (c : AnswerCommand SdJwt) : Logged Answer := do
  Encryption.ensure b c.exchange
  let credential ← credential (load b) c
  let verdict ← matchPolicy c.policy credential
  let payload := payloadFor c.exchange credential.credentialId credential.format credential.compact
  let p := presentation credential verdict payload
  Logged.debug "assembled SD-JWT presentation"
    [("request_id", .str c.exchange.requestId), ("disclosures", .int p.disclosureHashes.length)]
  return ⟨c.exchange, c.presetId, p, payload⟩

def success (a : Answer) : Event :=
  a.exchange.success Telemetry.walletResponded
    |>.field "format" (.str a.presentation.format)
    |>.field "credentialId" (.str a.presentation.credentialId)
    |>.field "holderBinding" (.bool a.presentation.holderBinding)
    |>.field "disclosures" (.int a.presentation.disclosureHashes.length)

def trace (a : Answer) : Trace :=
  a.exchange.trace "oid4vp.wallet.simulate.sd-jwt"
    |>.withStep (TraceStep.new "credential" "credential selected"
      |>.withAttribute "credentialId" (.str a.presentation.credentialId)
      |>.withAttribute "format" (.str a.presentation.format)
      |>.withAttribute? "presetId" (a.presetId.map .str))
    |>.withStep (TraceStep.new "disclosures" "disclosures hashed"
      |>.withAttribute "disclosureHashes" (.strings a.presentation.disclosureHashes)
      |>.withAttribute "holderBinding" (.bool a.presentation.holderBinding))
    |>.withStep (TraceStep.new "trust" "trusted authority matched"
      |>.withAttribute? "policy" a.policyAttribute)
    |>.withStep a.encryptionStep

def answer (b : Backend) (c : AnswerCommand SdJwt) : Reported (Traced Answer) :=
  Logged.reported (Traced.of c.verbose trace <$> assemble b c) (fun t => success t.answer)
    (failure c.exchange Presentation.sdJwtFormat)

end VpExchange.Answer.SdJwt
