import VpExchange.Acceptance.Submission
import VpExchange.Audit.Report

set_option autoImplicit false

namespace VpExchange

structure Acceptance where
  exchange : Exchange
  presentation : Presentation
  evidence : Evidence

namespace Acceptance

def assemble (config : Config) (b : Backend) (c : AcceptanceCommand) : Logged Acceptance := do
  let s ← Submission.resolve b c
  let verdict ← config.trustIndex.evaluate c.policy s.policies
  let token ← s.vpToken c.requestId
  let preview := c.dcql.map fun q => Evidence.previewOf q config.dcqlPreviewLimit
  return ⟨c.exchange, s.presentation verdict, s.evidence token verdict preview⟩

def success (a : Acceptance) : Event :=
  a.exchange.success Telemetry.responseValidated
    |>.field "credentialId" (.str a.presentation.credentialId)
    |>.field "format" (.str a.presentation.format)
    |>.field "holderBinding" (.bool a.presentation.holderBinding)
    |>.field "decrypted" (.bool a.evidence.decrypted)
    |>.field "trustedAuthority" (Json.ofOption (fun v => .str v.policy) a.evidence.trustedAuthority)

def trace (a : Acceptance) : Trace :=
  a.exchange.trace "oid4vp.response.validate"
    |>.withStep (TraceStep.new "submission" "submission resolved"
      |>.withAttribute "credentialId" (.str a.presentation.credentialId)
      |>.withAttribute "format" (.str a.presentation.format)
      |>.withAttribute "decrypted" (.bool a.evidence.decrypted)
      |>.withAttribute? "presetId" (a.evidence.presetId.map .str))
    |>.withStep (TraceStep.new "trust" "trusted authority evaluated"
      |>.withAttribute? "policy" (a.evidence.trustedAuthority.map fun v => .str v.policy)
      |>.withAttribute? "label" (a.evidence.trustedAuthority.map fun v => .str v.label))
    |>.withStep (TraceStep.new "hashes" "presentation hashed"
      |>.withAttribute "vpTokenHash" (.str a.evidence.vpTokenHash)
      |>.withAttribute? "keyBindingJwtHash" (a.evidence.keyBindingJwtHash.map .str)
      |>.withAttribute "disclosureHashes" (.strings a.evidence.disclosureHashes)
      |>.withAttribute "holderBinding" (.bool a.presentation.holderBinding))
    |>.withStep (TraceStep.new "dcql" "DCQL query previewed"
      |>.withAttribute? "preview" (a.evidence.dcqlPreview.map .str))

end Acceptance

def AcceptanceCommand.check (config : Config) (b : Backend) (c : AcceptanceCommand) :
    Reported (Traced Acceptance) :=
  Logged.reported (Traced.of c.verbose Acceptance.trace <$> Acceptance.assemble config b c)
    (fun t => Acceptance.success t.answer) (c.exchange.failure Telemetry.responseValidated)

end VpExchange
