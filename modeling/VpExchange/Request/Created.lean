import VpExchange.Audit.Report
import VpExchange.Request.Plan
import VpExchange.Request.Uri
import VpExchange.Seeds

set_option autoImplicit false

namespace VpExchange

structure CreatedRequest where
  request : AuthorizationRequest
  qr : Option Url

namespace CreatedRequest

def responseUri (config : Config) (mode : ResponseMode) (requestId : String) :
    Except Refusal (Option Url) := do
  if mode.isDirectPost then
    return some (← Refusal.ofChain .invalidRequest "unable to build response_uri"
      (config.responseUri requestId))
  else return none

def ofPlan (config : Config) (c : RequestCommand) (plan : RequestPlan) (d : Seeds.Draw) :
    Logged CreatedRequest := do
  let responseUri ← responseUri config c.responseMode d.requestId
  let request : AuthorizationRequest := {
    requestId := d.requestId
    profile := c.profile
    clientId := plan.clientId
    nonce := d.nonce
    state := d.state
    responseMode := c.responseMode
    presentationDefinition := plan.dcqlQuery
    responseUri := responseUri
    clientMetadata := plan.clientMetadata
    signed := c.signed }
  Logged.debug "created authorization request"
    [("request_id", .str d.requestId), ("response_mode", .str c.responseMode.name)]
  if c.qr then
    let uri ← Refusal.ofChain .invalidRequest "unable to render request QR code"
      (qrUri (request.uri config.authorizationEndpoint))
    return ⟨request, some uri⟩
  else return ⟨request, none⟩

def exchange (r : CreatedRequest) : Exchange :=
  ⟨r.request.requestId, r.request.profile, r.request.responseMode⟩

def trace (r : CreatedRequest) : Trace :=
  r.exchange.trace "oid4vp.request.create"
    |>.withStep (TraceStep.new "client" "client identifier resolved"
      |>.withAttribute "clientId" (.str r.request.clientId)
      |>.withAttribute "signed" (.bool r.request.signed)
      |>.withAttribute "clientMetadata" (.bool r.request.clientMetadata.isSome))
    |>.withStep (TraceStep.new "seeds" "nonce and state generated"
      |>.withAttribute "nonce" (.str r.request.nonce)
      |>.withAttribute "state" (.str r.request.state))
    |>.withStep (TraceStep.new "response" "response delivery selected"
      |>.withAttribute "encryptionRequired" (.bool r.exchange.isEncrypted)
      |>.withAttribute? "responseUri" (r.request.responseUri.map fun u => .str u.text))
    |>.withStep (TraceStep.new "qr" "request URI rendered"
      |>.withAttribute "included" (.bool r.qr.isSome)
      |>.withAttribute? "uri" (r.qr.map fun u => .str u.text))

end CreatedRequest

namespace RequestCommand

def presetIdField (c : RequestCommand) : Json := Json.ofOption .str c.dcqlPresetId

def success (c : RequestCommand) (r : CreatedRequest) : Event :=
  r.exchange.success Telemetry.requestCreated
    |>.field "clientId" (.str r.request.clientId)
    |>.field "signed" (.bool c.signed)
    |>.field "dcqlPresetId" c.presetIdField

def failure (c : RequestCommand) (r : Refusal) : Event :=
  (Event.failure Telemetry.requestCreated r c.profile (some c.responseMode)).field
    "dcqlPresetId" c.presetIdField

def create (config : Config) (b : Backend) (c : RequestCommand) (sources : Seeds.Sources) :
    Reported (Traced CreatedRequest) × Seeds.Sources :=
  match RequestPlan.ofCommand config b c with
  | .error r => (⟨[], .error r, c.failure r⟩, sources)
  | .ok plan =>
    let (d, sources) := Seeds.draw sources
    let created := CreatedRequest.ofPlan config c plan d
    (Logged.reported ((Traced.of c.verbose CreatedRequest.trace) <$> created)
      (fun t => c.success t.answer) c.failure, sources)

end RequestCommand

end VpExchange
