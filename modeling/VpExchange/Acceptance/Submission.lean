import VpExchange.Acceptance.Evidence
import VpExchange.Encryption.Opened

set_option autoImplicit false

namespace VpExchange

structure AcceptanceCommand where
  requestId : String
  profile : Profile
  responseMode : Option ResponseMode
  storedPresentationId : Option String
  inlinePresentation : Option InlinePresentation
  policy : Option String
  dcql : Option String
  verbose : Bool

def AcceptanceCommand.exchange (c : AcceptanceCommand) : Exchange :=
  ⟨c.requestId, c.profile, c.responseMode.getD c.profile.defaultMode⟩

structure Submission where
  presetId : Option String
  credentialId : String
  format : String
  payload : Members
  disclosures : List String
  keyBindingJwt : Option String
  policies : List String
  decrypted : Bool

namespace Submission

def ofStored (p : StoredPresentation) : Submission :=
  ⟨some p.presentationId, p.credentialId, p.format, p.vpToken, p.disclosures, p.keyBindingJwt,
    p.policies, false⟩

def ofInline (p : InlinePresentation) (payload : Members) (decrypted : Bool) : Submission :=
  ⟨none, p.credentialId, p.format, payload, p.disclosures, p.keyBindingJwt, p.policies, decrypted⟩

def load (b : Backend) (id : String) : Except Refusal Submission := do
  match ← Refusal.ofChain .invalidRequest "unable to load stored presentation" (b.presentation id) with
  | some p => return ofStored p
  | none =>
    throw ((Refusal.invalidRequest ("unknown stored presentation " ++ id)).withViolation
      "storedPresentationId" id)

def notEncrypted : Refusal :=
  (Refusal.invalidRequest "HAIP direct_post.jwt responses must be encrypted")
    |>.withViolation "vpToken" "expected a direct_post.jwt response"

def notPlain (x : Exchange) : Refusal :=
  (Refusal.invalidRequest ("encrypted responses are not accepted for " ++ x.profile.name ++ " with " ++
      x.responseMode.name))
    |>.withViolation "vpToken" "expected a plain vp_token payload"

def receive (b : Backend) (x : Exchange) (p : InlinePresentation) : Logged Submission :=
  match p.vpToken, x.isEncrypted with
  | .plain payload, false => return ofInline p payload false
  | .plain _, true => throw notEncrypted
  | .encrypted _, false => throw (notPlain x)
  | .encrypted token, true => do
    let opened ← Encryption.decrypt b x.requestId x.profile token
    Logged.debug "decrypted direct_post.jwt response"
      [("request_id", .str x.requestId), ("key_id", Encryption.showKeyId opened.keyId)]
    return ofInline p opened.payload true

def notOne : Refusal :=
  (Refusal.invalidRequest
      "exactly one of storedPresentationId and inlineVpToken must be provided")
    |>.withViolation "storedPresentationId" "mutually exclusive with inlineVpToken"

def resolve (b : Backend) (c : AcceptanceCommand) : Logged Submission :=
  match c.storedPresentationId, c.inlinePresentation with
  | some id, none => load b id
  | none, some p => receive b c.exchange p
  | _, _ => throw notOne

def vpToken? (s : Submission) : Option String :=
  ((s.payload.get? "vp_token").bind Json.text?).filter fun t => !Text.isBlankText t

def tokenMissing : Refusal :=
  (Refusal.invalidPresentation "vp_token must be a non-blank string")
    |>.withViolation "vp_token" "missing or blank"

def vpToken (s : Submission) (requestId : String) : Logged String :=
  match s.vpToken? with
  | some t => return t
  | none => do
    Logged.warn "vp_token missing or blank" [("request_id", .str requestId)]
    throw tokenMissing

def description (s : Submission) : Members :=
  ((s.payload.get? "presentation_submission").bind Json.members?).getD []

def presentation (s : Submission) (verdict : Option TrustVerdict) : Presentation where
  credentialId := s.credentialId
  format := s.format
  holderBinding := s.keyBindingJwt.isSome
  trustedAuthorityMatch := verdict
  vpToken := .obj s.payload
  disclosureHashes := Presentation.hashes s.disclosures none

def evidence (s : Submission) (token : String) (verdict : Option TrustVerdict)
    (dcqlPreview : Option String) : Evidence where
  vpTokenHash := Sha256.labelled token
  keyBindingJwtHash := s.keyBindingJwt.map Sha256.labelled
  disclosureHashes := Presentation.hashes s.disclosures none
  trustedAuthority := verdict
  presetId := s.presetId
  dcqlPreview := dcqlPreview
  presentationSubmission := s.description
  decrypted := s.decrypted

end Submission

end VpExchange
