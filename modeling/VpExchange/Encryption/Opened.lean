import VpExchange.Audit.Trace
import VpExchange.Encryption.Basic
import VpExchange.Jose.Token

set_option autoImplicit false

namespace VpExchange

structure Opened where
  requestId : String
  profile : Profile
  keyId : Option String
  payload : Members

namespace Opened

def trace (o : Opened) : Trace :=
  Trace.new "oid4vp.response.decrypt"
    |>.withMetadata "requestId" (.str o.requestId)
    |>.withMetadata "profile" (.str o.profile.name)
    |>.withStep (TraceStep.new "jwe" "response opened"
      |>.withAttribute? "keyId" (o.keyId.map .str)
      |>.withAttribute "payloadMembers" (.strings (o.payload.map (·.1))))

end Opened

namespace Encryption

def checkKeyId (requestId : String) (m : KeyMaterial) (kid : Option String) : Logged Unit :=
  match kid with
  | none => return ()
  | some kid => do
    if kid ≠ m.keyId then
      Logged.warn "direct_post.jwt addressed to unknown key"
        [("request_id", .str requestId), ("kid", .str kid)]
      throw (.invalidRequest ("direct_post.jwt was encrypted to unknown key " ++ kid))

def payloadOf (text : Bytes) : Except Refusal Members :=
  match Json.read text with
  | .ok (.obj payload) => .ok payload
  | .ok _ => .error (.invalidRequest "direct_post.jwt payload must be a JSON object")
  | .error f =>
    .error ((Refusal.invalidRequest "direct_post.jwt payload is not valid JSON").withCause f.chain)

def showKeyId (kid : Option String) : Json := .str (Text.showOption (kid.map Text.quoted))

/-- Opens a token. No key is looked up before the token has been checked as far as that goes without
one. -/
def decrypt (b : Backend) (requestId : String) (profile : Profile) (token : String) :
    Logged Opened := do
  let t ← Token.parse token
  let m ← b.keyMaterial profile
  checkKeyId requestId m t.kid
  let k ← Backend.usable m.scalar
  let text ← t.decrypt k
  let payload ← payloadOf text
  Logged.debug "decrypted direct_post.jwt response"
    [("request_id", .str requestId), ("kid", showKeyId t.kid)]
  return ⟨requestId, profile, t.kid, payload⟩

end Encryption

end VpExchange
