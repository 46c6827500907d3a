import VpExchange.Audit.Log
import VpExchange.Jose.KeyMaterial
import VpExchange.Protocol.Exchange
import VpExchange.Store

set_option autoImplicit false

namespace VpExchange

namespace Backend

def keyMaterial (b : Backend) (profile : Profile) : Except Refusal KeyMaterial :=
  Refusal.ofChain .invalidRequest "verifier encryption key is unavailable" (b.key profile)

def usable {α : Type} (a : Except Jwk.Error α) : Except Refusal α :=
  Refusal.ofChain .invalidRequest "verifier encryption key is unusable" (a.mapError Jwk.Error.chain)

def recipient (b : Backend) (profile : Profile) : Except Refusal (KeyMaterial × P256.Point) := do
  let m ← b.keyMaterial profile
  return (m, ← usable m.point)

end Backend

namespace Encryption

def ensure (b : Backend) (x : Exchange) : Logged Unit := do
  if x.isEncrypted then
    let (m, _) ← b.recipient x.profile
    Logged.debug "encryption enforced for response"
      [("request_id", .str x.requestId), ("key_id", .str m.keyId)]

end Encryption

end VpExchange
