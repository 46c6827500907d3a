import VpExchange.Protocol.Profile
import VpExchange.Trust
import VpExchange.Url.Parser

set_option autoImplicit false

namespace VpExchange

def Url.format : Json.Format Url := .spelled (fun s => (Url.parse s).toOption) Url.text

-- A URL that names are appended to: a text gets a slash at its end unless it has one.
def Url.parseBase (s : String) : Except UrlError Url :=
  Url.parse (if s.toList.getLast? = some '/' then s else s ++ "/")

structure Config where
  responseBase : Url
  authorizationEndpoint : Url
  haipClientId : String
  baselineClientId : String
  dcqlPreviewLimit : Nat
  trustSnapshot : TrustSnapshot

namespace Config

def defaultBase : Url :=
  ⟨"https", some ⟨"", "verifier.example.com", none⟩, .segments ["oid4vp", ""], none, none⟩

def defaultEndpoint : Url := ⟨"openid4vp", some ⟨"", "authorize", none⟩, .segments [], none, none⟩

def default : Config where
  responseBase := defaultBase
  authorizationEndpoint := defaultEndpoint
  haipClientId := "haip-simulator"
  baselineClientId := "baseline-simulator"
  dcqlPreviewLimit := 256
  trustSnapshot := ⟨[]⟩

def fields := Json.Fields.cons
    (.defaulted "responseBase" (.spelled (fun s => (Url.parseBase s).toOption) Url.text)
      default.responseBase) <|
  .cons (.defaulted "authorizationEndpoint" Url.format default.authorizationEndpoint) <|
  .cons (.defaulted "haipClientId" .string default.haipClientId) <|
  .cons (.defaulted "baselineClientId" .string default.baselineClientId) <|
  .cons (.defaulted "dcqlPreviewLimit" (.natBelow (1 <<< 64)) default.dcqlPreviewLimit) <|
  .cons (.defaulted "trustSnapshot" TrustSnapshot.format default.trustSnapshot) .nil

def format : Json.Format Config :=
  (Json.Format.record fields).transport
    (fun (base, endpoint, haip, baseline, limit, trust, ()) =>
      ⟨base, endpoint, haip, baseline, limit, trust⟩)
    (fun c => (c.responseBase, c.authorizationEndpoint, c.haipClientId, c.baselineClientId,
      c.dcqlPreviewLimit, c.trustSnapshot, ()))

def ofText (s : String) : Except Chain Config :=
  match format.decodeText s with
  | .ok c => .ok c
  | .error f => .error ("invalid simulator configuration" :: f.chain)

def clientId (c : Config) : Profile → String
  | .haip => c.haipClientId
  | .baseline => c.baselineClientId

def responseUri (c : Config) (requestId : String) : Except Chain Url :=
  match c.responseBase.join ("response/" ++ requestId) with
  | .ok u => .ok u
  | .error e => .error ("unable to build response_uri" :: e.chain)

def trustIndex (c : Config) : TrustIndex := .ofSnapshot c.trustSnapshot

end Config

end VpExchange
