import VpExchange.Chain
import VpExchange.Request.Basic
import VpExchange.Request.QrCode
import VpExchange.Url.Query

set_option autoImplicit false

namespace VpExchange

namespace AuthorizationRequest

def parameters (r : AuthorizationRequest) : List (String × String) :=
  [("client_id", r.clientId), ("response_type", "vp_token"), ("response_mode", r.responseMode.name),
    ("nonce", r.nonce), ("state", r.state), ("dcql_query", r.presentationDefinition.text)] ++
  (r.responseUri.map fun u => ("response_uri", u.text)).toList

def uri (r : AuthorizationRequest) (endpoint : Url) : Url := endpoint.appendPairs r.parameters

end AuthorizationRequest

def qrUri (u : Url) : Except Chain Url :=
  if QrCode.fits (Bytes.ofText u.text) then .ok u else .error ["data too long"]

end VpExchange
