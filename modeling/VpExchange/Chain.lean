import VpExchange.Bytes.Base64
import VpExchange.Json.Reader
import VpExchange.Url.Host

set_option autoImplicit false

namespace VpExchange

abbrev Chain := List String

def Base64.chain : Chain := ["base64"]

def Json.Fault.chain : Json.Fault → Chain
  | .mismatch => ["json:data"]
  | .malformed => ["json:syntax"]
  | .truncated => ["json:eof"]

def UrlError.chain (e : UrlError) : Chain := [e.message]

def Base64.decodeSegment (s : String) : Except Chain Bytes :=
  match Base64.decode? s with
  | some bs => .ok bs
  | none => .error ("segment is not valid base64url" :: Base64.chain)

def Base64.decodeValue (s : String) : Except Chain Bytes :=
  match Base64.decodeLenient? s with
  | some bs => .ok bs
  | none => .error ("value is neither base64url nor base64" :: Base64.chain)

end VpExchange
