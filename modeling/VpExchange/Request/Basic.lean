import VpExchange.Config

set_option autoImplicit false

namespace VpExchange

structure DcqlPreset where
  presetId : String
  clientId : Option String
  dcqlQuery : Json
  clientMetadata : Option Json

namespace DcqlPreset

def fields := Json.Fields.cons (.required "presetId" .string) <|
  .cons (.trailingOptional "clientId" .string) <|
  .cons (.required "dcqlQuery" .json) <|
  .cons (.trailingOptional "clientMetadata" .json) .nil

def format : Json.Format DcqlPreset :=
  (Json.Format.record fields).transport
    (fun (id, client, query, metadata, ()) => ⟨id, client, query, metadata⟩)
    (fun p => (p.presetId, p.clientId, p.dcqlQuery, p.clientMetadata, ()))

end DcqlPreset

structure AuthorizationRequest where
  requestId : String
  profile : Profile
  clientId : String
  nonce : String
  state : String
  responseMode : ResponseMode
  presentationDefinition : Json
  responseUri : Option Url
  clientMetadata : Option Json
  signed : Bool

namespace AuthorizationRequest

def fields := Json.Fields.cons (.required "requestId" .string) <|
  .cons (.required "profile" Profile.format) <|
  .cons (.required "clientId" .string) <|
  .cons (.required "nonce" .string) <|
  .cons (.required "state" .string) <|
  .cons (.required "responseMode" ResponseMode.format) <|
  .cons (.required "presentationDefinition" .json) <|
  .cons (Json.Field.trailingOptional "responseUri" Url.format).hidingNone <|
  .cons (Json.Field.trailingOptional "clientMetadata" .json).hidingNone <|
  .cons (.required "signed" .bool) .nil

def format : Json.Format AuthorizationRequest :=
  (Json.Format.record fields).transport
    (fun (id, profile, client, nonce, state, mode, definition, uri, metadata, isSigned, ()) =>
      ⟨id, profile, client, nonce, state, mode, definition, uri, metadata, isSigned⟩)
    (fun r => (r.requestId, r.profile, r.clientId, r.nonce, r.state, r.responseMode,
      r.presentationDefinition, r.responseUri, r.clientMetadata, r.signed, ()))

end AuthorizationRequest

structure RequestQr where
  uri : Url
  text : String

namespace RequestQr

def fields := Json.Fields.cons (.required "uri" Url.format) <|
  .cons (.required "text" .string) .nil

def format : Json.Format RequestQr :=
  (Json.Format.record fields).transport (fun (u, t, ()) => ⟨u, t⟩) (fun q => (q.uri, q.text, ()))

end RequestQr

end VpExchange
