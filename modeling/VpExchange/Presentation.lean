import VpExchange.Crypto.Sha256
import VpExchange.Trust

set_option autoImplicit false

namespace VpExchange

def Json.object (ms : List (String × Json)) : Json := .obj (Members.ofList ms)

def Json.strings (ss : List String) : Json := .arr (ss.map .str)

structure Presentation where
  credentialId : String
  format : String
  holderBinding : Bool
  trustedAuthorityMatch : Option TrustVerdict
  vpToken : Json
  disclosureHashes : List String

namespace Presentation

def sdJwtFormat : String := "dc+sd-jwt"

def mdocFormat : String := "mso_mdoc"

def fields := Json.Fields.cons (.required "credentialId" .string) <|
  .cons (.required "format" .string) <|
  .cons (.required "holderBinding" .bool) <|
  .cons (.optional "trustedAuthorityMatch" TrustVerdict.format) <|
  .cons (.required "vpToken" .json) <|
  .cons (.required "disclosureHashes" (.list .string)) .nil

def jsonFormat : Json.Format Presentation :=
  (Json.Format.record fields).transport
    (fun (id, f, binding, verdict, token, hashes, ()) => ⟨id, f, binding, verdict, token, hashes⟩)
    (fun p => (p.credentialId, p.format, p.holderBinding, p.trustedAuthorityMatch, p.vpToken,
      p.disclosureHashes, ()))

-- The hash of each disclosure. Hashes that were computed before are taken as they are if there is one
-- for each.
def hashes (disclosures : List String) (precomputed : Option (List String)) : List String :=
  match precomputed with
  | some hs => if hs.length = disclosures.length then hs else disclosures.map Sha256.labelled
  | none => disclosures.map Sha256.labelled

end Presentation

structure StoredPresentation where
  presentationId : String
  credentialId : String
  format : String
  vpToken : Members
  disclosures : List String
  keyBindingJwt : Option String
  policies : List String

namespace StoredPresentation

def fields := Json.Fields.cons (.required "presentationId" .string) <|
  .cons (.required "credentialId" .string) <|
  .cons (.required "format" .string) <|
  .cons (.required "vpToken" .members) <|
  .cons (.defaulted "disclosures" (.list .string) []) <|
  .cons (.trailingOptional "keyBindingJwt" .string) <|
  .cons (.defaulted "trustedAuthorityPolicies" (.list .string) []) .nil

def jsonFormat : Json.Format StoredPresentation :=
  (Json.Format.record fields).transport
    (fun (pid, id, f, token, ds, kb, policies, ()) => ⟨pid, id, f, token, ds, kb, policies⟩)
    (fun p => (p.presentationId, p.credentialId, p.format, p.vpToken, p.disclosures, p.keyBindingJwt,
      p.policies, ()))

end StoredPresentation

inductive Sent where
  | plain (payload : Members)
  | encrypted (token : String)

namespace Sent

def ofJson : Json → Option Sent
  | .obj ms => some (.plain (Members.ofList (Json.canonicalMembers ms)))
  | .str s => some (.encrypted s)
  | _ => none

def toJson : Sent → Json
  | .plain payload => .obj payload
  | .encrypted token => .str token

def jsonFormat : Json.Format Sent := .buffered ofJson toJson

end Sent

structure InlinePresentation where
  credentialId : String
  format : String
  vpToken : Sent
  disclosures : List String
  keyBindingJwt : Option String
  policies : List String

namespace InlinePresentation

def fields := Json.Fields.cons (.required "credentialId" .string) <|
  .cons (.required "format" .string) <|
  .cons (.required "vpToken" Sent.jsonFormat) <|
  .cons (.defaulted "disclosures" (.list .string) []) <|
  .cons (.trailingOptional "keyBindingJwt" .string) <|
  .cons (.defaulted "trustedAuthorityPolicies" (.list .string) []) .nil

def jsonFormat : Json.Format InlinePresentation :=
  (Json.Format.record fields).transport
    (fun (id, f, token, ds, kb, policies, ()) => ⟨id, f, token, ds, kb, policies⟩)
    (fun p => (p.credentialId, p.format, p.vpToken, p.disclosures, p.keyBindingJwt, p.policies, ()))

end InlinePresentation

def submission (requestId credentialId format : String) : Json :=
  .object [
    ("id", .str ("submission-" ++ requestId)),
    ("definition_id", .str requestId),
    ("descriptor_map", .arr [.object [
      ("id", .str credentialId), ("format", .str format), ("path", .str "$")]])]

def responsePayload (vpToken : String) (submission : Json) : Members :=
  Members.ofList [("vp_token", .str vpToken), ("presentation_submission", submission)]

end VpExchange
