import VpExchange.Presentation

set_option autoImplicit false

namespace VpExchange

structure SdJwt where
  credentialId : String
  format : String
  issuerJwt : String
  disclosures : List String
  disclosureHashes : Option (List String)
  keyBindingJwt : Option String
  policies : List String
deriving DecidableEq, Repr

namespace SdJwt

def fields := Json.Fields.cons (.required "credentialId" .string) <|
  .cons (.defaulted "format" .string Presentation.sdJwtFormat) <|
  .cons (.required "issuerSignedJwt" .string) <|
  .cons (.defaulted "disclosures" (.list .string) []) <|
  .cons (.trailingOptional "disclosureHashes" (.list .string)) <|
  .cons (.trailingOptional "keyBindingJwt" .string) <|
  .cons (.defaulted "trustedAuthorityPolicies" (.list .string) []) .nil

def jsonFormat : Json.Format SdJwt :=
  (Json.Format.record fields).transport
    (fun (id, f, jwt, ds, hs, kb, policies, ()) => ⟨id, f, jwt, ds, hs, kb, policies⟩)
    (fun c => (c.credentialId, c.format, c.issuerJwt, c.disclosures, c.disclosureHashes,
      c.keyBindingJwt, c.policies, ()))

def segments (c : SdJwt) : List String :=
  c.issuerJwt :: (c.disclosures ++ [c.keyBindingJwt.getD ""])

def compact (c : SdJwt) : String := String.intercalate "~" c.segments

end SdJwt

structure WalletPreset where
  presetId : String
  credential : SdJwt
deriving DecidableEq, Repr

def WalletPreset.jsonFormat : Json.Format WalletPreset :=
  (Json.Format.named "presetId" SdJwt.jsonFormat).transport
    (fun (id, c) => ⟨id, c⟩) (fun p => (p.presetId, p.credential))

end VpExchange
