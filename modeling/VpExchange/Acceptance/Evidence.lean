import VpExchange.Presentation
import VpExchange.Text.Preview

set_option autoImplicit false

namespace VpExchange

structure Evidence where
  vpTokenHash : String
  keyBindingJwtHash : Option String
  disclosureHashes : List String
  trustedAuthority : Option TrustVerdict
  presetId : Option String
  dcqlPreview : Option String
  presentationSubmission : Members
  decrypted : Bool

namespace Evidence

def fields := Json.Fields.cons (.required "vpTokenHash" .string) <|
  .cons (.optional "keyBindingJwtHash" .string) <|
  .cons (.required "disclosureHashes" (.list .string)) <|
  .cons (.optional "trustedAuthority" TrustVerdict.format) <|
  .cons (.optional "presetId" .string) <|
  .cons (.optional "dcqlPreview" .string) <|
  .cons (.required "presentationSubmission" .members) <|
  .cons (.required "decrypted" .bool) .nil

def format : Json.Format Evidence :=
  (Json.Format.record fields).transport
    (fun (token, kb, hashes, trust, id, preview, submission, decrypted, ()) =>
      ⟨token, kb, hashes, trust, id, preview, submission, decrypted⟩)
    (fun e => (e.vpTokenHash, e.keyBindingJwtHash, e.disclosureHashes, e.trustedAuthority,
      e.presetId, e.dcqlPreview, e.presentationSubmission, e.decrypted, ()))

def compactText (s : String) : String :=
  match Json.read (Bytes.ofText s) with
  | .ok j => j.text
  | .error _ => s

def previewOf (dcql : String) (limit : Nat) : String := Text.preview (compactText dcql) limit

end Evidence

end VpExchange
