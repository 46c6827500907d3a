import VpExchange.Crypto.Aes
import VpExchange.Crypto.Gcm
import VpExchange.Jose.ContentKey
import VpExchange.Jose.KeyMaterial
import VpExchange.Protocol.Refusal
import VpExchange.Text.Split

/-!
Encrypted tokens in compact form: a header with the sender's ephemeral key, no encrypted key, an
initialisation vector, the encrypted text and its tag, all in base64url between dots. The content key
is agreed on directly (`ECDH-ES`) and used with AES-128 in Galois/counter mode (`A128GCM`); the header
segment is authenticated as it is written.
-/

set_option autoImplicit false

namespace VpExchange

structure TokenHeader where
  alg : String
  enc : String
  kid : Option String
  epk : Jwk
deriving DecidableEq, Repr

namespace TokenHeader

def fields := Json.Fields.cons (.required "alg" .string) <|
  .cons (.required "enc" .string) <|
  .cons (Json.Field.trailingOptional "kid" .string).hidingNone <|
  .cons (.required "epk" Jwk.format) .nil

def format : Json.Format TokenHeader :=
  (Json.Format.record fields).transport
    (fun (alg, enc, kid, epk, ()) => ⟨alg, enc, kid, epk⟩) (fun h => (h.alg, h.enc, h.kid, h.epk, ()))

end TokenHeader

structure Token where
  -- The first segment as it is written.
  headerSegment : String
  kid : Option String
  ephemeral : P256.Point
  iv : Bytes
  text : Bytes
  tag : Bytes

namespace Token

def keyAgreement : String := "ECDH-ES"
def encryption : String := "A128GCM"

def compact (headerSegment : String) (iv text tag : Bytes) : String :=
  headerSegment ++ ".." ++ Base64.encode iv ++ "." ++ Base64.encode text ++ "." ++ Base64.encode tag

def cipher (secret : Bytes) : Gcm.Cipher := Aes.encrypt (ContentKey.ofSecret secret)

def exactSegment (length : Nat) (name segment : String) : Except Refusal Bytes := do
  let bs ← Refusal.ofChain .invalidRequest ("direct_post.jwt " ++ name ++ " is malformed")
    (Base64.decodeSegment segment)
  if bs.length = length then return bs
  else throw (.invalidRequest ("direct_post.jwt " ++ name ++ " must be " ++ toString length ++
    " bytes, found " ++ toString bs.length))

def headerOf (segment : String) : Except Chain TokenHeader := do
  let bs ← Base64.decodeSegment segment
  (TokenHeader.format.decode bs).mapError Json.Fault.chain

def unsupportedAlgorithms (h : TokenHeader) : Refusal :=
  (Refusal.invalidRequest
      ("unsupported direct_post.jwt algorithms alg=" ++ h.alg ++ " enc=" ++ h.enc))
    |>.withViolation "alg" keyAgreement |>.withViolation "enc" encryption

/-- All that can be checked without a key. White space around the token is ignored. -/
def parse (s : String) : Except Refusal Token := do
  match (Text.splitAt '.' (Text.trimChars s.toList)).map String.ofList with
  | [headerSegment, encryptedKey, iv, text, tag] =>
    if encryptedKey ≠ "" then
      throw (.invalidRequest "direct_post.jwt must use direct key agreement (empty encrypted key)")
    let header ← Refusal.ofChain .invalidRequest "direct_post.jwt header is malformed"
      (headerOf headerSegment)
    if header.alg ≠ keyAgreement ∨ header.enc ≠ encryption then
      throw (unsupportedAlgorithms header)
    let ephemeral ← Refusal.ofChain .invalidRequest
      "direct_post.jwt ephemeral key is not a valid P-256 point"
      (header.epk.point.mapError Jwk.Error.chain)
    let iv ← exactSegment 12 "iv" iv
    let tag ← exactSegment 16 "tag" tag
    let text ← Refusal.ofChain .invalidRequest "direct_post.jwt ciphertext is malformed"
      (Base64.decodeSegment text)
    return ⟨headerSegment, header.kid, ephemeral, iv, text, tag⟩
  | segments =>
    throw (.invalidRequest ("direct_post.jwt response must have 5 segments, found " ++
      toString segments.length))

def agree (k : P256.Scalar) (q : P256.Point) : Except Refusal Bytes :=
  Refusal.ofChain .invalidRequest "key agreement failed"
    ((Jwk.sharedSecret k q).mapError fun e =>
      "key agreement produced an invalid point" :: e.chain)

def decrypt (t : Token) (k : P256.Scalar) : Except Refusal Bytes := do
  let secret ← agree k t.ephemeral
  match Gcm.decrypt? (cipher secret) t.iv (Bytes.ofText t.headerSegment) t.text t.tag with
  | some bs => return bs
  | none => throw ((Refusal.invalidRequest "direct_post.jwt could not be decrypted").withCause
      ["AES-GCM authentication failed"])

def headerSegmentOf (keyId : String) (ephemeral : P256.Point) : String :=
  let header : TokenHeader := ⟨keyAgreement, encryption, some keyId, Jwk.ofPoint ephemeral⟩
  Base64.encode (Bytes.ofText (TokenHeader.format.encode header))

def encrypt (keyId : String) (recipient : P256.Point) (k : P256.Scalar) (iv text : Bytes) :
    Except Refusal String := do
  let ephemeral ← Refusal.ofChain .invalidRequest "ephemeral key generation failed"
    ((Jwk.publicPoint k).mapError Jwk.Error.chain)
  let secret ← agree k recipient
  let headerSegment := headerSegmentOf keyId ephemeral
  let (encrypted, tag) := Gcm.encrypt (cipher secret) iv (Bytes.ofText headerSegment) text
  return compact headerSegment iv encrypted tag

end Token

end VpExchange
