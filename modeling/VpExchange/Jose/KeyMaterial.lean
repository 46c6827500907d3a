import VpExchange.Jose.Jwk

set_option autoImplicit false

namespace VpExchange

structure KeyMaterial where
  keyId : String
  -- Derived from the private key if it is not given.
  publicJwk : Option Jwk
  privateJwk : Jwk
deriving DecidableEq, Repr

namespace KeyMaterial

def fields := Json.Fields.cons (.required "key_id" .string) <|
  .cons (Json.Field.trailingOptional "public_jwk" Jwk.format).hidingNone <|
  .cons (.required "private_jwk" Jwk.format) .nil

def format : Json.Format KeyMaterial :=
  (Json.Format.record fields).transport
    (fun (id, pub, priv, ()) => ⟨id, pub, priv⟩) (fun m => (m.keyId, m.publicJwk, m.privateJwk, ()))

def shown (m : KeyMaterial) : String :=
  Text.showRecord "EncryptionKeyMaterial"
    [("key_id", Text.quoted m.keyId),
      ("public_jwk", Text.showOption (m.publicJwk.map Jwk.shown))] false

def scalar (m : KeyMaterial) : Except Jwk.Error P256.Scalar := m.privateJwk.scalar

def point (m : KeyMaterial) : Except Jwk.Error P256.Point :=
  match m.publicJwk with
  | some j => j.point
  | none => do Jwk.publicPoint (← m.scalar)

end KeyMaterial

end VpExchange
