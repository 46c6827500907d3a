import VpExchange.Chain
import VpExchange.Crypto.P256
import VpExchange.Json.Record
import VpExchange.Text.Quoted

set_option autoImplicit false

namespace VpExchange

open P256

structure Jwk where
  kty : String
  crv : String
  x : Option String
  y : Option String
  d : Option String
deriving DecidableEq, Repr

namespace Jwk

def fields := Json.Fields.cons (.required "kty" .string) <|
  .cons (.required "crv" .string) <|
  .cons (Json.Field.optional "x" .string).hidingNone <|
  .cons (Json.Field.optional "y" .string).hidingNone <|
  .cons (Json.Field.optional "d" .string).hidingNone .nil

def format : Json.Format Jwk :=
  (Json.Format.record fields).transport
    (fun (kty, crv, x, y, d, ()) => ⟨kty, crv, x, y, d⟩)
    (fun j => (j.kty, j.crv, j.x, j.y, j.d, ()))

def shown (j : Jwk) : String :=
  Text.showRecord "EcJwk"
    [("kty", Text.quoted j.kty), ("crv", Text.quoted j.crv),
      ("x", Text.showOption (j.x.map Text.quoted)), ("y", Text.showOption (j.y.map Text.quoted)),
      ("d", Text.showOption (j.d.map fun _ => Text.quoted "<redacted>"))] true

def ofScalarText (d : String) : Jwk := ⟨"EC", "P-256", none, none, some d⟩

inductive Error where
  | unsupportedType (kty : String)
  | unsupportedCurve (crv : String)
  | missing (member : String)
  | notBase64 (member : String)
  | wrongLength (member : String) (length : Nat)
  | offCurve
  | outOfRange
  | infinity
deriving DecidableEq, Repr

def Error.chain : Error → Chain
  | .unsupportedType kty => ["unsupported kty " ++ kty]
  | .unsupportedCurve crv => ["unsupported crv " ++ crv]
  | .missing member => ["JWK member `" ++ member ++ "` is missing"]
  | .notBase64 member =>
    ("JWK member `" ++ member ++ "`") :: "segment is not valid base64url" :: Base64.chain
  | .wrongLength member length =>
    ["JWK member `" ++ member ++ "` has " ++ toString length ++ " bytes, expected 32"]
  | .offCurve => ["point is not on the P-256 curve"]
  | .outOfRange => ["JWK member `d` is not a valid P-256 scalar"]
  | .infinity => ["point at infinity"]

def Error.ofPoint : PointError → Error
  | .infinity => .infinity
  | .offCurve => .offCurve

def ensureP256 (j : Jwk) : Except Error Unit := do
  if j.kty ≠ "EC" then throw (.unsupportedType j.kty)
  if j.crv ≠ "P-256" then throw (.unsupportedCurve j.crv)

def number (member : String) (value : Option String) : Except Error Nat :=
  match value with
  | none => .error (.missing member)
  | some s =>
    match Base64.decode? s with
    | none => .error (.notBase64 member)
    | some bs =>
      if bs.length = 32 then .ok (Bytes.toNat bs) else .error (.wrongLength member bs.length)

def pointOf (x y : Nat) : Except Error Point :=
  match Point.ofCoordinates? x y with
  | some q => .ok q
  | none => .error .offCurve

def point (j : Jwk) : Except Error Point := do
  j.ensureP256
  let x ← number "x" j.x
  let y ← number "y" j.y
  pointOf x y

def scalar (j : Jwk) : Except Error Scalar := do
  j.ensureP256
  match Scalar.ofNat? (← number "d" j.d) with
  | some k => return k
  | none => throw .outOfRange

def ofPoint (q : Point) : Jwk :=
  let text (n : Nat) := some (Base64.encode (Bytes.ofNat 32 n))
  ⟨"EC", "P-256", text q.x, text q.y, none⟩

def publicPoint (k : Scalar) : Except Error Point :=
  (P256.multiple k generator).mapError Error.ofPoint

def sharedSecret (k : Scalar) (q : Point) : Except Error Bytes :=
  match P256.multiple k q with
  | .ok r => .ok (Bytes.ofNat 32 r.x)
  | .error e => .error (Error.ofPoint e)

def showScalar (_ : Scalar) : String := "EcPrivateKey(<redacted>)"

def showPoint (q : Point) : String :=
  let hex (n : Nat) := Text.quoted (Hex.encode (Bytes.ofNat 32 n))
  Text.showRecord "EcPoint" [("x", hex q.x), ("y", hex q.y)] true

end Jwk

end VpExchange
