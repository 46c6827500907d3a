import VpExchange.Crypto.Sha256

/-!
Keys derived from a shared secret: one round of the concatenation key derivation function over
SHA-256, whose input states the algorithm, both parties and the length of the key.
-/

set_option autoImplicit false

namespace VpExchange.ContentKey

def lengthPrefixed (bs : Bytes) : Bytes := Bytes.ofNat 4 bs.length ++ bs

def input (secret : Bytes) (algorithm : String) (apu apv : Bytes) (keyBits : Nat) : Bytes :=
  Bytes.ofNat 4 1 ++ secret ++ lengthPrefixed (Bytes.ofText algorithm) ++ lengthPrefixed apu ++
    lengthPrefixed apv ++ Bytes.ofNat 4 keyBits

def derive? (secret : Bytes) (algorithm : String) (apu apv : Bytes) (keyBits : Nat) : Option Bytes :=
  if keyBits = 0 ∨ keyBits % 8 ≠ 0 ∨ 256 < keyBits then none
  else some ((Sha256.digest (input secret algorithm apu apv keyBits)).take (keyBits / 8))

def unsupportedLength (keyBits : Nat) : String := "unsupported key length " ++ toString keyBits

def ofSecret (secret : Bytes) : Bytes :=
  (Sha256.digest (input secret "A128GCM" [] [] 128)).take 16

end VpExchange.ContentKey
