import VpExchange.Bytes.Hex

set_option autoImplicit false

namespace VpExchange.Url

abbrev EncodeSet := List Char

namespace EncodeSet

def controls : EncodeSet := []
def fragment : EncodeSet := [' ', '"', '<', '>', '`']
def query : EncodeSet := [' ', '"', '#', '<', '>']
def specialQuery : EncodeSet := '\'' :: query
def path : EncodeSet := fragment ++ ['#', '?', '{', '}']
def userinfo : EncodeSet := path ++ ['/', ':', ';', '=', '@', '[', '\\', ']', '^', '|']

end EncodeSet

def percentByte (b : UInt8) : List Char :=
  ['%', Hex.upperDigit (b.toNat / 16), Hex.upperDigit (b.toNat % 16)]

def percentChar (set : EncodeSet) (c : Char) : List Char :=
  if c.toNat < 32 ∨ 127 ≤ c.toNat ∨ c ∈ set then (String.utf8EncodeChar c).flatMap percentByte
  else [c]

def percentEncode (set : EncodeSet) (cs : List Char) : List Char := cs.flatMap (percentChar set)

-- The bytes of a text with every `%` and two digits replaced by the byte they spell. A `%` without two
-- digits stands for itself.
def percentDecode : Bytes → Bytes
  | [] => []
  | 37 :: a :: b :: rest =>
    match Hex.digitValue? (Char.ofNat a.toNat), Hex.digitValue? (Char.ofNat b.toNat) with
    | some high, some low => UInt8.ofNat (16 * high + low) :: percentDecode rest
    | _, _ => 37 :: percentDecode (a :: b :: rest)
  | b :: rest => b :: percentDecode rest
termination_by bs => bs.length

end VpExchange.Url
