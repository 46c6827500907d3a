import VpExchange.Url.Basic

set_option autoImplicit false

namespace VpExchange.Url

def isUnreserved (b : UInt8) : Bool :=
  let n := b.toNat
  (48 ≤ n && n ≤ 57) || (65 ≤ n && n ≤ 90) || (97 ≤ n && n ≤ 122) ||
    n == 42 || n == 45 || n == 46 || n == 95

def formByte (b : UInt8) : List Char :=
  if isUnreserved b then [Char.ofNat b.toNat]
  else if b = 32 then ['+']
  else percentByte b

def formEncode (s : String) : List Char := (Bytes.ofText s).flatMap formByte

def formPair (p : String × String) : List Char := formEncode p.1 ++ '=' :: formEncode p.2

def formText (ps : List (String × String)) : List Char :=
  List.intercalate ['&'] (ps.map formPair)

def appendPairs (u : Url) (ps : List (String × String)) : Url :=
  match u.query with
  | none | some "" => { u with query := some (String.ofList (formText ps)) }
  | some q => { u with query := some (String.ofList (q.toList ++ '&' :: formText ps)) }

def formDecode (cs : List Char) : Bytes :=
  percentDecode (Bytes.ofText (String.ofList (cs.map fun c => if c = '+' then ' ' else c)))

-- The names and values of a query as bytes. Empty pieces are passed over, and a piece without `=` is a
-- name with an empty value.
def formPairs (cs : List Char) : List (Bytes × Bytes) :=
  ((Text.splitChars (· == '&') cs).filter (· ≠ [])).map fun piece =>
    (formDecode (piece.takeWhile (· ≠ '=')), formDecode ((piece.dropWhile (· ≠ '=')).drop 1))

end VpExchange.Url
