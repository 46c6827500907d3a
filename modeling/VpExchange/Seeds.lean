import VpExchange.Bytes.Hex
import VpExchange.Entropy

set_option autoImplicit false

namespace VpExchange

inductive Seeds where
  -- Numbered values; how many of each kind there have been, in counters that go around at their end.
  | counting (requestIds nonces states : UInt64)
  | random
  | listed (requestIds nonces states : List String)
deriving Repr

namespace Seeds

def start : Seeds := .counting 0 0 0

def padded (n : Nat) : String :=
  let ds := Nat.toDigits 10 n
  String.ofList (List.replicate (4 - ds.length) '0' ++ ds)

def numbered (kind : String) (n : Nat) : String := kind ++ "-" ++ padded n

-- Sixteen random bytes, least significant first, as a number with the marks of version 4.
def uuidBytes (random : Bytes) : Bytes :=
  random.reverse.zipIdx.map fun (b, i) =>
    if i = 6 then (b &&& 0x0f) ||| 0x40 else if i = 8 then (b &&& 0x3f) ||| 0x80 else b

def uuidPlain (bs : Bytes) : String := Hex.encode bs

def uuidHyphenated (bs : Bytes) : String :=
  String.intercalate "-" [Hex.encode (bs.take 4), Hex.encode ((bs.drop 4).take 2),
    Hex.encode ((bs.drop 6).take 2), Hex.encode ((bs.drop 8).take 2), Hex.encode (bs.drop 10)]

def nextOf : List String → String × List String
  | [] => ("", [])
  | [s] => (s, [s])
  | s :: rest => (s, rest)

abbrev Sources := Seeds × Entropy

def drawUuid (spell : Bytes → String) (s : Sources) : String × Sources :=
  let (bs, e) := s.2.draw 16
  (spell (uuidBytes bs), (s.1, e))

def nextRequestId : Sources → String × Sources
  | (.counting r n s, e) => (numbered "req" (r + 1).toNat, (.counting (r + 1) n s, e))
  | (.random, e) => drawUuid uuidHyphenated (.random, e)
  | (.listed r n s, e) => ((nextOf r).1, (.listed (nextOf r).2 n s, e))

def nextNonce : Sources → String × Sources
  | (.counting r n s, e) => (numbered "nonce" (n + 1).toNat, (.counting r (n + 1) s, e))
  | (.random, e) => drawUuid uuidPlain (.random, e)
  | (.listed r n s, e) => ((nextOf n).1, (.listed r (nextOf n).2 s, e))

def nextState : Sources → String × Sources
  | (.counting r n s, e) => (numbered "state" (s + 1).toNat, (.counting r n (s + 1), e))
  | (.random, e) => drawUuid uuidPlain (.random, e)
  | (.listed r n s, e) => ((nextOf s).1, (.listed r n (nextOf s).2, e))

structure Draw where
  requestId : String
  nonce : String
  state : String
deriving DecidableEq, Repr

def draw (sources : Sources) : Draw × Sources :=
  let (requestId, sources) := nextRequestId sources
  let (nonce, sources) := nextNonce sources
  let (state, sources) := nextState sources
  (⟨requestId, nonce, state⟩, sources)

end Seeds

end VpExchange
