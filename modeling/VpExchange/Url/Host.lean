import VpExchange.Url.Percent
import VpExchange.Url.Domain

set_option autoImplicit false

namespace VpExchange

inductive UrlError where
  | relativeWithoutBase
  | relativeToRootless
  | invalidPort
  | emptyHost
  | invalidDomain
  | invalidDomainCharacter
  | invalidIPv4
  | invalidIPv6
deriving DecidableEq, Repr

def UrlError.message : UrlError → String
  | .relativeWithoutBase => "relative URL without a base"
  | .relativeToRootless => "relative URL with a cannot-be-a-base base"
  | .invalidPort => "invalid port number"
  | .emptyHost => "empty host"
  | .invalidDomain => "invalid international domain name"
  | .invalidDomainCharacter => "invalid domain character"
  | .invalidIPv4 => "invalid IPv4 address"
  | .invalidIPv6 => "invalid IPv6 address"

namespace Url

def numeral? (base : Nat) (cs : List Char) : Option Nat :=
  if cs = [] then none
  else cs.foldlM (fun n c => do
    let d ← Hex.digitValue? c
    if d < base then some (n * base + d) else none) 0

namespace IPv4

def part? : List Char → Option Nat
  | ['0', 'x'] | ['0', 'X'] => some 0
  | '0' :: 'x' :: cs | '0' :: 'X' :: cs => numeral? 16 cs
  | '0' :: c :: cs => numeral? 8 (c :: cs)
  | cs => numeral? 10 cs

-- A host whose last part is a number is an address or nothing.
def isNumeric (host : List Char) : Bool :=
  let isNumber (cs : List Char) := (numeral? 10 cs).isSome || (part? cs).isSome
  match (Text.splitChars (· == '.') host).reverse with
  | [] :: last :: _ => isNumber last
  | last :: _ => isNumber last
  | [] => false

-- The last part fills the bytes that the parts before it leave.
def parse? (host : List Char) : Option Nat := do
  let parts := Text.splitChars (· == '.') host
  let parts := if parts.getLast? = some [] then parts.dropLast else parts
  guard (parts.length ≤ 4)
  let numbers ← parts.mapM part?
  let last ← numbers.getLast?
  let leading := numbers.dropLast
  guard (last < 1 <<< (8 * (4 - leading.length)))
  guard (leading.all (· < 256))
  let high := leading.foldl (fun n d => n * 256 + d) 0
  return high <<< (8 * (4 - leading.length)) + last

def text (address : Nat) : List Char :=
  List.intercalate ['.'] ((Bytes.ofNat 4 address).map fun b => Nat.toDigits 10 b.toNat)

end IPv4

namespace IPv6

def embedded? (cs : List Char) : Option (List Nat) := do
  let parts := Text.splitChars (· == '.') cs
  guard (parts.length = 4)
  let numbers ← parts.mapM fun p => do
    guard (p.head? ≠ some '0' ∨ p = ['0'])
    let n ← numeral? 10 p
    guard (n < 256)
    return n
  match numbers with
  | [a, b, c, d] => return [a * 256 + b, c * 256 + d]
  | _ => none

def pieces? : List (List Char) → Option (List Nat)
  | [] => some []
  | [p] =>
    if p.contains '.' then embedded? p
    else do
      guard (p.length ≤ 4)
      return [← numeral? 16 p]
  | p :: rest => do
    guard (p.length ≤ 4)
    let n ← numeral? 16 p
    return n :: (← pieces? rest)

def splitDouble : List Char → List Char × Option (List Char)
  | ':' :: ':' :: rest => ([], some rest)
  | c :: rest =>
    let (before, after) := splitDouble rest
    (c :: before, after)
  | [] => ([], none)

def parse? (cs : List Char) : Option (List Nat) :=
  let run (cs : List Char) : Option (List Nat) :=
    if cs = [] then some [] else pieces? (Text.splitChars (· == ':') cs)
  match splitDouble cs with
  | (_, none) => do
    let ps ← pieces? (Text.splitChars (· == ':') cs)
    guard (ps.length = 8)
    return ps
  | (before, some after) => do
    guard !(before.contains '.')
    let high ← run before
    let low ← run after
    guard (high.length + low.length ≤ 7)
    return high ++ List.replicate (8 - high.length - low.length) 0 ++ low

def zeros (ps : List Nat) : Nat := (ps.takeWhile (· = 0)).length

def longestZeros (ps : List Nat) : Option (Nat × Nat) :=
  (List.range ps.length).foldl (fun best i =>
    let n := zeros (ps.drop i)
    match best with
    | some (_, m) => if m < n then some (i, n) else best
    | none => if 2 ≤ n then some (i, n) else none) none

def text (ps : List Nat) : List Char :=
  let run (ps : List Nat) := List.intercalate [':'] (ps.map (Nat.toDigits 16))
  match longestZeros ps with
  | some (i, n) => run (ps.take i) ++ [':', ':'] ++ run (ps.drop (i + n))
  | none => run ps

end IPv6

def bracketed? (cs : List Char) : Except UrlError (List Char) :=
  match (if cs.getLast? = some ']' then IPv6.parse? (cs.drop 1).dropLast else none) with
  | some ps => .ok ('[' :: (IPv6.text ps ++ [']']))
  | none => .error .invalidIPv6

def webHost (cs : List Char) : Except UrlError (List Char) :=
  if cs.head? = some '[' then bracketed? cs
  else
    match (Bytes.text? (percentDecode (Bytes.ofText (String.ofList cs)))).bind
        fun s => Domain.toAscii? s.toList with
    | none => .error .invalidDomain
    | some [] => .error .emptyHost
    | some domain =>
      if IPv4.isNumeric domain then
        match IPv4.parse? domain with
        | some address => .ok (IPv4.text address)
        | none => .error .invalidIPv4
      else .ok domain

def plainHost (cs : List Char) : Except UrlError (List Char) :=
  if cs.head? = some '[' then bracketed? cs
  else if cs.any fun c => c.toNat = 0 ||
      ['\t', '\n', '\r', ' ', '#', '/', ':', '<', '>', '?', '@', '[', '\\', ']', '^', '|'].contains c
  then .error .invalidDomainCharacter
  else .ok (percentEncode EncodeSet.controls cs)

end Url

end VpExchange
