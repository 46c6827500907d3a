import VpExchange.Json.Basic
import VpExchange.Decimal.Shortest
import VpExchange.Bytes.Hex

/-!
JSON text without spaces. Members are printed in their order; a string escapes quotes, backslashes
and the characters below U+0020 and nothing else; a binary64 number has the shortest digits that
read back, positional from `0.00001` up to sixteen whole digits and with an exponent elsewhere.
-/

set_option autoImplicit false

namespace VpExchange.Json

def escape (c : Char) : List Char :=
  if c = '"' then ['\\', '"']
  else if c = '\\' then ['\\', '\\']
  else if c = '\n' then ['\\', 'n']
  else if c = '\r' then ['\\', 'r']
  else if c = '\t' then ['\\', 't']
  else if c.toNat = 8 then ['\\', 'b']
  else if c.toNat = 12 then ['\\', 'f']
  else if c.toNat < 32 then
    ['\\', 'u', '0', '0', Hex.digit (c.toNat / 16), Hex.digit (c.toNat % 16)]
  else [c]

def printString (s : String) : List Char := '"' :: (s.toList.flatMap escape ++ ['"'])

def printInt (n : Int) : List Char :=
  if n < 0 then '-' :: Nat.toDigits 10 n.natAbs else Nat.toDigits 10 n.natAbs

def digitChars (ds : List Nat) : List Char := ds.map Hex.digit

def printScientific (s : Decimal.Scientific) : List Char :=
  let zeros (n : Nat) := List.replicate n '0'
  let ds := digitChars s.digits
  if 0 ≤ s.exponent ∧ s.exponent ≤ 15 then
    let places := s.exponent.toNat + 1
    let whole := ds.take places
    let fraction := ds.drop places
    whole ++ zeros (places - whole.length) ++ '.' :: (if fraction = [] then ['0'] else fraction)
  else if -5 ≤ s.exponent ∧ s.exponent < 0 then
    ['0', '.'] ++ zeros (s.exponent.natAbs - 1) ++ ds
  else
    let fraction := ds.drop 1
    ds.take 1 ++ (if fraction = [] then [] else '.' :: fraction) ++ 'e' ::
      (if s.exponent < 0 then '-' else '+') :: Nat.toDigits 10 s.exponent.natAbs

def printFloat (x : Binary64) : List Char :=
  let magnitude := if x.mantissa = 0 then ['0', '.', '0'] else printScientific (Decimal.shortest x)
  if x.negative then '-' :: magnitude else magnitude

mutual

def print : Json → List Char
  | .null => ['n', 'u', 'l', 'l']
  | .bool true => ['t', 'r', 'u', 'e']
  | .bool false => ['f', 'a', 'l', 's', 'e']
  | .int n => printInt n
  | .float x => printFloat x
  | .str s => printString s
  | .arr [] => ['[', ']']
  | .arr (j :: rest) => '[' :: (print j ++ printItems rest)
  | .obj [] => ['{', '}']
  | .obj ((k, j) :: rest) => '{' :: (printString k ++ ':' :: (print j ++ printMembers rest))

def printItems : List Json → List Char
  | [] => [']']
  | j :: rest => ',' :: (print j ++ printItems rest)

def printMembers : List (String × Json) → List Char
  | [] => ['}']
  | (k, j) :: rest => ',' :: (printString k ++ ':' :: (print j ++ printMembers rest))

end

def text (j : Json) : String := String.ofList (print j)

end VpExchange.Json
