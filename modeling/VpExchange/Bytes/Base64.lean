import VpExchange.Bytes.Basic
import VpExchange.Text.Blank

set_option autoImplicit false

namespace VpExchange.Base64

structure Alphabet where
  sixtyTwo : Char
  sixtyThree : Char

def Alphabet.url : Alphabet := ⟨'-', '_'⟩

def Alphabet.standard : Alphabet := ⟨'+', '/'⟩

namespace Alphabet

def char (a : Alphabet) (n : Nat) : Char :=
  if n < 26 then Char.ofNat (65 + n)
  else if n < 52 then Char.ofNat (71 + n)
  else if n < 62 then Char.ofNat (n - 4)
  else if n = 62 then a.sixtyTwo
  else a.sixtyThree

def value? (a : Alphabet) (c : Char) : Option Nat :=
  let n := c.toNat
  if 65 ≤ n ∧ n ≤ 90 then some (n - 65)
  else if 97 ≤ n ∧ n ≤ 122 then some (n - 71)
  else if 48 ≤ n ∧ n ≤ 57 then some (n + 4)
  else if c = a.sixtyTwo then some 62
  else if c = a.sixtyThree then some 63
  else none

end Alphabet

def Alphabet.Faithful (a : Alphabet) : Prop := ∀ n < 64, a.value? (a.char n) = some n

theorem Alphabet.faithful_url : Alphabet.url.Faithful := by unfold Faithful; decide

theorem Alphabet.faithful_standard : Alphabet.standard.Faithful := by unfold Faithful; decide

def encodeChars (a : Alphabet) : Bytes → List Char
  | [] => []
  | [x] =>
    let n := x.toNat
    [a.char (n / 4), a.char (n % 4 * 16)]
  | [x, y] =>
    let n := x.toNat * 256 + y.toNat
    [a.char (n / 1024), a.char (n / 16 % 64), a.char (n % 16 * 4)]
  | x :: y :: z :: rest =>
    let n := x.toNat * 65536 + y.toNat * 256 + z.toNat
    a.char (n / 262144) :: a.char (n / 4096 % 64) :: a.char (n / 64 % 64) :: a.char (n % 64) ::
      encodeChars a rest

def decodeChars (a : Alphabet) : List Char → Option Bytes
  | [] => some []
  | [_] => none
  | [c, d] => do
    let i ← a.value? c
    let j ← a.value? d
    guard (j % 16 = 0)
    return [UInt8.ofNat (i * 4 + j / 16)]
  | [c, d, e] => do
    let i ← a.value? c
    let j ← a.value? d
    let k ← a.value? e
    guard (k % 4 = 0)
    let n := i * 1024 + j * 16 + k / 4
    return [UInt8.ofNat (n / 256), UInt8.ofNat (n % 256)]
  | c :: d :: e :: f :: rest => do
    let i ← a.value? c
    let j ← a.value? d
    let k ← a.value? e
    let l ← a.value? f
    let bs ← decodeChars a rest
    let n := i * 262144 + j * 4096 + k * 64 + l
    return UInt8.ofNat (n / 65536) :: UInt8.ofNat (n / 256 % 256) :: UInt8.ofNat (n % 256) :: bs

def paddingLength (length : Nat) : Nat := (4 - length % 4) % 4

def stripPadding (cs : List Char) : List Char := Text.dropEndWhile (· == '=') cs

def decodePadded (a : Alphabet) (cs : List Char) : Option Bytes := do
  let body := stripPadding cs
  let bs ← decodeChars a body
  guard (cs.length = body.length + paddingLength body.length)
  return bs

def encode (bs : Bytes) : String := String.ofList (encodeChars .url bs)

def decode? (s : String) : Option Bytes := decodeChars .url s.toList

/-- White space around the text is ignored; then the URL-safe reading without any padding wins
over the standard alphabet with exact padding, and that over the standard alphabet without. -/
def decodeLenient? (s : String) : Option Bytes :=
  let cs := Text.trimChars s.toList
  decodeChars .url (stripPadding cs) <|> decodePadded .standard cs <|> decodeChars .standard cs

theorem ofNat_eq {b : UInt8} {n : Nat} (h : n = b.toNat) : UInt8.ofNat n = b := by
  rw [h, UInt8.ofNat_toNat]

theorem guard_of {p : Prop} [Decidable p] (h : p) : (guard p : Option Unit) = some () := if_pos h

theorem decodeChars_two (a : Alphabet) (c d : Char) :
    decodeChars a [c, d] = (a.value? c).bind fun i => (a.value? d).bind fun j =>
      (guard (j % 16 = 0) : Option Unit).bind fun _ => some [UInt8.ofNat (i * 4 + j / 16)] := rfl

theorem decodeChars_three (a : Alphabet) (c d e : Char) :
    decodeChars a [c, d, e] = (a.value? c).bind fun i => (a.value? d).bind fun j =>
      (a.value? e).bind fun k => (guard (k % 4 = 0) : Option Unit).bind fun _ =>
        let n := i * 1024 + j * 16 + k / 4
        some [UInt8.ofNat (n / 256), UInt8.ofNat (n % 256)] := rfl

theorem decodeChars_four (a : Alphabet) (c d e f : Char) (rest : List Char) :
    decodeChars a (c :: d :: e :: f :: rest) = (a.value? c).bind fun i => (a.value? d).bind fun j =>
      (a.value? e).bind fun k => (a.value? f).bind fun l => (decodeChars a rest).bind fun bs =>
        let n := i * 262144 + j * 4096 + k * 64 + l
        some (UInt8.ofNat (n / 65536) :: UInt8.ofNat (n / 256 % 256) :: UInt8.ofNat (n % 256) :: bs) :=
  rfl

theorem decodeChars_encodeChars {a : Alphabet} (ha : a.Faithful) (bs : Bytes) :
    decodeChars a (encodeChars a bs) = some bs := by
  fun_induction encodeChars a bs with
  | case1 => rfl
  | case2 x n =>
    have hx := x.toNat_lt
    have unused : n % 4 * 16 % 16 = 0 := by omega
    rw [decodeChars_two, ha (n / 4) (by omega), ha (n % 4 * 16) (by omega)]
    rw [Option.bind_some, Option.bind_some, guard_of unused, Option.bind_some, ofNat_eq (b := x) (by omega)]
  | case3 x y n =>
    have hx := x.toNat_lt
    have hy := y.toNat_lt
    have unused : n % 16 * 4 % 4 = 0 := by omega
    rw [decodeChars_three, ha (n / 1024) (by omega), ha (n / 16 % 64) (by omega),
      ha (n % 16 * 4) (by omega)]
    rw [Option.bind_some, Option.bind_some, Option.bind_some, guard_of unused, Option.bind_some]
    show some [UInt8.ofNat _, UInt8.ofNat _] = _
    rw [ofNat_eq (b := x) (by omega), ofNat_eq (b := y) (by omega)]
  | case4 x y z rest n ih =>
    have hx := x.toNat_lt
    have hy := y.toNat_lt
    have hz := z.toNat_lt
    rw [decodeChars_four, ha (n / 262144) (by omega), ha (n / 4096 % 64) (by omega),
      ha (n / 64 % 64) (by omega), ha (n % 64) (by omega), ih]
    show some (UInt8.ofNat _ :: UInt8.ofNat _ :: UInt8.ofNat _ :: rest) = _
    rw [ofNat_eq (b := x) (by omega), ofNat_eq (b := y) (by omega), ofNat_eq (b := z) (by omega)]

end VpExchange.Base64
