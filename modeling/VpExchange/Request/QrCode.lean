import VpExchange.Bytes.Basic

/-!
What fits into a QR code with medium error correction. A text is cut into stretches, each written in the
mode that takes the fewest bits for its characters; neighbours are joined where one longer stretch is no
longer than both. Texts are ASCII, so the mode for Japanese characters is left out.
-/

set_option autoImplicit false

namespace VpExchange.QrCode

inductive Mode where
  | numeric
  | alphanumeric
  | byte
deriving DecidableEq, Repr

namespace Mode

def ofByte (b : UInt8) : Mode :=
  let n := b.toNat
  if 48 ≤ n ∧ n ≤ 57 then .numeric
  else if (65 ≤ n ∧ n ≤ 90) ∨ n ∈ [0x20, 0x24, 0x25, 0x2a, 0x2b, 0x2d, 0x2e, 0x2f, 0x3a] then
    .alphanumeric
  else .byte

def join : Mode → Mode → Mode
  | .byte, _ | _, .byte => .byte
  | .alphanumeric, _ | _, .alphanumeric => .alphanumeric
  | .numeric, .numeric => .numeric

def dataBits : Mode → (length : Nat) → Nat
  | .numeric, length => (length * 10 + 2) / 3
  | .alphanumeric, length => (length * 11 + 1) / 2
  | .byte, length => length * 8

end Mode

structure Stretch where
  mode : Mode
  length : Nat

-- The largest version of those that write lengths with the same number of bits.
structure Size where
  capacity : Nat
  lengthBits : Mode → Nat

namespace Size

def ninth : Size := ⟨1456, fun | .numeric => 10 | .alphanumeric => 9 | .byte => 8⟩

def twentySixth : Size := ⟨8496, fun | .numeric => 12 | .alphanumeric => 11 | .byte => 16⟩

def fortieth : Size := ⟨18672, fun | .numeric => 14 | .alphanumeric => 13 | .byte => 16⟩

def bits (z : Size) (s : Stretch) : Nat := 4 + z.lengthBits s.mode + s.mode.dataBits s.length

end Size

def stretches : List Mode → List Stretch
  | [] => []
  | m :: ms =>
    match stretches ms with
    | s :: rest => if s.mode = m then ⟨m, s.length + 1⟩ :: rest else ⟨m, 1⟩ :: s :: rest
    | [] => [⟨m, 1⟩]

def joined (z : Size) : Stretch → List Stretch → List Stretch
  | s, [] => [s]
  | s, t :: rest =>
    let both : Stretch := ⟨s.mode.join t.mode, s.length + t.length⟩
    if z.bits both ≤ z.bits s + z.bits t then joined z both rest else s :: joined z t rest

def bits (z : Size) (text : Bytes) : Nat :=
  match stretches (text.map Mode.ofByte) with
  | [] => 0
  | s :: rest => (joined z s rest).foldr (fun t n => z.bits t + n) 0

def fits (text : Bytes) : Bool :=
  [Size.ninth, Size.twentySixth, Size.fortieth].any fun z => bits z text ≤ z.capacity

end VpExchange.QrCode
