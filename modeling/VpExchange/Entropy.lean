import VpExchange.Crypto.P256

set_option autoImplicit false

namespace VpExchange

structure Entropy where
  rest : Bytes
  drawn : Nat
deriving DecidableEq, Repr

namespace Entropy

def ofBytes (bs : Bytes) : Entropy := ⟨bs, 0⟩

def peek (e : Entropy) (count : Nat) : Bytes := (e.rest ++ List.replicate count 1).take count

def skip (e : Entropy) (count : Nat) : Entropy := ⟨e.rest.drop count, e.drawn + count⟩

def draw (e : Entropy) (count : Nat) : Bytes × Entropy := (e.peek count, e.skip count)

@[simp] theorem length_peek (e : Entropy) (count : Nat) : (e.peek count).length = count := by
  simp [peek]

def onesScalar : P256.Scalar := ⟨Bytes.toNat (List.replicate 32 1), by decide⟩

def scalarWithin : (blocks : Nat) → Entropy → P256.Scalar × Entropy
  | 0, e => (onesScalar, e.skip 32)
  | blocks + 1, e =>
    match P256.Scalar.ofNat? (Bytes.toNat (e.peek 32)) with
    | some k => (k, e.skip 32)
    | none => scalarWithin blocks (e.skip 32)

/-- A fresh scalar: a block is drawn until one is in range. A block that holds no given byte always
is. -/
def scalar (e : Entropy) : P256.Scalar × Entropy := scalarWithin ((e.rest.length + 31) / 32) e

end Entropy

end VpExchange
