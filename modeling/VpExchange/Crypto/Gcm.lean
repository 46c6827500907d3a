import VpExchange.Bytes.Basic

set_option autoImplicit false

namespace VpExchange.Gcm

abbrev Cipher := Bytes → Bytes

def counterBlock (iv : Bytes) (n : Nat) : Bytes := iv ++ Bytes.ofNat 4 n

def keyStream (cipher : Cipher) (iv : Bytes) : (count n : Nat) → Bytes
  | 0, _ => []
  | count + 1, n => cipher (counterBlock iv n) ++ keyStream cipher iv count (n + 1)

def crypt (cipher : Cipher) (iv text : Bytes) : Bytes :=
  Bytes.xor text (keyStream cipher iv ((text.length + 15) / 16) 2)

def reduction : Nat := 0xe1 <<< 120

/-- The product of two blocks, most significant bit first, in the field of `2 ^ 128` elements. -/
def mul (x y : Nat) : Nat :=
  ((List.range 128).foldl (fun (z, v) i =>
    let z := if x.testBit (127 - i) then z ^^^ v else z
    (z, if v % 2 = 1 then (v >>> 1) ^^^ reduction else v >>> 1)) (0, y)).1

def absorb (h : Nat) : (blocks : Nat) → Nat → Bytes → Nat
  | 0, y, _ => y
  | blocks + 1, y, bs => absorb h blocks (mul (y ^^^ Bytes.toNat (bs.take 16)) h) (bs.drop 16)

def padded (bs : Bytes) : Bytes := bs ++ List.replicate ((16 - bs.length % 16) % 16) 0

def hash (h : Nat) (aad text : Bytes) : Nat :=
  let bs := padded aad ++ padded text ++ Bytes.ofNat 8 (8 * aad.length) ++
    Bytes.ofNat 8 (8 * text.length)
  absorb h (bs.length / 16) 0 bs

def tag (cipher : Cipher) (iv aad sealedText : Bytes) : Bytes :=
  let h := Bytes.toNat (cipher (List.replicate 16 0))
  Bytes.xor (Bytes.ofNat 16 (hash h aad sealedText)) (cipher (counterBlock iv 1))

def encrypt (cipher : Cipher) (iv aad text : Bytes) : Bytes × Bytes :=
  let sealedText := crypt cipher iv text
  (sealedText, tag cipher iv aad sealedText)

def decrypt? (cipher : Cipher) (iv aad sealedText t : Bytes) : Option Bytes :=
  if tag cipher iv aad sealedText = t then some (crypt cipher iv sealedText) else none

def OnBlocks (cipher : Cipher) : Prop := ∀ block, block.length = 16 → (cipher block).length = 16

variable {cipher : Cipher} {iv : Bytes}

theorem length_counterBlock (hiv : iv.length = 12) (n : Nat) : (counterBlock iv n).length = 16 := by
  simp [counterBlock, hiv]

theorem length_keyStream (h : OnBlocks cipher) (hiv : iv.length = 12) (count n : Nat) :
    (keyStream cipher iv count n).length = 16 * count := by
  induction count generalizing n with
  | zero => rfl
  | succ count ih =>
    rw [keyStream, List.length_append, h _ (length_counterBlock hiv n), ih]
    omega

theorem length_crypt (h : OnBlocks cipher) (hiv : iv.length = 12) (text : Bytes) :
    (crypt cipher iv text).length = text.length := by
  simp only [crypt, Bytes.length_xor, length_keyStream h hiv]
  omega

theorem crypt_crypt (h : OnBlocks cipher) (hiv : iv.length = 12) (text : Bytes) :
    crypt cipher iv (crypt cipher iv text) = text := by
  have hl := length_crypt h hiv text
  rw [crypt, hl]
  exact Bytes.xor_xor (by rw [length_keyStream h hiv]; omega)

theorem length_tag (h : OnBlocks cipher) (hiv : iv.length = 12) (aad sealedText : Bytes) :
    (tag cipher iv aad sealedText).length = 16 := by
  simp [tag, h _ (length_counterBlock hiv 1)]

theorem decrypt?_encrypt (h : OnBlocks cipher) (hiv : iv.length = 12) (aad text : Bytes) :
    decrypt? cipher iv aad (encrypt cipher iv aad text).1 (encrypt cipher iv aad text).2 =
      some text := by
  simp [decrypt?, encrypt, crypt_crypt h hiv]

end VpExchange.Gcm
