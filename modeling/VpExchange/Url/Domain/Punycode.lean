set_option autoImplicit false

namespace VpExchange.Url.Domain.Punycode

def digitChar (d : Nat) : Char := if d < 26 then Char.ofNat (97 + d) else Char.ofNat (22 + d)

def digitValue? (c : Char) : Option Nat :=
  let n := c.toNat
  if 97 ≤ n ∧ n ≤ 122 then some (n - 97)
  else if 65 ≤ n ∧ n ≤ 90 then some (n - 65)
  else if 48 ≤ n ∧ n ≤ 57 then some (n - 22)
  else none

def threshold (k bias : Nat) : Nat := if k ≤ bias + 1 then 1 else if bias + 26 ≤ k then 26 else k - bias

def adaptLoop (delta k : Nat) : Nat × Nat :=
  if 455 < delta then adaptLoop (delta / 35) (k + 36) else (delta, k)
termination_by delta

def adapt (delta count : Nat) (first : Bool) : Nat :=
  let delta := if first then delta / 700 else delta / 2
  let (delta, k) := adaptLoop (delta + delta / count) 0
  k + 36 * delta / (delta + 38)

theorem threshold_pos (k bias : Nat) : 0 < threshold k bias := by
  unfold threshold; split
  · omega
  · split <;> omega

theorem threshold_le (k bias : Nat) : threshold k bias ≤ 26 := by
  unfold threshold; split
  · omega
  · split <;> omega

def encodeNumber (bias k q : Nat) : List Char :=
  let t := threshold k bias
  if q < t then [digitChar q]
  else digitChar (t + (q - t) % (36 - t)) :: encodeNumber bias (k + 36) ((q - t) / (36 - t))
termination_by q
decreasing_by
  have h := threshold_pos k bias
  exact Nat.lt_of_le_of_lt (Nat.div_le_self _ _) (by omega)

structure State where
  output : List Char
  delta : Nat
  bias : Nat
  handled : Nat

def State.pass (basic m : Nat) (s : State) (c : Char) : State :=
  if c.toNat < m then { s with delta := s.delta + 1 }
  else if c.toNat = m then
    { output := s.output ++ encodeNumber s.bias 36 s.delta
      delta := 0
      bias := adapt s.delta (s.handled + 1) (s.handled = basic)
      handled := s.handled + 1 }
  else s

def encode (cs : List Char) : List Char :=
  let ascii := cs.filter fun c => c.toNat < 128
  let basic := ascii.length
  let points := ((cs.map Char.toNat).filter (128 ≤ ·)).mergeSort.eraseDups
  let start : State := ⟨if basic = 0 then [] else ascii ++ ['-'], 0, 72, basic⟩
  let (s, _) := points.foldl (fun (s, n) m =>
    let s := cs.foldl (State.pass basic m) { s with delta := s.delta + (m - n) * (s.handled + 1) }
    ({ s with delta := s.delta + 1 }, m + 1)) (start, 128)
  s.output

def decodeNumber (bias : Nat) : List Char → (k i w : Nat) → Option (Nat × List Char)
  | [], _, _, _ => none
  | c :: rest, k, i, w => do
    let d ← digitValue? c
    let i := i + d * w
    let t := threshold k bias
    if d < t then return (i, rest) else decodeNumber bias rest (k + 36) i (w * (36 - t))

-- Inserts characters as the numbers say; each takes at least one digit of the text.
def insertions : (fuel : Nat) → List Char → (n i bias : Nat) → List Char → Option (List Char)
  | _, output, _, _, _, [] => some output
  | 0, _, _, _, _, _ => none
  | fuel + 1, output, n, i, bias, text => do
    let (j, rest) ← decodeNumber bias text 36 i 1
    let count := output.length + 1
    let m := n + j / count
    let place := j % count
    guard (m.isValidChar)
    let output := output.take place ++ Char.ofNat m :: output.drop place
    insertions fuel output m (place + 1) (adapt (j - i) count (i = 0)) rest

def decode (cs : List Char) : Option (List Char) :=
  let tail := (cs.reverse.takeWhile (· ≠ '-')).reverse
  if tail.length = cs.length then insertions cs.length [] 128 0 72 cs
  else insertions cs.length (cs.take (cs.length - tail.length - 1)) 128 0 72 tail

end VpExchange.Url.Domain.Punycode
