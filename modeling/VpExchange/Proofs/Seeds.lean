import Mathlib.Data.String.Basic
import VpExchange.Seeds

set_option autoImplicit false

namespace VpExchange.Seeds

theorem ofDigitChars_padded (n : Nat) : Nat.ofDigitChars 10 (padded n).toList 0 = n := by
  rw [padded, String.toList_ofList, Nat.ofDigitChars_append, Nat.ofDigitChars_replicate_zero,
    Nat.mul_zero, Nat.ofDigitChars_ten_toDigits]

/-- A decimal number of four digits, with zeros in front, or of more. -/
def fourDigits (n : Nat) : String :=
  if n < 10 then "000" ++ toString n
  else if n < 100 then "00" ++ toString n
  else if n < 1000 then "0" ++ toString n
  else toString n

theorem padded_eq_of_length {n zeros : Nat} (h : 4 - (Nat.toDigits 10 n).length = zeros) :
    padded n = String.ofList (List.replicate zeros '0') ++ toString n := by
  subst h
  rw [padded, String.ofList_append]
  rfl

theorem padded_eq (n : Nat) : padded n = fourDigits n := by
  have some : (Nat.toDigits 10 n).length ≠ 0 := by simp
  have one := @Nat.length_toDigits_le_iff 10 n 1 (by decide) (by decide)
  have two := @Nat.length_toDigits_le_iff 10 n 2 (by decide) (by decide)
  have three := @Nat.length_toDigits_le_iff 10 n 3 (by decide) (by decide)
  rw [fourDigits]
  split_ifs with units tens hundreds
  · exact padded_eq_of_length (show 4 - (Nat.toDigits 10 n).length = 3 by omega)
  · exact padded_eq_of_length (show 4 - (Nat.toDigits 10 n).length = 2 by omega)
  · exact padded_eq_of_length (show 4 - (Nat.toDigits 10 n).length = 1 by omega)
  · rw [padded_eq_of_length (show 4 - (Nat.toDigits 10 n).length = 0 by omega)]
    exact String.empty_append

example : fourDigits 7 = "0007" ∧ fourDigits 12345 = "12345" := by decide

theorem fourDigits_injective (kind : String) : Function.Injective fun n => kind ++ fourDigits n := by
  intro n n' same
  have digits : (padded n).toList = (padded n').toList := by
    have chars := congrArg String.toList same
    simp only [← padded_eq, String.toList_append] at chars
    exact List.append_cancel_left chars
  rw [← ofDigitChars_padded n, ← ofDigitChars_padded n', digits]

def Draw.numbered (n : Nat) : Draw :=
  ⟨"req-" ++ fourDigits n, "nonce-" ++ fourDigits n, "state-" ++ fourDigits n⟩

def counted (n : Nat) : Seeds :=
  .counting (UInt64.ofNat n) (UInt64.ofNat n) (UInt64.ofNat n)

theorem start_eq_counted : start = counted 0 := rfl

theorem draw_counted {n : Nat} (room : n + 1 < 2 ^ 64) (e : Entropy) :
    draw (counted n, e) = (Draw.numbered (n + 1), (counted (n + 1), e)) := by
  have next : UInt64.ofNat n + 1 = UInt64.ofNat (n + 1) := (UInt64.ofNat_add n 1).symm
  have value : (UInt64.ofNat (n + 1)).toNat = n + 1 := by
    rw [UInt64.toNat_ofNat', Nat.mod_eq_of_lt room]
  simp only [draw, counted, nextRequestId, nextNonce, nextState, next, value, numbered, padded_eq]
  rfl

end VpExchange.Seeds
