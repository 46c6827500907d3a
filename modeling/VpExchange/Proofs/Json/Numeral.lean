import VpExchange.Json.Printer
import VpExchange.Proofs.Json.Reader
import VpExchange.Proofs.Bytes

set_option autoImplicit false

namespace VpExchange.Json.Reader

open Bytes

/-- What may follow a number: nothing that could be a part of it. -/
def Ends (rest : Bytes) : Prop :=
  ∀ b ∈ rest.head?, isDigit b = false ∧ b ≠ byte '.' ∧ b ≠ byte 'e' ∧ b ≠ byte 'E'

theorem ends_nil : Ends [] := nofun

theorem toDigits_pos {n : Nat} (h : 0 < n) : ∃ d ds, Nat.toDigits 10 n = d :: ds ∧ d ≠ '0' := by
  induction n using Nat.strongRecOn with
  | ind n ih =>
    rw [Nat.toDigits_eq_if (by omega)]
    split_ifs with small
    · have nonzero : ∀ m < 10, 0 < m → m.digitChar ≠ '0' := by decide
      exact ⟨n.digitChar, [], rfl, nonzero n small h⟩
    · obtain ⟨d, ds, eq, nonzero⟩ := ih (n / 10) (by omega) (by omega)
      exact ⟨d, ds ++ [(n % 10).digitChar], by rw [eq]; rfl, nonzero⟩

def digitOf (c : Char) : Nat := c.toNat - 48

theorem decimal_toDigits (n : Nat) : decimal ((Nat.toDigits 10 n).map digitOf) = n := by
  have value := Nat.ofDigitChars_ten_toDigits (n := n)
  rw [Nat.ofDigitChars] at value
  rw [decimal, List.foldl_map]
  simpa [digitOf, Nat.mul_comm] using value

theorem digit_toDigits {n : Nat} {c : Char} (h : c ∈ Nat.toDigits 10 n) : 48 ≤ c.toNat ∧ c.toNat ≤ 57 := by
  have digit := Nat.isDigit_of_mem_toDigits (by omega) (by omega) h
  simpa [Char.isDigit, UInt32.le_iff_toNat_le] using digit

theorem toNat_byte {c : Char} (h : c.toNat < 128) : (byte c).toNat = c.toNat := by
  rw [byte, UInt8.toNat_ofNat']
  omega

theorem isDigit_byte {c : Char} (h : 48 ≤ c.toNat ∧ c.toNat ≤ 57) : isDigit (byte c) = true := by
  have value := toNat_byte (c := c) (by omega)
  simp only [isDigit, Bool.and_eq_true, decide_eq_true_eq, UInt8.le_iff_toNat_le, value]
  exact h

theorem run_digits {cs : List Char} (h : ∀ c ∈ cs, 48 ≤ c.toNat ∧ c.toNat ≤ 57) {rest : Bytes}
    (ends : Ends rest) : digits.run (cs.map byte ++ rest) = .ok (cs.map digitOf, rest) := by
  have all : ∀ b ∈ cs.map byte, isDigit b = true := by
    intro b hb
    obtain ⟨c, hc, rfl⟩ := List.mem_map.mp hb
    exact isDigit_byte (h c hc)
  -- What follows begins with no digit, so exactly the printed digits are taken.
  have stop : rest.takeWhile isDigit = [] ∧ rest.dropWhile isDigit = rest := by
    cases rest with
    | nil => exact ⟨rfl, rfl⟩
    | cons b rest =>
      have no := (ends b rfl).1
      exact ⟨by simp [no], by simp [no]⟩
  have taken : (takeWhile isDigit).run (cs.map byte ++ rest) = .ok (cs.map byte, rest) := by
    show Except.ok (_, _) = _
    rw [List.takeWhile_append_of_pos all, List.dropWhile_append_of_pos all, stop.1, stop.2,
      List.append_nil]
  rw [digits, run_bind_ok taken]
  show Except.ok (_, _) = _
  rw [List.map_map]
  have same : cs.map ((fun b => b.toNat - 48) ∘ byte) = cs.map digitOf :=
    List.map_congr_left fun c hc => by
      rw [Function.comp_apply, toNat_byte (by have := h c hc; omega), digitOf]
  rw [same]

theorem run_wholePart (n : Nat) (atEnd : Fault) {rest : Bytes} (ends : Ends rest) :
    (wholePart atEnd).run ((Nat.toDigits 10 n).map byte ++ rest) =
      .ok ((Nat.toDigits 10 n).map digitOf, rest) := by
  have ds : digits.run ((Nat.toDigits 10 n).map byte ++ rest) =
      .ok ((Nat.toDigits 10 n).map digitOf, rest) := run_digits (fun _ => digit_toDigits) ends
  have some : (someDigits atEnd).run ((Nat.toDigits 10 n).map byte ++ rest) =
      .ok ((Nat.toDigits 10 n).map digitOf, rest) := by
    rw [someDigits, run_bind_ok ds]
    cases h : Nat.toDigits 10 n with
    | nil => exact absurd h Nat.toDigits_ne_nil
    | cons c cs => rfl
  rw [wholePart, run_bind_ok some]
  rcases Nat.eq_zero_or_pos n with rfl | pos
  · rfl
  · obtain ⟨d, cs, eq, nonzero⟩ := toDigits_pos pos
    have digit := digit_toDigits (n := n) (c := d) (by simp [eq])
    have first : digitOf d ≠ 0 := by
      intro zero
      have : d.toNat = 48 := by rw [digitOf] at zero; omega
      exact nonzero (Char.toNat_inj.mp this)
    rw [eq, List.map_cons]
    split
    next h => exact absurd (List.cons.inj h).1 first
    next => rfl

theorem run_numeral (n : Nat) (negative : Bool) (atEnd : Fault) {rest : Bytes} (ends : Ends rest) :
    (numeral atEnd negative).run ((Nat.toDigits 10 n).map byte ++ rest) =
      .ok (⟨negative, (Nat.toDigits 10 n).map digitOf, none, none⟩, rest) := by
  have noFraction : (fractionPart atEnd).run rest = .ok (none, rest) := by
    rw [fractionPart, run_bind_peek, if_neg]
    · rfl
    · exact fun h => (ends _ h).2.1 rfl
  have noExponent : (exponentPart atEnd).run rest = .ok (none, rest) := by
    rw [exponentPart, run_bind_peek, if_neg]
    · rfl
    · rintro (h | h)
      · exact (ends _ h).2.2.1 rfl
      · exact (ends _ h).2.2.2 rfl
  rw [numeral, run_bind_ok (run_wholePart n atEnd ends), run_bind_ok noFraction,
    run_bind_ok noExponent]
  rfl

def InRange (n : Int) : Prop := -2 ^ 63 ≤ n ∧ n < 2 ^ 64

theorem value?_pos {n : Nat} (h : n < 2 ^ 64) :
    (Numeral.mk false ((Nat.toDigits 10 n).map digitOf) none none).value? = some (.int n) := by
  have fits : n < Numeral.limit := h
  simp only [Numeral.value?, decimal_toDigits, Option.isNone_none, Bool.true_and, Bool.false_eq_true,
    if_false, fits, decide_true, if_true]

theorem value?_neg {n : Nat} (pos : 0 < n) (h : n ≤ 2 ^ 63) :
    (Numeral.mk true ((Nat.toDigits 10 n).map digitOf) none none).value? = some (.int (-n)) := by
  have fits : n ≤ 1 <<< 63 := h
  simp only [Numeral.value?, decimal_toDigits, Option.isNone_none, Bool.true_and, if_true, pos, fits,
    decide_true]

theorem run_number_pos {n : Nat} (h : n < 2 ^ 64) {rest : Bytes} (ends : Ends rest) :
    (number false).run ((Nat.toDigits 10 n).map byte ++ rest) = .ok (.int n, rest) := by
  rw [number, run_bind_ok (run_numeral n false .truncated ends), value?_pos h]
  rfl

theorem run_number_neg {n : Nat} (pos : 0 < n) (h : n ≤ 2 ^ 63) {rest : Bytes} (ends : Ends rest) :
    (number true).run ((Nat.toDigits 10 n).map byte ++ rest) = .ok (.int (-n), rest) := by
  rw [number, run_bind_ok (run_numeral n true .truncated ends), value?_neg pos h]
  rfl

theorem ofChars_toDigits (n : Nat) : ofChars (Nat.toDigits 10 n) = (Nat.toDigits 10 n).map byte :=
  ofChars_ascii fun _ hc => by have := digit_toDigits hc; omega

end VpExchange.Json.Reader
