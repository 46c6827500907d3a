import Mathlib.Data.String.Basic
import VpExchange.Proofs.Bytes

set_option autoImplicit false

namespace VpExchange.Bytes

theorem ofNat_lt_iff {m n : Nat} (hm : m < 256) (hn : n < 256) :
    UInt8.ofNat m < UInt8.ofNat n ↔ m < n := UInt8.ofNat_lt_iff_lt hm hn

theorem ofNat_eq_iff {m n : Nat} (hm : m < 256) (hn : n < 256) :
    UInt8.ofNat m = UInt8.ofNat n ↔ m = n := by
  rw [← UInt8.toNat_inj, UInt8.toNat_ofNat_of_lt' hm, UInt8.toNat_ofNat_of_lt' hn]

theorem utf8EncodeChar_append_lt {c d : Char} (h : c < d) (bs bs' : Bytes) :
    String.utf8EncodeChar c ++ bs < String.utf8EncodeChar d ++ bs' := by
  have less : c.val.toNat < d.val.toNat := UInt32.lt_iff_toNat_lt.mp h
  have bound : d.val.toNat < 0x110000 := by
    rcases d.valid with low | high
    · exact low.trans (by decide)
    · exact high.2
  simp only [String.utf8EncodeChar]
  generalize c.val.toNat = m at *
  generalize d.val.toNat = n at *
  -- Of spellings that are equally long the first digit to the base 64 that differs decides, and a longer
  -- one begins with a larger byte.
  have digits : m / 64 < n / 64 ∨ m / 64 = n / 64 ∧ m % 64 < n % 64 := by omega
  split_ifs <;>
    simp (disch := omega) only [List.cons_append, List.nil_append, List.cons_lt_cons_iff, ofNat_lt_iff,
      ofNat_eq_iff]
  all_goals rcases digits with front | ⟨front, last⟩ <;> omega

theorem ofChars_lt {cs ds : List Char} (h : cs < ds) : ofChars cs < ofChars ds := by
  induction h with
  | @nil d ds =>
    obtain ⟨b, bs, spelled⟩ := List.exists_cons_of_ne_nil (String.utf8EncodeChar_ne_nil (c := d))
    rw [ofChars_cons, spelled]
    exact List.nil_lt_cons b _
  | rel less => exact utf8EncodeChar_append_lt less _ _
  | cons _ ih => exact List.append_left_lt ih

theorem ofText_lt {s t : String} (h : s < t) : ofText s < ofText t := by
  rw [← String.ofList_toList (s := s), ← String.ofList_toList (s := t), ofText_ofList, ofText_ofList]
  exact ofChars_lt (String.lt_iff_toList_lt.mp h)

theorem ofText_le_iff {s t : String} : ofText s ≤ ofText t ↔ s ≤ t := by
  constructor
  · exact fun h => not_lt.mp fun less => h (ofText_lt less)
  · intro h
    rcases h.lt_or_eq with less | rfl
    · exact List.le_of_lt (ofText_lt less)
    · exact List.le_refl _

end VpExchange.Bytes
