import Mathlib.Data.Option.Basic
import Mathlib.Tactic.Common
import VpExchange.Bytes.Base64

set_option autoImplicit false

namespace VpExchange.Base64

theorem Alphabet.char_of_value? {a : Alphabet} {c : Char} {n : Nat} (h : a.value? c = some n) :
    n < 64 ∧ a.char n = c := by
  have back := Char.ofNat_toNat c
  simp only [value?] at h
  split_ifs at h with upper lower digit first second <;> cases h
  · refine ⟨by omega, ?_⟩
    rw [char, if_pos (by omega), show 65 + (c.toNat - 65) = c.toNat by omega, back]
  · refine ⟨by omega, ?_⟩
    rw [char, if_neg (by omega), if_pos (by omega), show 71 + (c.toNat - 71) = c.toNat by omega, back]
  · refine ⟨by omega, ?_⟩
    rw [char, if_neg (by omega), if_neg (by omega), if_pos (by omega),
      show c.toNat + 4 - 4 = c.toNat by omega, back]
  · exact ⟨by omega, by simp [char, first]⟩
  · exact ⟨by omega, by simp [char, second]⟩

theorem toNat_ofNat {n : Nat} (h : n < 256) : (UInt8.ofNat n).toNat = n :=
  UInt8.toNat_ofNat_of_lt' h

theorem threeBytes (n : Nat) : n / 65536 * 65536 + n / 256 % 256 * 256 + n % 256 = n := by omega

theorem encodeChars_of_decodeChars {a : Alphabet} {cs : List Char} {bs : Bytes}
    (h : decodeChars a cs = some bs) : encodeChars a bs = cs := by
  -- By groups of four characters. The last group is shorter, and its guard rules out spare bits, so that
  -- there is no second spelling of the same bytes.
  induction cs using decodeChars.induct generalizing bs with
  | case1 =>
    cases h
    rfl
  | case2 => cases h
  | case3 c d =>
    rw [decodeChars_two] at h
    obtain ⟨i, hi, h⟩ := Option.bind_eq_some_iff.mp h
    obtain ⟨j, hj, h⟩ := Option.bind_eq_some_iff.mp h
    obtain ⟨_, unused, ⟨⟩⟩ := Option.bind_eq_some_iff.mp h
    have unused := (Option.guard_eq_some' _).mp unused
    obtain ⟨hi, rfl⟩ := Alphabet.char_of_value? hi
    obtain ⟨hj, rfl⟩ := Alphabet.char_of_value? hj
    simp only [encodeChars, toNat_ofNat (n := i * 4 + j / 16) (by omega)]
    rw [show (i * 4 + j / 16) / 4 = i by omega, show (i * 4 + j / 16) % 4 * 16 = j by omega]
  | case4 c d e =>
    rw [decodeChars_three] at h
    obtain ⟨i, hi, h⟩ := Option.bind_eq_some_iff.mp h
    obtain ⟨j, hj, h⟩ := Option.bind_eq_some_iff.mp h
    obtain ⟨k, hk, h⟩ := Option.bind_eq_some_iff.mp h
    obtain ⟨_, unused, ⟨⟩⟩ := Option.bind_eq_some_iff.mp h
    have unused := (Option.guard_eq_some' _).mp unused
    obtain ⟨hi, rfl⟩ := Alphabet.char_of_value? hi
    obtain ⟨hj, rfl⟩ := Alphabet.char_of_value? hj
    obtain ⟨hk, rfl⟩ := Alphabet.char_of_value? hk
    generalize hn : i * 1024 + j * 16 + k / 4 = n
    simp only [encodeChars, toNat_ofNat (n := n / 256) (by omega),
      toNat_ofNat (n := n % 256) (by omega)]
    rw [Nat.div_add_mod' n 256, show n / 1024 = i by omega,
      show n / 16 % 64 = j by omega, show n % 16 * 4 = k by omega]
  | case5 c d e f rest ih =>
    rw [decodeChars_four] at h
    obtain ⟨i, hi, h⟩ := Option.bind_eq_some_iff.mp h
    obtain ⟨j, hj, h⟩ := Option.bind_eq_some_iff.mp h
    obtain ⟨k, hk, h⟩ := Option.bind_eq_some_iff.mp h
    obtain ⟨l, hl, h⟩ := Option.bind_eq_some_iff.mp h
    obtain ⟨bs, hbs, ⟨⟩⟩ := Option.bind_eq_some_iff.mp h
    obtain ⟨hi, rfl⟩ := Alphabet.char_of_value? hi
    obtain ⟨hj, rfl⟩ := Alphabet.char_of_value? hj
    obtain ⟨hk, rfl⟩ := Alphabet.char_of_value? hk
    obtain ⟨hl, rfl⟩ := Alphabet.char_of_value? hl
    generalize hn : i * 262144 + j * 4096 + k * 64 + l = n
    simp only [encodeChars, toNat_ofNat (n := n / 65536) (by omega),
      toNat_ofNat (n := n / 256 % 256) (by omega), toNat_ofNat (n := n % 256) (by omega), ih hbs]
    rw [threeBytes n, show n / 262144 = i by omega, show n / 4096 % 64 = j by omega,
      show n / 64 % 64 = k by omega, show n % 64 = l by omega]

theorem decode?_eq_some_iff {s : String} {bs : Bytes} : decode? s = some bs ↔ s = encode bs := by
  constructor
  · intro h
    rw [encode, encodeChars_of_decodeChars h, String.ofList_toList]
  · rintro rfl
    rw [decode?, encode, String.toList_ofList, decodeChars_encodeChars Alphabet.faithful_url]

@[simp] theorem decode?_encode (bs : Bytes) : decode? (encode bs) = some bs :=
  decode?_eq_some_iff.mpr rfl

theorem encode_injective {a b : Bytes} (h : encode a = encode b) : a = b := by
  have := decode?_encode a
  rw [h, decode?_encode] at this
  exact (Option.some.inj this).symm

theorem mem_encodeChars {a : Alphabet} {bs : Bytes} {c : Char} (h : c ∈ encodeChars a bs) :
    ∃ n < 64, a.char n = c := by
  induction bs using encodeChars.induct with
  | case1 => simp [encodeChars] at h
  | case2 x =>
    have hx := x.toNat_lt
    simp only [encodeChars, List.mem_cons, List.not_mem_nil, or_false] at h
    rcases h with rfl | rfl
    · exact ⟨_, by omega, rfl⟩
    · exact ⟨_, by omega, rfl⟩
  | case3 x y =>
    have hx := x.toNat_lt
    have hy := y.toNat_lt
    simp only [encodeChars, List.mem_cons, List.not_mem_nil, or_false] at h
    rcases h with rfl | rfl | rfl
    · exact ⟨_, by omega, rfl⟩
    · exact ⟨_, by omega, rfl⟩
    · exact ⟨_, by omega, rfl⟩
  | case4 x y z rest ih =>
    have hx := x.toNat_lt
    have hy := y.toNat_lt
    have hz := z.toNat_lt
    simp only [encodeChars, List.mem_cons] at h
    rcases h with rfl | rfl | rfl | rfl | h
    · exact ⟨_, by omega, rfl⟩
    · exact ⟨_, by omega, rfl⟩
    · exact ⟨_, by omega, rfl⟩
    · exact ⟨_, by omega, rfl⟩
    · exact ih h

theorem char_url_ne_dot : ∀ n < 64, Alphabet.url.char n ≠ '.' := by decide

theorem char_url_not_blank : ∀ n < 64, Text.isBlank (Alphabet.url.char n) = false := by decide

theorem dot_notMem_encode (bs : Bytes) : '.' ∉ (encode bs).toList := by
  intro h
  rw [encode, String.toList_ofList] at h
  obtain ⟨n, hn, dot⟩ := mem_encodeChars h
  exact char_url_ne_dot n hn dot

theorem not_blank_of_mem_encode {bs : Bytes} {c : Char} (h : c ∈ (encode bs).toList) :
    Text.isBlank c = false := by
  rw [encode, String.toList_ofList] at h
  obtain ⟨n, hn, rfl⟩ := mem_encodeChars h
  exact char_url_not_blank n hn

end VpExchange.Base64
