import Mathlib.Data.List.Basic
import Mathlib.Data.List.Induction
import Mathlib.Tactic.Ring
import VpExchange.Bytes.Basic

set_option autoImplicit false

namespace VpExchange.Bytes

def ofChars (cs : List Char) : Bytes := cs.flatMap String.utf8EncodeChar

@[simp] theorem ofChars_nil : ofChars [] = [] := rfl

theorem ofChars_cons (c : Char) (cs : List Char) :
    ofChars (c :: cs) = String.utf8EncodeChar c ++ ofChars cs := rfl

@[simp] theorem ofChars_append (cs ds : List Char) : ofChars (cs ++ ds) = ofChars cs ++ ofChars ds :=
  List.flatMap_append

theorem ofText_ofList (cs : List Char) : ofText (String.ofList cs) = ofChars cs := by
  simp [ofText, ofChars, List.utf8Encode]

theorem text?_ofChars (cs : List Char) : text? (ofChars cs) = some (String.ofList cs) := by
  rw [← ofText_ofList, text?_ofText]

theorem ofText_injective {s t : String} (h : ofText s = ofText t) : s = t := by
  have := text?_ofText s
  rw [h, text?_ofText] at this
  exact (Option.some.inj this).symm

theorem utf8EncodeChar_ascii {c : Char} (h : c.toNat < 128) :
    String.utf8EncodeChar c = [UInt8.ofNat c.toNat] := by
  have small : c.val.toNat ≤ 0x7f := Nat.le_of_lt_succ h
  rw [String.utf8EncodeChar]
  simp only [small, if_true]
  rfl

theorem ofChars_ascii {cs : List Char} (h : ∀ c ∈ cs, c.toNat < 128) :
    ofChars cs = cs.map fun c => UInt8.ofNat c.toNat := by
  induction cs with
  | nil => rfl
  | cons c cs ih =>
    rw [ofChars_cons, utf8EncodeChar_ascii (h c (by simp)), ih fun d hd => h d (by simp [hd])]
    rfl

theorem le_of_mem_utf8EncodeChar {c : Char} (h : 128 ≤ c.toNat) {b : UInt8}
    (hb : b ∈ String.utf8EncodeChar c) : 128 ≤ b.toNat := by
  have large : ¬c.val.toNat ≤ 0x7f := Nat.not_le_of_lt h
  rw [String.utf8EncodeChar] at hb
  simp only [large, if_false] at hb
  -- Each of the three longer forms sets the highest bit of every byte it writes.
  split_ifs at hb <;> simp only [List.mem_cons, List.not_mem_nil, or_false] at hb
  · rcases hb with rfl | rfl <;> rw [UInt8.toNat_ofNat'] <;> omega
  · rcases hb with rfl | rfl | rfl <;> rw [UInt8.toNat_ofNat'] <;> omega
  · rcases hb with rfl | rfl | rfl | rfl <;> rw [UInt8.toNat_ofNat'] <;> omega

theorem toNat_singleton (x : UInt8) : toNat [x] = x.toNat := by simp [toNat]

theorem toNat_append (a b : Bytes) : toNat (a ++ b) = toNat a * 256 ^ b.length + toNat b := by
  induction b generalizing a with
  | nil => simp
  | cons x b ih =>
    -- The induction moves the first byte over to the front part, so that part has to vary.
    have head := ih [x]
    rw [List.singleton_append, toNat_singleton] at head
    rw [List.append_cons, ih, toNat_append_singleton, head, List.length_cons, Nat.pow_succ', Nat.add_mul,
      Nat.mul_assoc, Nat.add_assoc]

theorem toNat_ofNat (width n : Nat) : toNat (ofNat width n) = n % 256 ^ width := by
  induction width with
  | zero => simp [ofNat, Nat.mod_one]
  | succ width ih =>
    have bits : 2 ^ (8 * width) = 256 ^ width := pow_mul 2 8 width
    rw [ofNat, ← List.singleton_append, toNat_append, toNat_singleton, ih, length_ofNat, UInt8.toNat_ofNat',
      Nat.shiftRight_eq_div_pow, bits, pow_succ 256, Nat.mod_mul, Nat.mul_comm, Nat.add_comm]

theorem toNat_ofNat_of_lt {width n : Nat} (h : n < 256 ^ width) : toNat (ofNat width n) = n := by
  rw [toNat_ofNat, Nat.mod_eq_of_lt h]

theorem ofNat_injective {width m n : Nat} (hm : m < 256 ^ width) (hn : n < 256 ^ width)
    (same : ofNat width m = ofNat width n) : m = n := by
  have values := congrArg toNat same
  rwa [toNat_ofNat_of_lt hm, toNat_ofNat_of_lt hn] at values

theorem toNat_lt (bs : Bytes) : toNat bs < 256 ^ bs.length := by
  induction bs using List.reverseRecOn with
  | nil => decide
  | append_singleton bs x ih =>
    have hx := x.toNat_lt
    rw [toNat_append_singleton, List.length_append, List.length_singleton, Nat.pow_succ]
    omega

theorem toNat_injective {a b : Bytes} (width : a.length = b.length) (h : toNat a = toNat b) : a = b := by
  induction a using List.reverseRecOn generalizing b with
  | nil => exact (List.length_eq_zero_iff.mp width.symm).symm
  | append_singleton a x ih =>
    rcases List.eq_nil_or_concat' b with rfl | ⟨b, y, rfl⟩
    · simp at width
    · rw [toNat_append_singleton, toNat_append_singleton] at h
      have hx := x.toNat_lt
      have hy := y.toNat_lt
      have last : x = y := UInt8.toNat_inj.mp (by omega)
      rw [ih (by simpa using width) (by omega), last]

theorem ofNat_toNat (bs : Bytes) : ofNat bs.length (toNat bs) = bs :=
  toNat_injective (length_ofNat ..) (toNat_ofNat_of_lt (toNat_lt bs))

end VpExchange.Bytes
