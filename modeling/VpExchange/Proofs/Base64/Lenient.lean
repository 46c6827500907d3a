import Mathlib.Data.Option.Basic
import VpExchange.Proofs.Base64
import VpExchange.Proofs.Text

set_option autoImplicit false

namespace VpExchange.Base64

def padding (bs : Bytes) : Nat := (3 - bs.length % 3) % 3

theorem paddingLength_encodeChars (a : Alphabet) (bs : Bytes) :
    paddingLength (encodeChars a bs).length = padding bs := by
  fun_induction encodeChars a bs with
  | case1 | case2 | case3 => rfl
  | case4 x y z rest n ih =>
    simp only [paddingLength, padding, List.length_cons] at ih ⊢
    omega

theorem exists_stripPadding (cs : List Char) :
    ∃ stray, cs = stripPadding cs ++ List.replicate stray '=' := by
  have stray : cs.rtakeWhile (· == '=') = List.replicate (cs.rtakeWhile (· == '=')).length '=' := by
    refine List.eq_replicate_of_mem fun c inside => ?_
    simpa using List.mem_rtakeWhile_imp inside
  refine ⟨(cs.rtakeWhile (· == '=')).length, ?_⟩
  rw [← stray]
  exact List.rdropWhile_append_rtakeWhile.symm

theorem stripPadding_append {cs : List Char} (h : '=' ∉ cs) (stray : Nat) :
    stripPadding (cs ++ List.replicate stray '=') = cs := by
  rw [stripPadding, Text.dropEndWhile_eq_rdropWhile]
  induction stray with
  | zero =>
    rw [List.replicate_zero, List.append_nil]
    refine List.rdropWhile_eq_self_iff.mpr fun nonempty last => ?_
    exact h (beq_iff_eq.mp last ▸ List.getLast_mem nonempty)
  | succ stray ih =>
    rw [List.replicate_succ', ← List.append_assoc, List.rdropWhile_concat_pos _ _ _ rfl, ih]

def Alphabet.IsUsed (a : Alphabet) : Prop := a = .url ∨ a = .standard

namespace Alphabet.IsUsed

variable {a b : Alphabet}

theorem faithful (ha : a.IsUsed) : a.Faithful := by
  rcases ha with rfl | rfl
  · exact faithful_url
  · exact faithful_standard

theorem char_ne_pad (ha : a.IsUsed) : ∀ n < 64, a.char n ≠ '=' := by
  rcases ha with rfl | rfl <;> decide

theorem value?_char (ha : a.IsUsed) (hb : b.IsUsed) :
    ∀ n < 64, b.value? (a.char n) = some n ∨ b.value? (a.char n) = none := by
  rcases ha with rfl | rfl <;> rcases hb with rfl | rfl <;> decide

end Alphabet.IsUsed

theorem decodeChars_congr {a b : Alphabet} {cs : List Char} (h : ∀ c ∈ cs, a.value? c = b.value? c) :
    decodeChars a cs = decodeChars b cs := by
  induction cs using decodeChars.induct with
  | case1 | case2 => rfl
  | case3 c d =>
    simp only [List.forall_mem_cons] at h
    rw [decodeChars_two, decodeChars_two, h.1, h.2.1]
  | case4 c d e =>
    simp only [List.forall_mem_cons] at h
    rw [decodeChars_three, decodeChars_three, h.1, h.2.1, h.2.2.1]
  | case5 c d e f rest ih =>
    simp only [List.forall_mem_cons] at h
    rw [decodeChars_four, decodeChars_four, h.1, h.2.1, h.2.2.1, h.2.2.2.1, ih h.2.2.2.2]

section Spelling

variable {a b : Alphabet} {x y : Bytes}

theorem pad_notMem_encodeChars (ha : a.IsUsed) : '=' ∉ encodeChars a x := by
  intro inside
  obtain ⟨n, hn, pad⟩ := mem_encodeChars inside
  exact ha.char_ne_pad n hn pad

theorem eq_of_encodeChars_eq (ha : a.IsUsed) (hb : b.IsUsed) (h : encodeChars a x = encodeChars b y) :
    x = y := by
  have same : ∀ c ∈ encodeChars a x, a.value? c = b.value? c := by
    intro c inside
    obtain ⟨m, hm, rfl⟩ := mem_encodeChars inside
    obtain ⟨n, hn, shared⟩ := mem_encodeChars (h ▸ inside)
    have value : b.value? (a.char m) = some n := shared ▸ hb.faithful n hn
    rw [ha.faithful m hm]
    exact ((ha.value?_char hb m hm).resolve_right (by simp [value])).symm
  have decoded := decodeChars_encodeChars ha.faithful x
  rw [decodeChars_congr same, h, decodeChars_encodeChars hb.faithful] at decoded
  exact (Option.some.inj decoded).symm

theorem decodeChars_eq_some_iff (ha : a.IsUsed) {cs : List Char} :
    decodeChars a cs = some x ↔ cs = encodeChars a x := by
  constructor
  · exact fun h => (encodeChars_of_decodeChars h).symm
  · rintro rfl
    exact decodeChars_encodeChars ha.faithful x

theorem decodeChars_stripPadding_eq_some_iff (ha : a.IsUsed) {cs : List Char} :
    decodeChars a (stripPadding cs) = some x ↔
      ∃ stray, cs = encodeChars a x ++ List.replicate stray '=' := by
  rw [decodeChars_eq_some_iff ha]
  constructor
  · intro body
    obtain ⟨stray, split⟩ := exists_stripPadding cs
    exact ⟨stray, body ▸ split⟩
  · rintro ⟨stray, rfl⟩
    exact stripPadding_append (pad_notMem_encodeChars ha) stray

theorem decodePadded_eq_some_iff (ha : a.IsUsed) {cs : List Char} :
    decodePadded a cs = some x ↔ cs = encodeChars a x ++ List.replicate (padding x) '=' := by
  simp only [decodePadded, Option.bind_eq_bind, Option.bind_eq_some_iff, Option.pure_def,
    Option.guard_eq_some', Option.some.injEq, decodeChars_stripPadding_eq_some_iff ha]
  have body := stripPadding_append (pad_notMem_encodeChars (x := x) ha)
  constructor
  · rintro ⟨_, ⟨stray, rfl⟩, -, fits, rfl⟩
    rw [body, paddingLength_encodeChars, List.length_append, List.length_replicate] at fits
    rw [Nat.add_left_cancel fits]
  · rintro rfl
    refine ⟨x, ⟨padding x, rfl⟩, (), ?_, rfl⟩
    rw [body, paddingLength_encodeChars, List.length_append, List.length_replicate]

end Spelling

/-- The texts that are read as these bytes. -/
inductive Spells (bs : Bytes) : List Char → Prop
  | url (stray : Nat) : Spells bs (encodeChars .url bs ++ List.replicate stray '=')
  | padded : Spells bs (encodeChars .standard bs ++ List.replicate (padding bs) '=')
  | unpadded : Spells bs (encodeChars .standard bs)

theorem isUsed_url : Alphabet.url.IsUsed := .inl rfl

theorem isUsed_standard : Alphabet.standard.IsUsed := .inr rfl

variable {bs bs' : Bytes} {cs : List Char}

theorem Spells.stripPadding_eq (h : Spells bs cs) :
    ∃ a : Alphabet, a.IsUsed ∧ stripPadding cs = encodeChars a bs := by
  cases h with
  | url stray => exact ⟨_, isUsed_url, stripPadding_append (pad_notMem_encodeChars isUsed_url) stray⟩
  | padded =>
    exact ⟨_, isUsed_standard, stripPadding_append (pad_notMem_encodeChars isUsed_standard) (padding bs)⟩
  | unpadded =>
    have body := stripPadding_append (pad_notMem_encodeChars (x := bs) isUsed_standard) 0
    rw [List.replicate_zero, List.append_nil] at body
    exact ⟨_, isUsed_standard, body⟩

theorem Spells.unique (h : Spells bs cs) (h' : Spells bs' cs) : bs = bs' := by
  obtain ⟨a, ha, body⟩ := h.stripPadding_eq
  obtain ⟨b, hb, body'⟩ := h'.stripPadding_eq
  exact eq_of_encodeChars_eq ha hb (body.symm.trans body')

theorem spells_iff : Spells bs cs ↔ decodeChars .url (stripPadding cs) = some bs ∨
    decodePadded .standard cs = some bs ∨ decodeChars .standard cs = some bs := by
  rw [decodeChars_stripPadding_eq_some_iff isUsed_url, decodePadded_eq_some_iff isUsed_standard,
    decodeChars_eq_some_iff isUsed_standard]
  constructor
  · rintro (stray | _ | _)
    · exact .inl ⟨stray, rfl⟩
    · exact .inr (.inl rfl)
    · exact .inr (.inr rfl)
  · rintro (⟨stray, rfl⟩ | rfl | rfl)
    · exact .url stray
    · exact .padded
    · exact .unpadded

theorem spells_of_decodeLenient? {s : String} (h : decodeLenient? s = some bs) :
    Spells bs (Text.trimChars s.toList) := by
  simp only [decodeLenient?, Option.orElse_eq_orElse, Option.orElse_eq_or, Option.or_eq_some_iff] at h
  rw [spells_iff]
  rcases h with h | ⟨-, h | ⟨-, h⟩⟩
  · exact .inl h
  · exact .inr (.inl h)
  · exact .inr (.inr h)

theorem decodeLenient?_eq_some_iff {s : String} :
    decodeLenient? s = some bs ↔ Spells bs (Text.trimChars s.toList) := by
  refine ⟨spells_of_decodeLenient?, fun spells => ?_⟩
  -- An earlier reading may win over the one that the text was written for, with the same bytes.
  have read : decodeLenient? s ≠ none := by
    simp only [decodeLenient?, Option.orElse_eq_orElse, Option.orElse_eq_or, ne_eq, Option.or_eq_none_iff]
    rcases spells_iff.mp spells with h | h | h <;> simp [h]
  obtain ⟨bs', read⟩ := Option.ne_none_iff_exists'.mp read
  rw [read, (spells_of_decodeLenient? read).unique spells]

end VpExchange.Base64
