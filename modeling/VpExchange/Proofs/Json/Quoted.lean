import VpExchange.Json.Printer
import VpExchange.Proofs.Json.Reader
import VpExchange.Proofs.Bytes

set_option autoImplicit false

namespace VpExchange.Json.Reader

open Bytes

variable {result : Except Fault (Bytes × Bytes)}

def IsPlain (b : UInt8) : Prop := b ≠ byte '"' ∧ b ≠ byte '\\' ∧ ¬b < 32

theorem run_stringStep_plain {b : UInt8} (h : IsPlain b) (before rest : Bytes) :
    (stringStep before).run (b :: rest) = .ok (.inl (b :: before), rest) := by
  rw [stringStep, run_bind_peek]
  show (drop >>= _).run _ = _
  rw [run_bind_drop, if_neg h.1, if_neg h.2.1, if_neg h.2.2]
  rfl

theorem run_stringStep_quote (before rest : Bytes) :
    (stringStep before).run (byte '"' :: rest) = .ok (.inr before.reverse, rest) := rfl

theorem run_stringStep_short {e x : UInt8} (he : e ≠ byte 'u') (h : shortEscape? e = some x)
    (before rest : Bytes) :
    (stringStep before).run (byte '\\' :: e :: rest) = .ok (.inl (x :: before), rest) := by
  rw [stringStep, run_bind_peek]
  show (drop >>= _).run _ = _
  rw [run_bind_drop, if_neg (by decide), if_pos rfl, run_bind_peek]
  show (drop >>= _).run _ = _
  rw [run_bind_drop, if_neg he, h]
  rfl

theorem digit_of_byte_digit {n : Nat} (h : n < 16) :
    Hex.digitValue? (Char.ofNat (byte (Hex.digit n)).toNat) = some n :=
  (by decide : ∀ m < 16, Hex.digitValue? (Char.ofNat (byte (Hex.digit m)).toNat) = some m) n h

theorem run_hexQuad {m n : Nat} (hm : m < 16) (hn : n < 16) (rest : Bytes) :
    hexQuad.run (byte '0' :: byte '0' :: byte (Hex.digit m) :: byte (Hex.digit n) :: rest) =
      .ok (m * 16 + n, rest) := by
  have zero : Hex.digitValue? (Char.ofNat (byte '0').toNat) = some 0 := by decide
  show hexQuad _ = _
  simp only [hexQuad, digit_of_byte_digit hm, digit_of_byte_digit hn, zero]
  simp

theorem run_stringStep_control {c : Char} (h : c.toNat < 32) (before rest : Bytes) :
    (stringStep before).run (byte '\\' :: byte 'u' :: byte '0' :: byte '0' ::
        byte (Hex.digit (c.toNat / 16)) :: byte (Hex.digit (c.toNat % 16)) :: rest) =
      .ok (.inl ((String.utf8EncodeChar c).reverse ++ before), rest) := by
  have quad := run_hexQuad (m := c.toNat / 16) (n := c.toNat % 16) (by omega) (by omega) rest
  rw [show c.toNat / 16 * 16 + c.toNat % 16 = c.toNat by omega] at quad
  have point : escapedCodePoint.run (byte '0' :: byte '0' :: byte (Hex.digit (c.toNat / 16)) ::
      byte (Hex.digit (c.toNat % 16)) :: rest) = .ok (String.utf8EncodeChar c, rest) := by
    rw [escapedCodePoint, run_bind_ok quad, if_neg (by omega), if_pos (by omega), Char.ofNat_toNat]
    rfl
  rw [stringStep, run_bind_peek]
  show (drop >>= _).run _ = _
  rw [run_bind_drop, if_neg (by decide), if_pos rfl, run_bind_peek]
  show (drop >>= _).run _ = _
  rw [run_bind_drop, if_pos rfl, run_bind_ok point]
  rfl

theorem runs_plain {bytes before rest : Bytes} (plain : ∀ b ∈ bytes, IsPlain b)
    (h : Runs stringStep (bytes.reverse ++ before) rest result) :
    Runs stringStep before (bytes ++ rest) result := by
  induction bytes generalizing before with
  | nil => exact h
  | cons b bytes ih =>
    refine .step (run_stringStep_plain (plain b (by simp)) before (bytes ++ rest)) (by simp) ?_
    exact ih (fun x hx => plain x (by simp [hx])) (by simpa using h)

theorem isPlain_of_mem {c : Char} (quote : c ≠ '"') (backslash : c ≠ '\\') (control : ¬c.toNat < 32)
    {b : UInt8} (hb : b ∈ String.utf8EncodeChar c) : IsPlain b := by
  have nat : ∀ {x y : UInt8}, x.toNat ≠ y.toNat → x ≠ y := fun h same => h (same ▸ rfl)
  -- In ASCII the one byte is the character; beyond it no byte is as small as what is special.
  by_cases ascii : c.toNat < 128
  · rw [utf8EncodeChar_ascii ascii, List.mem_singleton] at hb
    subst hb
    have same : (UInt8.ofNat c.toNat).toNat = c.toNat := by rw [UInt8.toNat_ofNat']; omega
    have ne {d : Char} (h : c ≠ d) : c.toNat ≠ d.toNat := fun e => h (Char.toNat_inj.mp e)
    refine ⟨nat ?_, nat ?_, ?_⟩
    · rw [same]; exact ne quote
    · rw [same]; exact ne backslash
    · rw [UInt8.lt_iff_toNat_lt, same]; exact control
  · have large := le_of_mem_utf8EncodeChar (Nat.le_of_not_lt ascii) hb
    refine ⟨nat ?_, nat ?_, ?_⟩
    · have : (byte '"').toNat = 34 := rfl
      omega
    · have : (byte '\\').toNat = 92 := rfl
      omega
    · rw [UInt8.lt_iff_toNat_lt]
      have : (32 : UInt8).toNat = 32 := rfl
      omega

theorem runs_short {c : Char} {e : Char} (ascii : c.toNat < 128) (he : byte e ≠ byte 'u')
    (h : shortEscape? (byte e) = some (byte c)) {before rest : Bytes}
    (later : Runs stringStep ((String.utf8EncodeChar c).reverse ++ before) rest result) :
    Runs stringStep before (byte '\\' :: byte e :: rest) result := by
  rw [utf8EncodeChar_ascii ascii] at later
  exact .step (run_stringStep_short he h before rest) (by simp only [List.length_cons]; omega) later

theorem runs_escape (c : Char) {before rest : Bytes}
    (later : Runs stringStep ((String.utf8EncodeChar c).reverse ++ before) rest result) :
    Runs stringStep before (ofChars (escape c) ++ rest) result := by
  -- One case for each way in which a character is printed; the reader undoes it in as many steps as
  -- there are bytes in the character.
  unfold escape
  split_ifs with quote backslash newline return_ tab backspace formfeed control
  · subst quote
    exact runs_short (e := '"') (by decide) (by decide) (by decide) later
  · subst backslash
    exact runs_short (e := '\\') (by decide) (by decide) (by decide) later
  · subst newline
    exact runs_short (e := 'n') (by decide) (by decide) (by decide) later
  · subst return_
    exact runs_short (e := 'r') (by decide) (by decide) (by decide) later
  · subst tab
    exact runs_short (e := 't') (by decide) (by decide) (by decide) later
  · have : c = Char.ofNat 8 := by rw [← backspace, Char.ofNat_toNat]
    subst this
    exact runs_short (e := 'b') (by decide) (by decide) (by decide) later
  · have : c = Char.ofNat 12 := by rw [← formfeed, Char.ofNat_toNat]
    subst this
    exact runs_short (e := 'f') (by decide) (by decide) (by decide) later
  · have hexAscii : ∀ n < 16, (Hex.digit n).toNat < 128 := by decide
    have high := hexAscii (c.toNat / 16) (by omega)
    have low := hexAscii (c.toNat % 16) (by omega)
    rw [ofChars_ascii (by simp [high, low])]
    exact .step (run_stringStep_control control before rest)
      (by simp only [List.length_append, List.length_map, List.length_cons]; omega) later
  · rw [ofChars_cons, ofChars_nil, List.append_nil]
    exact runs_plain (fun b hb => isPlain_of_mem quote backslash control hb) later

theorem runs_string (cs : List Char) (before rest : Bytes) :
    Runs stringStep before (ofChars (cs.flatMap escape) ++ byte '"' :: rest)
      (.ok (before.reverse ++ ofChars cs, rest)) := by
  -- The bytes read so far are kept in reverse, so they have to vary.
  induction cs generalizing before with
  | nil => simpa using Runs.stop (run_stringStep_quote before rest)
  | cons c cs ih =>
    rw [List.flatMap_cons, ofChars_append, List.append_assoc]
    have later := ih ((String.utf8EncodeChar c).reverse ++ before)
    rw [List.reverse_append, List.reverse_reverse, List.append_assoc, ← ofChars_cons] at later
    exact runs_escape c later

theorem run_string (s : String) (rest : Bytes) :
    string.run (ofChars (s.toList.flatMap escape) ++ byte '"' :: rest) = .ok (s, rest) := by
  rw [string, run_bind_ok (run_loop (runs_string s.toList [] rest))]
  simp only [List.reverse_nil, List.nil_append, text?_ofChars, String.ofList_toList]
  rfl

theorem ofChars_printString (s : String) :
    ofChars (printString s) = byte '"' :: (ofChars (s.toList.flatMap escape) ++ [byte '"']) := by
  rw [printString, ofChars_cons, ofChars_append]
  rfl

end VpExchange.Json.Reader
