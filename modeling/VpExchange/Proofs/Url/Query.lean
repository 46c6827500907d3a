import Mathlib.Tactic.Common
import VpExchange.Proofs.Bytes
import VpExchange.Url.Query

set_option autoImplicit false

namespace VpExchange

namespace Url

def isFormChar (c : Char) : Bool :=
  c == '%' || c == '+' || (c.toNat < 128 && isUnreserved (UInt8.ofNat c.toNat))

theorem forall_byte {holds : UInt8 → Prop} (h : ∀ n < 256, holds (UInt8.ofNat n)) (b : UInt8) : holds b :=
  @UInt8.ofNat_toNat b ▸ h b.toNat b.toNat_lt

theorem isFormChar_formByte (b : UInt8) : ∀ c ∈ formByte b, isFormChar c = true :=
  List.all_eq_true.mp (@forall_byte (fun b => (formByte b).all isFormChar = true) (by decide +kernel) b)

theorem isFormChar_of_mem {s : String} {c : Char} (h : c ∈ formEncode s) : isFormChar c = true := by
  obtain ⟨b, -, hc⟩ := List.mem_flatMap.mp h
  exact isFormChar_formByte b c hc

theorem notMem_formEncode {c : Char} (h : isFormChar c = false) (s : String) : c ∉ formEncode s := by
  intro hc
  rw [isFormChar_of_mem hc] at h
  cases h

theorem notMem_formPair {c : Char} (h : isFormChar c = false) (other : c ≠ '=') (p : String × String) :
    c ∉ formPair p := by
  simp [formPair, notMem_formEncode h, other]

@[simp] theorem formText_nil : formText [] = [] := rfl

@[simp] theorem formText_singleton (p : String × String) : formText [p] = formPair p := by
  simp [formText, List.intercalate]

@[simp] theorem formText_cons_cons (p q : String × String) (ps : List (String × String)) :
    formText (p :: q :: ps) = formPair p ++ '&' :: formText (q :: ps) := by
  simp [formText, List.intercalate]

theorem notMem_formText {c : Char} (h : isFormChar c = false) (other : c ≠ '=') (between : c ≠ '&')
    (ps : List (String × String)) : c ∉ formText ps := by
  induction ps with
  | nil => simp
  | cons p ps ih => cases ps <;> simp_all [notMem_formPair]

theorem percentDecode_cons_of_ne {b : UInt8} (h : b ≠ 37) (rest : Bytes) :
    percentDecode (b :: rest) = b :: percentDecode rest := by
  rw [percentDecode]
  rintro _ _ _ rfl
  exact absurd rfl h

def unplus (c : Char) : Char := if c = '+' then ' ' else c

theorem formDecode_eq (cs : List Char) : formDecode cs = percentDecode (Bytes.ofChars (cs.map unplus)) := by
  rw [formDecode, Bytes.ofText_ofList]
  rfl

theorem ofChars_formByte (b : UInt8) : Bytes.ofChars ((formByte b).map unplus) =
    if isUnreserved b ∨ b = 32 then [b] else Bytes.ofChars (percentByte b) :=
  @forall_byte (fun b => Bytes.ofChars ((formByte b).map unplus) =
    if isUnreserved b ∨ b = 32 then [b] else Bytes.ofChars (percentByte b)) (by decide +kernel) b

theorem percentDecode_percentByte (b : UInt8) (rest : Bytes) :
    percentDecode (Bytes.ofChars (percentByte b) ++ rest) = b :: percentDecode rest := by
  have digits : ∀ n < 16, (Hex.upperDigit n).toNat < 128 ∧
      Hex.digitValue? (Char.ofNat (UInt8.ofNat (Hex.upperDigit n).toNat).toNat) = some n := by decide
  have hb := b.toNat_lt
  have high := digits (b.toNat / 16) (by omega)
  have low := digits (b.toNat % 16) (by omega)
  rw [percentByte, Bytes.ofChars_ascii (by simp [high.1, low.1])]
  show percentDecode (37 :: _ :: _ :: rest) = _
  rw [percentDecode, high.2, low.2]
  show UInt8.ofNat _ :: _ = _
  rw [show 16 * (b.toNat / 16) + b.toNat % 16 = b.toNat by omega, UInt8.ofNat_toNat]

theorem formDecode_formByte (b : UInt8) (cs : List Char) :
    formDecode (formByte b ++ cs) = b :: formDecode cs := by
  rw [formDecode_eq, formDecode_eq, List.map_append, Bytes.ofChars_append, ofChars_formByte]
  split_ifs with plain
  · refine percentDecode_cons_of_ne ?_ _
    rintro rfl
    exact absurd plain (by decide)
  · exact percentDecode_percentByte b _

theorem formDecode_formEncode (s : String) : formDecode (formEncode s) = Bytes.ofText s := by
  have each (bs : Bytes) : formDecode (bs.flatMap formByte) = bs := by
    induction bs with
    | nil => simp [formDecode_eq, percentDecode]
    | cons b bs ih => rw [List.flatMap_cons, formDecode_formByte, ih]
  exact each (Bytes.ofText s)

theorem formPairs_formPair (p : String × String) :
    formPairs (formPair p) = [(Bytes.ofText p.1, Bytes.ofText p.2)] := by
  have whole : Text.splitChars (· == '&') (formPair p) = [formPair p] :=
    Text.splitAt_of_notMem (notMem_formPair (by decide) (by decide) p)
  have name : ∀ c ∈ formEncode p.1, (decide (c ≠ '=')) = true := by
    intro c hc
    simpa using ne_of_mem_of_not_mem hc (notMem_formEncode (by decide) p.1)
  have written : formPair p ≠ [] := by simp [formPair]
  have kept : [formPair p].filter (· ≠ []) = [formPair p] := by simpa using written
  rw [formPairs, whole, kept, List.map_singleton, formPair, List.takeWhile_append_of_pos name,
    List.dropWhile_append_of_pos name]
  simp [formDecode_formEncode]

@[simp] theorem formPairs_nil : formPairs [] = [] := rfl

theorem formPairs_append (cs rest : List Char) :
    formPairs (cs ++ '&' :: rest) = formPairs cs ++ formPairs rest := by
  have split := Text.splitAt_append_cons '&' cs rest
  simp only [Text.splitAt] at split
  simp [formPairs, split]

theorem formPairs_formText (ps : List (String × String)) :
    formPairs (formText ps) = ps.map fun p => (Bytes.ofText p.1, Bytes.ofText p.2) := by
  induction ps with
  | nil => rfl
  | cons p ps ih =>
    cases ps with
    | nil => simp [formPairs_formPair]
    | cons q ps => simp [formPairs_append, formPairs_formPair, ih]

def queryPairs (u : Url) : List (Bytes × Bytes) := formPairs (u.query.getD "").toList

def QueryEnds (u : Url) : Prop := ∀ q ∈ u.query, '#' ∉ q.toList

theorem appendPairs_eq (u : Url) (ps : List (String × String)) :
    ∃ q, u.appendPairs ps = { u with query := some q } ∧
      formPairs q.toList = u.queryPairs ++ ps.map (fun p => (Bytes.ofText p.1, Bytes.ofText p.2)) ∧
      (u.QueryEnds → '#' ∉ q.toList) := by
  have ends : '#' ∉ formText ps := notMem_formText (by decide) (by decide) (by decide) ps
  rw [appendPairs]
  split
  case h_1 none =>
    exact ⟨_, rfl, by simp [queryPairs, none, formPairs_formText], fun _ => by simpa using ends⟩
  case h_2 empty =>
    exact ⟨_, rfl, by simp [queryPairs, empty, formPairs_formText], fun _ => by simpa using ends⟩
  case h_3 own q _ given =>
    refine ⟨_, rfl, by simp [queryPairs, given, formPairs_append, formPairs_formText], fun ends' => ?_⟩
    simp [ends' q given, ends]

end Url

end VpExchange
