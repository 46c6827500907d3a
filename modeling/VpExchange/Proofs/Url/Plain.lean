import Mathlib.Data.List.TakeWhile
import Mathlib.Data.Option.Basic
import Mathlib.Tactic.Common
import VpExchange.Proofs.Refusal
import VpExchange.Url.Parser

set_option autoImplicit false

namespace VpExchange

namespace Url

def Plain (cs : List Char) : Prop := ∀ c ∈ cs, endsPath c = false

instance (cs : List Char) : Decidable (Plain cs) := List.decidableBAll (endsPath · = false) cs

theorem forall_char {holds : Char → Prop} {bound : Nat} (h : ∀ n < bound, holds (Char.ofNat n)) {c : Char}
    (small : c.toNat < bound) : holds c :=
  Char.ofNat_toNat c ▸ h c.toNat small

theorem endsPath_iff {c : Char} : endsPath c = true ↔ c = '?' ∨ c = '#' := by
  simp [endsPath]

namespace Plain

variable {c : Char} {cs ds : List Char}

@[simp] theorem nil : Plain [] := nofun

@[simp] theorem cons_iff : Plain (c :: cs) ↔ endsPath c = false ∧ Plain cs := List.forall_mem_cons

@[simp] theorem append_iff : Plain (cs ++ ds) ↔ Plain cs ∧ Plain ds := List.forall_mem_append

theorem subset (h : Plain ds) (sub : cs ⊆ ds) : Plain cs := fun c hc => h c (sub hc)

theorem flatten {pieces : List (List Char)} (h : ∀ piece ∈ pieces, Plain piece) : Plain pieces.flatten := by
  intro c hc
  obtain ⟨piece, mem, hc⟩ := List.mem_flatten.mp hc
  exact h piece mem c hc

theorem intercalate {pieces : List (List Char)} (between : Plain cs) (h : ∀ piece ∈ pieces, Plain piece) :
    Plain (List.intercalate cs pieces) := by
  induction pieces with
  | nil => exact nil
  | cons first pieces ih =>
    cases pieces <;> simp_all [List.intercalate]

theorem of_intercalate {pieces : List (List Char)} (h : Plain (List.intercalate cs pieces)) :
    ∀ piece ∈ pieces, Plain piece := by
  induction pieces with
  | nil => simp
  | cons first pieces ih =>
    cases pieces <;> simp_all [List.intercalate]

theorem pathText (cs : List Char) : Plain (pathText cs) := by
  intro c hc
  simpa using List.mem_takeWhile_imp hc

theorem toDigits {base : Nat} (large : 1 < base) (n : Nat) : Plain (Nat.toDigits base n) := by
  have digit (n : Nat) : endsPath (Nat.digitChar n) = false := by
    by_cases small : n < 16
    · exact (by decide : ∀ m < 16, endsPath (Nat.digitChar m) = false) n small
    · simp [Nat.digitChar, show ∀ k < 16, n ≠ k by omega]
      rfl
  induction n using Nat.strongRecOn with
  | ind n ih =>
    rw [Nat.toDigits_eq_if large]
    split_ifs with small
    · simp [digit]
    · simp [digit, ih _ (Nat.div_lt_self (by omega) large)]

end Plain

def percentSigns : List Char := "%0123456789ABCDEF".toList

theorem mem_percentEncode {set : EncodeSet} {cs : List Char} {c : Char} (h : c ∈ percentEncode set cs) :
    c ∈ percentSigns ∨ c ∈ cs ∧ c ∉ set := by
  have signs : ∀ n < 16, Hex.upperDigit n ∈ percentSigns := by decide
  obtain ⟨d, hd, hc⟩ := List.mem_flatMap.mp h
  rw [percentChar] at hc
  split_ifs at hc with encoded
  · obtain ⟨b, -, hb⟩ := List.mem_flatMap.mp hc
    have bound := b.toNat_lt
    have high := signs (b.toNat / 16) (by omega)
    have low := signs (b.toNat % 16) (by omega)
    simp only [percentByte, List.mem_cons, List.not_mem_nil, or_false] at hb
    rcases hb with rfl | rfl | rfl
    · exact .inl (by decide)
    · exact .inl high
    · exact .inl low
  · obtain rfl := List.mem_singleton.mp hc
    push Not at encoded
    exact .inr ⟨hd, encoded.2.2⟩

theorem Plain.percentEncode {set : EncodeSet} {cs : List Char}
    (h : ∀ c ∈ cs, endsPath c = true → c ∈ set) : Plain (percentEncode set cs) := by
  have signs : Plain percentSigns := by decide
  intro c hc
  rcases mem_percentEncode hc with sign | ⟨mem, kept⟩
  · exact signs c sign
  · by_contra ends
    exact kept (h c mem (by simpa using ends))

theorem mem_of_endsPath {set : EncodeSet} (question : '?' ∈ set) (number : '#' ∈ set) {c : Char}
    (h : endsPath c = true) : c ∈ set := by
  rcases endsPath_iff.mp h with rfl | rfl
  · exact question
  · exact number

theorem Plain.bracketed {cs host : List Char} (h : bracketed? cs = .ok host) : Plain host := by
  have run (ps : List Nat) : Plain (List.intercalate [':'] (ps.map (Nat.toDigits 16))) :=
    .intercalate (by decide) (by simpa using fun n _ => Plain.toDigits (by decide) n)
  rw [bracketed?] at h
  split at h
  · cases h
    have text (ps : List Nat) : Plain (IPv6.text ps) := by
      rw [IPv6.text]
      split
      · simp only [append_iff, cons_iff]
        exact ⟨⟨run _, rfl, rfl, nil⟩, run _⟩
      · exact run ps
    simp [text, show endsPath '[' = false from rfl, show endsPath ']' = false from rfl]
  · cases h

namespace Domain

theorem plain_encodeNumber (bias k q : Nat) : Plain (Punycode.encodeNumber bias k q) := by
  have digit : ∀ d < 36, endsPath (Punycode.digitChar d) = false := by decide
  fun_induction Punycode.encodeNumber bias k q with
  | case1 k q t last =>
    have := Punycode.threshold_le k bias
    simpa using digit q (by omega)
  | case2 k q t more ih =>
    have := Punycode.threshold_le k bias
    have := Nat.mod_lt (q - t) (show 0 < 36 - t by omega)
    exact Plain.cons_iff.mpr ⟨digit _ (by omega), ih⟩

theorem plain_pass {basic m : Nat} {s : Punycode.State} {c : Char} (h : Plain s.output) :
    Plain (s.pass basic m c).output := by
  rw [Punycode.State.pass]
  split_ifs
  · exact h
  · exact Plain.append_iff.mpr ⟨h, plain_encodeNumber _ _ _⟩
  · exact h

theorem plain_encode {cs : List Char} (h : Plain cs) : Plain (Punycode.encode cs) := by
  have ascii : Plain (cs.filter fun c => c.toNat < 128) := h.subset (List.filter_sublist).subset
  rw [Punycode.encode]
  refine List.foldlRecOn (motive := fun (acc : Punycode.State × Nat) => Plain acc.1.output) _ _ ?_ ?_
  · split_ifs
    · exact Plain.nil
    · exact Plain.append_iff.mpr ⟨ascii, by decide⟩
  · intro acc kept m _
    exact List.foldlRecOn (motive := fun (s : Punycode.State) => Plain s.output) _ _ kept
      fun _ kept _ _ => plain_pass kept

theorem ascii_ofPunycode {cs : List Char} {l : Label} (h : Label.ofPunycode? cs = some l) :
    l.ascii = Label.acePrefix ++ cs := by
  simp only [Label.ofPunycode?, Option.bind_eq_bind, Option.bind_eq_some_iff] at h
  obtain ⟨-, -, shown, -, -, -, -, -, -, -, -, -, -, -, ⟨⟩⟩ := h
  rfl

theorem plain_ofChars {cs : List Char} {l : Label} (h : Plain cs) (read : Label.ofChars? cs = some l) :
    Plain l.ascii := by
  have ace : Plain Label.acePrefix := by decide
  rw [Label.ofChars?] at read
  split_ifs at read with isAce ascii
  · simp only [Option.bind_eq_bind, Option.bind_eq_some_iff] at read
    obtain ⟨-, -, read⟩ := read
    rw [ascii_ofPunycode read]
    exact Plain.append_iff.mpr ⟨ace, h.subset (List.drop_subset _ _)⟩
  · cases read
    exact h
  · simp only [Option.bind_eq_bind, Option.bind_eq_some_iff] at read
    obtain ⟨-, -, read⟩ := read
    cases read
    exact Plain.append_iff.mpr ⟨ace, plain_encode h⟩

theorem isForbidden_of_endsPath {c : Char} (h : endsPath c = true) : isForbidden c = true := by
  rcases endsPath_iff.mp h with rfl | rfl <;> rfl

theorem plain_toAscii {cs host : List Char} (h : toAscii? cs = some host) : Plain host := by
  simp only [toAscii?, Option.bind_eq_bind, Option.bind_eq_some_iff, Option.guard_eq_some'] at h
  obtain ⟨mapped, -, -, allowed, labels, read, -, -, -, -, written⟩ := h
  cases written
  have text : Plain (composed mapped.flatten) := by
    intro c hc
    by_contra ends
    have forbidden := List.any_eq_true.mpr ⟨c, hc, isForbidden_of_endsPath (by simpa using ends)⟩
    simp [forbidden] at allowed
  rw [← Text.intercalate_splitAt '.' (composed mapped.flatten)] at text
  have pieces := text.of_intercalate
  refine .intercalate (by decide) fun piece mem => ?_
  obtain ⟨l, named, rfl⟩ := List.mem_map.mp mem
  obtain ⟨cs, mem, read⟩ := exists_of_mem_mapM read l named
  exact plain_ofChars (pieces cs mem) read

end Domain

theorem Plain.webHost {cs host : List Char} (h : webHost cs = .ok host) : Plain host := by
  rw [Url.webHost] at h
  split_ifs at h with literal
  · exact .bracketed h
  · split at h
    · cases h
    · cases h
    · next domain _ named =>
      obtain ⟨s, -, ascii⟩ := Option.bind_eq_some_iff.mp named
      split_ifs at h with numeric
      · split at h
        · cases h
          refine .intercalate (by decide) ?_
          simpa using fun b _ => Plain.toDigits (by decide) _
        · cases h
      · cases h
        exact Domain.plain_toAscii ascii

theorem Plain.plainHost {cs host : List Char} (h : plainHost cs = .ok host) : Plain host := by
  rw [Url.plainHost] at h
  split_ifs at h with literal forbidden
  · exact .bracketed h
  · cases h
    refine .percentEncode fun c hc ends => absurd ?_ forbidden
    refine List.any_eq_true.mpr ⟨c, hc, ?_⟩
    rcases endsPath_iff.mp ends with rfl | rfl <;> rfl

theorem Plain.userinfoText (cs : List Char) : Plain (userinfoText cs).toList := by
  have encoded (cs : List Char) : Plain (Url.percentEncode EncodeSet.userinfo cs) :=
    .percentEncode fun c _ => mem_of_endsPath (by decide) (by decide)
  have colon : endsPath ':' = false := rfl
  have at' : endsPath '@' = false := rfl
  simp only [Url.userinfoText]
  split_ifs <;> simp [encoded, colon, at']

def Authority.Plain (a : Authority) : Prop := Url.Plain a.userinfo.toList ∧ Url.Plain a.host.toList

theorem Authority.Plain.text {a : Authority} (h : a.Plain) : Url.Plain a.text.toList := by
  have port : Url.Plain (a.port.elim "" fun n => ":" ++ toString n).toList := by
    cases a.port with
    | none => exact Url.Plain.nil
    | some n =>
      have colon : Url.Plain ":".toList := by decide
      have digits : Url.Plain (toString n).toList := by
        simpa using Plain.toDigits (by decide : 1 < 10) n
      rw [Option.elim_some, String.toList_append]
      exact Plain.append_iff.mpr ⟨colon, digits⟩
  have text : a.text = "//" ++ a.userinfo ++ a.host ++ a.port.elim "" fun n => ":" ++ toString n := by
    rw [Authority.text]
    cases a.port <;> rfl
  simp only [text, String.toList_append, Plain.append_iff]
  exact ⟨⟨⟨by decide, h.1⟩, h.2⟩, port⟩

theorem readAuthority_eq_ok {scheme : String} {cs rest : List Char} {a : Authority}
    (h : readAuthority scheme cs = .ok (a, rest)) :
    let within := splitUserinfo (cs.takeWhile fun c => !endsAuthority scheme c)
    let named := splitHost false within.2
    ∃ host, (webHost named.1 = .ok host ∨ plainHost named.1 = .ok host) ∧
      a.userinfo = within.1.elim "" userinfoText ∧ a.host = String.ofList host ∧
      rest = named.2.dropWhile (· ≠ '\\') ++ cs.dropWhile fun c => !endsAuthority scheme c := by
  simp only [readAuthority, check_eq_ok_iff] at h
  obtain ⟨-, -, h⟩ := h
  split_ifs at h
  · obtain ⟨host, hosted, h⟩ := bind_eq_ok_iff.mp h
    obtain ⟨port, -, ⟨⟩⟩ := bind_eq_ok_iff.mp h
    exact ⟨host, .inl hosted, rfl, rfl, rfl⟩
  · obtain ⟨host, hosted, h⟩ := bind_eq_ok_iff.mp h
    obtain ⟨port, -, ⟨⟩⟩ := bind_eq_ok_iff.mp h
    exact ⟨host, .inr hosted, rfl, rfl, rfl⟩

theorem plain_readAuthority {scheme : String} {cs rest : List Char} {a : Authority}
    (h : readAuthority scheme cs = .ok (a, rest)) : a.Plain := by
  have userinfo (written : Option (List Char)) : Plain (written.elim "" userinfoText).toList := by
    cases written
    · exact Plain.nil
    · exact .userinfoText _
  obtain ⟨host, found, named, hosted, -⟩ := readAuthority_eq_ok h
  have plain : Plain host := found.elim .webHost .plainHost
  exact ⟨named ▸ userinfo _, by simpa [hosted] using plain⟩

theorem readFileAuthority_eq_ok {cs rest : List Char} {a : Authority}
    (h : readFileAuthority cs = .ok (a, rest)) :
    ∃ host n, (host = [] ∨ ∃ named, webHost named = .ok host) ∧ a = ⟨"", String.ofList host, none⟩ ∧
      (rest = cs.drop n ∨ rest = '/' :: cs.drop n) := by
  have close {host : List Char} (n : Nat) (found : host = [] ∨ ∃ named, webHost named = .ok host)
      (h : (if host = [] ∨ host = "localhost".toList then pure (⟨"", "", none⟩, '/' :: cs.drop n)
        else pure (⟨"", String.ofList host, none⟩, cs.drop n)) = (.ok (a, rest) : Except UrlError _)) :
      ∃ host n, (host = [] ∨ ∃ named, webHost named = .ok host) ∧ a = ⟨"", String.ofList host, none⟩ ∧
        (rest = cs.drop n ∨ rest = '/' :: cs.drop n) := by
    split_ifs at h <;> cases h
    · exact ⟨[], n, .inl rfl, rfl, .inr rfl⟩
    · exact ⟨host, n, found, rfl, .inl rfl⟩
  simp only [readFileAuthority] at h
  split_ifs at h
  · cases h
    exact ⟨[], 0, .inl rfl, rfl, .inl rfl⟩
  · obtain ⟨host, ⟨⟩, h⟩ := bind_eq_ok_iff.mp h
    exact close _ (.inl rfl) h
  · obtain ⟨host, hosted, h⟩ := bind_eq_ok_iff.mp h
    exact close _ (.inr ⟨_, hosted⟩) h

theorem plain_readFileAuthority {cs rest : List Char} {a : Authority}
    (h : readFileAuthority cs = .ok (a, rest)) : a.Plain := by
  obtain ⟨host, -, found, rfl, -⟩ := readFileAuthority_eq_ok h
  refine ⟨Plain.nil, ?_⟩
  rcases found with rfl | ⟨named, hosted⟩
  · exact Plain.nil
  · simpa using Plain.webHost hosted

end Url

end VpExchange
