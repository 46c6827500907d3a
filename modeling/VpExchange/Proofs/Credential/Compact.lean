import VpExchange.Proofs.Answer
import VpExchange.Proofs.Presentation
import VpExchange.Text.Split

set_option autoImplicit false

namespace VpExchange

namespace SdJwt

structure IsSeparable (c : SdJwt) : Prop where
  issuerJwt : '~' ∉ c.issuerJwt.toList
  disclosures : ∀ d ∈ c.disclosures, '~' ∉ d.toList
  keyBindingJwt : ∀ k, c.keyBindingJwt = some k → '~' ∉ k.toList

theorem isSeparable_iff {c : SdJwt} : c.IsSeparable ↔ ∀ s ∈ c.segments, '~' ∉ s.toList := by
  constructor
  · rintro ⟨issuerJwt, disclosures, keyBindingJwt⟩ s mem
    simp only [segments, List.mem_cons, List.mem_append, List.not_mem_nil, or_false] at mem
    rcases mem with rfl | mem | rfl
    · exact issuerJwt
    · exact disclosures s mem
    · cases given : c.keyBindingJwt with
      | none => simp
      | some k => exact keyBindingJwt k given
  · intro h
    exact ⟨h _ (by simp [segments]), fun d mem => h d (by simp [segments, mem]),
      fun k given => h k (by simp [segments, given])⟩

theorem splitAt_compact_iff {c : SdJwt} :
    (Text.splitAt '~' c.compact.toList).map String.ofList = c.segments ↔ c.IsSeparable := by
  rw [isSeparable_iff]
  constructor
  · intro pieces s mem
    rw [← pieces] at mem
    obtain ⟨piece, inside, rfl⟩ := List.mem_map.mp mem
    rw [String.toList_ofList]
    exact Text.notMem_of_mem_splitAt inside
  · intro h
    have tilde : "~".toList = ['~'] := rfl
    rw [compact, String.toList_intercalate, tilde,
      Text.splitAt_intercalate (by simp [segments]) (by simpa using h)]
    simp [Function.comp_def]

/-- Cut at its tildes, a compact form gives the issuer's token, the disclosures in order and at the end the
key-binding token, or nothing, exactly if none of these has a tilde itself. Two such credentials with one
compact form have the parts in common. No compact form is blank. -/
theorem compact_comes_apart (c : SdJwt) :
    ((Text.splitAt '~' c.compact.toList).map String.ofList =
      c.issuerJwt :: (c.disclosures ++ [c.keyBindingJwt.getD ""]) ↔ c.IsSeparable) ∧
    (∀ d : SdJwt, c.IsSeparable → d.IsSeparable → c.compact = d.compact →
      c.issuerJwt = d.issuerJwt ∧ c.disclosures = d.disclosures ∧
        c.keyBindingJwt.getD "" = d.keyBindingJwt.getD "") ∧
    ∃ ch ∈ c.compact.toList, Text.isBlank ch = false := by
  refine ⟨splitAt_compact_iff, fun d hc hd same => ?_, ?_⟩
  · have pieces := splitAt_compact_iff.mpr hc
    rw [same, splitAt_compact_iff.mpr hd, segments, segments, List.cons.injEq] at pieces
    obtain ⟨issuerJwt, rest⟩ := pieces
    obtain ⟨disclosures, keyBindingJwt⟩ := List.append_inj' rest rfl
    exact ⟨issuerJwt.symm, disclosures.symm, (List.singleton_inj.mp keyBindingJwt).symm⟩
  · have visible := c.compact_not_blank
    rw [Text.isBlankText, List.all_eq_false] at visible
    simpa using visible

def sampleWith (disclosures : List String) (keyBindingJwt : Option String) : SdJwt where
  credentialId := "pid-1"
  format := Presentation.sdJwtFormat
  issuerJwt := "issuer.signed.jwt"
  disclosures := disclosures
  disclosureHashes := none
  keyBindingJwt := keyBindingJwt
  policies := []

theorem isSeparable_sampleWith {disclosures : List String} {keyBindingJwt : Option String}
    (hd : ∀ d ∈ disclosures, '~' ∉ d.toList) (hk : ∀ k, keyBindingJwt = some k → '~' ∉ k.toList) :
    (sampleWith disclosures keyBindingJwt).IsSeparable :=
  ⟨(by decide : '~' ∉ "issuer.signed.jwt".toList), hd, hk⟩

-- A disclosure without any text is a part of its own; a key-binding token without any is as good as none.
theorem compact_comes_apart_sample :
    (Text.splitAt '~' (sampleWith ["", "WyJzYWx0Il0"] none).compact.toList).map String.ofList =
      ["issuer.signed.jwt", "", "WyJzYWx0Il0", ""] ∧
    (sampleWith ["", "WyJzYWx0Il0"] none).compact = (sampleWith ["", "WyJzYWx0Il0"] (some "")).compact ∧
    (sampleWith ["", "WyJzYWx0Il0"] none).disclosures =
      (sampleWith ["", "WyJzYWx0Il0"] (some "")).disclosures := by
  have absent : (sampleWith ["", "WyJzYWx0Il0"] none).IsSeparable :=
    isSeparable_sampleWith (by decide) nofun
  have empty : (sampleWith ["", "WyJzYWx0Il0"] (some "")).IsSeparable :=
    isSeparable_sampleWith (by decide) (by rintro _ ⟨⟩; decide)
  obtain ⟨parts, apart, -⟩ := compact_comes_apart (sampleWith ["", "WyJzYWx0Il0"] none)
  exact ⟨parts.mpr absent, rfl, (apart _ absent empty rfl).2.1⟩

theorem compact_eq (c : SdJwt) : c.compact =
    c.disclosures.foldl (fun front d => front ++ "~" ++ d) c.issuerJwt ++ "~" ++ c.keyBindingJwt.getD "" := by
  obtain ⟨-, -, jwt, ds, -, k, -⟩ := c
  show String.intercalate "~" (jwt :: (ds ++ [k.getD ""])) = _
  induction ds generalizing jwt with
  | nil => simp [String.append_assoc]
  | cons d ds ih =>
    have longer := ih (jwt ++ "~" ++ d)
    rw [String.intercalate_cons_of_ne_nil (by simp)] at longer
    rw [List.cons_append, String.intercalate_cons_of_ne_nil (by simp),
      String.intercalate_cons_of_ne_nil (by simp), List.foldl_cons, ← longer]
    simp only [String.append_assoc]

def EndsInTilde (token : String) : Prop := ∃ front, token = front ++ "~"

theorem endsInTilde_compact_iff {c : SdJwt} (h : c.IsSeparable) :
    EndsInTilde c.compact ↔ c.keyBindingJwt.getD "" = "" := by
  rw [compact_eq]
  constructor
  · rintro ⟨front, same⟩
    rcases List.eq_nil_or_concat' (c.keyBindingJwt.getD "").toList with empty | ⟨init, last, chars⟩
    · exact String.toList_inj.mp empty
    · have ends := congrArg (fun s => s.toList.getLast?) same
      have tilde : last = '~' := by simpa [chars, List.getLast?_cons] using ends
      have free := isSeparable_iff.mp h (c.keyBindingJwt.getD "") (by simp [segments])
      exact absurd (by simp [chars, tilde]) free
  · intro unbound
    exact ⟨_, by rw [unbound, String.append_empty]⟩

end SdJwt

namespace Answer.SdJwt

/-- An answer says that the holder's key is bound exactly if its token does not end in a tilde, unless the
credential has a key-binding token without any text: then it says so, and the token ends in a tilde. -/
theorem binding_shown {b : Backend} {c : AnswerCommand SdJwt} {t : Traced Answer}
    (answered : (answer b c).result = .ok t) :
    ∃ credential token, Answer.credential (load b) c = .ok credential ∧
      t.answer.payload.get? "vp_token" = some (.str token) ∧
      (credential.IsSeparable →
        (credential.keyBindingJwt ≠ some "" →
          (t.answer.presentation.holderBinding = true ↔ ¬SdJwt.EndsInTilde token)) ∧
        (credential.keyBindingJwt = some "" →
          t.answer.presentation.holderBinding = true ∧ SdJwt.EndsInTilde token)) := by
  obtain ⟨a, assembled, rfl⟩ := answer_eq_ok_iff.mp answered
  obtain ⟨-, credential, source, -, rfl⟩ := assemble_eq_ok_iff.mp assembled
  refine ⟨credential, credential.compact, source, get?_vpToken, fun separable => ?_⟩
  rw [SdJwt.endsInTilde_compact_iff separable]
  show (_ → (credential.keyBindingJwt.isSome = true ↔ _)) ∧ (_ → credential.keyBindingJwt.isSome = true ∧ _)
  cases credential.keyBindingJwt with
  | none => simp
  | some k => simp

def sampleCommand (keyBindingJwt : Option String) : AnswerCommand SdJwt :=
  ⟨⟨"request-1", .baseline, .directPost⟩, none, some (.sampleWith ["WyJzYWx0Il0"] keyBindingJwt), none,
    false⟩

theorem answer_sampleCommand (keyBindingJwt : Option String) : ∃ t,
    (answer ⟨Store.empty, Outage.none⟩ (sampleCommand keyBindingJwt)).result = .ok t ∧
      t.answer.payload.get? "vp_token" =
        some (.str (SdJwt.sampleWith ["WyJzYWx0Il0"] keyBindingJwt).compact) ∧
      t.answer.presentation.holderBinding = keyBindingJwt.isSome := by
  have satisfied : Satisfied none (SdJwt.sampleWith ["WyJzYWx0Il0"] keyBindingJwt).policies := nofun
  exact ⟨_, answer_eq_ok_iff.mpr ⟨_, assemble_eq_ok_iff.mpr ⟨rfl, _, rfl, satisfied, rfl⟩, rfl⟩,
    get?_vpToken, rfl⟩

theorem binding_shown_sample : ∃ t token,
    (answer ⟨Store.empty, Outage.none⟩ (sampleCommand (some "key.binding.jwt"))).result = .ok t ∧
    t.answer.payload.get? "vp_token" = some (.str token) ∧
    t.answer.presentation.holderBinding = true ∧ ¬SdJwt.EndsInTilde token := by
  obtain ⟨t, answered, -, bound⟩ := answer_sampleCommand (some "key.binding.jwt")
  obtain ⟨_, token, ⟨⟩, shown, agrees⟩ := binding_shown answered
  have separable : (SdJwt.sampleWith ["WyJzYWx0Il0"] (some "key.binding.jwt")).IsSeparable :=
    SdJwt.isSeparable_sampleWith (by decide) (by rintro _ ⟨⟩; decide)
  exact ⟨t, token, answered, shown, bound, ((agrees separable).1 (by decide)).mp bound⟩

/-- The holder's key is said to be bound, and no token that binds it follows the last tilde. -/
theorem empty_binding_claimed : ∃ t token,
    (answer ⟨Store.empty, Outage.none⟩ (sampleCommand (some ""))).result = .ok t ∧
    (SdJwt.sampleWith ["WyJzYWx0Il0"] (some "")).IsSeparable ∧
    t.answer.payload.get? "vp_token" = some (.str token) ∧ token = "issuer.signed.jwt~WyJzYWx0Il0~" ∧
    t.answer.presentation.holderBinding = true ∧ SdJwt.EndsInTilde token := by
  obtain ⟨t, answered, shown, bound⟩ := answer_sampleCommand (some "")
  exact ⟨t, _, answered, SdJwt.isSeparable_sampleWith (by decide) (by rintro _ ⟨⟩; decide), shown,
    by decide, bound, "issuer.signed.jwt~WyJzYWx0Il0", by decide⟩

end Answer.SdJwt

end VpExchange
