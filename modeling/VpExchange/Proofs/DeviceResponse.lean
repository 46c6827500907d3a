import VpExchange.Proofs.Base64.Lenient
import VpExchange.Proofs.Confidentiality

set_option autoImplicit false

namespace VpExchange.Answer.Mdoc

/-- Two commands, each to a backend of its own, that come to the same document, with device responses that
are spellings of the same bytes. -/
structure Respelled (b b' : Backend) (c c' : AnswerCommand Mdoc) : Prop where
  stores : b.redacted = b'.redacted
  commands : c.redacted Mdoc.redacted = c'.redacted Mdoc.redacted
  bytes : ∀ k k', credential (load b) c = .ok k → credential (load b') c' = .ok k' →
    ∃ bs, Base64.Spells bs (Text.trimChars k.deviceResponse.toList) ∧
      Base64.Spells bs (Text.trimChars k'.deviceResponse.toList)

/-- What a document shows besides the token: digest, hashes, claims and verdict among it. -/
def Document.withoutToken (d : Document) : Document :=
  { d with answer := { d.answer with
    presentation := { d.answer.presentation with vpToken := .null }
    payload := [] } }

theorem withoutToken_presented {c c' : AnswerCommand Mdoc} {k k' : VpExchange.Mdoc}
    (commands : c.redacted Mdoc.redacted = c'.redacted Mdoc.redacted)
    (documents : k.redacted = k'.redacted) (claims : List ClaimEvaluation) (bytes : Bytes)
    (verdict : Option TrustVerdict) :
    (presented c k claims bytes verdict).withoutToken =
      (presented c' k' claims bytes verdict).withoutToken := by
  have bare (c : AnswerCommand Mdoc) (k : VpExchange.Mdoc) :
      (presented (c.redacted Mdoc.redacted) k.redacted claims bytes verdict).withoutToken =
        (presented c k claims bytes verdict).withoutToken := rfl
  rw [← bare c, ← bare c', commands, documents]

theorem success_withoutToken (d : Document) : success d.withoutToken = success d := rfl

variable {b b' : Backend} {c c' : AnswerCommand Mdoc}

theorem Respelled.map_assemble (r : Respelled b b' c c') (trust : TrustIndex) (pointers : List String) :
    (assemble b trust c pointers).result.map Document.withoutToken =
      (assemble b' trust c' pointers).result.map Document.withoutToken := by
  have exchange : c.exchange = c'.exchange := (congrArg AnswerCommand.exchange r.commands :)
  have policy : c.policy = c'.policy := (congrArg AnswerCommand.policy r.commands :)
  simp only [result_assemble, map_bind_except, exchange, policy, Encryption.ensure_eq r.stores]
  congr 1
  funext _
  apply bind_eq_of_map_eq (map_credential load_redacted r.stores r.commands)
  intro k k' found found' same
  have claims : k.claims = k'.claims := (congrArg VpExchange.Mdoc.claims same :)
  have policies : k.policies = k'.policies := (congrArg VpExchange.Mdoc.policies same :)
  obtain ⟨bs, spells, spells'⟩ := r.bytes k k' found found'
  rw [claims, policies, deviceResponse_eq_ok_iff.mpr (Base64.decodeLenient?_eq_some_iff.mpr spells),
    deviceResponse_eq_ok_iff.mpr (Base64.decodeLenient?_eq_some_iff.mpr spells')]
  congr 1
  funext evaluated
  show ((trust.evaluate c'.policy k'.policies).result.map _).map _ =
    ((trust.evaluate c'.policy k'.policies).result.map _).map _
  cases (trust.evaluate c'.policy k'.policies).result with
  | error r => rfl
  | ok verdict =>
    exact congrArg Except.ok (withoutToken_presented r.commands same evaluated bs verdict)

def shown (t : Traced Document) : Document × Option Trace := (t.answer.withoutToken, t.trace)

theorem Respelled.answer_eq (r : Respelled b b' c c') (trust : TrustIndex) (pointers : List String) :
    (answer b trust c pointers).result.map shown = (answer b' trust c' pointers).result.map shown ∧
      (answer b trust c pointers).event = (answer b' trust c' pointers).event := by
  have exchange : c.exchange = c'.exchange := (congrArg AnswerCommand.exchange r.commands :)
  have verbose : c.verbose = c'.verbose := (congrArg AnswerCommand.verbose r.commands :)
  have traced (d : Document) : shown (Traced.of c'.verbose trace d.withoutToken) =
      shown (Traced.of c'.verbose trace d) := rfl
  rw [answer, answer, exchange, verbose]
  exact Logged.shown_map_of_redacted shown (fun t => success t.answer) traced success_withoutToken
    (r.map_assemble trust pointers) _

/-- Base64 is read leniently, and yet exactly: a text is read as the bytes that it spells, and it spells
those of no second string. Answers with two spellings of one device response are refused alike, or show
the same documents but for the token. -/
theorem spellings_interchangeable :
    (∀ s bs, Base64.decodeLenient? s = some bs ↔ Base64.Spells bs (Text.trimChars s.toList)) ∧
    (∀ cs bs bs', Base64.Spells bs cs → Base64.Spells bs' cs → bs = bs') ∧
    ∀ b b' c c', Respelled b b' c c' → ∀ trust pointers,
      (answer b trust c pointers).result.map shown = (answer b' trust c' pointers).result.map shown ∧
        (answer b trust c pointers).event = (answer b' trust c' pointers).event :=
  ⟨fun _ _ => Base64.decodeLenient?_eq_some_iff, fun _ _ _ h h' => h.unique h',
    fun _ _ _ _ r => r.answer_eq⟩

theorem spellings_interchangeable_sample : ∃ t t',
    (answer ⟨Store.empty, Outage.none⟩ Config.default.trustIndex (sampleDocumentAnswer "_-8") []).result =
      .ok t ∧
    (answer ⟨Store.empty, Outage.none⟩ Config.default.trustIndex
      (sampleDocumentAnswer " /+8=\n") []).result = .ok t' ∧
    t.answer.digest = t'.answer.digest ∧ t.answer.claims = t'.answer.claims ∧
    t.answer.answer.presentation.disclosureHashes = t'.answer.answer.presentation.disclosureHashes := by
  have read : Base64.decodeLenient? "_-8" = some [0xff, 0xef] := by decide
  have read' : Base64.decodeLenient? " /+8=\n" = some [0xff, 0xef] := by decide
  obtain ⟨t, answered, -⟩ := answer_sampleDocument read
  obtain ⟨t', answered', -⟩ := answer_sampleDocument read'
  have respelled : Respelled ⟨Store.empty, Outage.none⟩ ⟨Store.empty, Outage.none⟩
      (sampleDocumentAnswer "_-8") (sampleDocumentAnswer " /+8=\n") := by
    refine ⟨rfl, rfl, ?_⟩
    rintro _ _ ⟨⟩ ⟨⟩
    exact ⟨_, Base64.decodeLenient?_eq_some_iff.mp read, Base64.decodeLenient?_eq_some_iff.mp read'⟩
  have same := (spellings_interchangeable.2.2 _ _ _ _ respelled Config.default.trustIndex []).1
  rw [answered, answered'] at same
  have shows : t.answer.withoutToken = t'.answer.withoutToken := congrArg Prod.fst (Except.ok.inj same)
  exact ⟨t, t', answered, answered', (congrArg Document.digest shows :),
    (congrArg Document.claims shows :),
    (congrArg (fun d => d.answer.presentation.disclosureHashes) shows :)⟩

end VpExchange.Answer.Mdoc
