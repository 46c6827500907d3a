import VpExchange.Proofs.Acceptance.Documents
import VpExchange.Proofs.Encryption.Enforcement
import VpExchange.Proofs.Redaction
import VpExchange.Proofs.Session.Telemetry

set_option autoImplicit false

namespace VpExchange

theorem bind_eq_of_map_eq {ε κ β : Type} {redact : κ → κ} {x x' : Except ε κ} {f f' : κ → Except ε β}
    (same : x.map redact = x'.map redact)
    (h : ∀ k k', x = .ok k → x' = .ok k' → redact k = redact k' → f k = f' k') :
    x >>= f = x' >>= f' := by
  rcases alike_of_map_eq same with ⟨e, rfl, rfl⟩ | ⟨k, k', rfl, rfl, equal⟩
  · rfl
  · exact h k k' rfl rfl equal

theorem map_bind_except {ε κ α β : Type} (x : Except ε κ) (f : κ → Except ε α) (g : α → β) :
    (x >>= f).map g = x >>= fun k => (f k).map g := by
  cases x <;> rfl

theorem Encryption.ensure_eq {b b' : Backend} (stores : b.redacted = b'.redacted) (x : Exchange) :
    ensure b x = ensure b' x := by
  have redacted (b : Backend) : ensure b.redacted x = ensure b x := rfl
  rw [← redacted b, stores, redacted b']

namespace Answer

def redacted (a : Answer) : Answer where
  exchange := a.exchange
  presetId := a.presetId
  presentation := { a.presentation with
    vpToken := .null
    disclosureHashes := a.presentation.disclosureHashes.map fun _ => "" }
  payload := []

namespace SdJwt

theorem success_redacted (a : Answer) : success a.redacted = success a := by
  simp [success, redacted]

theorem masked_trace (a : Answer) :
    (trace a.redacted).masked ["disclosureHashes"] = (trace a).masked ["disclosureHashes"] := by
  simp only [trace, Trace.masked_withStep, TraceStep.masked_withAttribute, List.mem_singleton, if_true]
  rfl

theorem redacted_presented (c : AnswerCommand SdJwt) (k : SdJwt) (verdict : Option TrustVerdict) :
    (presented (c.redacted SdJwt.redacted) k.redacted verdict).redacted =
      (presented c k verdict).redacted := by
  simp [presented, redacted, presentation, AnswerCommand.redacted, VpExchange.SdJwt.redacted,
    Presentation.length_hashes, List.map_const']

theorem load_redacted (b : Backend) (id : String) :
    load b.redacted id = (load b id).map SdJwt.redacted := by
  rw [load, load, Backend.walletPreset_redacted]
  cases b.walletPreset id with
  | error cause => rfl
  | ok found => cases found <;> rfl

theorem map_assemble {b b' : Backend} {c c' : AnswerCommand SdJwt} (stores : b.redacted = b'.redacted)
    (commands : c.redacted SdJwt.redacted = c'.redacted SdJwt.redacted) :
    (assemble b c).result.map redacted = (assemble b' c').result.map redacted := by
  have exchange : c.exchange = c'.exchange := (congrArg AnswerCommand.exchange commands :)
  have policy : c.policy = c'.policy := (congrArg AnswerCommand.policy commands :)
  simp only [result_assemble, map_bind_except, exchange, Encryption.ensure_eq stores]
  congr 1
  funext _
  apply bind_eq_of_map_eq (map_credential load_redacted stores commands)
  intro k k' _ _ same
  have policies : k.policies = k'.policies := (congrArg VpExchange.SdJwt.policies same :)
  rw [policy, policies]
  cases trustDecision c'.policy k'.policies with
  | error r => rfl
  | ok verdict =>
    show Except.ok (presented c k verdict).redacted = Except.ok (presented c' k' verdict).redacted
    rw [← redacted_presented c k, ← redacted_presented c' k', commands, same]

theorem indistinct {b b' : Backend} {c c' : AnswerCommand SdJwt} (stores : b.redacted = b'.redacted)
    (commands : c.redacted SdJwt.redacted = c'.redacted SdJwt.redacted) :
    Reported.Indistinct ["disclosureHashes"] (answer b c) (answer b' c') := by
  have exchange : c.exchange = c'.exchange := (congrArg AnswerCommand.exchange commands :)
  have verbose : c.verbose = c'.verbose := (congrArg AnswerCommand.verbose commands :)
  rw [answer, answer, exchange, verbose]
  exact Logged.indistinct_of_redacted masked_trace success_redacted (map_assemble stores commands) _ _

end SdJwt

namespace Mdoc

def Document.redacted (d : Document) : Document := { d with answer := d.answer.redacted, digest := "" }

theorem success_redacted (d : Document) : success d.redacted = success d := rfl

theorem masked_trace (d : Document) :
    (trace d.redacted).masked ["digest"] = (trace d).masked ["digest"] := by
  simp only [trace, Trace.masked_withStep, TraceStep.masked_withAttribute,
    TraceStep.masked_withAttribute?, List.mem_singleton, if_true]
  rfl

theorem redacted_presented (c : AnswerCommand Mdoc) (k : Mdoc) (claims : List ClaimEvaluation)
    (bytes bytes' : Bytes) (verdict : Option TrustVerdict) :
    (presented (c.redacted Mdoc.redacted) k.redacted claims bytes' verdict).redacted =
      (presented c k claims bytes verdict).redacted := by
  simp [presented, Document.redacted, redacted, presentation, AnswerCommand.redacted,
    VpExchange.Mdoc.redacted]

theorem load_redacted (b : Backend) (id : String) :
    load b.redacted id = (load b id).map Mdoc.redacted := by
  rw [load, load, Backend.devicePreset_redacted]
  cases b.devicePreset id with
  | error cause => rfl
  | ok found => cases found <;> rfl

def Decodable (b : Backend) (c : AnswerCommand Mdoc) : Prop :=
  ∀ k, credential (load b) c = .ok k → ∃ bytes, deviceResponse k = .ok bytes

theorem map_assemble {b b' : Backend} {c c' : AnswerCommand Mdoc} (stores : b.redacted = b'.redacted)
    (commands : c.redacted Mdoc.redacted = c'.redacted Mdoc.redacted) (decodable : Decodable b c)
    (decodable' : Decodable b' c') (trust : TrustIndex) (pointers : List String) :
    (assemble b trust c pointers).result.map Document.redacted =
      (assemble b' trust c' pointers).result.map Document.redacted := by
  have exchange : c.exchange = c'.exchange := (congrArg AnswerCommand.exchange commands :)
  have policy : c.policy = c'.policy := (congrArg AnswerCommand.policy commands :)
  simp only [result_assemble, map_bind_except, exchange, Encryption.ensure_eq stores]
  congr 1
  funext _
  apply bind_eq_of_map_eq (map_credential load_redacted stores commands)
  intro k k' found found' same
  have claims : k.claims = k'.claims := (congrArg VpExchange.Mdoc.claims same :)
  have policies : k.policies = k'.policies := (congrArg VpExchange.Mdoc.policies same :)
  obtain ⟨bytes, decoded⟩ := decodable k found
  obtain ⟨bytes', decoded'⟩ := decodable' k' found'
  rw [claims, policies, policy, decoded, decoded']
  congr 1
  funext evaluated
  cases (trust.evaluate c'.policy k'.policies).result with
  | error r => rfl
  | ok verdict =>
    show Except.ok (presented c k evaluated bytes verdict).redacted =
      Except.ok (presented c' k' evaluated bytes' verdict).redacted
    rw [← redacted_presented c k evaluated bytes [], ← redacted_presented c' k' evaluated bytes' [],
      commands, same]

theorem indistinct {b b' : Backend} {c c' : AnswerCommand Mdoc} (stores : b.redacted = b'.redacted)
    (commands : c.redacted Mdoc.redacted = c'.redacted Mdoc.redacted) (decodable : Decodable b c)
    (decodable' : Decodable b' c') (trust : TrustIndex) (pointers : List String) :
    Reported.Indistinct ["digest"] (answer b trust c pointers) (answer b' trust c' pointers) := by
  have exchange : c.exchange = c'.exchange := (congrArg AnswerCommand.exchange commands :)
  have verbose : c.verbose = c'.verbose := (congrArg AnswerCommand.verbose commands :)
  rw [answer, answer, exchange, verbose]
  exact Logged.indistinct_of_redacted masked_trace success_redacted
    (map_assemble stores commands decodable decodable' trust pointers) _ _

end Mdoc

end Answer

namespace Submission

def redacted (s : Submission) : Submission :=
  { s with payload := [], disclosures := [], keyBindingJwt := s.keyBindingJwt.map fun _ => "" }

theorem load_redacted (b : Backend) (id : String) :
    (load b.redacted id).map redacted = (load b id).map redacted := by
  rw [load, load, Backend.presentation_redacted]
  cases b.presentation id with
  | error cause => rfl
  | ok found =>
    cases found with
    | none => rfl
    | some p =>
      show Except.ok (redacted (ofStored p.redacted)) = Except.ok (redacted (ofStored p))
      simp [redacted, ofStored, StoredPresentation.redacted, Function.comp_def]

theorem redacted_ofInline (p : InlinePresentation) (payload payload' : Members) (decrypted : Bool) :
    redacted (ofInline p.redacted payload' decrypted) = redacted (ofInline p payload decrypted) := by
  simp [redacted, ofInline, InlinePresentation.redacted, Function.comp_def]

theorem receive_redacted (b : Backend) (x : Exchange) (p : InlinePresentation) :
    (receive b.redacted x p.redacted).result.map redacted = (receive b x p).result.map redacted := by
  have token : p.redacted.vpToken = p.vpToken.redacted := rfl
  rw [receive, receive, token]
  cases p.vpToken with
  | plain payload =>
    cases x.isEncrypted with
    | true => rfl
    | false => exact congrArg Except.ok (redacted_ofInline p payload [] false)
  | encrypted token =>
    cases x.isEncrypted with
    | false => rfl
    | true =>
      have opened : Encryption.decrypt b.redacted = Encryption.decrypt b := rfl
      simp only [Sent.redacted, opened, Logged.debug, Logged.result_bind, Logged.result_write,
        Logged.result_pure]
      cases (Encryption.decrypt b x.requestId x.profile token).result with
      | error r => rfl
      | ok o => exact congrArg Except.ok (redacted_ofInline p o.payload o.payload true)

theorem resolve_redacted (b : Backend) (c : AcceptanceCommand) :
    (resolve b.redacted c.redacted).result.map redacted = (resolve b c).result.map redacted := by
  obtain ⟨requestId, profile, mode, storedId, given, policy, dcql, verbose⟩ := c
  cases storedId with
  | none =>
    cases given with
    | none => rfl
    | some p => exact receive_redacted b _ p
  | some id =>
    cases given with
    | none => exact load_redacted b id
    | some p => rfl

end Submission

namespace Acceptance

def redacted (a : Acceptance) : Acceptance where
  exchange := a.exchange
  presentation := { a.presentation with vpToken := .null, disclosureHashes := [] }
  evidence := { a.evidence with
    vpTokenHash := ""
    keyBindingJwtHash := a.evidence.keyBindingJwtHash.map fun _ => ""
    disclosureHashes := []
    presentationSubmission := [] }

theorem success_redacted (a : Acceptance) : success a.redacted = success a := rfl

def hashKeys : List String := ["vpTokenHash", "keyBindingJwtHash", "disclosureHashes"]

theorem masked_trace (a : Acceptance) :
    (trace a.redacted).masked hashKeys = (trace a).masked hashKeys := by
  simp only [trace, Trace.masked_withStep, TraceStep.masked_withAttribute,
    TraceStep.masked_withAttribute?, redacted, Option.map_map]
  simp [hashKeys, Function.comp_def]

theorem redacted_presented (config : Config) (c : AcceptanceCommand) (s : Submission)
    (token token' : String) (verdict : Option TrustVerdict) :
    redacted (presented config c.redacted s.redacted token' verdict) =
      redacted (presented config c s token verdict) := by
  simp [redacted, presented, Submission.presentation, Submission.evidence, Submission.redacted,
    AcceptanceCommand.redacted, AcceptanceCommand.exchange, Function.comp_def]

theorem map_assemble {b b' : Backend} {c c' : AcceptanceCommand} (stores : b.redacted = b'.redacted)
    (commands : c.redacted = c'.redacted) (token : ∀ s, Submission.Admitted b c s → s.HasToken)
    (token' : ∀ s, Submission.Admitted b' c' s → s.HasToken) (config : Config) :
    (assemble config b c).result.map redacted = (assemble config b' c').result.map redacted := by
  have policy : c.policy = c'.policy := (congrArg AcceptanceCommand.policy commands :)
  have source : (Submission.resolve b c).result.map Submission.redacted =
      (Submission.resolve b' c').result.map Submission.redacted := by
    rw [← Submission.resolve_redacted b, ← Submission.resolve_redacted b', stores, commands]
  simp only [result_assemble, map_bind_except]
  apply bind_eq_of_map_eq source
  intro s s' resolved resolved' same
  have policies : s.policies = s'.policies := (congrArg Submission.policies same :)
  obtain ⟨t, found⟩ := Submission.hasToken_iff.mp (token s (Submission.resolve_eq_ok_iff.mp resolved))
  obtain ⟨t', found'⟩ :=
    Submission.hasToken_iff.mp (token' s' (Submission.resolve_eq_ok_iff.mp resolved'))
  rw [policies, policy, Submission.vpToken_eq_ok_iff.mpr found, Submission.vpToken_eq_ok_iff.mpr found']
  congr 1
  funext verdict
  show Except.ok (redacted (presented config c s t verdict)) =
    Except.ok (redacted (presented config c' s' t' verdict))
  rw [← redacted_presented config c s t "", ← redacted_presented config c' s' t' "", commands, same]

theorem indistinct {b b' : Backend} {c c' : AcceptanceCommand} (stores : b.redacted = b'.redacted)
    (commands : c.redacted = c'.redacted) (token : ∀ s, Submission.Admitted b c s → s.HasToken)
    (token' : ∀ s, Submission.Admitted b' c' s → s.HasToken) (config : Config) :
    Reported.Indistinct hashKeys (c.check config b) (c'.check config b') := by
  have exchange : c.exchange = c'.exchange := (congrArg AcceptanceCommand.exchange commands :)
  have verbose : c.verbose = c'.verbose := (congrArg AcceptanceCommand.verbose commands :)
  rw [AcceptanceCommand.check, AcceptanceCommand.check, exchange, verbose]
  exact Logged.indistinct_of_redacted masked_trace success_redacted
    (map_assemble stores commands token token' config) _ _

end Acceptance

def Clock.elapsed (clock : Clock) : Nat := clock.now.2.now.1 - clock.now.1

def Delivery.redacted (d : Delivery) : Delivery :=
  { d with envelope := d.envelope.map fun v => { v with token := "" } }

theorem Delivery.trace_redacted (d : Delivery) : d.redacted.trace = d.trace := by
  obtain ⟨exchange, uri, envelope, latency⟩ := d
  cases envelope <;> rfl

theorem Delivery.event_redacted (d : Delivery) : d.redacted.event = d.event := by
  obtain ⟨exchange, uri, envelope, latency⟩ := d
  cases envelope <;> rfl

namespace Encryption

theorem map_redacted_encrypt (b : Backend) (x : Exchange) (uri : Option Url) (payload : Members)
    (e : Entropy) (clock : Clock) :
    (encrypt b x uri payload e clock).1.result.map Delivery.redacted =
      if x.isEncrypted then (b.recipient x.profile).map fun r =>
        ⟨x, uri, some ⟨r.1.keyId, ""⟩, clock.elapsed⟩
      else .ok ⟨x, uri, none, 0⟩ := by
  rw [result_encrypt]
  split_ifs
  · cases recipient : b.recipient x.profile with
    | error r =>
      rw [envelop_of_refused recipient]
      rfl
    | ok found =>
      obtain ⟨token, made⟩ := envelop_of_recipient recipient payload e
      rw [made]
      rfl
  · rfl

theorem shown_encrypt {b b' : Backend} (stores : b.redacted = b'.redacted) (x : Exchange)
    (uri : Option Url) (payload payload' : Members) (e e' : Entropy) {clock clock' : Clock}
    (timed : clock.elapsed = clock'.elapsed) :
    (encrypt b x uri payload e clock).1.result.map Delivery.trace =
      (encrypt b' x uri payload' e' clock').1.result.map Delivery.trace ∧
    (encrypt b x uri payload e clock).1.event = (encrypt b' x uri payload' e' clock').1.event := by
  have recipient (b : Backend) : b.redacted.recipient x.profile = b.recipient x.profile := rfl
  have same : (encrypt b x uri payload e clock).1.result.map Delivery.redacted =
      (encrypt b' x uri payload' e' clock').1.result.map Delivery.redacted := by
    rw [map_redacted_encrypt, map_redacted_encrypt, timed, ← recipient b, ← recipient b', stores]
  obtain ⟨y, reported⟩ := encrypt_eq_reported b x uri payload e clock
  obtain ⟨y', reported'⟩ := encrypt_eq_reported b' x uri payload' e' clock'
  rw [reported, reported'] at same ⊢
  exact Logged.shown_of_redacted Delivery.trace Delivery.event Delivery.trace_redacted
    Delivery.event_redacted same (failure x)

end Encryption

/-- Two runs over stores that differ in tokens only, of commands that differ in tokens only: both wallets,
the verifier and the encryption of a payload publish the same, but for the hashes in their traces. A
device response has to be decodable in both runs, and a response has to have a token in both. Payloads
and randomness may differ altogether, if encrypting takes the same time. -/
theorem published_without_tokens {b b' : Backend} (stores : b.redacted = b'.redacted) :
    (∀ c c' : AnswerCommand SdJwt, c.redacted SdJwt.redacted = c'.redacted SdJwt.redacted →
      Reported.Indistinct ["disclosureHashes"] (Answer.SdJwt.answer b c) (Answer.SdJwt.answer b' c')) ∧
    (∀ trust (c c' : AnswerCommand Mdoc) pointers,
      c.redacted Mdoc.redacted = c'.redacted Mdoc.redacted →
      Answer.Mdoc.Decodable b c → Answer.Mdoc.Decodable b' c' →
      Reported.Indistinct ["digest"] (Answer.Mdoc.answer b trust c pointers)
        (Answer.Mdoc.answer b' trust c' pointers)) ∧
    (∀ config (c c' : AcceptanceCommand), c.redacted = c'.redacted →
      (∀ s, Submission.Admitted b c s → s.HasToken) → (∀ s, Submission.Admitted b' c' s → s.HasToken) →
      Reported.Indistinct ["vpTokenHash", "keyBindingJwtHash", "disclosureHashes"] (c.check config b)
        (c'.check config b')) ∧
    ∀ x uri payload payload' e e' (clock clock' : Clock), clock.elapsed = clock'.elapsed →
      (Encryption.encrypt b x uri payload e clock).1.result.map Delivery.trace =
        (Encryption.encrypt b' x uri payload' e' clock').1.result.map Delivery.trace ∧
      (Encryption.encrypt b x uri payload e clock).1.event =
        (Encryption.encrypt b' x uri payload' e' clock').1.event := by
  refine ⟨?_, ?_, ?_, ?_⟩
  · intro c c' commands
    exact Answer.SdJwt.indistinct stores commands
  · intro trust c c' pointers commands decodable decodable'
    exact Answer.Mdoc.indistinct stores commands decodable decodable' trust pointers
  · intro config c c' commands token token'
    exact Acceptance.indistinct stores commands token token' config
  · intro x uri payload payload' e e' clock clock' timed
    exact Encryption.shown_encrypt stores x uri payload payload' e e' timed

def sampleIssued (issuerJwt disclosure deviceResponse token : String) : Backend where
  store := Encryption.sampleBackend.store
    |>.putWalletPreset { sampleWalletPreset with credential :=
        ⟨"pid-1", Presentation.sdJwtFormat, issuerJwt, [disclosure], none, none, []⟩ }
    |>.putDevicePreset { sampleDevicePreset with credential := sampleDocument deviceResponse }
    |>.putPresentation { samplePresentation with vpToken := [("vp_token", .str token)] }
  outage := Outage.none

theorem published_without_tokens_sample :
    let b := sampleIssued "issuer.signed.jwt" "WyJzYWx0Il0" "oA" "token"
    let b' := sampleIssued "another.signed.jwt" "WyJzYWx0IiwxXQ" "oQ" "another token"
    let x : Exchange := ⟨"request-1", .haip, .directPostJwt⟩
    Reported.Indistinct ["disclosureHashes"]
      (Answer.SdJwt.answer b ((sampleNoSource SdJwt).withPreset "wallet-1"))
      (Answer.SdJwt.answer b' ((sampleNoSource SdJwt).withPreset "wallet-1")) ∧
    Reported.Indistinct ["digest"]
      (Answer.Mdoc.answer b [] ((sampleNoSource Mdoc).withPreset "device-1") [])
      (Answer.Mdoc.answer b' [] ((sampleNoSource Mdoc).withPreset "device-1") []) ∧
    Reported.Indistinct ["vpTokenHash", "keyBindingJwtHash", "disclosureHashes"]
      ((sampleNothingSent.withStored "presentation-1").check Config.default b)
      ((sampleNothingSent.withStored "presentation-1").check Config.default b') ∧
    (Encryption.encrypt b x none sampleToken (Entropy.ofBytes []) ⟨[]⟩).1.event =
      (Encryption.encrypt b' x none [] (Entropy.ofBytes [2]) ⟨[]⟩).1.event := by
  intro b b' x
  have stores : b.redacted = b'.redacted := rfl
  have decodable : Answer.Mdoc.Decodable b ((sampleNoSource Mdoc).withPreset "device-1") := by
    rintro _ ⟨⟩
    exact ⟨[0xa0], Answer.Mdoc.deviceResponse_eq_ok_iff.mpr (by decide)⟩
  have decodable' : Answer.Mdoc.Decodable b' ((sampleNoSource Mdoc).withPreset "device-1") := by
    rintro _ ⟨⟩
    exact ⟨[0xa1], Answer.Mdoc.deviceResponse_eq_ok_iff.mpr (by decide)⟩
  have token (s : Submission)
      (admitted : Submission.Admitted b (sampleNothingSent.withStored "presentation-1") s) :
      s.HasToken := by
    cases Submission.resolve_eq_ok_iff.mpr admitted
    exact ⟨"token", rfl, 't', by decide, by decide⟩
  have token' (s : Submission)
      (admitted : Submission.Admitted b' (sampleNothingSent.withStored "presentation-1") s) :
      s.HasToken := by
    cases Submission.resolve_eq_ok_iff.mpr admitted
    exact ⟨"another token", rfl, 'a', by decide, by decide⟩
  obtain ⟨wallet, document, verifier, encryption⟩ := published_without_tokens stores
  exact ⟨wallet _ _ rfl, document [] _ _ [] rfl decodable decodable',
    verifier Config.default _ _ rfl token token', (encryption x none sampleToken [] _ _ ⟨[]⟩ ⟨[]⟩ rfl).2⟩

end VpExchange
