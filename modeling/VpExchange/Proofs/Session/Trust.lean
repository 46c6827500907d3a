import VpExchange.Proofs.Acceptance.Documents
import VpExchange.Session.Run

set_option autoImplicit false

namespace VpExchange

theorem verdictOf_eq_none_iff {requested : Option String} : verdictOf requested = none ↔
    ∀ policy, requested = some policy → Text.isBlankText policy = true := by
  rw [verdictOf, Option.map_eq_none_iff, requestedPolicy_eq_none_iff]

theorem TrustVerdict.label_ofPolicy (policy : String) : (ofPolicy policy).label = (ofPolicy policy).value :=
  rfl

section Checks

variable {b : Backend} {requested : Option String} {carried : List String} {policy : String}

namespace Answer.SdJwt

variable {c : AnswerCommand SdJwt}

/-- Nothing refuses the command before its policy is checked, and these policies are carried. -/
structure ReachesTrust (b : Backend) (c : AnswerCommand SdJwt) (requested : Option String)
    (carried : List String) : Prop where
  requested : c.policy = requested
  ensured : (Encryption.ensure b c.exchange).result = .ok ()
  source : ∃ credential, Answer.credential (load b) c = .ok credential ∧ credential.policies = carried

theorem ReachesTrust.answer_of_unmet (reached : ReachesTrust b c requested carried)
    (asked : requestedPolicy requested = some policy) (unmet : policy ∉ carried) :
    (answer b c).result = .error (unsatisfiedPolicy policy) := by
  obtain ⟨rfl, ensured, credential, source, rfl⟩ := reached
  have refused := trustDecision_of_unmet asked unmet
  rw [← result_matchPolicy] at refused
  have assembled : (assemble b c).result = .error (unsatisfiedPolicy policy) := by
    rw [assemble, Logged.bind_of_ok ensured, Logged.bind_of_ok source, Logged.bind_of_error refused]
  rw [answer, Logged.reported, Logged.result_map, assembled]
  rfl

theorem ReachesTrust.answer_of_satisfied (reached : ReachesTrust b c requested carried)
    (satisfied : Satisfied requested carried) : ∃ t, (answer b c).result = .ok t ∧
      t.answer.presentation.trustedAuthorityMatch = verdictOf requested := by
  obtain ⟨rfl, ensured, credential, source, rfl⟩ := reached
  have assembled := assemble_eq_ok_iff.mpr ⟨ensured, credential, source, satisfied, rfl⟩
  exact ⟨_, answer_eq_ok_iff.mpr ⟨_, assembled, rfl⟩, rfl⟩

end Answer.SdJwt

namespace Answer.Mdoc

variable {c : AnswerCommand Mdoc} {pointers : List String}

structure ReachesTrust (b : Backend) (c : AnswerCommand Mdoc) (pointers : List String)
    (requested : Option String) (carried : List String) : Prop where
  requested : c.policy = requested
  ensured : (Encryption.ensure b c.exchange).result = .ok ()
  source : ∃ credential, Answer.credential (load b) c = .ok credential ∧ credential.policies = carried ∧
    (∃ claims, (Claims.evaluate credential.claims pointers).result = .ok claims) ∧
    ∃ bytes, deviceResponse credential = .ok bytes

theorem ReachesTrust.answer_of_unmet (reached : ReachesTrust b c pointers requested carried)
    (trust : TrustIndex) (asked : requestedPolicy requested = some policy) (unmet : policy ∉ carried) :
    (answer b trust c pointers).result = .error (unsatisfiedPolicy policy) := by
  obtain ⟨rfl, ensured, credential, source, rfl, ⟨claims, present⟩, bytes, decoded⟩ := reached
  have refused := trust.evaluate_of_unmet asked unmet
  have assembled : (assemble b trust c pointers).result = .error (unsatisfiedPolicy policy) := by
    rw [assemble, Logged.bind_of_ok ensured, Logged.bind_of_ok source, Logged.bind_of_ok present,
      Logged.bind_of_ok decoded, Logged.bind_of_ok rfl, Logged.bind_of_error refused]
  rw [answer, Logged.reported, Logged.result_map, assembled]
  rfl

theorem ReachesTrust.answer_of_satisfied (reached : ReachesTrust b c pointers requested carried)
    (trust : TrustIndex) (satisfied : Satisfied requested carried) :
    ∃ t, (answer b trust c pointers).result = .ok t ∧
      t.answer.answer.presentation.trustedAuthorityMatch = (verdictOf requested).map trust.labelled := by
  obtain ⟨rfl, ensured, credential, source, rfl, ⟨claims, present⟩, bytes, decoded⟩ := reached
  have assembled := (@assemble_eq_ok_iff b trust c pointers _).mpr ⟨ensured, credential, claims, bytes,
    source, present, deviceResponse_eq_ok_iff.mp decoded, satisfied, rfl⟩
  exact ⟨_, answer_eq_ok_iff.mpr ⟨_, assembled, rfl⟩, rfl⟩

end Answer.Mdoc

namespace Acceptance

variable {v : AcceptanceCommand} {s : Submission}

structure ReachesTrust (b : Backend) (v : AcceptanceCommand) (s : Submission) (requested : Option String)
    (carried : List String) : Prop where
  requested : v.policy = requested
  resolved : (Submission.resolve b v).result = .ok s
  carried : s.policies = carried

theorem ReachesTrust.check_of_unmet (reached : ReachesTrust b v s requested carried)
    (config : Config) (asked : requestedPolicy requested = some policy) (unmet : policy ∉ carried) :
    (v.check config b).result = .error (unsatisfiedPolicy policy) := by
  obtain ⟨rfl, resolved, rfl⟩ := reached
  have refused := config.trustIndex.evaluate_of_unmet asked unmet
  have assembled : (assemble config b v).result = .error (unsatisfiedPolicy policy) := by
    rw [assemble, Logged.bind_of_ok resolved, Logged.bind_of_error refused]
  rw [AcceptanceCommand.check, Logged.reported, Logged.result_map, assembled]
  rfl

theorem ReachesTrust.check_of_satisfied (reached : ReachesTrust b v s requested carried)
    (config : Config) (satisfied : Satisfied requested carried) (token : s.HasToken) :
    ∃ t, (v.check config b).result = .ok t ∧
      t.answer.presentation.trustedAuthorityMatch =
        (verdictOf requested).map config.trustIndex.labelled ∧
      t.answer.evidence.trustedAuthority = (verdictOf requested).map config.trustIndex.labelled := by
  obtain ⟨rfl, resolved, rfl⟩ := reached
  obtain ⟨token, found⟩ := Submission.hasToken_iff.mp token
  have assembled := (@assemble_eq_ok_iff config b v _).mpr ⟨s, token, resolved, satisfied, found, rfl⟩
  exact ⟨_, result_check_eq_ok_iff.mpr ⟨_, assembled, rfl⟩, rfl, rfl⟩

theorem ReachesTrust.check_of_missing (reached : ReachesTrust b v s requested carried)
    (config : Config) (satisfied : Satisfied requested carried) (missing : ¬s.HasToken) :
    (v.check config b).result = .error Submission.tokenMissing := by
  obtain ⟨rfl, resolved, rfl⟩ := reached
  have none : s.vpToken? = none := by
    rw [Submission.hasToken_iff, ← Option.ne_none_iff_exists', not_not] at missing
    exact missing
  rw [AcceptanceCommand.check, Logged.reported, Logged.result_map,
    assemble_of_missing resolved satisfied none]
  rfl

end Acceptance

end Checks

/-- Three commands of one session, to the two wallets and to the verifier, that ask for the same policy
where the same policies are carried: they are all refused for it, alike, or none of them is. The verdicts
that look up labels are then the same, and there is none exactly if no policy was asked for. -/
theorem trust_checks_agree {s : Session} {c : AnswerCommand SdJwt} {d : AnswerCommand Mdoc}
    {pointers : List String} {v : AcceptanceCommand} {submission : Submission}
    {requested : Option String} {carried : List String}
    (wallet : Answer.SdJwt.ReachesTrust s.backend c requested carried)
    (document : Answer.Mdoc.ReachesTrust s.backend d pointers requested carried)
    (verifier : Acceptance.ReachesTrust s.backend v submission requested carried) :
    (∃ policy, requested = some policy ∧ Text.isBlankText policy = false ∧ policy ∉ carried ∧
      let unmet : Refusal :=
        ⟨.invalidScope, "Trusted Authority policy " ++ policy ++ " not satisfied by wallet",
          [⟨"trustedAuthorityPolicy", policy⟩], []⟩
      (s.perform (.answerSdJwt c)).1.result = .error (.refused unmet) ∧
      (s.perform (.answerMdoc d pointers)).1.result = .error (.refused unmet) ∧
      (s.perform (.accept v none)).1.result = .error (.refused unmet)) ∨
    ∃ t u verdict,
      (∀ policy, requested = some policy → Text.isBlankText policy = true ∨ policy ∈ carried) ∧
      (s.perform (.answerSdJwt c)).1.result = .ok (.sdJwt t) ∧
      (s.perform (.answerMdoc d pointers)).1.result = .ok (.mdoc u) ∧
      -- The verifier goes on to the token, which may still be missing.
      (submission.HasToken → ∃ a, (s.perform (.accept v none)).1.result = .ok (.accepted a) ∧
        a.answer.presentation.trustedAuthorityMatch = verdict ∧
        a.answer.evidence.trustedAuthority = verdict) ∧
      (¬submission.HasToken → (s.perform (.accept v none)).1.result = .error (.refused
        ⟨.invalidPresentation, "vp_token must be a non-blank string", [⟨"vp_token", "missing or blank"⟩],
          []⟩)) ∧
      u.answer.answer.presentation.trustedAuthorityMatch = verdict ∧
      (verdict = none ↔ ∀ policy, requested = some policy → Text.isBlankText policy = true) ∧
      t.answer.presentation.trustedAuthorityMatch.map TrustVerdict.grounds =
        verdict.map TrustVerdict.grounds ∧
      ∀ own, t.answer.presentation.trustedAuthorityMatch = some own → own.label = own.value := by
  have sdJwt : (s.perform (.answerSdJwt c)).1.result =
      ((Answer.SdJwt.answer s.backend c).result.map .sdJwt).mapError .refused := rfl
  have mdoc : (s.perform (.answerMdoc d pointers)).1.result =
      ((Answer.Mdoc.answer s.backend s.config.trustIndex d pointers).result.map .mdoc).mapError
        .refused := rfl
  have accept : (s.perform (.accept v none)).1.result =
      ((v.check s.config s.backend).result.map .accepted).mapError .refused := rfl
  rcases satisfied_or_unmet requested carried with satisfied | ⟨policy, asked, unmet⟩
  · right
    obtain ⟨t, answered, own⟩ := wallet.answer_of_satisfied satisfied
    obtain ⟨u, documented, labelled⟩ := document.answer_of_satisfied s.config.trustIndex satisfied
    refine ⟨t, u, (verdictOf requested).map s.config.trustIndex.labelled, satisfied_iff.mp satisfied, ?_, ?_,
      ?_, ?_, labelled, ?_, ?_, ?_⟩
    · rw [sdJwt, answered]
      rfl
    · rw [mdoc, documented]
      rfl
    · intro token
      obtain ⟨a, accepted, shown⟩ := verifier.check_of_satisfied s.config satisfied token
      refine ⟨a, ?_, shown⟩
      rw [accept, accepted]
      rfl
    · intro missing
      rw [accept, verifier.check_of_missing s.config satisfied missing]
      rfl
    · rw [Option.map_eq_none_iff, verdictOf_eq_none_iff]
    · rw [own, TrustIndex.grounds_labelled]
    · intro verdict shown
      rw [own, verdictOf, Option.map_eq_some_iff] at shown
      obtain ⟨policy, -, rfl⟩ := shown
      exact TrustVerdict.label_ofPolicy policy
  · left
    obtain ⟨given, visible⟩ := requestedPolicy_eq_some_iff.mp asked
    refine ⟨policy, given, visible, unmet, ?_, ?_, ?_⟩
    · rw [sdJwt, wallet.answer_of_unmet asked unmet]
      rfl
    · rw [mdoc, document.answer_of_unmet s.config.trustIndex asked unmet]
      rfl
    · rw [accept, verifier.check_of_unmet s.config asked unmet]
      rfl

section Sample

variable (policy : String)

def sampleSession : Session :=
  Session.start { Config.default with trustSnapshot := ⟨[⟨"aki", "key", "Issuer"⟩]⟩ } Outage.none
    (Seeds.start, Entropy.ofBytes []) ⟨[]⟩

def sampleTrustedCredential : SdJwt :=
  ⟨"pid-1", Presentation.sdJwtFormat, "issuer.signed.jwt", [], none, none, ["aki:key"]⟩

def sampleTrustedAnswer : AnswerCommand SdJwt :=
  ⟨⟨"request-1", .baseline, .directPost⟩, none, some sampleTrustedCredential, some policy, false⟩

def sampleTrustedDocument : AnswerCommand Mdoc :=
  ⟨⟨"request-1", .baseline, .directPost⟩, none,
    some { sampleDocument "oA" with policies := ["aki:key"] }, some policy, false⟩

def sampleTrustedCheck : AcceptanceCommand where
  requestId := "request-1"
  profile := .baseline
  responseMode := none
  storedPresentationId := none
  inlinePresentation := some (sampleInline (.plain sampleToken))
  policy := some policy
  dcql := none
  verbose := false

end Sample

theorem trust_checks_agree_sample :
    (∃ t u a verdict,
      (sampleSession.perform (.answerSdJwt (sampleTrustedAnswer "aki:key"))).1.result = .ok (.sdJwt t) ∧
      (sampleSession.perform (.answerMdoc (sampleTrustedDocument "aki:key") [])).1.result = .ok (.mdoc u) ∧
      (sampleSession.perform (.accept (sampleTrustedCheck "aki:key") none)).1.result = .ok (.accepted a) ∧
      u.answer.answer.presentation.trustedAuthorityMatch = some verdict ∧
      a.answer.presentation.trustedAuthorityMatch = some verdict ∧
      t.answer.presentation.trustedAuthorityMatch.map TrustVerdict.grounds = some verdict.grounds) ∧
    (∃ t u a, (sampleSession.perform (.answerSdJwt (sampleTrustedAnswer "\t "))).1.result = .ok (.sdJwt t) ∧
      (sampleSession.perform (.answerMdoc (sampleTrustedDocument "\t ") [])).1.result = .ok (.mdoc u) ∧
      (sampleSession.perform (.accept (sampleTrustedCheck "\t ") none)).1.result = .ok (.accepted a) ∧
      t.answer.presentation.trustedAuthorityMatch = none ∧
      u.answer.answer.presentation.trustedAuthorityMatch = none ∧
      a.answer.presentation.trustedAuthorityMatch = none) ∧
    let unmet : Step.Error := .refused
      ⟨.invalidScope, "Trusted Authority policy aki:other not satisfied by wallet",
        [⟨"trustedAuthorityPolicy", "aki:other"⟩], []⟩
    (sampleSession.perform (.answerSdJwt (sampleTrustedAnswer "aki:other"))).1.result = .error unmet ∧
    (sampleSession.perform (.answerMdoc (sampleTrustedDocument "aki:other") [])).1.result = .error unmet ∧
    (sampleSession.perform (.accept (sampleTrustedCheck "aki:other") none)).1.result = .error unmet := by
  have decoded : Base64.decodeLenient? "oA" = some [0xa0] := by decide
  have wallet (policy : String) : Answer.SdJwt.ReachesTrust sampleSession.backend
      (sampleTrustedAnswer policy) (some policy) ["aki:key"] :=
    ⟨rfl, rfl, _, rfl, rfl⟩
  have document (policy : String) : Answer.Mdoc.ReachesTrust sampleSession.backend
      (sampleTrustedDocument policy) [] (some policy) ["aki:key"] :=
    ⟨rfl, rfl, _, rfl, rfl, ⟨[], rfl⟩, _, Answer.Mdoc.deviceResponse_eq_ok_iff.mpr decoded⟩
  have verifier (policy : String) : Acceptance.ReachesTrust sampleSession.backend
      (sampleTrustedCheck policy) (Submission.ofInline (sampleInline (.plain sampleToken)) sampleToken false)
      (some policy) ["aki:key"] :=
    ⟨rfl, rfl, rfl⟩
  have token : (Submission.ofInline (sampleInline (.plain sampleToken)) sampleToken false).HasToken :=
    ⟨"token", rfl, 't', by decide, by decide⟩
  refine ⟨?_, ?_, ?_⟩
  · rcases trust_checks_agree (wallet "aki:key") (document "aki:key") (verifier "aki:key") with
      ⟨policy, ⟨⟩, -, unmet, -⟩ | ⟨t, u, verdict, -, answered, documented, goesOn, -, labelled, blank, same, -⟩
    · exact absurd (List.mem_singleton_self _) unmet
    · obtain ⟨a, accepted, shown, -⟩ := goesOn token
      cases verdict with
      | none => exact absurd (blank.mp rfl "aki:key" rfl) (by decide)
      | some verdict => exact ⟨t, u, a, verdict, answered, documented, accepted, labelled, shown, same⟩
  · have isBlank : Text.isBlankText "\t " = true := by decide
    rcases trust_checks_agree (wallet "\t ") (document "\t ") (verifier "\t ") with
      ⟨_, ⟨⟩, visible, -⟩ | ⟨t, u, verdict, -, answered, documented, goesOn, -, labelled, blank, same, -⟩
    · cases isBlank.symm.trans visible
    · obtain ⟨a, accepted, shown, -⟩ := goesOn token
      obtain rfl : verdict = none := blank.mpr fun _ asked => Option.some.inj asked ▸ isBlank
      exact ⟨t, u, a, answered, documented, accepted, Option.map_eq_none_iff.mp same, labelled, shown⟩
  · rcases trust_checks_agree (wallet "aki:other") (document "aki:other") (verifier "aki:other") with
      ⟨_, ⟨⟩, -, -, refused⟩ | ⟨t, u, verdict, satisfied, -⟩
    · exact refused
    · exact absurd (satisfied "aki:other" rfl) (by decide)

end VpExchange
