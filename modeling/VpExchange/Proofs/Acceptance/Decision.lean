import VpExchange.Acceptance.Basic
import VpExchange.Proofs.Encryption.RoundTrip
import VpExchange.Proofs.Presentation
import VpExchange.Proofs.Store
import VpExchange.Proofs.Trust

set_option autoImplicit false

namespace VpExchange

theorem Exchange.isEncrypted_iff {x : Exchange} :
    x.isEncrypted = true ↔ x.profile = .haip ∧ x.responseMode = .directPostJwt := by
  obtain ⟨requestId, profile, mode⟩ := x
  cases profile <;> cases mode <;> simp [isEncrypted, Profile.requiresEncryption]

theorem Json.text?_eq_some_iff {j : Json} {s : String} : j.text? = some s ↔ j = .str s := by
  cases j <;> simp [text?]

namespace Submission

variable {b : Backend} {c : AcceptanceCommand} {s : Submission}

/-- The presentation that a command comes to: the stored one that it names or the one that comes with it,
and only one of them. What comes with it is in the open or encrypted as profile and mode say. -/
inductive Admitted (b : Backend) (c : AcceptanceCommand) : Submission → Prop
  | stored {id : String} {p : StoredPresentation} (named : c.storedPresentationId = some id)
    (alone : c.inlinePresentation = none) (reached : id ∉ b.outage.presentations)
    (found : b.store.presentations.get? id = some p) :
    Admitted b c
      { presetId := some p.presentationId, credentialId := p.credentialId, format := p.format,
        payload := p.vpToken, disclosures := p.disclosures, keyBindingJwt := p.keyBindingJwt,
        policies := p.policies, decrypted := false }
  | plain {p : InlinePresentation} {payload : Members} (alone : c.storedPresentationId = none)
    (given : c.inlinePresentation = some p) (sent : p.vpToken = .plain payload)
    (mode : ¬(c.profile = .haip ∧ c.responseMode.getD c.profile.defaultMode = .directPostJwt)) :
    Admitted b c
      { presetId := none, credentialId := p.credentialId, format := p.format, payload := payload,
        disclosures := p.disclosures, keyBindingJwt := p.keyBindingJwt, policies := p.policies,
        decrypted := false }
  | encrypted {p : InlinePresentation} {token : String} {o : Opened}
    (alone : c.storedPresentationId = none) (given : c.inlinePresentation = some p)
    (sent : p.vpToken = .encrypted token)
    (mode : c.profile = .haip ∧ c.responseMode.getD c.profile.defaultMode = .directPostJwt)
    (opened : (Encryption.decrypt b c.requestId c.profile token).result = .ok o) :
    Admitted b c
      { presetId := none, credentialId := p.credentialId, format := p.format, payload := o.payload,
        disclosures := p.disclosures, keyBindingJwt := p.keyBindingJwt, policies := p.policies,
        decrypted := true }

theorem load_eq_ok_iff {id : String} : load b id = .ok s ↔ ∃ p, id ∉ b.outage.presentations ∧
    b.store.presentations.get? id = some p ∧ s = ofStored p := by
  simp only [load, bind_eq_ok_iff, Refusal.ofChain_eq_ok_iff, Backend.presentation, Backend.load_eq_ok_iff]
  constructor
  · rintro ⟨found, ⟨reached, loaded⟩, h⟩
    cases found with
    | none => cases h
    | some p => exact ⟨p, reached, loaded, (Except.ok.inj h).symm⟩
  · rintro ⟨p, reached, loaded, rfl⟩
    exact ⟨some p, ⟨reached, loaded⟩, rfl⟩

theorem receive_eq_ok_iff {x : Exchange} {p : InlinePresentation} :
    (receive b x p).result = .ok s ↔
      (∃ payload, p.vpToken = .plain payload ∧ x.isEncrypted = false ∧ s = ofInline p payload false) ∨
      ∃ token o, p.vpToken = .encrypted token ∧ x.isEncrypted = true ∧
        (Encryption.decrypt b x.requestId x.profile token).result = .ok o ∧
        s = ofInline p o.payload true := by
  rw [receive]
  cases sent : p.vpToken with
  | plain payload =>
    cases x.isEncrypted with
    | false =>
      refine ⟨fun h => .inl ⟨payload, rfl, rfl, (Except.ok.inj h).symm⟩, ?_⟩
      rintro (⟨_, ⟨⟩, -, rfl⟩ | ⟨_, _, ⟨⟩, -⟩)
      rfl
    | true =>
      refine ⟨nofun, ?_⟩
      rintro (⟨_, -, ⟨⟩, -⟩ | ⟨_, _, ⟨⟩, -⟩)
  | encrypted token =>
    cases x.isEncrypted with
    | false =>
      refine ⟨nofun, ?_⟩
      rintro (⟨_, ⟨⟩, -⟩ | ⟨_, _, -, ⟨⟩, -⟩)
    | true =>
      simp only [Logged.result_bind_eq_ok_iff, Logged.debug, Logged.result_write, Logged.result_pure]
      constructor
      · rintro ⟨o, opened, -, -, ⟨⟩⟩
        exact .inr ⟨token, o, rfl, trivial, opened, rfl⟩
      · rintro (⟨_, ⟨⟩, -⟩ | ⟨_, o, ⟨⟩, -, opened, rfl⟩)
        exact ⟨o, opened, (), trivial, rfl⟩

theorem resolve_eq_ok_iff : (resolve b c).result = .ok s ↔ Admitted b c s := by
  have mode := Exchange.isEncrypted_iff (x := c.exchange)
  constructor
  · intro resolved
    rw [resolve] at resolved
    split at resolved
    next id named alone =>
      rw [Logged.result_liftM, load_eq_ok_iff] at resolved
      obtain ⟨p, reached, found, rfl⟩ := resolved
      exact .stored named alone reached found
    next p alone given =>
      rcases receive_eq_ok_iff.mp resolved with ⟨payload, sent, plain, rfl⟩ |
        ⟨token, o, sent, encrypted, opened, rfl⟩
      · have other := mode.not.mp (Bool.not_eq_true _ ▸ plain)
        exact .plain alone given sent other
      · exact .encrypted alone given sent (mode.mp encrypted) opened
    next => cases resolved
  · intro admitted
    cases admitted with
    | stored named alone reached found =>
      rw [resolve, named, alone]
      exact load_eq_ok_iff.mpr ⟨_, reached, found, rfl⟩
    | plain alone given sent other =>
      rw [resolve, alone, given]
      exact receive_eq_ok_iff.mpr (.inl ⟨_, sent, Bool.eq_false_of_not_eq_true (mt mode.mp other), rfl⟩)
    | encrypted alone given sent same opened =>
      rw [resolve, alone, given]
      exact receive_eq_ok_iff.mpr (.inr ⟨_, _, sent, mode.mpr same, opened, rfl⟩)

theorem Admitted.unique {s' : Submission} (h : Admitted b c s) (h' : Admitted b c s') : s = s' :=
  Except.ok.inj ((resolve_eq_ok_iff.mpr h).symm.trans (resolve_eq_ok_iff.mpr h'))

theorem Admitted.of_stored (h : Admitted b c s) {id : String} (named : c.storedPresentationId = some id) :
    ∃ p, b.store.presentations.get? id = some p ∧ s = ofStored p := by
  cases h with
  | stored named' alone reached found =>
    cases named.symm.trans named'
    exact ⟨_, found, rfl⟩
  | plain alone given sent mode => cases alone.symm.trans named
  | encrypted alone given sent mode opened => cases alone.symm.trans named

theorem Admitted.decrypted_iff (h : Admitted b c s) :
    s.decrypted = true ↔ c.inlinePresentation.isSome = true ∧
      c.profile = .haip ∧ c.responseMode.getD c.profile.defaultMode = .directPostJwt := by
  cases h with
  | stored named alone reached found => simp [alone]
  | plain alone given sent mode => simpa [given] using mode
  | encrypted alone given sent mode opened => simpa [given] using mode

theorem Admitted.mode_of_plain (h : Admitted b c s) {p : InlinePresentation} {payload : Members}
    (given : c.inlinePresentation = some p) (sent : p.vpToken = .plain payload) :
    ¬(c.profile = .haip ∧ c.responseMode.getD c.profile.defaultMode = .directPostJwt) := by
  cases h with
  | stored named alone reached found => cases alone.symm.trans given
  | plain alone given' sent' mode => exact mode
  | encrypted alone given' sent' mode opened =>
    cases given'.symm.trans given
    cases sent'.symm.trans sent

theorem refuses_load (b : Backend) (id : String) :
    Refusal.RefusesWith [.invalidRequest] (load b id) := by
  apply Refusal.refuses_bind (Refusal.refuses_ofChain (by decide) _)
  intro found
  cases found with
  | none => exact Refusal.refuses_error (List.mem_singleton_self _) rfl
  | some p => exact Refusal.refuses_ok _

theorem refuses_receive (b : Backend) (x : Exchange) (p : InlinePresentation) :
    Refusal.RefusesWith [.invalidRequest] (receive b x p).result := by
  rw [receive]
  split
  · exact Refusal.refuses_ok _
  · exact Refusal.refuses_error (List.mem_singleton_self _) rfl
  · exact Refusal.refuses_error (List.mem_singleton_self _) rfl
  · apply Logged.refuses_result_bind (Encryption.refuses_decrypt b x.requestId x.profile _)
    exact fun o => Refusal.refuses_ok _

theorem refuses_resolve (b : Backend) (c : AcceptanceCommand) :
    Refusal.RefusesWith [.invalidRequest] (resolve b c).result := by
  rw [resolve]
  split
  · exact refuses_load b _
  · exact refuses_receive b c.exchange _
  · exact Refusal.refuses_error (List.mem_singleton_self _) rfl

theorem refusedAs_resolve_iff {code : ProblemCode} :
    Refusal.RefusedAs code (resolve b c).result ↔ code = .invalidRequest ∧ ¬∃ s, Admitted b c s := by
  simp only [Refusal.refusedAs_iff_of_within (refuses_resolve b c).within, resolve_eq_ok_iff]

theorem vpToken_eq_ok_iff {requestId token : String} :
    (s.vpToken requestId).result = .ok token ↔ s.vpToken? = some token := by
  rw [vpToken]
  cases s.vpToken? with
  | none => exact ⟨nofun, nofun⟩
  | some t => exact ⟨fun h => by cases h; rfl, fun h => by cases h; rfl⟩

theorem refuses_vpToken (s : Submission) (requestId : String) :
    Refusal.RefusesWith [.invalidPresentation] (s.vpToken requestId).result := by
  rw [vpToken]
  cases s.vpToken? with
  | none => exact Refusal.refuses_error (List.mem_singleton_self _) rfl
  | some t => exact Refusal.refuses_ok t

/-- A policy that is asked for, unless it is blank, is among those carried, word for word. -/
def Carries (s : Submission) (policy : Option String) : Prop :=
  ∀ p, policy = some p → Text.isBlankText p = true ∨ p ∈ s.policies

theorem carries_iff {policy : Option String} : s.Carries policy ↔ Satisfied policy s.policies :=
  satisfied_iff.symm

/-- The payload has a token: a text with some character that is not white space. -/
def HasToken (s : Submission) : Prop :=
  ∃ token, s.payload.get? "vp_token" = some (.str token) ∧ ∃ ch ∈ token.toList, Text.isBlank ch = false

theorem vpToken?_eq_some_iff {token : String} : s.vpToken? = some token ↔
    s.payload.get? "vp_token" = some (.str token) ∧ ∃ ch ∈ token.toList, Text.isBlank ch = false := by
  rw [vpToken?, Option.filter_eq_some_iff, Option.bind_eq_some_iff]
  apply and_congr
  · constructor
    · rintro ⟨j, given, text⟩
      rw [given, Json.text?_eq_some_iff.mp text]
    · exact fun given => ⟨_, given, rfl⟩
  · simp [Text.isBlankText]

theorem hasToken_iff : s.HasToken ↔ ∃ token, s.vpToken? = some token :=
  exists_congr fun _ => vpToken?_eq_some_iff.symm

theorem vpToken?_responsePayload {p : InlinePresentation} {decrypted : Bool} {token : String}
    {description : Json} : (ofInline p (responsePayload token description) decrypted).vpToken? =
      if Text.isBlankText token then none else some token := by
  simp only [vpToken?, ofInline, get?_vpToken, Option.bind_some, Json.text?, Option.filter_some]
  cases Text.isBlankText token <;> rfl

theorem refusedAs_vpToken_iff {code : ProblemCode} {requestId : String} :
    Refusal.RefusedAs code (s.vpToken requestId).result ↔ code = .invalidPresentation ∧ ¬s.HasToken := by
  simp only [Refusal.refusedAs_iff_of_within (refuses_vpToken s requestId).within, vpToken_eq_ok_iff,
    hasToken_iff]

end Submission

namespace Acceptance

variable {config : Config} {b : Backend} {c : AcceptanceCommand}

def presented (config : Config) (c : AcceptanceCommand) (s : Submission) (token : String)
    (verdict : Option TrustVerdict) : Acceptance :=
  ⟨c.exchange, s.presentation verdict, s.evidence token verdict
    (c.dcql.map fun q => Evidence.previewOf q config.dcqlPreviewLimit)⟩

theorem result_assemble (config : Config) (b : Backend) (c : AcceptanceCommand) :
    (assemble config b c).result = (Submission.resolve b c).result >>= fun s =>
      (config.trustIndex.evaluate c.policy s.policies).result >>= fun verdict =>
        (s.vpToken c.requestId).result.map fun token => presented config c s token verdict := by
  simp only [assemble, Logged.result_bind, Logged.result_pure]
  rfl

theorem assemble_eq_ok_iff {a : Acceptance} :
    (assemble config b c).result = .ok a ↔ ∃ s token, (Submission.resolve b c).result = .ok s ∧
      Satisfied c.policy s.policies ∧ s.vpToken? = some token ∧
      a = presented config c s token ((verdictOf c.policy).map config.trustIndex.labelled) := by
  simp only [result_assemble, bind_eq_ok_iff, map_eq_ok_iff, TrustIndex.evaluate_eq_ok_iff,
    Submission.vpToken_eq_ok_iff]
  constructor
  · rintro ⟨s, resolved, verdict, ⟨satisfied, rfl⟩, token, found, rfl⟩
    exact ⟨s, token, resolved, satisfied, found, rfl⟩
  · rintro ⟨s, token, resolved, satisfied, found, rfl⟩
    exact ⟨s, resolved, _, ⟨satisfied, rfl⟩, token, found, rfl⟩

theorem exists_assemble_iff : (∃ a, (assemble config b c).result = .ok a) ↔
    ∃ s, Submission.Admitted b c s ∧ s.Carries c.policy ∧ s.HasToken := by
  simp only [assemble_eq_ok_iff, Submission.resolve_eq_ok_iff, Submission.carries_iff,
    Submission.hasToken_iff]
  constructor
  · rintro ⟨a, s, token, admitted, satisfied, found, rfl⟩
    exact ⟨s, admitted, satisfied, token, found⟩
  · rintro ⟨s, admitted, satisfied, token, found⟩
    exact ⟨_, s, token, admitted, satisfied, found, rfl⟩

theorem refusedAs_assemble_iff {code : ProblemCode} :
    Refusal.RefusedAs code (assemble config b c).result ↔
      (code = .invalidRequest ∧ ¬∃ s, Submission.Admitted b c s) ∨
      ∃ s, Submission.Admitted b c s ∧ ((code = .invalidScope ∧ ¬s.Carries c.policy) ∨
        (s.Carries c.policy ∧ code = .invalidPresentation ∧ ¬s.HasToken)) := by
  simp only [assemble, Logged.refusedAs_result_bind_iff, Submission.refusedAs_resolve_iff,
    Submission.resolve_eq_ok_iff, TrustIndex.refusedAs_evaluate_iff, TrustIndex.evaluate_eq_ok_iff,
    Submission.refusedAs_vpToken_iff, Submission.carries_iff, Logged.result_pure,
    Refusal.not_refusedAs_ok, and_false, exists_false, or_false, exists_and_right, exists_and_left,
    exists_eq, and_true]

theorem result_check_eq_ok_iff {t : Traced Acceptance} : (c.check config b).result = .ok t ↔
    ∃ a, (assemble config b c).result = .ok a ∧ Traced.of c.verbose trace a = t :=
  Logged.result_map_eq_ok_iff

theorem refusedAs_check_iff {code : ProblemCode} :
    Refusal.RefusedAs code (c.check config b).result ↔
      Refusal.RefusedAs code (assemble config b c).result :=
  Logged.refusedAs_result_map_iff

end Acceptance

/-- A command is accepted exactly if it comes to a presentation that carries the policy asked for and has
a token, and is refused as the first of these that it lacks. An accepted response is under the mode of
the command, or else of the profile; it was decrypted exactly if it came along with the command where
responses are encrypted, and no response in the open is accepted there. -/
theorem check_decides (config : Config) (b : Backend) (c : AcceptanceCommand) :
    ((∃ t, (c.check config b).result = .ok t) ↔
      ∃ s, Submission.Admitted b c s ∧ s.Carries c.policy ∧ s.HasToken) ∧
    (Refusal.RefusedAs .invalidRequest (c.check config b).result ↔
      ¬∃ s, Submission.Admitted b c s) ∧
    (Refusal.RefusedAs .invalidScope (c.check config b).result ↔
      ∃ s, Submission.Admitted b c s ∧ ¬s.Carries c.policy) ∧
    (Refusal.RefusedAs .invalidPresentation (c.check config b).result ↔
      ∃ s, Submission.Admitted b c s ∧ s.Carries c.policy ∧ ¬s.HasToken) ∧
    ∀ t, (c.check config b).result = .ok t →
      let mode := c.responseMode.getD c.profile.defaultMode
      t.answer.exchange.responseMode = mode ∧
      (t.answer.evidence.decrypted = true ↔
        c.inlinePresentation.isSome = true ∧ c.profile = .haip ∧ mode = .directPostJwt) ∧
      ∀ p payload, c.inlinePresentation = some p → p.vpToken = .plain payload →
        ¬(c.profile = .haip ∧ mode = .directPostJwt) := by
  simp only [Acceptance.refusedAs_check_iff, Acceptance.refusedAs_assemble_iff]
  refine ⟨?_, by simp, by simp, by simp, ?_⟩
  · rw [← @Acceptance.exists_assemble_iff config]
    simp only [Acceptance.result_check_eq_ok_iff]
    constructor
    · rintro ⟨t, a, assembled, -⟩
      exact ⟨a, assembled⟩
    · rintro ⟨a, assembled⟩
      exact ⟨_, a, assembled, rfl⟩
  · intro t accepted
    obtain ⟨a, assembled, rfl⟩ := Acceptance.result_check_eq_ok_iff.mp accepted
    obtain ⟨s, token, resolved, -, -, rfl⟩ := Acceptance.assemble_eq_ok_iff.mp assembled
    have admitted := Submission.resolve_eq_ok_iff.mp resolved
    exact ⟨rfl, admitted.decrypted_iff, fun p payload => admitted.mode_of_plain⟩

def sampleInline (sent : Sent) : InlinePresentation :=
  ⟨"pid-1", Presentation.sdJwtFormat, sent, [], none, ["aki:key"]⟩

def sampleSent (sent : Sent) : AcceptanceCommand where
  requestId := "request-1"
  profile := .haip
  responseMode := none
  storedPresentationId := none
  inlinePresentation := some (sampleInline sent)
  policy := some "aki:key"
  dcql := none
  verbose := false

def sampleToken : Members := [("vp_token", .str "token")]

theorem check_decides_sample : ∃ token t,
    ((sampleSent (.encrypted token)).check Config.default Encryption.sampleBackend).result = .ok t ∧
    t.answer.exchange.responseMode = .directPostJwt ∧ t.answer.evidence.decrypted = true ∧
    Refusal.RefusedAs .invalidRequest
      ((sampleSent (.plain sampleToken)).check Config.default Encryption.sampleBackend).result := by
  have whole : (Json.obj sampleToken).IsWhole := by
    simp [sampleToken, Json.IsWhole, Json.MembersWhole]
  have canonical : (Json.obj sampleToken).IsCanonical := by
    simp [sampleToken, Json.IsCanonical, Json.MembersCanonical, Members.Sorted]
  have shallow : (Json.obj sampleToken).depth ≤ 127 := by
    simp [sampleToken, Json.depth, Json.depthMembers]
  have key : Encryption.sampleBackend.key .haip = .ok Encryption.sampleKey := rfl
  obtain ⟨ephemeral, z, iv, hiv, hz, -⟩ :=
    Encryption.envelop_of_paired key Encryption.isPaired_sample sampleToken (Entropy.ofBytes [])
  have opened :=
    Encryption.result_decrypt_envelope key Encryption.isPaired_sample hz hiv sampleToken "request-1"
  rw [Encryption.payloadOf_plaintext whole canonical, if_pos shallow] at opened
  generalize (Encryption.envelopeOf Encryption.sampleKey ephemeral z iv sampleToken).token = token at opened
  have admitted : Submission.Admitted Encryption.sampleBackend (sampleSent (.encrypted token))
      (Submission.ofInline (sampleInline (.encrypted token)) sampleToken true) :=
    .encrypted (o := ⟨"request-1", .haip, some "key-1", sampleToken⟩) rfl rfl rfl ⟨rfl, rfl⟩ opened
  have carries : (Submission.ofInline (sampleInline (.encrypted token)) sampleToken true).Carries
      (some "aki:key") := by
    rintro _ ⟨⟩
    exact .inr (List.mem_singleton_self _)
  have hasToken : (Submission.ofInline (sampleInline (.encrypted token)) sampleToken true).HasToken :=
    ⟨"token", rfl, 't', by decide, by decide⟩
  obtain ⟨accepted, -, -, -, bound⟩ :=
    check_decides Config.default Encryption.sampleBackend (sampleSent (.encrypted token))
  obtain ⟨t, ok⟩ := accepted.mpr ⟨_, admitted, carries, hasToken⟩
  obtain ⟨mode, decrypted, -⟩ := bound t ok
  have refused := (check_decides Config.default Encryption.sampleBackend (sampleSent (.plain sampleToken))).2.1
  refine ⟨token, t, ok, mode, decrypted.mpr ⟨rfl, rfl, rfl⟩, refused.mpr ?_⟩
  rintro ⟨s, admitted⟩
  exact admitted.mode_of_plain rfl rfl ⟨rfl, rfl⟩

end VpExchange
