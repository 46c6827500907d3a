import VpExchange.Proofs.Acceptance.Decision
import VpExchange.Proofs.Credential.Compact

set_option autoImplicit false

namespace VpExchange

def SdJwt.withHashes (k : SdJwt) (hs : List String) : SdJwt := { k with disclosureHashes := some hs }

def SdJwt.hashes (k : SdJwt) : List String := Presentation.hashes k.disclosures k.disclosureHashes

def Backend.withWalletPreset (b : Backend) (p : WalletPreset) : Backend :=
  { b with store := b.store.putWalletPreset p }

namespace Answer.SdJwt

variable {b : Backend} {c : AnswerCommand SdJwt} {k : SdJwt}

def conclude (c : AnswerCommand SdJwt) (k : SdJwt) : Logged Answer := do
  let verdict ← matchPolicy c.policy k
  Logged.debug "assembled SD-JWT presentation"
    [("request_id", .str c.exchange.requestId), ("disclosures", .int k.hashes.length)]
  return presented c k verdict

theorem answer_of_source (source : credential (load b) c = .ok k) : answer b c =
    Logged.reported (Traced.of c.verbose trace <$> (Encryption.ensure b c.exchange >>= fun _ => conclude c k))
      (fun t => success t.answer) (failure c.exchange Presentation.sdJwtFormat) := by
  rw [answer, assemble, source]
  rfl

theorem presented_withHashes (c : AnswerCommand SdJwt) (k : SdJwt) (verdict : Option TrustVerdict) :
    presented c (k.withHashes k.hashes) verdict = presented c k verdict := by
  rw [presented, presentation]
  simp only [SdJwt.withHashes, SdJwt.hashes, Presentation.hashes_hashes]
  rfl

theorem conclude_withHashes (c : AnswerCommand SdJwt) (k : SdJwt) :
    conclude c (k.withHashes k.hashes) = conclude c k := by
  have same : (k.withHashes k.hashes).hashes = k.hashes := Presentation.hashes_hashes _ _
  simp only [conclude, same, presented_withHashes]
  rfl

theorem answer_withHashes_of_inline (source : credential (load b) c = .ok k) (inline : c.presetId = none) :
    answer b { c with credential := some (k.withHashes k.hashes) } = answer b c := by
  have replaced : credential (load b) { c with credential := some (k.withHashes k.hashes) } =
      .ok (k.withHashes k.hashes) := by
    rw [credential, inline]
  rw [answer_of_source replaced, answer_of_source source, conclude_withHashes]
  rfl

theorem load_withWalletPreset {id : String} (found : load b id = .ok k) (k' : SdJwt) :
    load (b.withWalletPreset ⟨id, k'⟩) id = .ok k' := by
  simp only [load, loaded, map_eq_ok_iff, bind_eq_ok_iff, Refusal.ofChain_eq_ok_iff] at found ⊢
  obtain ⟨-, ⟨_, reached, -⟩, -⟩ := found
  rw [Backend.walletPreset, Backend.load] at reached
  split_ifs at reached with outage
  refine ⟨⟨id, k'⟩, ⟨some ⟨id, k'⟩, ?_, rfl⟩, rfl⟩
  rw [Backend.walletPreset, Backend.load]
  simp [Backend.withWalletPreset, Store.putWalletPreset, outage]

theorem answer_withHashes_of_preset (source : credential (load b) c = .ok k) {id : String}
    (named : c.presetId = some id) :
    answer (b.withWalletPreset ⟨id, k.withHashes k.hashes⟩) c = answer b c := by
  have replaced : credential (load (b.withWalletPreset ⟨id, k.withHashes k.hashes⟩)) c =
      .ok (k.withHashes k.hashes) := by
    rw [credential, named] at source ⊢
    cases given : c.credential with
    | none =>
      rw [given] at source
      exact load_withWalletPreset source _
    | some _ =>
      rw [given] at source
      cases source
  rw [answer_of_source replaced, answer_of_source source, conclude_withHashes]
  rfl

end Answer.SdJwt

theorem Acceptance.hashes_of_admitted {config : Config} {b : Backend} {c : AcceptanceCommand} {s : Submission}
    {t : Traced Acceptance} (admitted : Submission.Admitted b c s) (accepted : (c.check config b).result = .ok t) :
    t.answer.evidence.disclosureHashes = s.disclosures.map Sha256.labelled ∧
      t.answer.presentation.disclosureHashes = s.disclosures.map Sha256.labelled := by
  obtain ⟨a, assembled, rfl⟩ := result_check_eq_ok_iff.mp accepted
  obtain ⟨s', token, resolved, -, -, rfl⟩ := assemble_eq_ok_iff.mp assembled
  obtain rfl := admitted.unique (Submission.resolve_eq_ok_iff.mp resolved)
  exact ⟨rfl, rfl⟩

/-- An answer has one hash for each disclosure of its credential. Put into the credential, in the command or
in the store, the hashes lead to the same answer with the same trace, the same event and the same log lines.
They are the ones that the credential came with if it had one for each disclosure; if not, they are computed
one by one, and whoever accepts a presentation with the same disclosures reports the same hashes. -/
theorem hashes_reusable {b : Backend} {c : AnswerCommand SdJwt} {t : Traced Answer}
    (answered : (Answer.SdJwt.answer b c).result = .ok t) :
    ∃ k, Answer.credential (Answer.SdJwt.load b) c = .ok k ∧
      let hs := t.answer.presentation.disclosureHashes
      hs.length = k.disclosures.length ∧
      (c.presetId = none →
        Answer.SdJwt.answer b { c with credential := some (k.withHashes hs) } = Answer.SdJwt.answer b c) ∧
      (∀ id, c.presetId = some id →
        Answer.SdJwt.answer (b.withWalletPreset ⟨id, k.withHashes hs⟩) c = Answer.SdJwt.answer b c) ∧
      (∀ given, k.disclosureHashes = some given → given.length = k.disclosures.length → hs = given) ∧
      ((∀ given, k.disclosureHashes = some given → given.length ≠ k.disclosures.length) →
        hs = k.disclosures.map Sha256.labelled ∧
        ∀ (config : Config) (b' : Backend) (v : AcceptanceCommand) (s : Submission) (a : Traced Acceptance),
          Submission.Admitted b' v s → s.disclosures = k.disclosures → (v.check config b').result = .ok a →
            a.answer.evidence.disclosureHashes = hs ∧ a.answer.presentation.disclosureHashes = hs) := by
  obtain ⟨a, assembled, rfl⟩ := Answer.SdJwt.answer_eq_ok_iff.mp answered
  obtain ⟨-, k, source, -, rfl⟩ := Answer.SdJwt.assemble_eq_ok_iff.mp assembled
  refine ⟨k, source, Presentation.length_hashes k.disclosures k.disclosureHashes,
    Answer.SdJwt.answer_withHashes_of_inline source,
    fun id named => Answer.SdJwt.answer_withHashes_of_preset source named, ?_, fun unpaired => ?_⟩
  · intro given same paired
    show Presentation.hashes k.disclosures k.disclosureHashes = given
    rw [same, Presentation.hashes_of_paired paired]
  · have computed : k.hashes = k.disclosures.map Sha256.labelled := Presentation.hashes_of_unpaired unpaired
    refine ⟨computed, fun config b' v s a admitted same accepted => ?_⟩
    show _ = k.hashes ∧ _ = k.hashes
    rw [computed, ← same]
    exact Acceptance.hashes_of_admitted admitted accepted

def sampleRepeated : SdJwt :=
  { SdJwt.sampleWith ["WyJzYWx0Il0", "WyJzYWx0Il0"] none with disclosureHashes := some ["sha-256:0"] }

def sampleRepeatedPresentation : StoredPresentation where
  presentationId := "presentation-1"
  credentialId := "pid-1"
  format := Presentation.sdJwtFormat
  vpToken := [("vp_token", .str "token")]
  disclosures := sampleRepeated.disclosures
  keyBindingJwt := none
  policies := []

def sampleRepeatedRecords : Backend where
  store := (Store.empty.putWalletPreset ⟨"wallet-1", sampleRepeated⟩).putPresentation sampleRepeatedPresentation
  outage := Outage.none

theorem hashes_reusable_sample :
    let answerPreset b := Answer.SdJwt.answer b
      ⟨⟨"request-1", .baseline, .directPost⟩, some "wallet-1", none, none, true⟩
    let check : AcceptanceCommand := ⟨"request-1", .haip, none, some "presentation-1", none, none, none, false⟩
    ∃ t a, (answerPreset sampleRepeatedRecords).result = .ok t ∧
      (check.check Config.default sampleRepeatedRecords).result = .ok a ∧
      let hs := t.answer.presentation.disclosureHashes
      hs = ["sha-256:e384bd652893892ec525fc79508a8f7e066ce11d9872647ee28a0b1126e705c7",
        "sha-256:e384bd652893892ec525fc79508a8f7e066ce11d9872647ee28a0b1126e705c7"] ∧
      answerPreset (sampleRepeatedRecords.withWalletPreset ⟨"wallet-1", sampleRepeated.withHashes hs⟩) =
        answerPreset sampleRepeatedRecords ∧
      a.answer.evidence.disclosureHashes = hs := by
  intro answerPreset check
  have digest : Sha256.labelled "WyJzYWx0Il0" =
      "sha-256:e384bd652893892ec525fc79508a8f7e066ce11d9872647ee28a0b1126e705c7" := by decide +kernel
  have satisfied : Satisfied none sampleRepeated.policies := nofun
  have answered : (answerPreset sampleRepeatedRecords).result = .ok _ := Answer.SdJwt.answer_eq_ok_iff.mpr
    ⟨_, Answer.SdJwt.assemble_eq_ok_iff.mpr ⟨rfl, sampleRepeated, rfl, satisfied, rfl⟩, rfl⟩
  have admitted : Submission.Admitted sampleRepeatedRecords check (.ofStored sampleRepeatedPresentation) :=
    .stored rfl rfl List.not_mem_nil rfl
  have accepted : (check.check Config.default sampleRepeatedRecords).result = .ok _ :=
    Acceptance.result_check_eq_ok_iff.mpr ⟨_, Acceptance.assemble_eq_ok_iff.mpr
      ⟨_, "token", Submission.resolve_eq_ok_iff.mpr admitted, nofun, by decide, rfl⟩, rfl⟩
  obtain ⟨_, ⟨⟩, -, -, stored, -, computed⟩ := hashes_reusable answered
  obtain ⟨hashes, checked⟩ := computed (by rintro _ ⟨⟩; decide)
  rw [← digest]
  exact ⟨_, _, answered, accepted, hashes, stored _ rfl, (checked _ _ _ _ _ admitted rfl accepted).1⟩

end VpExchange
