import VpExchange.Answer.Mdoc
import VpExchange.Proofs.Acceptance.Decision

set_option autoImplicit false

namespace VpExchange

theorem Members.filter_insert (key : String) (value : Json) (ms : Members) :
    (ms.insert key value).filter (fun m => m.1 ≠ key) = ms.filter fun m => m.1 ≠ key := by
  induction ms with
  | nil => simp [insert]
  | cons m ms ih =>
    obtain ⟨k, v⟩ := m
    rw [insert]
    split_ifs with less same
    · simp
    · simp [same]
    · rw [List.filter_cons, ih, List.filter_cons]

namespace TraceStep

def without (s : TraceStep) (key : String) : TraceStep :=
  { s with attributes := s.attributes.filter fun m => m.1 ≠ key }

theorem without_withAttribute? (s : TraceStep) (key : String) (value : Option Json) :
    (s.withAttribute? key value).without key = s.without key := by
  cases value with
  | none => rfl
  | some value => rw [withAttribute?, withAttribute, without, without, Members.filter_insert]

end TraceStep

def Trace.without (t : Trace) (key : String) : Trace :=
  { t with steps := t.steps.map (·.without key) }

theorem Trace.without_withStep (t : Trace) (s : TraceStep) (key : String) :
    (t.withStep s).without key = (t.without key).withStep (s.without key) := by
  simp only [Trace.without, withStep, List.map_append, List.map_cons, List.map_nil]

section Alike

variable {α : Type}

def Traced.anonymous (strip : α → α) (t : Traced α) : Traced α :=
  ⟨strip t.answer, t.trace.map (·.without "presetId")⟩

/-- Both are refused alike, or both succeed with results that differ in the id of a record at most; and
both leave the same lines and the same event behind. -/
structure Reported.Alike (strip : α → α) (x y : Reported (Traced α)) : Prop where
  result : x.result.map (Traced.anonymous strip) = y.result.map (Traced.anonymous strip)
  event : x.event = y.event
  logs : x.logs = y.logs

theorem Logged.alike_of_map {strip name : α → α} (trace : α → Trace) (success : α → Event)
    (unnamed : ∀ a, strip (name a) = strip a)
    (traced : ∀ a, (trace (name a)).without "presetId" = (trace a).without "presetId")
    (published : ∀ a, success (name a) = success a) (x : Logged α) (verbose : Bool)
    (failure : Refusal → Event) :
    Reported.Alike strip
      ((Traced.of verbose trace <$> name <$> x).reported (fun t => success t.answer) failure)
      ((Traced.of verbose trace <$> x).reported (fun t => success t.answer) failure) := by
  obtain ⟨logs, result⟩ := x
  cases result with
  | error r => exact ⟨rfl, rfl, rfl⟩
  | ok a =>
    refine ⟨congrArg Except.ok ?_, published a, List.append_nil _⟩
    rw [Traced.anonymous, Traced.anonymous]
    cases verbose with
    | false => exact congrArg₂ Traced.mk (unnamed a) rfl
    | true => exact congrArg₂ Traced.mk (unnamed a) (congrArg some (traced a))

end Alike

namespace AnswerCommand

variable {κ : Type}

def withPreset (c : AnswerCommand κ) (id : String) : AnswerCommand κ :=
  { c with presetId := some id, credential := none }

def withCredential (c : AnswerCommand κ) (credential : κ) : AnswerCommand κ :=
  { c with presetId := none, credential := some credential }

end AnswerCommand

namespace Answer

variable {b : Backend} {id : String}

def named (id : Option String) (a : Answer) : Answer := { a with presetId := id }

theorem named_named (id id' : Option String) (a : Answer) : (a.named id').named id = a.named id := rfl

theorem SdJwt.success_named (id : Option String) (a : Answer) : success (a.named id) = success a := rfl

theorem SdJwt.load_eq {p : WalletPreset} (found : b.walletPreset id = .ok (some p)) :
    load b id = .ok p.credential := by
  rw [load, found]
  rfl

theorem SdJwt.assemble_withPreset {p : WalletPreset} (found : b.walletPreset id = .ok (some p))
    (c : AnswerCommand SdJwt) :
    assemble b (c.withPreset id) = named (some id) <$> assemble b (c.withCredential p.credential) := by
  simp only [assemble, AnswerCommand.withPreset, AnswerCommand.withCredential, credential, load_eq found,
    Logged.map_bind]
  rfl

theorem SdJwt.without_trace (id : Option String) (a : Answer) :
    (trace (a.named id)).without "presetId" = (trace a).without "presetId" := by
  simp only [trace, Trace.without_withStep, TraceStep.without_withAttribute?]
  rfl

namespace Mdoc

def named (id : Option String) (d : Document) : Document := { d with answer := d.answer.named id }

theorem named_named (id id' : Option String) (d : Document) : named id (named id' d) = named id d := rfl

theorem success_named (id : Option String) (d : Document) : success (named id d) = success d := rfl

theorem load_eq {p : DevicePreset} (found : b.devicePreset id = .ok (some p)) :
    load b id = .ok p.credential := by
  rw [load, found]
  rfl

theorem assemble_withPreset {p : DevicePreset} (found : b.devicePreset id = .ok (some p))
    (trust : TrustIndex) (c : AnswerCommand Mdoc) (pointers : List String) :
    assemble b trust (c.withPreset id) pointers =
      named (some id) <$> assemble b trust (c.withCredential p.credential) pointers := by
  simp only [assemble, AnswerCommand.withPreset, AnswerCommand.withCredential, credential, load_eq found,
    Logged.map_bind]
  rfl

theorem without_trace (id : Option String) (d : Document) :
    (trace (named id d)).without "presetId" = (trace d).without "presetId" := by
  simp only [trace, Trace.without_withStep, TraceStep.without_withAttribute?]
  rfl

end Mdoc

end Answer

namespace AcceptanceCommand

def withStored (c : AcceptanceCommand) (id : String) : AcceptanceCommand :=
  { c with storedPresentationId := some id, inlinePresentation := none }

def withInline (c : AcceptanceCommand) (p : InlinePresentation) : AcceptanceCommand :=
  { c with storedPresentationId := none, inlinePresentation := some p }

end AcceptanceCommand

def StoredPresentation.sent (p : StoredPresentation) : InlinePresentation where
  credentialId := p.credentialId
  format := p.format
  vpToken := .plain p.vpToken
  disclosures := p.disclosures
  keyBindingJwt := p.keyBindingJwt
  policies := p.policies

namespace Acceptance

variable {b : Backend} {id : String} {p : StoredPresentation}

def named (id : Option String) (a : Acceptance) : Acceptance :=
  { a with evidence := { a.evidence with presetId := id } }

theorem named_named (id id' : Option String) (a : Acceptance) : named id (named id' a) = named id a := rfl

theorem success_named (id : Option String) (a : Acceptance) : success (named id a) = success a := rfl

theorem assemble_withStored (found : b.presentation id = .ok (some p)) {c : AcceptanceCommand}
    (inOpen : c.exchange.isEncrypted = false) (config : Config) :
    assemble config b (c.withStored id) =
      named (some p.presentationId) <$> assemble config b (c.withInline p.sent) := by
  have stored : Submission.resolve b (c.withStored id) = pure (Submission.ofStored p) := by
    show (Submission.load b id : Logged Submission) = _
    rw [Submission.load, found]
    rfl
  have inline : Submission.resolve b (c.withInline p.sent) =
      pure (Submission.ofInline p.sent p.vpToken false) := by
    show Submission.receive b c.exchange p.sent = _
    rw [Submission.receive, inOpen]
    rfl
  simp only [assemble, stored, inline, Logged.pure_bind, Logged.map_bind]
  rfl

theorem without_trace (id : Option String) (a : Acceptance) :
    (trace (named id a)).without "presetId" = (trace a).without "presetId" := by
  simp only [trace, Trace.without_withStep, TraceStep.without_withAttribute?]
  rfl

end Acceptance

/-- A stored record and the same record in the command are interchangeable, for both wallets and for the
verifier, where the responses that it accepts are in the open. -/
theorem alike_of_stored (b : Backend) :
    (∀ id p, b.walletPreset id = .ok (some p) → ∀ c : AnswerCommand SdJwt,
      Reported.Alike (Answer.named none) (Answer.SdJwt.answer b (c.withPreset id))
        (Answer.SdJwt.answer b (c.withCredential p.credential))) ∧
    (∀ id p, b.devicePreset id = .ok (some p) → ∀ trust (c : AnswerCommand Mdoc) pointers,
      Reported.Alike (Answer.Mdoc.named none) (Answer.Mdoc.answer b trust (c.withPreset id) pointers)
        (Answer.Mdoc.answer b trust (c.withCredential p.credential) pointers)) ∧
    ∀ id p, b.presentation id = .ok (some p) → ∀ config (c : AcceptanceCommand),
      ¬(c.profile = .haip ∧ c.responseMode.getD c.profile.defaultMode = .directPostJwt) →
        Reported.Alike (Acceptance.named none) ((c.withStored id).check config b)
          ((c.withInline p.sent).check config b) := by
  refine ⟨fun id p found c => ?_, fun id p found trust c pointers => ?_,
    fun id p found config c plain => ?_⟩
  · have named := Logged.alike_of_map Answer.SdJwt.trace Answer.SdJwt.success
      (Answer.named_named none (some id)) (Answer.SdJwt.without_trace (some id))
      (Answer.SdJwt.success_named (some id)) (Answer.SdJwt.assemble b (c.withCredential p.credential))
      c.verbose (Answer.failure c.exchange Presentation.sdJwtFormat)
    rwa [← Answer.SdJwt.assemble_withPreset found] at named
  · have named := Logged.alike_of_map Answer.Mdoc.trace Answer.Mdoc.success
      (Answer.Mdoc.named_named none (some id)) (Answer.Mdoc.without_trace (some id))
      (Answer.Mdoc.success_named (some id))
      (Answer.Mdoc.assemble b trust (c.withCredential p.credential) pointers) c.verbose
      (Answer.failure c.exchange Presentation.mdocFormat)
    rwa [← Answer.Mdoc.assemble_withPreset found] at named
  · have named := Logged.alike_of_map Acceptance.trace Acceptance.success
      (Acceptance.named_named none (some p.presentationId))
      (Acceptance.without_trace (some p.presentationId))
      (Acceptance.success_named (some p.presentationId))
      (Acceptance.assemble config b (c.withInline p.sent)) c.verbose
      (c.exchange.failure Telemetry.responseValidated)
    have inOpen := (Exchange.isEncrypted_iff (x := c.exchange)).not.mpr plain
    rwa [← Acceptance.assemble_withStored found (Bool.eq_false_of_not_eq_true inOpen)] at named

def sampleWalletPreset : WalletPreset where
  presetId := "wallet-1"
  credential := ⟨"pid-1", Presentation.sdJwtFormat, "issuer.signed.jwt", [], none, none, []⟩

def sampleDevicePreset : DevicePreset where
  presetId := "device-1"
  credential := ⟨"mdl-1", Presentation.mdocFormat, "org.iso.18013.5.1.mDL", "oA", [], []⟩

def samplePresentation : StoredPresentation where
  presentationId := "presentation-1"
  credentialId := "pid-1"
  format := Presentation.sdJwtFormat
  vpToken := [("vp_token", .str "token")]
  disclosures := []
  keyBindingJwt := none
  policies := []

def sampleRecords : Backend where
  store := ((Store.empty.putWalletPreset sampleWalletPreset).putDevicePreset
    sampleDevicePreset).putPresentation samplePresentation
  outage := Outage.none

def sampleNoSource (κ : Type) : AnswerCommand κ :=
  ⟨⟨"request-1", .baseline, .directPost⟩, none, none, none, true⟩

def sampleNothingSent : AcceptanceCommand :=
  ⟨"request-1", .baseline, none, none, none, none, none, true⟩

theorem alike_of_stored_sample :
    (∃ t t', (Answer.SdJwt.answer sampleRecords ((sampleNoSource SdJwt).withPreset "wallet-1")).result =
        .ok t ∧
      (Answer.SdJwt.answer sampleRecords
        ((sampleNoSource SdJwt).withCredential sampleWalletPreset.credential)).result = .ok t' ∧
      t.anonymous (Answer.named none) = t'.anonymous (Answer.named none)) ∧
    (∃ t t', (Answer.Mdoc.answer sampleRecords []
        ((sampleNoSource Mdoc).withPreset "device-1") []).result = .ok t ∧
      (Answer.Mdoc.answer sampleRecords []
        ((sampleNoSource Mdoc).withCredential sampleDevicePreset.credential) []).result = .ok t' ∧
      t.anonymous (Answer.Mdoc.named none) = t'.anonymous (Answer.Mdoc.named none)) ∧
    ∃ t t', ((sampleNothingSent.withStored "presentation-1").check Config.default sampleRecords).result =
        .ok t ∧
      ((sampleNothingSent.withInline samplePresentation.sent).check Config.default sampleRecords).result =
        .ok t' ∧
      t.anonymous (Acceptance.named none) = t'.anonymous (Acceptance.named none) := by
  obtain ⟨wallet, device, presentation⟩ := alike_of_stored sampleRecords
  have preset := (wallet "wallet-1" sampleWalletPreset rfl (sampleNoSource SdJwt)).result
  have document := (device "device-1" sampleDevicePreset rfl [] (sampleNoSource Mdoc) []).result
  have stored := (presentation "presentation-1" samplePresentation rfl Config.default sampleNothingSent
    nofun).result
  exact ⟨⟨_, _, rfl, rfl, Except.ok.inj preset⟩, ⟨_, _, rfl, rfl, Except.ok.inj document⟩,
    _, _, rfl, rfl, Except.ok.inj stored⟩

end VpExchange
