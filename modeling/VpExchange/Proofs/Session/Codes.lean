import VpExchange.Proofs.Acceptance.Documents
import VpExchange.Proofs.Claims
import VpExchange.Proofs.Encryption.Enforcement
import VpExchange.Proofs.Session.Frame

set_option autoImplicit false

namespace VpExchange

open Refusal

namespace RequestPlan

theorem refuses_loadPreset (b : Backend) (id : String) : RefusesWith [.invalidRequest] (loadPreset b id) := by
  apply refuses_bind (refuses_ofChain (by decide) _)
  intro found
  cases found with
  | none => exact refuses_error (List.mem_singleton_self _) rfl
  | some p => exact refuses_ok _

theorem refuses_ofPreset (config : Config) (c : RequestCommand) (preset : Option DcqlPreset) :
    RefusesWith [.invalidRequest] (ofPreset config c preset) := by
  apply refuses_check (List.mem_singleton_self _) rfl
  split
  · exact refuses_error (List.mem_singleton_self _) rfl
  · exact refuses_ok _

theorem refuses_ofCommand (config : Config) (b : Backend) (c : RequestCommand) :
    RefusesWith [.invalidRequest] (ofCommand config b c) := by
  refine refuses_bind ?_ (refuses_ofPreset config c)
  cases c.dcqlPresetId with
  | none => exact refuses_ok none
  | some id => exact refuses_bind (refuses_loadPreset b id) fun p => refuses_ok (some p)

end RequestPlan

theorem CreatedRequest.refuses_ofPlan (config : Config) (c : RequestCommand) (plan : RequestPlan)
    (d : Seeds.Draw) : RefusesWith [.invalidRequest] (ofPlan config c plan d).result :=
  always_ofPlan (fun _ fixed _ => ⟨List.mem_singleton_self _, fun _ => ⟨fixed, rfl⟩⟩) config c plan d

theorem RequestCommand.refuses_create (config : Config) (b : Backend) (c : RequestCommand)
    (sources : Seeds.Sources) : RefusesWith [.invalidRequest] (c.create config b sources).1.result := by
  rw [create]
  cases planned : RequestPlan.ofCommand config b c with
  | error r => exact always_error (RequestPlan.refuses_ofCommand config b c r planned)
  | ok plan =>
    have made := refuses_map (CreatedRequest.refuses_ofPlan config c plan (Seeds.draw sources).1)
      (Traced.of c.verbose CreatedRequest.trace)
    rw [← Logged.result_map] at made
    exact made

namespace Encryption

theorem refuses_ensure (b : Backend) (x : Exchange) : RefusesWith [.invalidRequest] (ensure b x).result := by
  rw [result_ensure]
  split_ifs
  · refine refuses_map ?_ _
    apply refuses_bind (refuses_keyMaterial b x.profile)
    intro m
    apply refuses_bind (refuses_usable m.point)
    exact fun q => refuses_ok _
  · exact refuses_ok ()

theorem refuses_encrypt (b : Backend) (x : Exchange) (uri : Option Url) (payload : Members) (e : Entropy)
    (clock : Clock) : RefusesWith [.invalidRequest] (encrypt b x uri payload e clock).1.result := by
  have both := map_encrypt b x x.requestId uri payload e clock
  intro r refused
  apply refuses_ensure b x r
  rw [← both]
  show Except.map _ (encrypt b x uri payload e clock).1.result = _
  rw [refused]
  rfl

end Encryption

namespace Answer

theorem refuses_loaded {α : Type} (kind id : String) (found : Option α) :
    RefusesWith [.invalidRequest] (loaded kind id (.ok found)) := by
  cases found with
  | none => exact refuses_error (List.mem_singleton_self _) rfl
  | some a => exact refuses_ok a

theorem refuses_credential {κ : Type} {load : String → Except Refusal κ}
    (h : ∀ id, RefusesWith [.invalidRequest] (load id)) (c : AnswerCommand κ) :
    RefusesWith [.invalidRequest] (credential load c) := by
  rw [credential]
  split
  · exact h _
  · exact refuses_ok _
  · exact refuses_error (List.mem_singleton_self _) rfl
  · exact refuses_error (List.mem_singleton_self _) rfl

variable {b : Backend}

theorem SdJwt.refuses_answer (reach : b.outage = Outage.none) (c : AnswerCommand SdJwt) :
    RefusesWith [.invalidRequest, .invalidScope] (answer b c).result := by
  have load id : RefusesWith [.invalidRequest] (load b id) := by
    rw [load, Backend.walletPreset, reach]
    exact refuses_map (refuses_loaded _ id _) _
  show RefusesWith _ (Traced.of c.verbose trace <$> assemble b c : Logged _).result
  rw [Logged.result_map, result_assemble]
  refine refuses_map ?_ _
  apply refuses_bind ((Encryption.refuses_ensure b c.exchange).mono (by simp))
  intro _
  apply refuses_bind ((refuses_credential load c).mono (by simp))
  intro credential
  exact refuses_map ((refuses_trustDecision c.policy credential.policies).mono (by simp)) _

end Answer

namespace Claims

theorem refuses_evaluate (claims : Members) (pointers : List String) :
    RefusesWith [.invalidPresentation] (evaluate claims pointers).result := by
  rw [result_evaluate]
  split_ifs
  · exact refuses_ok _
  · rw [lacking_eq]
    exact refuses_error (List.mem_singleton_self _) rfl

end Claims

theorem Answer.Mdoc.refuses_answer {b : Backend} (reach : b.outage = Outage.none) (trust : TrustIndex)
    (c : AnswerCommand Mdoc) (pointers : List String) :
    RefusesWith [.invalidRequest, .invalidScope, .invalidPresentation] (answer b trust c pointers).result := by
  have load id : RefusesWith [.invalidRequest] (load b id) := by
    rw [load, Backend.devicePreset, reach]
    exact refuses_map (refuses_loaded _ id _) _
  show RefusesWith _ (Traced.of c.verbose trace <$> assemble b trust c pointers : Logged _).result
  rw [Logged.result_map, result_assemble]
  refine refuses_map ?_ _
  apply refuses_bind ((Encryption.refuses_ensure b c.exchange).mono (by simp))
  intro _
  apply refuses_bind ((refuses_credential load c).mono (by simp))
  intro credential
  apply refuses_bind ((Claims.refuses_evaluate credential.claims pointers).mono (by simp))
  intro claims
  apply refuses_bind ((refuses_ofChain (by decide) _ : RefusesWith [.invalidRequest] _).mono (by simp))
  intro bytes
  exact refuses_map ((trust.refuses_evaluate c.policy credential.policies).mono (by simp)) _

theorem AcceptanceCommand.refuses_check (config : Config) (b : Backend) (c : AcceptanceCommand) :
    RefusesWith [.invalidRequest, .invalidScope, .invalidPresentation] (c.check config b).result := by
  show RefusesWith _ (Traced.of c.verbose Acceptance.trace <$> Acceptance.assemble config b c : Logged _).result
  rw [Logged.result_map, Acceptance.result_assemble]
  refine refuses_map ?_ _
  apply refuses_bind ((Submission.refuses_resolve b c).mono (by simp))
  intro s
  apply refuses_bind ((config.trustIndex.refuses_evaluate c.policy s.policies).mono (by simp))
  intro verdict
  exact refuses_map ((s.refuses_vpToken c.requestId).mono (by simp)) _

def Problem.base : String := "https://openid.net/specs/openid-4-verifiable-presentations-1_0.html"

/-- Code and detail of a refusal settle its document and its message, and the cause has no part in them: any
other would leave them as they are, and the detail is a fixed text wherever there is one. -/
structure Refusal.Documented (r : Refusal) : Prop where
  registered : (r.code, r.problem.title, r.problem.status) ∈ ProblemCode.registry
  type : r.problem.type = Problem.base ++ "/error/" ++ r.problem.title
  detail : r.problem.detail = r.detail
  message : r.message = r.problem.title ++ ": " ++ r.problem.detail
  anyCause : ∀ cause, (r.withCause cause).problem = r.problem ∧ (r.withCause cause).message = r.message
  discreet : r.cause ≠ [] → r.problem.detail ∈ causedDetails ∧ r.problem.violations = []

theorem ProblemCode.typeUri_eq (code : ProblemCode) :
    code.typeUri = Problem.base ++ "/error/" ++ code.name := by
  cases code <;> decide

theorem Refusal.Classed.documented {codes : List ProblemCode} {r : Refusal} (h : r.Classed codes) :
    r.Documented where
  registered := r.code.mem_registry
  type := r.code.typeUri_eq
  detail := rfl
  message := rfl
  anyCause := fun _ => ⟨rfl, rfl⟩
  discreet := h.discreet

def Call.codes : Call → List ProblemCode
  | .create _ | .ensure _ | .encrypt _ _ _ _ | .decrypt _ _ _ _ => [.invalidRequest]
  | .answerSdJwt _ => [.invalidRequest, .invalidScope]
  | .answerMdoc _ _ | .check _ => [.invalidRequest, .invalidScope, .invalidPresentation]

theorem Call.reachable_of_codes {c : Call} {code : ProblemCode} (h : code ∈ c.codes) :
    code ≠ .walletUnavailable := by
  rintro rfl
  cases c <;> simp [codes] at h

theorem Refusal.RefusesWith.refused {α : Type} {codes : List ProblemCode} {x : Except Refusal α}
    (h : RefusesWith codes x) {of : α → Step.Result} {e : Step.Error}
    (failed : (x.map of).mapError Step.Error.refused = .error e) : ∃ r, e = .refused r ∧ r.Classed codes := by
  cases x with
  | error r =>
    cases failed
    exact ⟨r, rfl, h r rfl⟩
  | ok a => cases failed

namespace Session

theorem refuses_perform {s : Session} (reach : s.backend.outage = Outage.none) {c : Call} {e : Step.Error}
    (failed : (s.perform c.step).1.result = .error e) : ∃ r, e = .refused r ∧ r.Classed c.codes := by
  cases c with
  | create c => exact (c.refuses_create s.config s.backend s.sources).refused failed
  | answerSdJwt c => exact (Answer.SdJwt.refuses_answer reach c).refused failed
  | answerMdoc c pointers => exact (Answer.Mdoc.refuses_answer reach s.config.trustIndex c pointers).refused failed
  | ensure x => exact (Encryption.refuses_ensure s.backend x).refused failed
  | encrypt x uri payload verbose =>
    exact (Encryption.refuses_encrypt s.backend x uri payload s.sources.2 s.clock).refused failed
  | decrypt requestId profile token verbose =>
    exact (Encryption.refuses_decrypt s.backend requestId profile token).refused failed
  | check c => exact (c.refuses_check s.config s.backend).refused failed

end Session

/-- Whatever has been done before over a store in reach, a call that fails is refused with one of its codes,
and what is published of the refusal follows from code and detail. No wallet is ever unavailable. -/
theorem refusals_documented (config : Config) (sources : Seeds.Sources) (clock : Clock)
    (steps : List (Option Step)) {step : Step} {c : Call} {e : Step.Error}
    (called : ((Session.start config Outage.none sources clock).after steps).call? step = some c)
    (failed : (((Session.start config Outage.none sources clock).after steps).perform step).1.result = .error e) :
    ∃ r, e = .refused r ∧ r.code ∈ c.codes ∧ r.code ≠ .walletUnavailable ∧ r.Documented := by
  rw [Session.perform_of_call called] at failed
  have reach := (Session.start config Outage.none sources clock).outage_after steps
  obtain ⟨r, refused, classed⟩ := Session.refuses_perform reach failed
  exact ⟨r, refused, classed.code, Call.reachable_of_codes classed.code, classed.documented⟩

theorem refusals_documented_sample :
    let s := (Session.start Config.default Outage.none (.start, Entropy.ofBytes []) ⟨[]⟩).after
      [some (.removeKey .haip), none]
    ∃ r, (s.perform (.answerMdoc (sampleDocumentAnswer "*") [])).1.result = .error (.refused r) ∧
      r.cause ≠ [] ∧ r.code = .invalidRequest ∧ r.Documented := by
  intro s
  have failed : (s.perform (.answerMdoc (sampleDocumentAnswer "*") [])).1.result =
      .error (.refused ((invalidRequest "device response is not valid base64").withCause
        ("value is neither base64url nor base64" :: Base64.chain))) := rfl
  obtain ⟨r, refused, -, -, documented⟩ := refusals_documented Config.default (.start, Entropy.ofBytes []) ⟨[]⟩
    [some (.removeKey .haip), none] (c := .answerMdoc (sampleDocumentAnswer "*") []) rfl failed
  cases refused
  exact ⟨_, failed, List.cons_ne_nil _ _, rfl, documented⟩

end VpExchange
