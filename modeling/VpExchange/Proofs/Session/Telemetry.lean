import Mathlib.Data.List.Forall2
import VpExchange.Proofs.Json.Canonical
import VpExchange.Proofs.Refusal
import VpExchange.Proofs.Session.Call

set_option autoImplicit false

namespace VpExchange

/-- What an event is published under: its name, and for whom and in which mode. -/
structure Heading where
  event : String
  profile : Profile
  mode : ResponseMode

namespace Heading

def profileName (h : Heading) : String :=
  match h.profile with
  | .haip => "HAIP"
  | .baseline => "BASELINE"

def modeName (h : Heading) : String :=
  match h.mode with
  | .fragment => "fragment"
  | .directPost => "direct_post"
  | .directPostJwt => "direct_post.jwt"

theorem name_profile (h : Heading) : h.profile.name = h.profileName := by
  rw [profileName]
  cases h.profile <;> rfl

theorem name_mode (h : Heading) : h.mode.name = h.modeName := by
  rw [modeName]
  cases h.mode <;> rfl

end Heading

def Exchange.heading (x : Exchange) (event : String) : Heading := ⟨event, x.profile, x.responseMode⟩

def Call.heading? : Call → Option Heading
  | .create c => some ⟨"oid4vp.request.created", c.profile, c.responseMode⟩
  | .answerSdJwt c => some (c.exchange.heading "oid4vp.wallet.responded")
  | .answerMdoc c _ => some (c.exchange.heading "oid4vp.wallet.responded")
  | .encrypt x _ _ _ => some (x.heading "oid4vp.response.encrypted")
  -- A check is in the mode of its command, or else in the usual one of its profile.
  | .check c => some ⟨"oid4vp.response.validated", c.profile, c.responseMode.getD <|
      match c.profile with
      | .haip => .directPostJwt
      | .baseline => .directPost⟩
  | .ensure _ | .decrypt _ _ _ _ => none

namespace Event

variable {e : Event} {h : Heading} {r : Refusal}

structure Succeeds (e : Event) (h : Heading) : Prop where
  event : e.event = h.event
  outcome : e.outcome = .success

def failureKeys : List String := ["reason", "status", "profile", "responseMode"]

def detailKeys : List String := ["requestId", "format", "dcqlPresetId", "encryptionRequired"]

/-- Title and status are those of the refusal. Its detail, its complaints and its causes are left out. -/
structure Fails (e : Event) (h : Heading) (r : Refusal) : Prop where
  event : e.event = h.event
  outcome : e.outcome = .failure
  reason : e.fields.get? "reason" = some (.str r.problem.title)
  status : e.fields.get? "status" = some (.int r.problem.status)
  registered : (r.code, r.problem.title, r.problem.status) ∈ ProblemCode.registry
  profile : e.fields.get? "profile" = some (.str h.profileName)
  mode : e.fields.get? "responseMode" = some (.str h.modeName)
  only : ∀ m ∈ e.fields, m.1 ∈ failureKeys ++ detailKeys

theorem failureKeys_apart : ∀ key ∈ failureKeys, key ∉ detailKeys := by decide

theorem fails_failure (h : Heading) (r : Refusal) :
    (failure h.event r h.profile (some h.mode)).Fails h r := by
  refine ⟨rfl, rfl, by simp [failure, field], by simp [failure, field], r.code.mem_registry,
    by simp [failure, field, h.name_profile], by simp [failure, field, Json.ofOption, h.name_mode], ?_⟩
  intro m member
  apply List.mem_append_left
  rcases Members.mem_insert member with rfl | member
  · simp [failureKeys]
  rcases Members.mem_insert member with rfl | member
  · simp [failureKeys]
  rcases Members.mem_insert member with rfl | member
  · simp [failureKeys]
  rcases Members.mem_insert member with rfl | none
  · simp [failureKeys]
  · cases none

theorem Fails.field {key : String} (fails : e.Fails h r) (detail : key ∈ detailKeys) (value : Json) :
    (e.field key value).Fails h r := by
  -- A detail never takes the place of what every failure shows.
  have kept : ∀ k ∈ failureKeys, (e.field key value).fields.get? k = e.fields.get? k := by
    intro k shown
    have other : key ≠ k := fun same => failureKeys_apart k shown (same ▸ detail)
    rw [Event.field, Members.get?_insert, if_neg other]
  refine ⟨fails.event, fails.outcome, ?_, ?_, fails.registered, ?_, ?_, ?_⟩
  · rw [kept _ (by decide), fails.reason]
  · rw [kept _ (by decide), fails.status]
  · rw [kept _ (by decide), fails.profile]
  · rw [kept _ (by decide), fails.mode]
  · intro m member
    rcases Members.mem_insert member with rfl | member
    · exact List.mem_append_right failureKeys detail
    · exact fails.only m member

structure Reports (e : Event) (h : Heading) (result : Except Step.Error Step.Result) : Prop where
  event : e.event = h.event
  outcome : e.outcome = .success ↔ ∃ a, result = .ok a
  refusal : ∀ error, result = .error error → ∃ r, error = .refused r ∧ e.Fails h r

end Event

def Performance.Publishes (p : Performance) (h : Heading) : Prop :=
  ∃ e, p.events = [e] ∧ e.Reports h p.result

theorem Logged.publishes_reported {α : Type} {success : α → Event} {failure : Refusal → Event}
    {h : Heading} (succeeds : ∀ a, (success a).Succeeds h) (fails : ∀ r, (failure r).Fails h r)
    (x : Logged α) (of : α → Step.Result) :
    (Performance.ofReported (x.reported success failure) of).Publishes h := by
  obtain ⟨logs, result⟩ := x
  refine ⟨_, rfl, ?_⟩
  cases result with
  | ok a =>
    show (success a).Reports h (.ok (of a))
    exact ⟨(succeeds a).event, ⟨fun _ => ⟨of a, rfl⟩, fun _ => (succeeds a).outcome⟩, nofun⟩
  | error r =>
    show (failure r).Reports h (.error (.refused r))
    refine ⟨(fails r).event, ⟨?_, ?_⟩, ?_⟩
    · intro succeeded
      cases succeeded.symm.trans (fails r).outcome
    · rintro ⟨a, no⟩
      cases no
    · intro error same
      cases same
      exact ⟨r, rfl, fails r⟩

theorem Exchange.fails_failure (x : Exchange) (event : String) (r : Refusal) :
    (x.failure event r).Fails (x.heading event) r :=
  Event.Fails.field (Event.fails_failure (x.heading event) r) (by decide) (.str x.requestId)

theorem Delivery.succeeds_event (d : Delivery) (x : Exchange) :
    d.event.Succeeds (x.heading Telemetry.responseEncrypted) := by
  obtain ⟨exchange, uri, envelope, latency⟩ := d
  cases envelope <;> exact ⟨rfl, rfl⟩

theorem RequestCommand.create_eq_reported (config : Config) (b : Backend) (c : RequestCommand)
    (sources : Seeds.Sources) : ∃ x : Logged (Traced CreatedRequest),
      (c.create config b sources).1 = x.reported (fun t => c.success t.answer) c.failure := by
  rw [create]
  cases RequestPlan.ofCommand config b c with
  | error r => exact ⟨⟨[], .error r⟩, rfl⟩
  | ok plan => exact ⟨_, rfl⟩

theorem Encryption.encrypt_eq_reported (b : Backend) (x : Exchange) (uri : Option Url) (payload : Members)
    (e : Entropy) (clock : Clock) : ∃ y : Logged Delivery,
      (encrypt b x uri payload e clock).1 = y.reported Delivery.event (failure x) := by
  rw [encrypt]
  split_ifs
  · cases envelop b x.profile payload e with
    | mk result e' =>
      cases result with
      | error r => exact ⟨⟨[], .error r⟩, rfl⟩
      | ok v => exact ⟨⟨_, .ok _⟩, rfl⟩
  · exact ⟨⟨[], .ok _⟩, rfl⟩

namespace Session

variable {c : Call}

theorem publishes_perform (s : Session) {h : Heading} (heading : c.heading? = some h) :
    (s.perform c.step).1.Publishes h := by
  cases c with
  | create c =>
    cases heading
    show (Performance.ofReported (c.create s.config s.backend s.sources).1 .created).Publishes _
    obtain ⟨x, reported⟩ := c.create_eq_reported s.config s.backend s.sources
    rw [reported]
    apply Logged.publishes_reported
    · exact fun t => ⟨rfl, rfl⟩
    · exact fun r => .field (Event.fails_failure ⟨_, c.profile, c.responseMode⟩ r) (by decide) _
  | answerSdJwt c =>
    cases heading
    apply Logged.publishes_reported
    · exact fun t => ⟨rfl, rfl⟩
    · exact fun r => (c.exchange.fails_failure _ r).field (by decide) _
  | answerMdoc c pointers =>
    cases heading
    apply Logged.publishes_reported
    · exact fun t => ⟨rfl, rfl⟩
    · exact fun r => (c.exchange.fails_failure _ r).field (by decide) _
  | encrypt x uri payload verbose =>
    cases heading
    show (Performance.ofReported
      (Encryption.encrypt s.backend x uri payload s.sources.2 s.clock).1 _).Publishes _
    obtain ⟨y, reported⟩ :=
      Encryption.encrypt_eq_reported s.backend x uri payload s.sources.2 s.clock
    rw [reported]
    apply Logged.publishes_reported
    · exact fun d => d.succeeds_event x
    · exact fun r => (x.fails_failure _ r).field (by decide) _
  | check c =>
    have exchanged : h = c.exchange.heading "oid4vp.response.validated" := by
      cases heading
      rw [Exchange.heading, AcceptanceCommand.exchange]
      cases c.profile <;> rfl
    subst exchanged
    apply Logged.publishes_reported
    · exact fun t => ⟨rfl, rfl⟩
    · exact c.exchange.fails_failure _
  | ensure _ | decrypt _ _ _ _ => cases heading

theorem events_of_no_heading (s : Session) (heading : c.heading? = none) :
    (s.perform c.step).1.events = [] := by
  cases c with
  | ensure _ | decrypt _ _ _ _ => rfl
  | create _ | answerSdJwt _ | answerMdoc _ _ | encrypt _ _ _ _ | check _ => cases heading

def recorded (s : Session) (steps : List (Option Step)) : List Event :=
  Telemetry.Publisher.recording.recorded ((s.run steps).flatMap (·.events))

/-- The calls of a run that end with an event, in their order, each with what it has come to. -/
def ended : Session → List (Option Step) → List (Heading × Except Step.Error Step.Result)
  | _, [] => []
  | s, step :: steps =>
    (((step.bind s.call?).bind Call.heading?).map (·, (s.next step).1.result)).toList ++
      (s.next step).2.ended steps

theorem recorded_cons (s : Session) (step : Option Step) (steps : List (Option Step)) :
    s.recorded (step :: steps) = (s.next step).1.events ++ (s.next step).2.recorded steps := rfl

theorem reports_next (s : Session) (step : Option Step) :
    List.Forall₂ (fun e c => e.Reports c.1 c.2) (s.next step).1.events
      (((step.bind s.call?).bind Call.heading?).map (·, (s.next step).1.result)).toList := by
  cases step with
  | none => exact .nil
  | some step =>
    show List.Forall₂ _ (s.perform step).1.events
      (((s.call? step).bind Call.heading?).map (·, (s.perform step).1.result)).toList
    cases call : s.call? step with
    | none =>
      rw [events_of_no_call call]
      exact .nil
    | some c =>
      rw [perform_of_call call, Option.bind_some]
      cases heading : c.heading? with
      | none =>
        rw [events_of_no_heading s heading]
        exact .nil
      | some h =>
        obtain ⟨e, published, reports⟩ := publishes_perform s heading
        rw [published]
        exact .cons reports .nil

theorem reports_run (s : Session) (steps : List (Option Step)) :
    List.Forall₂ (fun e c => e.Reports c.1 c.2) (s.recorded steps) (s.ended steps) := by
  induction steps generalizing s with
  | nil => exact .nil
  | cons step steps ih =>
    rw [recorded_cons, ended]
    exact List.rel_append (reports_next s step) (ih (s.next step).2)

theorem ended_calls (s : Session) (calls : List Call) :
    s.ended (calls.map fun c => some c.step) =
      (calls.zip (s.run (calls.map fun c => some c.step))).filterMap fun (c, p) =>
        c.heading?.map (·, p.result) := by
  induction calls generalizing s with
  | nil => rfl
  | cons c calls ih =>
    rw [List.map_cons, ended, ih, run, List.zip_cons_cons, List.filterMap_cons, Option.bind_some, call?_step,
      Option.bind_some]
    cases heading : c.heading? <;> simp [heading]

end Session

/-- What is recorded of a run of calls is one event for each request created, answered or encrypted and
for each response checked, in their order: a success exactly if the call succeeded, and otherwise a
failure with title and status of the refusal, for the profile and the mode of the call. Nothing else is
recorded, and changes of the store between the calls make no difference. -/
theorem one_event_for_each_outcome (s : Session) :
    (∀ calls : List Call, List.Forall₂ (fun e c => e.Reports c.1 c.2)
      (s.recorded (calls.map fun c => some c.step))
      ((calls.zip (s.run (calls.map fun c => some c.step))).filterMap fun (c, p) =>
        c.heading?.map (·, p.result))) ∧
    ∀ steps, List.Forall₂ (fun e c => e.Reports c.1 c.2) (s.recorded steps) (s.ended steps) := by
  refine ⟨?_, s.reports_run⟩
  intro calls
  rw [← s.ended_calls]
  exact s.reports_run _

end VpExchange
