import Mathlib.Data.List.Nodup
import VpExchange.Proofs.Refusal
import VpExchange.Proofs.Seeds
import VpExchange.Session.Run

set_option autoImplicit false

namespace VpExchange

def AuthorizationRequest.draw (r : AuthorizationRequest) : Seeds.Draw := ⟨r.requestId, r.nonce, r.state⟩

namespace CreatedRequest

variable {config : Config} {c : RequestCommand} {plan : RequestPlan} {d : Seeds.Draw}

theorem draw_of_ofPlan {created : CreatedRequest} (h : (ofPlan config c plan d).result = .ok created) :
    created.request.draw = d := by
  simp only [ofPlan, Logged.result_bind_eq_ok_iff] at h
  obtain ⟨uri, -, -, -, h⟩ := h
  split_ifs at h
  · obtain ⟨qr, -, h⟩ := Logged.result_bind_eq_ok_iff.mp h
    cases h
    rfl
  · cases h
    rfl

theorem always_responseUri {holds : Refusal → Prop}
    (h : ∀ detail ∈ Refusal.causedDetails, ∀ cause, holds ((Refusal.new .invalidRequest detail).withCause cause))
    (config : Config) (mode : ResponseMode) (requestId : String) :
    Refusal.Always holds (responseUri config mode requestId) := by
  rw [responseUri]
  split_ifs
  · exact Refusal.always_bind (Refusal.always_ofChain (h _ (by decide)) _) fun uri => Refusal.always_ok _
  · exact Refusal.always_ok none

-- What is refused for its URI or its QR code is refused after its seeds have been drawn.
theorem always_ofPlan {holds : Refusal → Prop}
    (h : ∀ detail ∈ Refusal.causedDetails, ∀ cause, holds ((Refusal.new .invalidRequest detail).withCause cause))
    (config : Config) (c : RequestCommand) (plan : RequestPlan) (d : Seeds.Draw) :
    Refusal.Always holds (ofPlan config c plan d).result := by
  refine Logged.always_result_bind (always_responseUri h config c.responseMode d.requestId) fun uri => ?_
  refine Logged.always_result_bind (Refusal.always_ok ()) fun _ => ?_
  split_ifs
  · exact Logged.always_result_bind (Refusal.always_ofChain (h _ (by decide)) _) fun qr => Refusal.always_ok _
  · exact Refusal.always_ok _

end CreatedRequest

/-- The refusals that complain about the command itself. -/
inductive RequestPlan.Rejection : Refusal → Prop
  | unknownPreset (id : String) : Rejection
      ⟨.invalidRequest, "unknown DCQL preset " ++ id, [⟨"dcqlPresetId", id⟩], []⟩
  | unsignable : Rejection
      ⟨.invalidRequest, "signed authorization requests require a DCQL preset carrying client metadata",
        [⟨"dcqlPresetId", "required when signedRequest is true"⟩], []⟩
  | queryMissing : Rejection
      ⟨.invalidRequest, "a DCQL preset or DCQL override is required", [⟨"dcqlQuery", "missing"⟩], []⟩

theorem RequestPlan.Rejection.violations_ne_nil {r : Refusal} (h : Rejection r) : r.violations ≠ [] := by
  cases h <;> exact List.cons_ne_nil _ _

namespace Reported

variable {x : Reported (Traced CreatedRequest)}

def request? (x : Reported (Traced CreatedRequest)) : Option AuthorizationRequest :=
  x.result.toOption.map (·.answer.request)

theorem result_of_request? {r : AuthorizationRequest} (h : x.request? = some r) :
    ∃ t, x.result = .ok t ∧ t.answer.request = r := by
  obtain ⟨logs, result, event⟩ := x
  cases result with
  | error e => cases h
  | ok t => exact ⟨t, rfl, Option.some.inj h⟩

end Reported

namespace RequestCommand

variable {config : Config} {b : Backend} {c : RequestCommand} {sources : Seeds.Sources}

theorem sources_of_rejection {r : Refusal} (refused : (c.create config b sources).1.result = .error r)
    (rejection : RequestPlan.Rejection r) : (c.create config b sources).2 = sources := by
  rw [create] at refused ⊢
  cases planned : RequestPlan.ofCommand config b c with
  | error _ => rfl
  | ok plan =>
    rw [planned] at refused
    have bare : Refusal.Always (·.violations = []) _ :=
      CreatedRequest.always_ofPlan (fun _ _ _ => rfl) config c plan (Seeds.draw sources).1
    replace bare := Refusal.always_map bare (Traced.of c.verbose CreatedRequest.trace)
    rw [← Logged.result_map] at bare
    exact absurd (bare r refused) rejection.violations_ne_nil

/-- Counters in step stay in step: either nothing is drawn and nothing is created, or the next number is
drawn for all three, and what is created, if anything is, has it. -/
theorem create_counted {n : Nat} (room : n + 1 < 2 ^ 64) (e : Entropy) :
    ((c.create config b (.counted n, e)).2.1 = .counted n ∧
      (c.create config b (.counted n, e)).1.request? = none) ∨
    ((c.create config b (.counted n, e)).2.1 = .counted (n + 1) ∧
      ∀ r, (c.create config b (.counted n, e)).1.request? = some r → r.draw = .numbered (n + 1)) := by
  rw [create]
  cases RequestPlan.ofCommand config b c with
  | error r => exact .inl ⟨rfl, rfl⟩
  | ok plan =>
    right
    rw [Seeds.draw_counted room e]
    refine ⟨rfl, ?_⟩
    intro r made
    obtain ⟨t, answered, rfl⟩ := Reported.result_of_request? made
    obtain ⟨created, ofPlan, rfl⟩ := Logged.result_map_eq_ok_iff.mp answered
    exact CreatedRequest.draw_of_ofPlan ofPlan

end RequestCommand

def Step.Result.request? : Result → Option AuthorizationRequest
  | .created t => some t.answer.request
  | _ => none

def Performance.request? (p : Performance) : Option AuthorizationRequest :=
  p.result.toOption.bind (·.request?)

def Step.isCreate : Option Step → Bool
  | some (.createRequest _) => true
  | _ => false

namespace Performance

variable {α ε : Type} {of : α → Step.Result}

theorem request?_ofReported (x : Reported (Traced CreatedRequest)) :
    (ofReported x .created).request? = x.request? := by
  obtain ⟨logs, result, event⟩ := x
  cases result <;> rfl

theorem request?_of_map {x : Except ε α} {f : ε → Step.Error} (never : ∀ a, (of a).request? = none) :
    ((x.map of).mapError f).toOption.bind (·.request?) = none := by
  cases x with
  | error e => rfl
  | ok a => exact never a

end Performance

namespace Session

def after (s : Session) (steps : List (Option Step)) : Session :=
  steps.foldl (fun s step => (s.next step).2) s

def requests (s : Session) (steps : List (Option Step)) : List AuthorizationRequest :=
  (s.run steps).filterMap (·.request?)

theorem perform_of_other (s : Session) {step : Step} (other : Step.isCreate (some step) = false) :
    (s.perform step).2.sources.1 = s.sources.1 ∧ (s.perform step).1.request? = none := by
  cases step with
  | createRequest c => cases other
  | removeKey profile =>
    rw [perform]
    split <;> exact ⟨rfl, rfl⟩
  | getKey profile =>
    refine ⟨rfl, ?_⟩
    show ((s.backend.store.key profile).mapError _ |>.map _).toOption.bind _ = none
    cases s.backend.store.key profile <;> rfl
  | answerSdJwt c => exact ⟨rfl, Performance.request?_of_map fun _ => rfl⟩
  | answerMdoc c pointers => exact ⟨rfl, Performance.request?_of_map fun _ => rfl⟩
  | ensureEncryption x => exact ⟨rfl, Performance.request?_of_map fun _ => rfl⟩
  | encrypt x uri payload verbose =>
    rw [perform]
    cases s.payload payload with
    | error e => exact ⟨rfl, rfl⟩
    | ok payload => exact ⟨rfl, Performance.request?_of_map fun _ => rfl⟩
  | decrypt requestId profile token verbose =>
    rw [perform]
    cases s.token token with
    | error e => exact ⟨rfl, rfl⟩
    | ok token => exact ⟨rfl, Performance.request?_of_map fun _ => rfl⟩
  | accept c tokenOf =>
    rw [perform]
    cases s.withToken c tokenOf with
    | error e => exact ⟨rfl, rfl⟩
    | ok c => exact ⟨rfl, Performance.request?_of_map fun _ => rfl⟩
  | _ => exact ⟨rfl, rfl⟩

theorem next_counted {s : Session} {n : Nat} (counted : s.sources.1 = .counted n) {step : Option Step}
    (room : Step.isCreate step = true → n + 1 < 2 ^ 64) :
    ((s.next step).2.sources.1 = .counted n ∧ (s.next step).1.request? = none) ∨
    (Step.isCreate step = true ∧ (s.next step).2.sources.1 = .counted (n + 1) ∧
      ∀ r, (s.next step).1.request? = some r → r.draw = .numbered (n + 1)) := by
  cases step with
  | none => exact .inl ⟨counted, rfl⟩
  | some step =>
    cases creates : Step.isCreate (some step) with
    | false =>
      obtain ⟨kept, none⟩ := s.perform_of_other creates
      exact .inl ⟨kept.trans counted, none⟩
    | true =>
      cases step with
      | createRequest c =>
        have sources : s.sources = (.counted n, s.sources.2) := Prod.ext counted rfl
        have performed : (s.next (some (.createRequest c))).1 =
            .ofReported (c.create s.config s.backend s.sources).1 .created := rfl
        have left : (s.next (some (.createRequest c))).2.sources =
            (c.create s.config s.backend s.sources).2 := rfl
        rw [performed, left, Performance.request?_ofReported, sources]
        exact (RequestCommand.create_counted (room creates) _).imp_right fun drawn => ⟨rfl, drawn⟩
      | _ => cases creates

theorem requests_counted {s : Session} {n : Nat} (counted : s.sources.1 = .counted n)
    {steps : List (Option Step)} (room : n + steps.countP Step.isCreate < 2 ^ 64) :
    ∃ (ks : List Nat) (n' : Nat), (s.requests steps).map (·.draw) = ks.map .numbered ∧ ks.Pairwise (· < ·) ∧
      (∀ k ∈ ks, n < k) ∧ (s.after steps).sources.1 = .counted n' := by
  induction steps generalizing s n with
  | nil => exact ⟨[], n, rfl, .nil, nofun, counted⟩
  | cons step steps ih =>
    rw [List.countP_cons] at room
    have roomHere : Step.isCreate step = true → n + 1 < 2 ^ 64 := by
      intro creates
      rw [if_pos creates] at room
      omega
    have split : s.requests (step :: steps) =
        (s.next step).1.request?.toList ++ (s.next step).2.requests steps := by
      show List.filterMap _ ((s.next step).1 :: _) = _
      rw [List.filterMap_cons]
      cases (s.next step).1.request? <;> rfl
    rcases next_counted counted roomHere with ⟨kept, none⟩ | ⟨creates, drawn, numbered⟩
    · obtain ⟨ks, n', draws, increasing, above, after⟩ := ih kept (by omega)
      refine ⟨ks, n', ?_, increasing, above, after⟩
      rw [split, none]
      exact draws
    · rw [if_pos creates] at room
      obtain ⟨ks, n', draws, increasing, above, after⟩ := ih drawn (by omega)
      cases made : (s.next step).1.request? with
      | none =>
        refine ⟨ks, n', ?_, increasing, fun k inside => ?_, after⟩
        · rw [split, made]
          exact draws
        · exact (Nat.lt_succ_self n).trans (above k inside)
      | some r =>
        refine ⟨(n + 1) :: ks, n', ?_, List.pairwise_cons.mpr ⟨above, increasing⟩, fun k inside => ?_, after⟩
        · rw [split, made, Option.toList_some, List.singleton_append, List.map_cons, numbered r made, draws,
            List.map_cons]
        · rcases List.mem_cons.mp inside with rfl | later
          · exact Nat.lt_succ_self n
          · exact (Nat.lt_succ_self n).trans (above k later)

end Session

/-- In a run that begins with all counters at zero and creates fewer than 2⁶⁴ - 1 requests, successful or
refused, with anything else in between, the counters are equal at all times. The requests created have
ascending numbers, one number for id, nonce and state of a request, and so no id, no nonce and no state
comes twice. A command that is refused as such leaves the seeds as they are. -/
theorem requests_never_repeat (config : Config) (outage : Outage) (entropy : Entropy) (clock : Clock)
    {steps : List (Option Step)} (few : steps.countP Step.isCreate < 2 ^ 64 - 1) :
    let s := Session.start config outage (.start, entropy) clock
    (∃ k, (s.after steps).sources.1 = .counting k k k) ∧
    (∃ ks : List Nat, ks.Pairwise (· < ·) ∧ (s.requests steps).map (·.draw) = ks.map .numbered) ∧
    ((s.requests steps).map (·.requestId)).Nodup ∧
    ((s.requests steps).map (·.nonce)).Nodup ∧
    ((s.requests steps).map (·.state)).Nodup ∧
    ∀ c r, ((s.after steps).perform (.createRequest c)).1.result = .error (.refused r) →
      RequestPlan.Rejection r →
        ((s.after steps).perform (.createRequest c)).2.sources = (s.after steps).sources := by
  intro s
  obtain ⟨ks, n, draws, increasing, -, counted⟩ :=
    @Session.requests_counted s 0 Seeds.start_eq_counted steps (by omega)
  have distinct : ks.Nodup := increasing.imp Nat.ne_of_lt
  have each {α : Type} (part : Seeds.Draw → α) (injective : Function.Injective (part ∘ .numbered)) :
      ((s.requests steps).map fun r => part r.draw).Nodup := by
    have parts := congrArg (List.map part) draws
    rw [List.map_map, List.map_map] at parts
    show (List.map (part ∘ AuthorizationRequest.draw) _).Nodup
    rw [parts]
    exact distinct.map injective
  refine ⟨⟨_, counted⟩, ⟨ks, increasing, draws⟩, each (·.requestId) (Seeds.fourDigits_injective "req-"),
    each (·.nonce) (Seeds.fourDigits_injective "nonce-"),
    each (·.state) (Seeds.fourDigits_injective "state-"), ?_⟩
  intro c r refused rejection
  have created : ((s.after steps).perform (.createRequest c)).1.result =
      ((c.create (s.after steps).config (s.after steps).backend (s.after steps).sources).1.result.map
        .created).mapError .refused := rfl
  rw [created] at refused
  cases answered :
    (c.create (s.after steps).config (s.after steps).backend (s.after steps).sources).1.result with
  | ok t =>
    rw [answered] at refused
    cases refused
  | error r' =>
    rw [answered] at refused
    cases refused
    exact RequestCommand.sources_of_rejection answered rejection

def sampleCreate (query : Option Json) : RequestCommand :=
  ⟨.baseline, .fragment, none, query, false, false, false⟩

theorem requests_never_repeat_sample :
    let s := Session.start Config.default Outage.none (.start, Entropy.ofBytes []) ⟨[]⟩
    let steps := [some .null, none, some .null].map fun q => some (Step.createRequest (sampleCreate q))
    (s.requests steps).map (·.draw) =
      [⟨"req-0001", "nonce-0001", "state-0001"⟩, ⟨"req-0002", "nonce-0002", "state-0002"⟩] ∧
    ((s.requests steps).map (·.nonce)).Nodup ∧
    ((s.after steps).perform (.createRequest (sampleCreate none))).2.sources = (s.after steps).sources := by
  intro s steps
  obtain ⟨-, -, -, nonces, -, kept⟩ := requests_never_repeat Config.default Outage.none
    (Entropy.ofBytes []) ⟨[]⟩ (show steps.countP Step.isCreate < 2 ^ 64 - 1 by decide)
  exact ⟨rfl, nonces, kept _ _ rfl .queryMissing⟩

end VpExchange
