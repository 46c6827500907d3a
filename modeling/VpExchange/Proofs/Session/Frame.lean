import VpExchange.Proofs.Session.Call
import VpExchange.Proofs.Session.Numbering

set_option autoImplicit false

namespace VpExchange

theorem Seeds.draw_of_not_random {seeds : Seeds} (given : seeds ≠ .random) :
    ∃ d seeds', seeds' ≠ .random ∧ ∀ e, draw (seeds, e) = (d, (seeds', e)) := by
  cases seeds with
  | random => exact absurd rfl given
  | counting requestIds nonces states =>
    exact ⟨_, .counting (requestIds + 1) (nonces + 1) (states + 1), nofun, fun _ => rfl⟩
  | listed requestIds nonces states =>
    exact ⟨_, .listed (nextOf requestIds).2 (nextOf nonces).2 (nextOf states).2, nofun, fun _ => rfl⟩

theorem RequestCommand.create_of_not_random (config : Config) (b : Backend) (c : RequestCommand)
    {seeds : Seeds} (given : seeds ≠ .random) :
    ∃ made seeds', seeds' ≠ .random ∧ ∀ e, c.create config b (seeds, e) = (made, (seeds', e)) := by
  cases planned : RequestPlan.ofCommand config b c with
  | error r =>
    refine ⟨⟨[], .error r, c.failure r⟩, seeds, given, fun e => ?_⟩
    rw [create, planned]
  | ok plan =>
    obtain ⟨d, seeds', given', drawn⟩ := Seeds.draw_of_not_random given
    have same e : c.create config b (seeds, e) =
        (Logged.reported ((Traced.of c.verbose CreatedRequest.trace) <$> CreatedRequest.ofPlan config c plan d)
          (fun t => c.success t.answer) c.failure, (seeds', e)) := by
      rw [create, planned]
      simp only [drawn]
    exact ⟨_, seeds', given', same⟩

namespace Call

def isCreate : Call → Bool
  | .create _ => true
  | _ => false

def isEncrypt : Call → Bool
  | .encrypt _ _ _ _ => true
  | _ => false

end Call

namespace Session

variable {s : Session}

theorem config_perform_call (s : Session) (c : Call) : (s.perform c.step).2.config = s.config := by
  cases c <;> rfl

theorem backend_perform_call (s : Session) (c : Call) : (s.perform c.step).2.backend = s.backend := by
  cases c <;> rfl

theorem perform_of_idle {c : Call} (create : c.isCreate = false) (encrypt : c.isEncrypt = false)
    (s : Session) : (s.perform c.step).2 = s := by
  cases c with
  | create _ => cases create
  | encrypt _ _ _ _ => cases encrypt
  | _ => rfl

theorem answer_of_idle {c : Call} (create : c.isCreate = false) (encrypt : c.isEncrypt = false)
    {t : Session} (config : t.config = s.config) (backend : t.backend = s.backend) :
    (t.perform c.step).1 = (s.perform c.step).1 := by
  obtain ⟨_, _, _, _, _⟩ := s
  obtain ⟨_, _, _, _, _⟩ := t
  cases config
  cases backend
  cases c with
  | create _ => cases create
  | encrypt _ _ _ _ => cases encrypt
  | _ => rfl

theorem outage_perform (s : Session) (step : Step) :
    (s.perform step).2.backend.outage = s.backend.outage := by
  cases step with
  | removeKey profile =>
    rw [perform]
    split <;> rfl
  | encrypt x uri payload verbose =>
    rw [perform]
    split <;> rfl
  | _ => rfl

theorem outage_after (s : Session) (steps : List (Option Step)) :
    (s.after steps).backend.outage = s.backend.outage := by
  induction steps generalizing s with
  | nil => rfl
  | cons step steps ih =>
    refine (ih (s.next step).2).trans ?_
    cases step with
    | none => rfl
    | some step => exact outage_perform s step

theorem given_next (given : s.sources.1 ≠ .random) (step : Option Step) :
    (s.next step).2.sources.1 ≠ .random := by
  cases step with
  | none => exact given
  | some step =>
    show (s.perform step).2.sources.1 ≠ .random
    cases creates : Step.isCreate (some step) with
    | false => exact (s.perform_of_other creates).1 ▸ given
    | true =>
      cases step with
      | createRequest c =>
        obtain ⟨made, seeds, given', drawn⟩ := c.create_of_not_random s.config s.backend given
        show (c.create s.config s.backend (s.sources.1, s.sources.2)).2.1 ≠ .random
        rw [drawn]
        exact given'
      | _ => cases creates

theorem given_after (given : s.sources.1 ≠ .random) (steps : List (Option Step)) :
    (s.after steps).sources.1 ≠ .random := by
  induction steps generalizing s with
  | nil => exact given
  | cons step steps ih => exact ih (given_next given step)

theorem sources_of_no_call {step : Step} (h : s.call? step = none) :
    (s.perform step).2.sources = s.sources := by
  cases step with
  | encrypt x uri payload verbose =>
    cases taken : s.payload payload with
    | error e =>
      rw [perform, taken]
    | ok given => simp [call?, taken, Except.toOption] at h
  | createRequest _ => cases h
  | removeKey profile =>
    rw [perform]
    split <;> rfl
  | _ => rfl

end Session

end VpExchange
