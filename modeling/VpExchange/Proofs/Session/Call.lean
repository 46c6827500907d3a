import VpExchange.Session.Run

set_option autoImplicit false

namespace VpExchange

inductive Call where
  | create (c : RequestCommand)
  | answerSdJwt (c : AnswerCommand SdJwt)
  | answerMdoc (c : AnswerCommand Mdoc) (pointers : List String)
  | ensure (x : Exchange)
  | encrypt (x : Exchange) (uri : Option Url) (payload : Members) (verbose : Bool)
  | decrypt (requestId : String) (profile : Profile) (token : String) (verbose : Bool)
  | check (c : AcceptanceCommand)

def Call.step : Call → Step
  | .create c => .createRequest c
  | .answerSdJwt c => .answerSdJwt c
  | .answerMdoc c pointers => .answerMdoc c pointers
  | .ensure x => .ensureEncryption x
  | .encrypt x uri payload verbose => .encrypt x uri (.given payload) verbose
  | .decrypt requestId profile token verbose => .decrypt requestId profile (.given token) verbose
  | .check c => .accept c none

namespace Session

variable {s : Session} {step : Step}

def call? (s : Session) : Step → Option Call
  | .createRequest c => some (.create c)
  | .answerSdJwt c => some (.answerSdJwt c)
  | .answerMdoc c pointers => some (.answerMdoc c pointers)
  | .ensureEncryption x => some (.ensure x)
  | .encrypt x uri payload verbose =>
    (s.payload payload).toOption.map fun payload => .encrypt x uri payload verbose
  | .decrypt requestId profile token verbose =>
    (s.token token).toOption.map fun token => .decrypt requestId profile token verbose
  | .accept c tokenOf => (s.withToken c tokenOf).toOption.map .check
  | _ => none

@[simp] theorem call?_step (s : Session) (c : Call) : s.call? c.step = some c := by
  cases c <;> rfl

theorem perform_of_call {c : Call} (h : s.call? step = some c) : s.perform step = s.perform c.step := by
  cases step with
  | encrypt x uri payload verbose =>
    cases taken : s.payload payload with
    | error e => simp [call?, taken, Except.toOption] at h
    | ok given =>
      simp only [call?, taken, Except.toOption, Option.map_some, Option.some.injEq] at h
      subst h
      rw [perform, taken]
      rfl
  | decrypt requestId profile token verbose =>
    cases taken : s.token token with
    | error e => simp [call?, taken, Except.toOption] at h
    | ok given =>
      simp only [call?, taken, Except.toOption, Option.map_some, Option.some.injEq] at h
      subst h
      rw [perform, taken]
      rfl
  | accept c tokenOf =>
    cases taken : s.withToken c tokenOf with
    | error e => simp [call?, taken, Except.toOption] at h
    | ok given =>
      simp only [call?, taken, Except.toOption, Option.map_some, Option.some.injEq] at h
      subst h
      rw [perform, taken]
      rfl
  | createRequest _ | answerSdJwt _ | answerMdoc _ _ | ensureEncryption _ =>
    cases h
    rfl
  | _ => cases h

theorem events_of_no_call (h : s.call? step = none) : (s.perform step).1.events = [] := by
  cases step with
  | encrypt x uri payload verbose =>
    cases taken : s.payload payload with
    | error e =>
      rw [perform, taken]
      rfl
    | ok given => simp [call?, taken, Except.toOption] at h
  | decrypt requestId profile token verbose =>
    cases taken : s.token token with
    | error e =>
      rw [perform, taken]
      rfl
    | ok given => simp [call?, taken, Except.toOption] at h
  | accept c tokenOf =>
    cases taken : s.withToken c tokenOf with
    | error e =>
      rw [perform, taken]
      rfl
    | ok given => simp [call?, taken, Except.toOption] at h
  | createRequest _ | answerSdJwt _ | answerMdoc _ _ | ensureEncryption _ => cases h
  | removeKey profile =>
    rw [perform]
    split <;> rfl
  | _ => rfl

end Session

end VpExchange
