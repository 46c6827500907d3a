import VpExchange.Proofs.Session.Numbering

set_option autoImplicit false

namespace VpExchange

namespace Step

def withVerbose (verbose : Bool) : Step → Step
  | .createRequest c => .createRequest { c with verbose := verbose }
  | .answerSdJwt c => .answerSdJwt { c with verbose := verbose }
  | .answerMdoc c pointers => .answerMdoc { c with verbose := verbose } pointers
  | .encrypt x uri payload _ => .encrypt x uri payload verbose
  | .decrypt requestId profile token _ => .decrypt requestId profile token verbose
  | .accept c tokenOf => .accept { c with verbose := verbose } tokenOf
  | step => step

namespace Result

/-- The result with the trace that is made of its answer, or with none, whatever trace there was. -/
def withVerbose (verbose : Bool) : Result → Result
  | .created t => .created ⟨t.answer, if verbose then some t.answer.trace else none⟩
  | .sdJwt t => .sdJwt ⟨t.answer, if verbose then some (Answer.SdJwt.trace t.answer) else none⟩
  | .mdoc t => .mdoc ⟨t.answer, if verbose then some (Answer.Mdoc.trace t.answer) else none⟩
  | .delivered t drawn => .delivered ⟨t.answer, if verbose then some t.answer.trace else none⟩ drawn
  | .opened t => .opened ⟨t.answer, if verbose then some t.answer.trace else none⟩
  | .accepted t => .accepted ⟨t.answer, if verbose then some t.answer.trace else none⟩
  | r => r

@[simp] theorem withVerbose_withVerbose (r : Result) (verbose verbose' : Bool) :
    (r.withVerbose verbose').withVerbose verbose = r.withVerbose verbose := by
  cases r <;> rfl

@[simp] theorem product?_withVerbose (r : Result) (verbose : Bool) :
    (r.withVerbose verbose).product? = r.product? := by
  cases r <;> rfl

end Result

end Step

namespace Performance

variable {α : Type} {verbose : Bool}

def withVerbose (verbose : Bool) (p : Performance) : Performance :=
  { p with result := p.result.map (·.withVerbose verbose) }

@[simp] theorem withVerbose_withVerbose (p : Performance) (verbose verbose' : Bool) :
    (p.withVerbose verbose').withVerbose verbose = p.withVerbose verbose := by
  obtain ⟨logs, result, events⟩ := p
  cases result with
  | error e => rfl
  | ok r => simp [withVerbose, Except.map]

@[simp] theorem product?_withVerbose (p : Performance) (verbose : Bool) :
    (p.withVerbose verbose).product? = p.product? := by
  obtain ⟨logs, result, events⟩ := p
  cases result with
  | error e => rfl
  | ok r => exact r.product?_withVerbose verbose

theorem withVerbose_of_map {ε : Type} (logs : List Log) (e : Except ε α) (f : ε → Step.Error)
    (events : List Event) {of of' : α → Step.Result} (h : ∀ a, of a = (of' a).withVerbose verbose) :
    (⟨logs, (e.map of).mapError f, events⟩ : Performance) =
      withVerbose verbose ⟨logs, (e.map of').mapError f, events⟩ := by
  cases e with
  | error e => rfl
  | ok a => exact congrArg (fun r => Performance.mk logs (.ok r) events) (h a)

theorem ofLogged_withVerbose (x : Logged α) {of of' : α → Step.Result}
    (h : ∀ a, of a = (of' a).withVerbose verbose) : ofLogged x of = (ofLogged x of').withVerbose verbose :=
  withVerbose_of_map _ _ _ _ h

theorem ofReported_withVerbose (x : Reported α) {of of' : α → Step.Result}
    (h : ∀ a, of a = (of' a).withVerbose verbose) : ofReported x of = (ofReported x of').withVerbose verbose :=
  withVerbose_of_map _ _ _ _ h

-- The event is settled by the answer, so it does not matter when the trace is attached.
theorem ofReported_traced {trace : α → Trace} {of : Traced α → Step.Result} {verbose verbose' : Bool}
    (h : ∀ a, of (Traced.of verbose trace a) = (of (Traced.of verbose' trace a)).withVerbose verbose)
    (x : Logged α) (success : α → Event) (failure : Refusal → Event) :
    ofReported (Logged.reported (Traced.of verbose trace <$> x) (fun t => success t.answer) failure) of =
      (ofReported (Logged.reported (Traced.of verbose' trace <$> x) (fun t => success t.answer) failure)
        of).withVerbose verbose := by
  obtain ⟨logs, result⟩ := x
  cases result with
  | error r => rfl
  | ok a => exact congrArg (fun r => Performance.mk (logs ++ []) (.ok r) [success a]) (h a)

end Performance

namespace Session

variable (s : Session) (verbose : Bool)

theorem withToken_withVerbose (c : AcceptanceCommand) (tokenOf : Option Nat) :
    s.withToken { c with verbose := verbose } tokenOf =
      (s.withToken c tokenOf).map ({ · with verbose := verbose }) := by
  cases tokenOf with
  | none => rfl
  | some index =>
    rw [withToken, withToken]
    cases s.product index <;> rfl

theorem perform_createRequest_withVerbose (c : RequestCommand) :
    s.perform (.createRequest { c with verbose := verbose }) =
      ((s.perform (.createRequest c)).1.withVerbose verbose, (s.perform (.createRequest c)).2) := by
  rw [perform, perform, RequestCommand.create, RequestCommand.create]
  have planned : RequestPlan.ofCommand s.config s.backend { c with verbose := verbose } =
      RequestPlan.ofCommand s.config s.backend c := rfl
  rw [planned]
  cases RequestPlan.ofCommand s.config s.backend c with
  | error r => rfl
  | ok plan => exact Prod.ext (Performance.ofReported_traced (fun _ => rfl) _ _ _) rfl

/-- A step does the same with another verbosity, and then answers with it. -/
theorem perform_withVerbose (step : Step) : s.perform (step.withVerbose verbose) =
    ((s.perform step).1.withVerbose verbose, (s.perform step).2) := by
  cases step with
  | createRequest c => exact s.perform_createRequest_withVerbose verbose c
  | answerSdJwt c => exact Prod.ext (Performance.ofReported_traced (fun _ => rfl) _ _ _) rfl
  | answerMdoc c pointers => exact Prod.ext (Performance.ofReported_traced (fun _ => rfl) _ _ _) rfl
  | ensureEncryption x => exact Prod.ext (Performance.ofLogged_withVerbose _ fun _ => rfl) rfl
  | encrypt x uri payload verbose' =>
    rw [Step.withVerbose, perform, perform]
    cases s.payload payload with
    | error e => rfl
    | ok payload => exact Prod.ext (Performance.ofReported_withVerbose _ fun _ => rfl) rfl
  | decrypt requestId profile token verbose' =>
    rw [Step.withVerbose, perform, perform]
    cases s.token token with
    | error e => rfl
    | ok token => exact Prod.ext (Performance.ofLogged_withVerbose _ fun _ => rfl) rfl
  | accept c tokenOf =>
    rw [Step.withVerbose, perform, perform, withToken_withVerbose]
    cases s.withToken c tokenOf with
    | error e => rfl
    | ok c => exact Prod.ext (Performance.ofReported_traced (fun _ => rfl) _ _ _) rfl
  | removeKey profile =>
    show s.perform (.removeKey profile) = _
    rw [perform]
    split <;> rfl
  | getKey profile =>
    show s.perform (.getKey profile) = _
    rw [perform]
    cases s.backend.store.key profile <;> rfl
  | _ => rfl

theorem next_withVerbose (step : Option Step) : s.next (step.map (·.withVerbose verbose)) =
    ((s.next step).1.withVerbose verbose, (s.next step).2) := by
  cases step with
  | none => rfl
  | some step =>
    rw [Option.map_some, next, next]
    dsimp only
    rw [perform_withVerbose, Performance.product?_withVerbose]

theorem run_withVerbose (steps : List (Option Step × Bool)) :
    let plain := steps.map (·.1)
    let asked := steps.map fun (step, verbose) => step.map (·.withVerbose verbose)
    s.after asked = s.after plain ∧
      s.run asked = (steps.map (·.2)).zipWith Performance.withVerbose (s.run plain) := by
  induction steps generalizing s with
  | nil => exact ⟨rfl, rfl⟩
  | cons step steps ih =>
    obtain ⟨step, verbose⟩ := step
    obtain ⟨after, later⟩ := ih (s.next step).2
    constructor
    · show (s.next (step.map (·.withVerbose verbose))).2.after _ = (s.next step).2.after _
      rw [next_withVerbose]
      exact after
    · show (s.next (step.map (·.withVerbose verbose))).1 :: (s.next (step.map (·.withVerbose verbose))).2.run _ =
        (s.next step).1.withVerbose verbose :: _
      rw [next_withVerbose]
      exact congrArg _ later

end Session

/-- Asking for traces changes nothing else. In any state, a step with a trace and the same step without are
refused alike or both succeed, with the same log lines, the same event and the same session afterwards, and
what they answer is the same but for the trace: one answer has the trace that is made of the other, which
has none. In a run each step may have a verbosity of its own, and nothing but the traces depends on them. -/
theorem verbose_adds_traces_only (s : Session) :
    (∀ step : Step,
      let on := s.perform (step.withVerbose true)
      let off := s.perform (step.withVerbose false)
      on.2 = off.2 ∧ on.1.logs = off.1.logs ∧ on.1.events = off.1.events ∧
        on.1.result = off.1.result.map (·.withVerbose true) ∧
        off.1.result = off.1.result.map (·.withVerbose false)) ∧
    ∀ steps : List (Option Step × Bool),
      let plain := steps.map (·.1)
      let asked := steps.map fun (step, verbose) => step.map (·.withVerbose verbose)
      s.after asked = s.after plain ∧
        s.run asked = (steps.map (·.2)).zipWith Performance.withVerbose (s.run plain) := by
  refine ⟨?_, s.run_withVerbose⟩
  intro step on off
  have without : off = ((s.perform step).1.withVerbose false, (s.perform step).2) := s.perform_withVerbose false step
  have added : on = (off.1.withVerbose true, off.2) := by
    rw [without, Performance.withVerbose_withVerbose]
    exact s.perform_withVerbose true step
  have none : off.1.withVerbose false = off.1 := by
    rw [without, Performance.withVerbose_withVerbose]
  rw [added]
  exact ⟨rfl, rfl, rfl, rfl, congrArg Performance.result none.symm⟩

theorem verbose_adds_traces_only_sample :
    let s := Session.start Config.default Outage.none (.start, Entropy.ofBytes []) ⟨[]⟩
    let create := Step.createRequest (sampleCreate (some .null))
    ∃ r, (s.perform (create.withVerbose false)).1.result = .ok (.created ⟨r, none⟩) ∧
      (s.perform (create.withVerbose true)).1.result = .ok (.created ⟨r, some r.trace⟩) := by
  intro s create
  obtain ⟨-, -, -, added, -⟩ := (verbose_adds_traces_only s).1 create
  exact ⟨_, rfl, added⟩

end VpExchange
