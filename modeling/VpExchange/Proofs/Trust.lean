import VpExchange.Answer.SdJwt
import VpExchange.Proofs.Refusal

set_option autoImplicit false

namespace VpExchange

theorem requestedPolicy_eq_some_iff {requested : Option String} {policy : String} :
    requestedPolicy requested = some policy ↔
      requested = some policy ∧ Text.isBlankText policy = false := by
  rw [requestedPolicy, Option.filter_eq_some_iff, Bool.not_eq_true']

theorem requestedPolicy_eq_none_iff {requested : Option String} : requestedPolicy requested = none ↔
    ∀ policy, requested = some policy → Text.isBlankText policy = true := by
  rw [requestedPolicy, Option.filter_eq_none_iff]
  simp

def Satisfied (requested : Option String) (carried : List String) : Prop :=
  ∀ policy, requestedPolicy requested = some policy → policy ∈ carried

theorem satisfied_iff {requested : Option String} {carried : List String} :
    Satisfied requested carried ↔
      ∀ policy, requested = some policy → Text.isBlankText policy = true ∨ policy ∈ carried := by
  simp only [Satisfied, requestedPolicy_eq_some_iff]
  constructor
  · intro satisfied policy given
    cases blank : Text.isBlankText policy with
    | true => exact .inl rfl
    | false => exact .inr (satisfied policy ⟨given, blank⟩)
  · rintro carries policy ⟨given, visible⟩
    exact (carries policy given).resolve_left (by simp [visible])

def verdictOf (requested : Option String) : Option TrustVerdict :=
  (requestedPolicy requested).map .ofPolicy

/-- What a trust check decides: on the same policies every one of them decides this, up to the label of
the verdict. -/
def trustDecision (requested : Option String) (carried : List String) :
    Except Refusal (Option TrustVerdict) :=
  match requestedPolicy requested with
  | none => .ok none
  | some policy =>
    if policy ∈ carried then .ok (some (.ofPolicy policy)) else .error (unsatisfiedPolicy policy)

theorem trustDecision_eq_ok_iff {requested : Option String} {carried : List String}
    {verdict : Option TrustVerdict} : trustDecision requested carried = .ok verdict ↔
      Satisfied requested carried ∧ verdict = verdictOf requested := by
  rw [trustDecision, Satisfied, verdictOf]
  cases requestedPolicy requested with
  | none => exact ⟨fun h => ⟨nofun, by cases h; rfl⟩, fun ⟨_, h⟩ => by rw [h]; rfl⟩
  | some policy =>
    by_cases carries : policy ∈ carried
    · simp only [carries, if_true]
      exact ⟨fun h => ⟨fun _ same => by cases same; exact carries, by cases h; rfl⟩,
        fun ⟨_, h⟩ => by rw [h]; rfl⟩
    · simp only [carries, if_false]
      exact ⟨nofun, fun ⟨h, _⟩ => absurd (h policy rfl) carries⟩

theorem trustDecision_of_unmet {requested : Option String} {carried : List String} {policy : String}
    (asked : requestedPolicy requested = some policy) (unmet : policy ∉ carried) :
    trustDecision requested carried = .error (unsatisfiedPolicy policy) := by
  rw [trustDecision, asked]
  exact if_neg unmet

theorem refuses_trustDecision (requested : Option String) (carried : List String) :
    Refusal.RefusesWith [.invalidScope] (trustDecision requested carried) := by
  rw [trustDecision]
  cases requestedPolicy requested with
  | none => exact Refusal.refuses_ok none
  | some policy =>
    simp only
    split_ifs
    · exact Refusal.refuses_ok _
    · exact Refusal.refuses_error (List.mem_singleton_self _) rfl

theorem satisfied_or_unmet (requested : Option String) (carried : List String) :
    Satisfied requested carried ∨
      ∃ policy, requestedPolicy requested = some policy ∧ policy ∉ carried := by
  by_cases satisfied : Satisfied requested carried
  · exact .inl satisfied
  · simp only [Satisfied, not_forall, exists_prop] at satisfied
    exact .inr satisfied

theorem result_matchPolicy (requested : Option String) (c : SdJwt) :
    (Answer.SdJwt.matchPolicy requested c).result = trustDecision requested c.policies := by
  rw [Answer.SdJwt.matchPolicy, trustDecision]
  cases requestedPolicy requested with
  | none => rfl
  | some policy =>
    by_cases carries : policy ∈ c.policies
    · simp [carries]
    · simp [carries, Logged.warn]
      rfl

-- The label comes from the verifier's snapshot, which a wallet does not have.
def TrustVerdict.grounds (v : TrustVerdict) : String × String × String := (v.type, v.value, v.policy)

namespace TrustIndex

def labelled (i : TrustIndex) (v : TrustVerdict) : TrustVerdict :=
  { v with label := (i.label? v.type v.value).getD v.label }

theorem policy_mem_of_satisfied {i : TrustIndex} {requested : Option String} {carried : List String}
    {v : TrustVerdict} (satisfied : Satisfied requested carried)
    (verdict : (verdictOf requested).map i.labelled = some v) : v.policy ∈ carried := by
  obtain ⟨_, unlabelled, rfl⟩ := Option.map_eq_some_iff.mp verdict
  obtain ⟨policy, asked, rfl⟩ := Option.map_eq_some_iff.mp unlabelled
  exact satisfied policy asked

theorem grounds_labelled (i : TrustIndex) (verdict : Option TrustVerdict) :
    (verdict.map i.labelled).map TrustVerdict.grounds = verdict.map TrustVerdict.grounds := by
  rw [Option.map_map]
  rfl

theorem result_evaluate (i : TrustIndex) (requested : Option String) (carried : List String) :
    (i.evaluate requested carried).result =
      (trustDecision requested carried).map (Option.map i.labelled) := by
  rw [evaluate, trustDecision]
  cases requestedPolicy requested with
  | none => rfl
  | some policy =>
    by_cases carries : policy ∈ carried
    · simp [carries, Logged.debug]
      rfl
    · simp [carries, Logged.warn]
      rfl

theorem evaluate_eq_ok_iff {i : TrustIndex} {requested : Option String} {carried : List String}
    {verdict : Option TrustVerdict} :
    (i.evaluate requested carried).result = .ok verdict ↔
      Satisfied requested carried ∧ verdict = (verdictOf requested).map i.labelled := by
  simp only [result_evaluate, map_eq_ok_iff, trustDecision_eq_ok_iff]
  constructor
  · intro ⟨_, ⟨satisfied, same⟩, labelled⟩
    exact ⟨satisfied, by rw [← labelled, same]⟩
  · intro ⟨satisfied, labelled⟩
    exact ⟨_, ⟨satisfied, rfl⟩, labelled.symm⟩

theorem evaluate_of_unmet (i : TrustIndex) {requested : Option String} {carried : List String}
    {policy : String} (asked : requestedPolicy requested = some policy) (unmet : policy ∉ carried) :
    (i.evaluate requested carried).result = .error (unsatisfiedPolicy policy) := by
  rw [result_evaluate, trustDecision_of_unmet asked unmet]
  rfl

theorem refuses_evaluate (i : TrustIndex) (requested : Option String) (carried : List String) :
    Refusal.RefusesWith [.invalidScope] (i.evaluate requested carried).result := by
  rw [result_evaluate]
  exact Refusal.refuses_map (refuses_trustDecision requested carried) _

theorem refusedAs_evaluate_iff {i : TrustIndex} {requested : Option String} {carried : List String}
    {code : ProblemCode} :
    Refusal.RefusedAs code (i.evaluate requested carried).result ↔
      code = .invalidScope ∧ ¬Satisfied requested carried := by
  simp only [Refusal.refusedAs_iff_of_within (refuses_evaluate i requested carried).within,
    evaluate_eq_ok_iff, exists_and_left, exists_eq, and_true]

end TrustIndex

end VpExchange
