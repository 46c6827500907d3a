import Mathlib.Data.List.TakeWhile
import VpExchange.Proofs.Trust

set_option autoImplicit false

namespace VpExchange

inductive PolicySplit (policy : String) : String → String → Prop
  | pair {type value : String} (whole : policy = type ++ ":" ++ value) (first : ':' ∉ type.toList)
      (valued : value ≠ "") : PolicySplit policy type value
  | ended {type : String} (whole : policy = type ++ ":") (first : ':' ∉ type.toList) :
      PolicySplit policy type policy
  | bare (none : ':' ∉ policy.toList) : PolicySplit policy "unknown" policy

theorem splitPolicy_of_bare {policy : String} (none : ':' ∉ policy.toList) :
    splitPolicy policy = ("unknown", policy) := by
  have all : policy.toList.dropWhile (· ≠ ':') = [] := by
    rw [List.dropWhile_eq_nil_iff]
    intro c mem
    simpa using ne_of_mem_of_not_mem mem none
  rw [splitPolicy, all]

theorem splitPolicy_of_colon {type : String} (first : ':' ∉ type.toList) (value : String) :
    splitPolicy (type ++ ":" ++ value) =
      (type, if value = "" then type ++ ":" ++ value else value) := by
  have front : ∀ c ∈ type.toList, decide (c ≠ ':') = true := by
    intro c mem
    simpa using ne_of_mem_of_not_mem mem first
  have chars : (type ++ ":" ++ value).toList = type.toList ++ ':' :: value.toList := by simp
  rw [splitPolicy, chars, List.dropWhile_append_of_pos front, List.takeWhile_append_of_pos front]
  by_cases empty : value = ""
  · subst empty
    simp
  · obtain ⟨c, rest, given⟩ := List.exists_cons_of_ne_nil fun nil => empty (String.toList_inj.mp nil)
    rw [if_neg empty, ← String.ofList_toList (s := value), given]
    simp

theorem splitPolicy_eq_iff {policy type value : String} :
    splitPolicy policy = (type, value) ↔ PolicySplit policy type value := by
  constructor
  · intro split
    by_cases colon : ':' ∈ policy.toList
    · obtain ⟨before, after, chars, first⟩ := List.eq_append_cons_of_mem colon
      have whole : policy = String.ofList before ++ ":" ++ String.ofList after :=
        String.toList_inj.mp (by simp [chars])
      have ends : ':' ∉ (String.ofList before).toList := by rwa [String.toList_ofList]
      rw [whole, splitPolicy_of_colon ends, ← whole] at split
      split_ifs at split with empty <;> obtain ⟨rfl, rfl⟩ := Prod.mk.inj split
      · exact .ended (by rw [whole, empty, String.append_empty]) ends
      · exact .pair whole ends empty
    · rw [splitPolicy_of_bare colon] at split
      obtain ⟨rfl, rfl⟩ := Prod.mk.inj split
      exact .bare colon
  · intro splits
    cases splits with
    | pair whole first valued => rw [whole, splitPolicy_of_colon first, if_neg valued]
    | ended whole first =>
      have split := splitPolicy_of_colon first ""
      rw [String.append_empty, if_pos rfl, ← whole] at split
      exact split
    | bare none => exact splitPolicy_of_bare none

def TrustSnapshot.label? (s : TrustSnapshot) (type value : String) : Option String :=
  (s.authorities.find? fun a => a.type = type ∧ a.value = value).map (·.label)

namespace TrustIndex

theorem lookup_cons_eq {α : Type} (name other : String) (a : α) (entries : List (String × α)) :
    ((other, a) :: entries).lookup name = if other = name then some a else entries.lookup name := by
  rw [List.lookup_cons]
  by_cases same : other = name
  · simp [same]
  · simp [same, beq_false_of_ne (Ne.symm same)]

theorem lookup_addLabel (value label : String) (labels : List (String × String)) (v : String) :
    (addLabel value label labels).lookup v =
      (labels.lookup v).or (if value = v then some label else none) := by
  induction labels with
  | nil => rw [addLabel, lookup_cons_eq, List.lookup_nil, Option.none_or]
  | cons entry rest ih =>
    obtain ⟨w, l⟩ := entry
    rw [addLabel, apply_ite (List.lookup v), lookup_cons_eq, lookup_cons_eq, ih]
    by_cases here : w = v
    · simp [here]
    · by_cases there : w = value
      · simp [there, there ▸ here]
      · simp [here, there]

theorem label?_cons (ty : String) (labels : List (String × String)) (i : TrustIndex) (type value : String) :
    label? ((ty, labels) :: i) type value =
      if ty = type then labels.lookup value else i.label? type value := by
  rw [label?, lookup_cons_eq]
  split_ifs <;> rfl

theorem label?_add (a : TrustedAuthority) (i : TrustIndex) (type value : String) :
    (add a i).label? type value =
      (i.label? type value).or (if a.type = type ∧ a.value = value then some a.label else none) := by
  induction i with
  | nil =>
    rw [add, label?_cons, lookup_addLabel]
    by_cases here : a.type = type <;> simp [here, label?]
  | cons entry rest ih =>
    obtain ⟨ty, labels⟩ := entry
    rw [add, apply_ite (label? · type value), label?_cons, label?_cons, label?_cons, lookup_addLabel, ih]
    by_cases here : ty = type
    · subst here
      by_cases there : ty = a.type
      · simp [← there]
      · simp [there, Ne.symm there]
    · by_cases there : ty = a.type
      · subst there
        simp [here]
      · simp [here, there]

theorem label?_foldl_add (as : List TrustedAuthority) (i : TrustIndex) (type value : String) :
    (as.foldl (fun i a => add a i) i).label? type value =
      (i.label? type value).or ((TrustSnapshot.mk as).label? type value) := by
  induction as generalizing i with
  | nil => simp [TrustSnapshot.label?]
  | cons a as ih =>
    rw [List.foldl_cons, ih, label?_add, Option.or_assoc, TrustSnapshot.label?, TrustSnapshot.label?,
      List.find?_cons]
    by_cases named : a.type = type ∧ a.value = value <;> simp [named]

theorem label?_ofSnapshot (s : TrustSnapshot) (type value : String) :
    (ofSnapshot s).label? type value = s.label? type value :=
  label?_foldl_add s.authorities [] type value

end TrustIndex

/-- What a search of the snapshot answers when a policy is asked for where these policies are carried. -/
inductive TrustSnapshot.Answers (s : TrustSnapshot) (requested : Option String) (carried : List String) :
    Except Refusal (Option TrustVerdict) → Prop
  | unasked (blank : ∀ policy, requested = some policy → Text.isBlankText policy = true) :
      s.Answers requested carried (.ok none)
  | unmet {policy : String} (asked : requested = some policy)
      (visible : Text.isBlankText policy = false) (absent : policy ∉ carried) :
      s.Answers requested carried (.error {
        code := .invalidScope
        detail := "Trusted Authority policy " ++ policy ++ " not satisfied by wallet"
        violations := [⟨"trustedAuthorityPolicy", policy⟩]
        cause := [] })
  | met {policy type value : String} (asked : requested = some policy)
      (visible : Text.isBlankText policy = false) (carries : policy ∈ carried)
      (splits : PolicySplit policy type value) :
      s.Answers requested carried (.ok (some {
        type := type
        value := value
        label := (s.label? type value).getD value
        policy := policy }))

namespace TrustIndex

variable {s : TrustSnapshot} {requested : Option String} {carried : List String}

theorem labelled_ofPolicy {policy type value : String} (splits : PolicySplit policy type value) :
    (ofSnapshot s).labelled (.ofPolicy policy) =
      ⟨type, value, (s.label? type value).getD value, policy⟩ := by
  rw [labelled, label?_ofSnapshot, TrustVerdict.ofPolicy, splitPolicy_eq_iff.mpr splits]

theorem answers_evaluate (s : TrustSnapshot) (requested : Option String) (carried : List String) :
    s.Answers requested carried ((ofSnapshot s).evaluate requested carried).result := by
  rw [result_evaluate, trustDecision]
  cases asked : requestedPolicy requested with
  | none => exact .unasked (requestedPolicy_eq_none_iff.mp asked)
  | some policy =>
    obtain ⟨given, visible⟩ := requestedPolicy_eq_some_iff.mp asked
    by_cases carries : policy ∈ carried
    · have splits : PolicySplit policy _ _ := splitPolicy_eq_iff.mp rfl
      simp only [carries, if_true]
      show s.Answers _ _ (.ok (some ((ofSnapshot s).labelled (.ofPolicy policy))))
      rw [labelled_ofPolicy splits]
      exact .met given visible carries splits
    · simp only [carries, if_false]
      exact .unmet given visible carries

theorem result_evaluate_of_answers {r : Except Refusal (Option TrustVerdict)}
    (answers : s.Answers requested carried r) :
    ((ofSnapshot s).evaluate requested carried).result = r := by
  rw [result_evaluate, trustDecision]
  cases answers with
  | unasked blank =>
    rw [requestedPolicy_eq_none_iff.mpr blank]
    rfl
  | unmet asked visible absent =>
    simp only [requestedPolicy_eq_some_iff.mpr ⟨asked, visible⟩, absent, if_false]
    rfl
  | met asked visible carries splits =>
    simp only [requestedPolicy_eq_some_iff.mpr ⟨asked, visible⟩, carries, if_true]
    exact congrArg (Except.ok ∘ some) (labelled_ofPolicy splits)

theorem evaluate_congr (i : TrustIndex) {others : List String}
    (same : ∀ policy, policy ∈ others ↔ policy ∈ carried) :
    i.evaluate requested others = i.evaluate requested carried := by
  have contains (policy : String) : others.contains policy = carried.contains policy := by
    rw [Bool.eq_iff_iff, List.contains_iff_mem, List.contains_iff_mem, same]
  simp only [evaluate, contains]

/-- The index of a snapshot answers as a search of the snapshot does, and the same wherever the same policies
are carried, in whatever order and however often. -/
theorem evaluate_searches (s : TrustSnapshot) (requested : Option String) (carried : List String) :
    (∀ r, ((ofSnapshot s).evaluate requested carried).result = r ↔ s.Answers requested carried r) ∧
    ∀ others, (∀ policy, policy ∈ others ↔ policy ∈ carried) →
      (ofSnapshot s).evaluate requested others = (ofSnapshot s).evaluate requested carried := by
  refine ⟨fun r => ⟨?_, result_evaluate_of_answers⟩, fun others same => evaluate_congr _ same⟩
  rintro rfl
  exact answers_evaluate s requested carried

def sampleSnapshot : TrustSnapshot :=
  ⟨[⟨"aki", "a:b", "Issuer"⟩, ⟨"aki", "a", "Other issuer"⟩, ⟨"aki", "a:b", "Shadowed"⟩]⟩

theorem evaluate_searches_sample :
    ((ofSnapshot sampleSnapshot).evaluate (some "aki:a:b") ["x", "aki:a:b"]).result =
      .ok (some ⟨"aki", "a:b", "Issuer", "aki:a:b"⟩) ∧
    (ofSnapshot sampleSnapshot).evaluate (some "aki:a:b") ["aki:a:b", "x", "x"] =
      (ofSnapshot sampleSnapshot).evaluate (some "aki:a:b") ["x", "aki:a:b"] ∧
    ((ofSnapshot sampleSnapshot).evaluate (some "\t ") []).result = .ok none := by
  obtain ⟨answers, same⟩ := evaluate_searches sampleSnapshot (some "aki:a:b") ["x", "aki:a:b"]
  refine ⟨(answers _).mpr ?_, same _ (by simp [or_comm]), ?_⟩
  · exact .met rfl (by decide) (by decide) (.pair rfl (by decide) (by decide))
  · apply ((evaluate_searches sampleSnapshot (some "\t ") []).1 _).mpr
    refine .unasked ?_
    rintro _ ⟨⟩
    decide

end TrustIndex

end VpExchange
