import Mathlib.Data.List.Induction
import VpExchange.Proofs.Acceptance.Decision
import VpExchange.Proofs.Session.Numbering
import VpExchange.Proofs.Store

set_option autoImplicit false

namespace VpExchange

open Store (Place Record)

namespace Step

def put? : Step → Option Record
  | .putDcqlPreset p => some (.dcqlPreset p)
  | .putWalletPreset p => some (.walletPreset p)
  | .putDevicePreset p => some (.devicePreset p)
  | .putPresentation p => some (.presentation p)
  | .putKey profile m => some (.key profile m)
  | _ => none

def removed? : Step → Option Place
  | .removeKey profile => some (.key profile)
  | _ => none

def Writes (step : Step) (l : Place) : Prop :=
  (∃ r, step.put? = some r ∧ r.place = l) ∨ step.removed? = some l

def load : Place → Step
  | .dcqlPreset id => .getDcqlPreset id
  | .walletPreset id => .getWalletPreset id
  | .devicePreset id => .getDevicePreset id
  | .presentation id => .getPresentation id
  | .key profile => .getKey profile

def Result.found : Record → Result
  | .dcqlPreset p => .dcqlPreset (some p)
  | .walletPreset p => .walletPreset (some p)
  | .devicePreset p => .devicePreset (some p)
  | .presentation p => .presentation (some p)
  | .key _ m => .key m

def nothingAt : Place → Except Error Result
  | .dcqlPreset _ => .ok (.dcqlPreset none)
  | .walletPreset _ => .ok (.walletPreset none)
  | .devicePreset _ => .ok (.devicePreset none)
  | .presentation _ => .ok (.presentation none)
  | .key profile => .error (.failed ["no encryption key configured for " ++ profile.name])

end Step

namespace Session

variable {s : Session} {step : Step} {l : Place} {r : Record}

theorem perform_load (s : Session) (l : Place) : s.perform (.load l) =
    (⟨[], ((s.backend.store.get? l).map fun r => .ok (.found r)).getD (Step.nothingAt l), []⟩, s) := by
  have shown {α : Type} (a? : Option α) {record : α → Record} {of : Option α → Step.Result}
      (same : ∀ a, of (some a) = .found (record a)) : Performance.ofExcept (.ok a?) of =
        ⟨[], ((a?.map record).map fun r => .ok (.found r)).getD (.ok (of none)), []⟩ := by
    cases a? with
    | none => rfl
    | some a => exact congrArg (fun r => Performance.mk [] (.ok r) []) (same a)
  cases l with
  | key profile =>
    rw [Step.load, perform, Store.key, Store.get?]
    cases s.backend.store.keys.get? profile <;> rfl
  | _ => exact congrArg (·, s) (shown _ fun _ => rfl)

theorem store_of_put (puts : step.put? = some r) :
    (s.perform step).2.backend.store = s.backend.store.put r := by
  cases step <;> cases puts <;> rfl

theorem get?_of_removed (removes : step.removed? = some l) (l' : Place) :
    (s.perform step).2.backend.store.get? l' = if l' = l then none else s.backend.store.get? l' := by
  cases step with
  | removeKey profile =>
    cases removes
    rw [perform]
    cases removed : s.backend.store.removeKey profile with
    | ok store => exact Store.get?_of_removeKey removed l'
    | error cause =>
      split_ifs with here
      · exact here ▸ (Store.removeKey_eq_error_iff.mp removed).1
      · rfl
  | _ => cases removes

theorem backend_of_neither (puts : step.put? = none) (removes : step.removed? = none) :
    (s.perform step).2.backend = s.backend := by
  cases step with
  | putDcqlPreset _ | putWalletPreset _ | putDevicePreset _ | putPresentation _ | putKey _ _ => cases puts
  | removeKey _ => cases removes
  | encrypt x uri payload verbose =>
    rw [perform]
    split <;> rfl
  | _ => rfl

theorem perform_of_failed_removal {profile : Profile} {e : Step.Error}
    (failed : (s.perform (.removeKey profile)).1.result = .error e) : (s.perform (.removeKey profile)).2 = s := by
  rw [perform] at failed ⊢
  cases removed : s.backend.store.removeKey profile with
  | ok store =>
    rw [removed] at failed
    cases failed
  | error cause => rfl

theorem get?_of_not_writes (untouched : ¬step.Writes l) :
    (s.perform step).2.backend.store.get? l = s.backend.store.get? l := by
  rw [Step.Writes, not_or] at untouched
  obtain ⟨notPut, notRemoved⟩ := untouched
  cases puts : step.put? with
  | some r =>
    rw [store_of_put puts, Store.get?_put, if_neg fun here => notPut ⟨r, puts, here.symm⟩]
  | none =>
    cases removes : step.removed? with
    | some l' =>
      rw [removes, Option.some.injEq] at notRemoved
      rw [get?_of_removed removes, if_neg (Ne.symm notRemoved)]
    | none => rw [backend_of_neither puts removes]

theorem get?_perform_eq_some_iff : (s.perform step).2.backend.store.get? l = some r ↔
    (step.put? = some r ∧ r.place = l) ∨ (¬step.Writes l ∧ s.backend.store.get? l = some r) := by
  by_cases writes : step.Writes l
  · rw [iff_false_intro (not_not_intro writes), false_and, or_false]
    rcases writes with ⟨r', puts, rfl⟩ | removes
    · rw [store_of_put puts, Store.get?_put, if_pos rfl, puts, iff_self_and]
      rintro ⟨⟩
      rfl
    · have nothing : step.put? = none := by
        cases step with
        | removeKey _ => rfl
        | _ => cases removes
      simp [get?_of_removed removes, nothing]
  · rw [get?_of_not_writes writes]
    constructor
    · exact fun held => .inr ⟨writes, held⟩
    · rintro (⟨puts, rfl⟩ | ⟨-, held⟩)
      · exact absurd (.inl ⟨r, puts, rfl⟩) writes
      · exact held

theorem after_concat (s : Session) (steps : List (Option Step)) (step : Option Step) :
    s.after (steps ++ [step]) = ((s.after steps).next step).2 :=
  List.foldl_concat ..

theorem get?_next_eq_some_iff (s : Session) (step : Option Step) :
    (s.next step).2.backend.store.get? l = some r ↔
      (∃ st, step = some st ∧ st.put? = some r ∧ r.place = l) ∨
        ((∀ st, step = some st → ¬st.Writes l) ∧ s.backend.store.get? l = some r) := by
  cases step with
  | none =>
    show s.backend.store.get? l = some r ↔ _
    simp
  | some step =>
    show (s.perform step).2.backend.store.get? l = some r ↔ _
    simp [get?_perform_eq_some_iff]

end Session

/-- One of the steps has put this record where it belongs, and none after that has written there. -/
def Step.Kept (steps : List (Option Step)) (r : Record) : Prop :=
  ∃ before step after, steps = before ++ some step :: after ∧ step.put? = some r ∧
    ∀ later, some later ∈ after → ¬later.Writes r.place

theorem Step.kept_concat_iff {steps : List (Option Step)} {step : Option Step} {r : Record} :
    Kept (steps ++ [step]) r ↔ (∃ st, step = some st ∧ st.put? = some r) ∨
      ((∀ st, step = some st → ¬st.Writes r.place) ∧ Kept steps r) := by
  constructor
  · rintro ⟨before, put, after, same, puts, untouched⟩
    rcases List.eq_nil_or_concat after with rfl | ⟨between, last, rfl⟩
    · obtain ⟨-, only⟩ := List.append_inj' same rfl
      exact .inl ⟨put, List.singleton_inj.mp only, puts⟩
    · rw [List.concat_eq_append] at same untouched
      obtain ⟨rfl, only⟩ := List.append_inj' (show steps ++ [step] = (before ++ some put :: between) ++ [last] by
        simpa using same) rfl
      obtain rfl := List.singleton_inj.mp only
      refine .inr ⟨fun st here => untouched st (by simp [here]), before, put, between, rfl, puts, ?_⟩
      exact fun later inside => untouched later (List.mem_append_left _ inside)
  · rintro (⟨put, rfl, puts⟩ | ⟨last, before, put, after, rfl, puts, untouched⟩)
    · exact ⟨steps, put, [], rfl, puts, fun later inside => absurd inside List.not_mem_nil⟩
    · refine ⟨before, put, after ++ [step], by simp, puts, fun later inside => ?_⟩
      rcases List.mem_append.mp inside with earlier | here
      · exact untouched later earlier
      · exact last later (List.mem_singleton.mp here).symm

/-- A place holds what was put there last, however long the run and whatever else it does. -/
theorem Session.get?_after_eq_some_iff (config : Config) (outage : Outage) (sources : Seeds.Sources)
    (clock : Clock) (steps : List (Option Step)) (l : Place) (r : Record) :
    ((start config outage sources clock).after steps).backend.store.get? l = some r ↔
      r.place = l ∧ Step.Kept steps r := by
  induction steps using List.reverseRecOn with
  | nil =>
    show Store.empty.get? l = some r ↔ _
    simp [Step.Kept]
  | append_singleton steps step ih =>
    rw [after_concat, get?_next_eq_some_iff, ih, Step.kept_concat_iff]
    constructor
    · rintro (⟨put, rfl, puts, rfl⟩ | ⟨untouched, rfl, kept⟩)
      · exact ⟨rfl, .inl ⟨put, rfl, puts⟩⟩
      · exact ⟨rfl, .inr ⟨untouched, kept⟩⟩
    · rintro ⟨rfl, ⟨put, rfl, puts⟩ | ⟨untouched, kept⟩⟩
      · exact .inl ⟨put, rfl, puts, rfl⟩
      · exact .inr ⟨untouched, rfl, kept⟩

theorem Submission.description_ofStored (p : StoredPresentation) : (ofStored p).description =
    match p.vpToken.get? "presentation_submission" with
    | some (.obj members) => members
    | _ => [] := by
  rw [description]
  show (((p.vpToken.get? "presentation_submission").bind Json.members?).getD []) = _
  cases p.vpToken.get? "presentation_submission" with
  | none => rfl
  | some j => cases j <;> rfl

namespace Acceptance

structure Reports (a : Acceptance) (p : StoredPresentation) : Prop where
  presetId : a.evidence.presetId = some p.presentationId
  credentialId : a.presentation.credentialId = p.credentialId
  format : a.presentation.format = p.format
  vpToken : a.presentation.vpToken = .obj p.vpToken
  vpTokenHash : ∃ token, p.vpToken.get? "vp_token" = some (.str token) ∧
    a.evidence.vpTokenHash = Sha256.labelled token
  description : a.evidence.presentationSubmission =
    match p.vpToken.get? "presentation_submission" with
    | some (.obj members) => members
    | _ => []
  disclosures : a.presentation.disclosureHashes = p.disclosures.map Sha256.labelled ∧
    a.evidence.disclosureHashes = p.disclosures.map Sha256.labelled
  holderBinding : a.presentation.holderBinding = p.keyBindingJwt.isSome
  keyBindingJwtHash : a.evidence.keyBindingJwtHash = p.keyBindingJwt.map Sha256.labelled
  policies : ∀ v, a.evidence.trustedAuthority = some v → v.policy ∈ p.policies
  decrypted : a.evidence.decrypted = false

theorem reports_of_check {config : Config} {b : Backend} {c : AcceptanceCommand} {t : Traced Acceptance}
    (accepted : (c.check config b).result = .ok t) {id : String} (named : c.storedPresentationId = some id) :
    ∃ p, b.store.presentations.get? id = some p ∧ t.answer.Reports p := by
  obtain ⟨a, assembled, rfl⟩ := result_check_eq_ok_iff.mp accepted
  obtain ⟨s, token, resolved, satisfied, found, rfl⟩ := assemble_eq_ok_iff.mp assembled
  obtain ⟨p, loaded, rfl⟩ := (Submission.resolve_eq_ok_iff.mp resolved).of_stored named
  obtain ⟨sent, -⟩ := Submission.vpToken?_eq_some_iff.mp found
  exact ⟨p, loaded, rfl, rfl, rfl, rfl, ⟨token, sent, rfl⟩, Submission.description_ofStored p,
    ⟨rfl, rfl⟩, rfl, rfl, fun _ => TrustIndex.policy_mem_of_satisfied satisfied, rfl⟩

end Acceptance

namespace Session

variable {s : Session} {c c' : AcceptanceCommand} {tokenOf : Option Nat}

theorem storedPresentationId_of_withToken (taken : s.withToken c tokenOf = .ok c') :
    c'.storedPresentationId = c.storedPresentationId := by
  cases tokenOf with
  | none =>
    cases taken
    rfl
  | some index =>
    rw [withToken, bind_eq_ok_iff] at taken
    obtain ⟨_, -, ⟨⟩⟩ := taken
    rfl

theorem reports_of_accept {t : Traced Acceptance}
    (accepted : (s.perform (.accept c tokenOf)).1.result = .ok (.accepted t)) {id : String}
    (named : c.storedPresentationId = some id) :
    ∃ p, s.backend.store.get? (.presentation id) = some (.presentation p) ∧ t.answer.Reports p := by
  rw [perform] at accepted
  cases taken : s.withToken c tokenOf with
  | error e =>
    rw [taken] at accepted
    cases accepted
  | ok c' =>
    rw [taken] at accepted
    change ((c'.check s.config s.backend).result.map _).mapError _ = _ at accepted
    rw [mapError_eq_ok_iff, map_eq_ok_iff] at accepted
    obtain ⟨t', checked, ⟨⟩⟩ := accepted
    obtain ⟨p, loaded, reports⟩ :=
      Acceptance.reports_of_check checked ((storedPresentationId_of_withToken taken).trans named)
    exact ⟨p, by rw [Store.get?, loaded, Option.map_some], reports⟩

end Session

/-- In whatever run, the store is five tables that do not affect each other. A place holds a record if and
only if the record belongs there and was put there last, with no removal since, and who loads it is answered
with this record, or with nothing, which for a key is a failure. A step changes no place that it does not
write to, and nothing at all if it writes to none or fails to remove a key. So a stored presentation that is
accepted is the one that was put under this id last, and it is reported as that. -/
theorem store_keeps_latest (config : Config) (outage : Outage) (sources : Seeds.Sources) (clock : Clock)
    (steps : List (Option Step)) :
    let s := (Session.start config outage sources clock).after steps
    (∀ l r, s.backend.store.get? l = some r ↔ r.place = l ∧ Step.Kept steps r) ∧
    (∀ r, Step.Kept steps r → (s.perform (.load r.place)).1.result = .ok (.found r)) ∧
    (∀ l, (∀ r, r.place = l → ¬Step.Kept steps r) → (s.perform (.load l)).1.result = Step.nothingAt l) ∧
    (∀ step l, ¬Step.Writes step l →
      (s.perform step).2.backend.store.get? l = s.backend.store.get? l) ∧
    (∀ step, (∀ l, ¬Step.Writes step l) → (s.perform step).2.backend = s.backend) ∧
    (∀ profile e, (s.perform (.removeKey profile)).1.result = .error e →
      (s.perform (.removeKey profile)).2 = s) ∧
    ∀ c tokenOf t id, c.storedPresentationId = some id →
      (s.perform (.accept c tokenOf)).1.result = .ok (.accepted t) →
        ∃ p, Step.Kept steps (.presentation p) ∧ p.presentationId = id ∧ t.answer.Reports p := by
  intro s
  have held := Session.get?_after_eq_some_iff config outage sources clock steps
  refine ⟨held, fun r kept => ?_, fun l none => ?_, fun step l => Session.get?_of_not_writes, fun step idle => ?_,
    fun profile e => Session.perform_of_failed_removal, fun c tokenOf t id named accepted => ?_⟩
  · have here : s.backend.store.get? r.place = some r := (held _ _).mpr ⟨rfl, kept⟩
    rw [Session.perform_load, here]
    rfl
  · have empty : s.backend.store.get? l = .none :=
      Option.eq_none_iff_forall_ne_some.mpr fun r here => none r ((held l r).mp here).1 ((held l r).mp here).2
    rw [Session.perform_load, empty]
    rfl
  · apply Session.backend_of_neither
    · exact Option.eq_none_iff_forall_ne_some.mpr fun r puts => idle r.place (.inl ⟨r, puts, rfl⟩)
    · exact Option.eq_none_iff_forall_ne_some.mpr fun l removes => idle l (.inr removes)
  · obtain ⟨p, here, reports⟩ := Session.reports_of_accept accepted named
    obtain ⟨place, kept⟩ := (held _ _).mp here
    exact ⟨p, kept, Place.presentation.inj place, reports⟩

def sampleShared (credentialId : String) : StoredPresentation :=
  ⟨"shared", credentialId, Presentation.sdJwtFormat, [("vp_token", .str "token")], [], none, []⟩

def sampleStored : AcceptanceCommand := ⟨"request-1", .haip, none, some "shared", none, none, none, false⟩

-- Two tables have the same id in use, and the verifier is asked once in between.
def sampleHistory : List (Option Step) :=
  [some (.putPresentation (sampleShared "pid-1")), some (.putKey .haip Encryption.sampleKey), none,
    some (.accept sampleStored none), some (.putPresentation (sampleShared "pid-2")),
    some (.putDcqlPreset ⟨"shared", none, .null, none⟩), some (.removeKey .haip)]

theorem store_keeps_latest_sample :
    let s := (Session.start Config.default Outage.none (.start, Entropy.ofBytes []) ⟨[]⟩).after sampleHistory
    (s.perform (.getPresentation "shared")).1.result = .ok (.presentation (some (sampleShared "pid-2"))) ∧
    (s.perform (.getKey .haip)).1.result = Step.nothingAt (.key .haip) ∧
    ∃ t, (s.perform (.accept sampleStored none)).1.result = .ok (.accepted t) ∧
      t.answer.presentation.credentialId = "pid-2" ∧ t.answer.evidence.vpTokenHash =
        "sha-256:3c469e9d6c5875d37a43f353d4f88e61fcf812c66eee3457465a40b0da4153e0" := by
  intro s
  have kept : Step.Kept sampleHistory (.presentation (sampleShared "pid-2")) := by
    refine ⟨sampleHistory.take 4, _, sampleHistory.drop 5, rfl, rfl, fun later inside => ?_⟩
    simp only [sampleHistory, List.drop, List.mem_cons, List.not_mem_nil, or_false, Option.some.injEq] at inside
    rcases inside with rfl | rfl <;> simp [Step.Writes, Step.put?, Step.removed?, Record.place]
  have satisfied : Satisfied none (sampleShared "pid-2").policies := by rintro _ ⟨⟩
  have resolved := Submission.resolve_eq_ok_iff.mpr
    (Submission.Admitted.stored (b := s.backend) (c := sampleStored) rfl rfl List.not_mem_nil rfl)
  obtain ⟨t, checked⟩ : ∃ t, (sampleStored.check s.config s.backend).result = .ok t :=
    ⟨_, Acceptance.result_check_eq_ok_iff.mpr ⟨_, Acceptance.assemble_eq_ok_iff.mpr
      ⟨_, "token", resolved, satisfied, by decide, rfl⟩, rfl⟩⟩
  have accepted : (s.perform (.accept sampleStored none)).1.result = .ok (.accepted t) := by
    show ((sampleStored.check s.config s.backend).result.map _).mapError Step.Error.refused = _
    rw [checked]
    rfl
  obtain ⟨held, loads, missing, -, -, -, reports⟩ :=
    store_keeps_latest Config.default Outage.none (.start, Entropy.ofBytes []) ⟨[]⟩ sampleHistory
  have removed : s.backend.store.get? (.key .haip) = none := rfl
  refine ⟨loads _ kept, missing (.key .haip) fun r here later => ?_, t, accepted, ?_⟩
  · cases removed.symm.trans ((held _ r).mpr ⟨here, later⟩)
  · obtain ⟨p, last, same, reported⟩ := reports _ _ _ _ rfl accepted
    have shared : s.backend.store.get? (.presentation "shared") = some _ := (held _ _).mpr ⟨rfl, kept⟩
    cases shared.symm.trans ((held _ (.presentation p)).mpr ⟨congrArg Place.presentation same, last⟩)
    obtain ⟨_, ⟨⟩, hash⟩ := reported.vpTokenHash
    exact ⟨reported.credentialId, hash.trans (by decide +kernel)⟩

end VpExchange
