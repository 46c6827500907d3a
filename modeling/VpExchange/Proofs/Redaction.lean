import VpExchange.Proofs.Provenance

set_option autoImplicit false

namespace VpExchange

def Members.masked (keys : List String) (ms : Members) : Members :=
  ms.map fun m => (m.1, if m.1 ∈ keys then .null else m.2)

theorem Members.masked_insert (keys : List String) (key : String) (value : Json) (ms : Members) :
    (ms.insert key value).masked keys =
      (ms.masked keys).insert key (if key ∈ keys then .null else value) := by
  induction ms with
  | nil => rfl
  | cons m ms ih =>
    obtain ⟨k, v⟩ := m
    by_cases less : key < k
    · simp [masked, insert, less]
    by_cases same : key = k
    · simp [masked, insert, same]
    · simp only [masked, List.map_cons, insert, less, same, if_false]
      exact congrArg _ ih

namespace TraceStep

def masked (keys : List String) (s : TraceStep) : TraceStep :=
  { s with attributes := s.attributes.masked keys }

theorem masked_withAttribute (keys : List String) (s : TraceStep) (key : String) (value : Json) :
    (s.withAttribute key value).masked keys =
      (s.masked keys).withAttribute key (if key ∈ keys then .null else value) := by
  simp only [masked, withAttribute, Members.masked_insert]

theorem masked_withAttribute? (keys : List String) (s : TraceStep) (key : String) (value : Option Json) :
    (s.withAttribute? key value).masked keys =
      (s.masked keys).withAttribute? key (value.map fun v => if key ∈ keys then .null else v) := by
  cases value with
  | none => rfl
  | some value => exact masked_withAttribute keys s key value

end TraceStep

def Trace.masked (keys : List String) (t : Trace) : Trace :=
  { t with steps := t.steps.map (·.masked keys) }

theorem Trace.masked_withStep (keys : List String) (t : Trace) (s : TraceStep) :
    (t.withStep s).masked keys = (t.masked keys).withStep (s.masked keys) := by
  simp only [Trace.masked, withStep, List.map_append, List.map_cons, List.map_nil]

/-- To whom only traces and events are shown, both look the same but for the values of some attributes:
they are refused alike or both succeed, and end with the same event. -/
structure Reported.Indistinct {α : Type} (keys : List String) (x y : Reported (Traced α)) : Prop where
  trace : x.result.map (fun t => t.trace.map (·.masked keys)) =
    y.result.map fun t => t.trace.map (·.masked keys)
  event : x.event = y.event

theorem Logged.shown_of_redacted {α β : Type} {redact : α → α} (shown : α → β) (success : α → Event)
    (traced : ∀ a, shown (redact a) = shown a) (published : ∀ a, success (redact a) = success a)
    {x y : Logged α} (same : x.result.map redact = y.result.map redact) (failure : Refusal → Event) :
    x.result.map shown = y.result.map shown ∧
      (x.reported success failure).event = (y.reported success failure).event := by
  obtain ⟨logs, result⟩ := x
  obtain ⟨logs', result'⟩ := y
  rcases alike_of_map_eq same with ⟨r, rfl, rfl⟩ | ⟨a, a', rfl, rfl, equal⟩
  · exact ⟨rfl, rfl⟩
  · constructor
    · show Except.ok (shown a) = Except.ok (shown a')
      rw [← traced a, ← traced a', equal]
    · show success a = success a'
      rw [← published a, ← published a', equal]

theorem Logged.shown_map_of_redacted {α β τ : Type} {redact : α → α} {f : α → τ} (shown : τ → β)
    (success : τ → Event) (traced : ∀ a, shown (f (redact a)) = shown (f a))
    (published : ∀ a, success (f (redact a)) = success (f a)) {x y : Logged α}
    (same : x.result.map redact = y.result.map redact) (failure : Refusal → Event) :
    ((f <$> x).reported success failure).result.map shown =
        ((f <$> y).reported success failure).result.map shown ∧
      ((f <$> x).reported success failure).event = ((f <$> y).reported success failure).event := by
  obtain ⟨results, event⟩ :=
    shown_of_redacted (fun a => shown (f a)) (fun a => success (f a)) traced published same failure
  obtain ⟨logs, result⟩ := x
  obtain ⟨logs', result'⟩ := y
  cases result <;> cases result' <;> exact ⟨results, event⟩

theorem Logged.indistinct_of_redacted {α : Type} {keys : List String} {redact : α → α}
    {trace : α → Trace} {success : α → Event}
    (traced : ∀ a, (trace (redact a)).masked keys = (trace a).masked keys)
    (published : ∀ a, success (redact a) = success a) {x y : Logged α}
    (same : x.result.map redact = y.result.map redact) (verbose : Bool) (failure : Refusal → Event) :
    Reported.Indistinct keys
      ((Traced.of verbose trace <$> x).reported (fun t => success t.answer) failure)
      ((Traced.of verbose trace <$> y).reported (fun t => success t.answer) failure) := by
  have masked (a : α) : (Traced.of verbose trace (redact a)).trace.map (·.masked keys) =
      (Traced.of verbose trace a).trace.map (·.masked keys) := by
    cases verbose with
    | false => rfl
    | true => exact congrArg some (traced a)
  obtain ⟨traces, event⟩ := shown_map_of_redacted
    (fun t : Traced α => t.trace.map (·.masked keys)) (fun t => success t.answer) masked published same
    failure
  exact ⟨traces, event⟩

def SdJwt.redacted (c : SdJwt) : SdJwt where
  credentialId := c.credentialId
  format := c.format
  issuerJwt := ""
  disclosures := c.disclosures.map fun _ => ""
  disclosureHashes := c.disclosureHashes
  keyBindingJwt := c.keyBindingJwt.map fun _ => ""
  policies := c.policies

def Mdoc.redacted (c : Mdoc) : Mdoc := { c with deviceResponse := "" }

def WalletPreset.redacted (p : WalletPreset) : WalletPreset :=
  { p with credential := p.credential.redacted }

def DevicePreset.redacted (p : DevicePreset) : DevicePreset :=
  { p with credential := p.credential.redacted }

def StoredPresentation.redacted (p : StoredPresentation) : StoredPresentation where
  presentationId := p.presentationId
  credentialId := p.credentialId
  format := p.format
  vpToken := []
  disclosures := []
  keyBindingJwt := p.keyBindingJwt.map fun _ => ""
  policies := p.policies

def Sent.redacted : Sent → Sent
  | .plain _ => .plain []
  | .encrypted token => .encrypted token

def InlinePresentation.redacted (p : InlinePresentation) : InlinePresentation where
  credentialId := p.credentialId
  format := p.format
  vpToken := p.vpToken.redacted
  disclosures := []
  keyBindingJwt := p.keyBindingJwt.map fun _ => ""
  policies := p.policies

namespace Table

variable {κ α β : Type}

def mapValues (f : α → β) (t : Table κ α) : Table κ β := t.map fun e => (e.1, f e.2)

theorem get?_mapValues [DecidableEq κ] (f : α → β) (t : Table κ α) (k : κ) :
    (t.mapValues f).get? k = (t.get? k).map f := by
  induction t with
  | nil => rfl
  | cons e t ih =>
    by_cases same : e.1 = k
    · simp [mapValues, get?, same]
    · simpa [mapValues, get?, same] using ih

end Table

def Store.redacted (s : Store) : Store where
  dcqlPresets := s.dcqlPresets
  walletPresets := Table.mapValues WalletPreset.redacted s.walletPresets
  devicePresets := Table.mapValues DevicePreset.redacted s.devicePresets
  presentations := Table.mapValues StoredPresentation.redacted s.presentations
  keys := s.keys

namespace Backend

def redacted (b : Backend) : Backend := { b with store := b.store.redacted }

theorem load_mapValues {κ α β : Type} [DecidableEq κ] (f : α → β) (t : Table κ α) (outage : List κ)
    (k : κ) : load (t.mapValues f) outage k = (load t outage k).map (Option.map f) := by
  rw [load, load, Table.get?_mapValues]
  split_ifs <;> rfl

variable (b : Backend) (id : String)

theorem walletPreset_redacted :
    b.redacted.walletPreset id = (b.walletPreset id).map (Option.map WalletPreset.redacted) :=
  load_mapValues _ _ _ _

theorem devicePreset_redacted :
    b.redacted.devicePreset id = (b.devicePreset id).map (Option.map DevicePreset.redacted) :=
  load_mapValues _ _ _ _

theorem presentation_redacted :
    b.redacted.presentation id = (b.presentation id).map (Option.map StoredPresentation.redacted) :=
  load_mapValues _ _ _ _

end Backend

def AnswerCommand.redacted {κ : Type} (redact : κ → κ) (c : AnswerCommand κ) : AnswerCommand κ :=
  { c with credential := c.credential.map redact }

def AcceptanceCommand.redacted (c : AcceptanceCommand) : AcceptanceCommand :=
  { c with inlinePresentation := c.inlinePresentation.map InlinePresentation.redacted }

theorem Answer.credential_redacted {κ : Type} {redact : κ → κ}
    {load load' : String → Except Refusal κ} (loaded : ∀ id, load' id = (load id).map redact)
    (c : AnswerCommand κ) :
    credential load' (c.redacted redact) = (credential load c).map redact := by
  obtain ⟨exchange, presetId, given, policy, verbose⟩ := c
  cases presetId with
  | none => cases given <;> rfl
  | some id =>
    cases given with
    | none => exact loaded id
    | some given => rfl

theorem Answer.map_credential {κ : Type} {redact : κ → κ} {load : Backend → String → Except Refusal κ}
    (loaded : ∀ b id, load b.redacted id = (load b id).map redact) {b b' : Backend}
    (stores : b.redacted = b'.redacted) {c c' : AnswerCommand κ}
    (commands : c.redacted redact = c'.redacted redact) :
    (credential (load b) c).map redact = (credential (load b') c').map redact := by
  rw [← credential_redacted (loaded b), ← credential_redacted (loaded b'), stores, commands]

end VpExchange
