import VpExchange.Proofs.Refusal
import VpExchange.Proofs.Store
import VpExchange.Request.Created

set_option autoImplicit false

namespace VpExchange

namespace RequestCommand

/-- The preset that a command comes to: the one it names, which has to be there, or none. -/
inductive Names (b : Backend) (c : RequestCommand) : Option DcqlPreset → Prop
  | nothing (unnamed : c.dcqlPresetId = none) : Names b c none
  | preset {id : String} {p : DcqlPreset} (named : c.dcqlPresetId = some id)
    (reached : id ∉ b.outage.dcqlPresets) (found : b.store.dcqlPresets.get? id = some p) :
    Names b c (some p)

def Signable (c : RequestCommand) (preset : Option DcqlPreset) : Prop :=
  c.signed = true → ∃ p metadata, preset = some p ∧ p.clientMetadata = some metadata

/-- What is asked for: the query of the command if it has one, and else that of the preset. -/
inductive Asks (c : RequestCommand) (preset : Option DcqlPreset) : Json → Prop
  | own {query : Json} (given : c.dcqlOverride = some query) : Asks c preset query
  | preset {p : DcqlPreset} (without : c.dcqlOverride = none) (named : preset = some p) :
    Asks c preset p.dcqlQuery

inductive Posts (config : Config) (c : RequestCommand) (requestId : String) : Option Url → Prop
  | nowhere (mode : c.responseMode = .fragment) : Posts config c requestId none
  | somewhere {u : Url} (mode : c.responseMode = .directPost ∨ c.responseMode = .directPostJwt)
    (built : config.responseBase.join ("response/" ++ requestId) = .ok u) :
    Posts config c requestId (some u)

/-- In whose name a request is made: that of the preset's client, or else of the one that is configured for
the profile. -/
def clientOf (config : Config) (c : RequestCommand) (preset : Option DcqlPreset) : String :=
  match preset.bind (·.clientId), c.profile with
  | some client, _ => client
  | none, .haip => config.haipClientId
  | none, .baseline => config.baselineClientId

theorem clientOf_eq (config : Config) (c : RequestCommand) (preset : Option DcqlPreset) :
    c.clientOf config preset = (preset.bind (·.clientId)).getD (config.clientId c.profile) := by
  rw [clientOf]
  cases preset.bind (·.clientId) <;> cases c.profile <;> rfl

def planOf (c : RequestCommand) (config : Config) (preset : Option DcqlPreset) (query : Json) :
    RequestPlan where
  clientId := c.clientOf config preset
  dcqlQuery := query
  clientMetadata := preset.bind (·.clientMetadata)

def requestOf (c : RequestCommand) (plan : RequestPlan) (uri : Option Url) (d : Seeds.Draw) :
    AuthorizationRequest where
  requestId := d.requestId
  profile := c.profile
  clientId := plan.clientId
  nonce := d.nonce
  state := d.state
  responseMode := c.responseMode
  presentationDefinition := plan.dcqlQuery
  responseUri := uri
  clientMetadata := plan.clientMetadata
  signed := c.signed

def createdOf (c : RequestCommand) (config : Config) (plan : RequestPlan) (uri : Option Url)
    (d : Seeds.Draw) : CreatedRequest where
  request := c.requestOf plan uri d
  qr := if c.qr then some ((c.requestOf plan uri d).uri config.authorizationEndpoint) else none

def Shows (config : Config) (c : RequestCommand) (r : AuthorizationRequest) : Prop :=
  c.qr = true → QrCode.fits (Bytes.ofText (r.uri config.authorizationEndpoint).text) = true

end RequestCommand

namespace RequestPlan

open RequestCommand

variable {config : Config} {b : Backend} {c : RequestCommand} {preset : Option DcqlPreset}

theorem loadPreset_eq_ok_iff {id : String} {p : DcqlPreset} :
    loadPreset b id = .ok p ↔ id ∉ b.outage.dcqlPresets ∧ b.store.dcqlPresets.get? id = some p := by
  rw [← Backend.load_eq_ok_iff]
  show _ ↔ b.dcqlPreset id = _
  simp only [loadPreset, bind_eq_ok_iff, Refusal.ofChain_eq_ok_iff]
  constructor
  · rintro ⟨found, loaded, h⟩
    cases found with
    | none => cases h
    | some p' =>
      cases h
      exact loaded
  · exact fun loaded => ⟨some p, loaded, rfl⟩

theorem mapM_loadPreset_eq_ok_iff : c.dcqlPresetId.mapM (loadPreset b) = .ok preset ↔ c.Names b preset := by
  cases named : c.dcqlPresetId with
  | none =>
    constructor
    · intro h
      cases h
      exact .nothing named
    · rintro (⟨-⟩ | ⟨given, -⟩)
      · rfl
      · cases named.symm.trans given
  | some id =>
    show (loadPreset b id).map some = _ ↔ _
    rw [map_eq_ok_iff]
    constructor
    · rintro ⟨p, loaded, rfl⟩
      obtain ⟨reached, found⟩ := loadPreset_eq_ok_iff.mp loaded
      exact .preset named reached found
    · rintro (⟨unnamed⟩ | ⟨given, reached, found⟩)
      · cases named.symm.trans unnamed
      · cases named.symm.trans given
        exact ⟨_, loadPreset_eq_ok_iff.mpr ⟨reached, found⟩, rfl⟩

theorem ofPreset_of_signable (signable : c.Signable preset) : ofPreset config c preset =
    match c.dcqlOverride <|> preset.map (·.dcqlQuery) with
    | none => .error queryMissing
    | some query => .ok (c.planOf config preset query) := by
  have passes : ¬(c.signed = true ∧ (preset.bind (·.clientMetadata)).isNone = true) := by
    rintro ⟨isSigned, bare⟩
    obtain ⟨p, metadata, rfl, given⟩ := signable isSigned
    simp [given] at bare
  rw [ofPreset, if_neg passes]
  simp only [planOf, clientOf_eq]
  rfl

theorem ofPreset_of_unsignable (unsigned : ¬c.Signable preset) :
    ofPreset config c preset = .error unsignable := by
  have fails : c.signed = true ∧ (preset.bind (·.clientMetadata)).isNone = true := by
    by_contra passes
    apply unsigned
    intro isSigned
    cases metadata : preset.bind (·.clientMetadata) with
    | none => exact absurd ⟨isSigned, by rw [metadata]; rfl⟩ passes
    | some m =>
      obtain ⟨p, named, given⟩ := Option.bind_eq_some_iff.mp metadata
      exact ⟨p, m, named, given⟩
  rw [ofPreset, if_pos fails]
  rfl

theorem query_eq_some_iff {query : Json} :
    (c.dcqlOverride <|> preset.map (·.dcqlQuery)) = some query ↔ c.Asks preset query := by
  constructor
  · intro h
    cases own : c.dcqlOverride with
    | some q =>
      rw [own] at h
      cases h
      exact .own own
    | none =>
      rw [own] at h
      obtain ⟨p, named, rfl⟩ := Option.map_eq_some_iff.mp h
      exact .preset own named
  · rintro (⟨given⟩ | ⟨without, named⟩)
    · rw [given]
      rfl
    · rw [without, named]
      rfl

theorem ofPreset_eq_ok_iff {plan : RequestPlan} : ofPreset config c preset = .ok plan ↔
    c.Signable preset ∧ ∃ query, c.Asks preset query ∧
      plan = c.planOf config preset query := by
  by_cases signable : c.Signable preset
  · simp only [ofPreset_of_signable signable, signable, true_and, ← query_eq_some_iff]
    cases c.dcqlOverride <|> preset.map (·.dcqlQuery) with
    | none => exact ⟨nofun, nofun⟩
    | some query =>
      constructor
      · rintro ⟨⟩
        exact ⟨query, rfl, rfl⟩
      · rintro ⟨_, ⟨⟩, rfl⟩
        rfl
  · simp only [ofPreset_of_unsignable signable, signable, false_and]
    exact ⟨nofun, nofun⟩

theorem ofPreset_of_unasked (signable : c.Signable preset) (unasked : ¬∃ query, c.Asks preset query) :
    ofPreset config c preset = .error queryMissing := by
  rw [ofPreset_of_signable signable]
  cases query : c.dcqlOverride <|> preset.map (·.dcqlQuery) with
  | none => rfl
  | some q => exact absurd ⟨q, query_eq_some_iff.mp query⟩ unasked

theorem ofCommand_of_names (names : c.Names b preset) :
    ofCommand config b c = ofPreset config c preset := by
  rw [ofCommand, mapM_loadPreset_eq_ok_iff.mpr names]
  rfl

-- A command names one preset at most, so what is found for it is what every part of it is about.
theorem ofCommand_eq_ok_iff {plan : RequestPlan} : ofCommand config b c = .ok plan ↔
    ∃ preset query, c.Names b preset ∧ c.Signable preset ∧ c.Asks preset query ∧
      plan = c.planOf config preset query := by
  simp only [ofCommand, bind_eq_ok_iff, mapM_loadPreset_eq_ok_iff, ofPreset_eq_ok_iff]
  constructor
  · rintro ⟨preset, names, signable, query, asks, rfl⟩
    exact ⟨preset, query, names, signable, asks, rfl⟩
  · rintro ⟨preset, query, names, signable, asks, rfl⟩
    exact ⟨preset, names, signable, query, asks, rfl⟩

end RequestPlan

theorem Config.responseUri_eq_ok_iff {config : Config} {requestId : String} {u : Url} :
    config.responseUri requestId = .ok u ↔
      config.responseBase.join ("response/" ++ requestId) = .ok u := by
  rw [responseUri]
  cases config.responseBase.join ("response/" ++ requestId) with
  | error e => exact ⟨nofun, nofun⟩
  | ok v => exact ⟨fun h => by cases h; rfl, fun h => by cases h; rfl⟩

namespace CreatedRequest

variable {config : Config} {c : RequestCommand} {d : Seeds.Draw}

theorem responseUri_eq_ok_iff {requestId : String} {uri : Option Url} :
    responseUri config c.responseMode requestId = .ok uri ↔ c.Posts config requestId uri := by
  rw [responseUri]
  cases mode : c.responseMode with
  | fragment =>
    constructor
    · intro h
      cases h
      exact .nowhere mode
    · rintro (⟨-⟩ | ⟨posted, -⟩)
      · rfl
      · simp [mode] at posted
  | _ =>
    simp only [ResponseMode.isDirectPost, if_true, bind_eq_ok_iff, Refusal.ofChain_eq_ok_iff, pure_eq_ok_iff]
    constructor
    · rintro ⟨u, built, rfl⟩
      exact .somewhere (by simp [mode]) (Config.responseUri_eq_ok_iff.mp built)
    · rintro (⟨other⟩ | ⟨-, built⟩)
      · cases mode.symm.trans other
      · exact ⟨_, Config.responseUri_eq_ok_iff.mpr built, rfl⟩

theorem qrUri_eq_ok_iff {u v : Url} :
    qrUri u = .ok v ↔ QrCode.fits (Bytes.ofText u.text) = true ∧ v = u := by
  rw [qrUri]
  split_ifs with fits
  · exact ⟨fun h => ⟨fits, (Except.ok.inj h).symm⟩, fun ⟨_, h⟩ => h ▸ rfl⟩
  · exact ⟨nofun, fun ⟨h, _⟩ => absurd h fits⟩

theorem ofPlan_eq_ok_iff {plan : RequestPlan} {created : CreatedRequest} :
    (ofPlan config c plan d).result = .ok created ↔ ∃ uri, c.Posts config d.requestId uri ∧
      c.Shows config (c.requestOf plan uri d) ∧ created = c.createdOf config plan uri d := by
  simp only [ofPlan, Logged.result_bind_eq_ok_iff, Logged.result_liftM, responseUri_eq_ok_iff, Logged.debug,
    Logged.result_write, true_and]
  apply exists_congr
  intro uri
  apply and_congr_right
  intro _
  rw [RequestCommand.Shows, RequestCommand.createdOf]
  cases c.qr with
  | false =>
    simp only [Bool.false_eq_true, false_imp_iff, if_false, true_and, exists_const, Logged.result_pure]
    exact ⟨fun h => (Except.ok.inj h).symm, fun h => h ▸ rfl⟩
  | true =>
    simp only [true_imp_iff, if_true, exists_const, Logged.result_bind_eq_ok_iff, Logged.result_liftM,
      Refusal.ofChain_eq_ok_iff, qrUri_eq_ok_iff, Logged.result_pure]
    constructor
    · rintro ⟨v, ⟨fits, rfl⟩, ⟨⟩⟩
      exact ⟨fits, rfl⟩
    · rintro ⟨fits, rfl⟩
      exact ⟨_, ⟨fits, rfl⟩, rfl⟩

end CreatedRequest

namespace RequestCommand

variable {config : Config} {b : Backend} {c : RequestCommand} {sources : Seeds.Sources}

theorem create_of_error {r : Refusal} (refused : RequestPlan.ofCommand config b c = .error r) :
    (c.create config b sources).1.result = .error r ∧ (c.create config b sources).2 = sources := by
  rw [create, refused]
  exact ⟨rfl, rfl⟩

theorem create_of_ok {plan : RequestPlan} (planned : RequestPlan.ofCommand config b c = .ok plan) :
    (c.create config b sources).1.result =
        (CreatedRequest.ofPlan config c plan (Seeds.draw sources).1).result.map
          (Traced.of c.verbose CreatedRequest.trace) ∧
      (c.create config b sources).2 = (Seeds.draw sources).2 := by
  rw [create, planned, ← Logged.result_map]
  exact ⟨rfl, rfl⟩

theorem create_eq_ok_iff {t : Traced CreatedRequest} : (c.create config b sources).1.result = .ok t ↔
    ∃ preset query uri, c.Names b preset ∧ c.Signable preset ∧ c.Asks preset query ∧
      c.Posts config (Seeds.draw sources).1.requestId uri ∧
      c.Shows config (c.requestOf (c.planOf config preset query) uri (Seeds.draw sources).1) ∧
      t = .of c.verbose CreatedRequest.trace
        (c.createdOf config (c.planOf config preset query) uri (Seeds.draw sources).1) := by
  constructor
  · intro created
    cases planned : RequestPlan.ofCommand config b c with
    | error r =>
      rw [(create_of_error planned).1] at created
      cases created
    | ok plan =>
      obtain ⟨preset, query, names, signable, asks, rfl⟩ := RequestPlan.ofCommand_eq_ok_iff.mp planned
      rw [(create_of_ok planned).1] at created
      obtain ⟨_, made, rfl⟩ := map_eq_ok_iff.mp created
      obtain ⟨uri, posts, shows', rfl⟩ := CreatedRequest.ofPlan_eq_ok_iff.mp made
      exact ⟨preset, query, uri, names, signable, asks, posts, shows', rfl⟩
  · rintro ⟨preset, query, uri, names, signable, asks, posts, shows', rfl⟩
    have planned := (@RequestPlan.ofCommand_eq_ok_iff config b c _).mpr
      ⟨preset, query, names, signable, asks, rfl⟩
    rw [(create_of_ok planned).1]
    exact map_eq_ok_iff.mpr ⟨_, CreatedRequest.ofPlan_eq_ok_iff.mpr ⟨uri, posts, shows', rfl⟩, rfl⟩

/-- What a created request says: it is asked for as the command or its preset has it, in the name of the
preset's client or else of the profile's, and is signed as the command says, which shows metadata. It has a
place to be answered at exactly if it is answered by posting, and a QR code exactly if one is wanted. -/
structure Fulfils (config : Config) (c : RequestCommand) (preset : Option DcqlPreset)
    (created : CreatedRequest) : Prop where
  profile : created.request.profile = c.profile
  responseMode : created.request.responseMode = c.responseMode
  query : c.Asks preset created.request.presentationDefinition
  clientId : created.request.clientId = c.clientOf config preset
  clientMetadata : created.request.clientMetadata = preset.bind (·.clientMetadata)
  signed : created.request.signed = c.signed
  signedMetadata : created.request.signed = true → created.request.clientMetadata.isSome = true
  posts : c.Posts config created.request.requestId created.request.responseUri
  posted : created.request.responseUri.isSome = true ↔
    c.responseMode = .directPost ∨ c.responseMode = .directPostJwt
  shown : created.qr.isSome = true ↔ c.qr = true

theorem Posts.isSome_iff {requestId : String} {uri : Option Url} (h : c.Posts config requestId uri) :
    uri.isSome = true ↔ c.responseMode = .directPost ∨ c.responseMode = .directPostJwt := by
  cases h with
  | nowhere mode => simp [mode]
  | somewhere mode built => exact ⟨fun _ => mode, fun _ => rfl⟩

theorem fulfils_createdOf {preset : Option DcqlPreset} {query : Json} {uri : Option Url} {d : Seeds.Draw}
    (signable : c.Signable preset) (asks : c.Asks preset query) (posts : c.Posts config d.requestId uri) :
    c.Fulfils config preset (c.createdOf config (c.planOf config preset query) uri d) where
  profile := rfl
  responseMode := rfl
  query := asks
  clientId := rfl
  clientMetadata := rfl
  signed := rfl
  signedMetadata := by
    intro isSigned
    obtain ⟨p, metadata, rfl, given⟩ := signable isSigned
    show p.clientMetadata.isSome = true
    rw [given]
    rfl
  posts := posts
  posted := posts.isSome_iff
  shown := by
    rw [createdOf]
    cases c.qr <;> simp

theorem refused_of_missing {id : String} (named : c.dcqlPresetId = some id) {r : Refusal}
    (missing : RequestPlan.loadPreset b id = .error r) : RequestPlan.ofCommand config b c = .error r := by
  rw [RequestPlan.ofCommand, named]
  show (RequestPlan.loadPreset b id).map some >>= _ = _
  rw [missing]
  rfl

end RequestCommand

/-- A command creates a request exactly if the preset that it names is there, can be signed for as wanted
and has a query unless the command has its own, the place to post to can be spelled, and the QR code
holds the URI. The request then says what command and preset say, with one fresh id, nonce and state. If the
preset, the metadata or the query is what is missing, the first of them is named and nothing is drawn. -/
theorem create_decides (config : Config) (b : Backend) (c : RequestCommand) (sources : Seeds.Sources) :
    let created := (c.create config b sources).1.result
    let after := (c.create config b sources).2
    let d := (Seeds.draw sources).1
    ((∃ t, created = .ok t) ↔ ∃ preset query uri, c.Names b preset ∧ c.Signable preset ∧
      c.Asks preset query ∧ c.Posts config d.requestId uri ∧
      c.Shows config (c.requestOf (c.planOf config preset query) uri d)) ∧
    (∀ t, created = .ok t → ∃ preset, c.Names b preset ∧ c.Fulfils config preset t.answer ∧
      ∃ s₁ s₂, Seeds.nextRequestId sources = (t.answer.request.requestId, s₁) ∧
        Seeds.nextNonce s₁ = (t.answer.request.nonce, s₂) ∧
        Seeds.nextState s₂ = (t.answer.request.state, after)) ∧
    (∀ id, c.dcqlPresetId = some id → id ∉ b.outage.dcqlPresets → b.store.dcqlPresets.get? id = none →
      after = sources ∧ created = .error
        ⟨.invalidRequest, "unknown DCQL preset " ++ id, [⟨"dcqlPresetId", id⟩], []⟩) ∧
    (∀ id, c.dcqlPresetId = some id → id ∈ b.outage.dcqlPresets → after = sources ∧ created = .error
      ⟨.invalidRequest, "unable to load DCQL preset", [], ["backend offline"]⟩) ∧
    (∀ preset, c.Names b preset → ¬c.Signable preset → after = sources ∧ created = .error
      ⟨.invalidRequest, "signed authorization requests require a DCQL preset carrying client metadata",
        [⟨"dcqlPresetId", "required when signedRequest is true"⟩], []⟩) ∧
    ∀ preset, c.Names b preset → c.Signable preset → (¬∃ query, c.Asks preset query) →
      after = sources ∧ created = .error ⟨.invalidRequest, "a DCQL preset or DCQL override is required",
        [⟨"dcqlQuery", "missing"⟩], []⟩ := by
  intro created after d
  have refused {r : Refusal} (h : RequestPlan.ofCommand config b c = .error r) :
      after = sources ∧ created = .error r := (RequestCommand.create_of_error h).symm
  refine ⟨?_, ?_, ?_, ?_, ?_, ?_⟩
  · constructor
    · rintro ⟨t, made⟩
      obtain ⟨preset, query, uri, names, signable, asks, posts, shown, -⟩ :=
        RequestCommand.create_eq_ok_iff.mp made
      exact ⟨preset, query, uri, names, signable, asks, posts, shown⟩
    · rintro ⟨preset, query, uri, names, signable, asks, posts, shown⟩
      exact ⟨_, RequestCommand.create_eq_ok_iff.mpr
        ⟨preset, query, uri, names, signable, asks, posts, shown, rfl⟩⟩
  · intro t made
    obtain ⟨preset, query, uri, names, signable, asks, posts, -, rfl⟩ :=
      RequestCommand.create_eq_ok_iff.mp made
    refine ⟨preset, names, RequestCommand.fulfils_createdOf signable asks posts, _, _, rfl, rfl, ?_⟩
    have planned := (@RequestPlan.ofCommand_eq_ok_iff config b c _).mpr
      ⟨preset, query, names, signable, asks, rfl⟩
    exact Prod.ext rfl (RequestCommand.create_of_ok planned).2.symm
  · intro id named reached missing
    refine refused (RequestCommand.refused_of_missing named ?_)
    rw [RequestPlan.loadPreset, Backend.dcqlPreset, Backend.load_eq_ok_iff.mpr ⟨reached, missing⟩]
    rfl
  · intro id named unreached
    refine refused (RequestCommand.refused_of_missing named ?_)
    rw [RequestPlan.loadPreset, Backend.dcqlPreset, Backend.load_of_outage unreached]
    rfl
  · intro preset names unsigned
    exact refused ((RequestPlan.ofCommand_of_names names).trans (RequestPlan.ofPreset_of_unsignable unsigned))
  · intro preset names signable unasked
    exact refused ((RequestPlan.ofCommand_of_names names).trans
      (RequestPlan.ofPreset_of_unasked signable unasked))

def signingPreset : DcqlPreset :=
  ⟨"pid", some "x509_san_dns:verifier.example.com", .obj [("credentials", .arr [])], some (.obj [])⟩

def sampleSigners : Backend := ⟨Store.empty.putDcqlPreset signingPreset, Outage.none⟩

def sampleSigned (presetId : Option String) : RequestCommand :=
  ⟨.haip, .directPostJwt, presetId, none, true, true, false⟩

def sampleFresh : Seeds.Sources := (.start, Entropy.ofBytes [])

def sampleOwnQuery : RequestCommand := ⟨.baseline, .fragment, none, some .null, false, false, false⟩

-- Without a preset there is neither metadata nor a query, and it is the metadata that is missed. What brings
-- its own query needs none.
theorem create_decides_sample :
    (∃ t, ((sampleSigned (some "pid")).create Config.default sampleSigners sampleFresh).1.result = .ok t ∧
      t.answer.request.clientMetadata.isSome = true ∧ t.answer.request.responseUri.isSome = true ∧
      t.answer.qr.isSome = true ∧ t.answer.request.requestId = "req-0001") ∧
    ((sampleSigned (some "mdl")).create Config.default sampleSigners sampleFresh).2 = sampleFresh ∧
    ((sampleSigned none).create Config.default sampleSigners sampleFresh).1.result = .error
      ⟨.invalidRequest, "signed authorization requests require a DCQL preset carrying client metadata",
        [⟨"dcqlPresetId", "required when signedRequest is true"⟩], []⟩ ∧
    ∃ t, (sampleOwnQuery.create Config.default sampleSigners sampleFresh).1.result = .ok t ∧
      t.answer.request.clientId = "baseline-simulator" := by
  refine ⟨?_, ?_, ?_, ?_⟩
  · obtain ⟨succeeds, made, -⟩ :=
      create_decides Config.default sampleSigners (sampleSigned (some "pid")) sampleFresh
    have names : (sampleSigned (some "pid")).Names sampleSigners (some signingPreset) :=
      .preset rfl List.not_mem_nil rfl
    obtain ⟨t, created⟩ := succeeds.mpr ⟨_, _, _, names, fun _ => ⟨_, _, rfl, rfl⟩, .preset rfl rfl,
      .somewhere (.inr rfl) rfl, fun _ => by decide +kernel⟩
    obtain ⟨preset, -, fulfils, s₁, s₂, id, -⟩ := made t created
    exact ⟨t, created, fulfils.signedMetadata (fulfils.signed.trans rfl), fulfils.posted.mpr (.inr rfl),
      fulfils.shown.mpr rfl, (congrArg Prod.fst id).symm.trans rfl⟩
  · obtain ⟨-, -, missing, -⟩ :=
      create_decides Config.default sampleSigners (sampleSigned (some "mdl")) sampleFresh
    exact (missing "mdl" rfl List.not_mem_nil rfl).1
  · obtain ⟨-, -, -, -, unsigned, -⟩ :=
      create_decides Config.default sampleSigners (sampleSigned none) sampleFresh
    have unsignable : ¬(sampleSigned none).Signable none := by
      intro signable
      obtain ⟨p, metadata, named, -⟩ := signable rfl
      cases named
    exact (unsigned none (.nothing rfl) unsignable).2
  · obtain ⟨succeeds, made, -⟩ := create_decides Config.default sampleSigners sampleOwnQuery sampleFresh
    obtain ⟨t, created⟩ := succeeds.mpr ⟨none, .null, none, .nothing rfl, nofun, .own rfl, .nowhere rfl, nofun⟩
    obtain ⟨preset, names, fulfils, -⟩ := made t created
    cases names with
    | nothing unnamed => exact ⟨t, created, fulfils.clientId⟩
    | preset named => cases named

end VpExchange
