import VpExchange.Session.Step

set_option autoImplicit false

namespace VpExchange

structure Session where
  config : Config
  backend : Backend
  sources : Seeds.Sources
  clock : Clock
  products : List (Option Step.Product)

namespace Session

def start (config : Config) (outage : Outage) (sources : Seeds.Sources) (clock : Clock) : Session :=
  ⟨config, ⟨.empty, outage⟩, sources, clock, []⟩

def store (s : Session) (change : Store → Store) : Performance × Session :=
  (⟨[], .ok .done, []⟩, { s with backend := { s.backend with store := change s.backend.store } })

def product (s : Session) (index : Nat) : Except Step.Error Step.Product :=
  match s.products[index]? with
  | some (some p) => .ok p
  | _ => .error .nothingThere

def payload (s : Session) : Taken Members → Except Step.Error Members
  | .given payload => .ok payload
  | .ofStep index => do
    match ← s.product index with
    | .plain payload => return payload
    | .encrypted _ => throw .nothingThere

def token (s : Session) : Taken String → Except Step.Error String
  | .given token => .ok token
  | .ofStep index => do
    match ← s.product index with
    | .encrypted token => return token
    | .plain _ => throw .nothingThere

def withToken (s : Session) (c : AcceptanceCommand) :
    Option Nat → Except Step.Error AcceptanceCommand
  | none => .ok c
  | some index => do
    let p ← s.product index
    return { c with inlinePresentation := c.inlinePresentation.map ({ · with vpToken := p }) }

def perform (s : Session) : Step → Performance × Session
  | .putDcqlPreset p => s.store (·.putDcqlPreset p)
  | .putWalletPreset p => s.store (·.putWalletPreset p)
  | .putDevicePreset p => s.store (·.putDevicePreset p)
  | .putPresentation p => s.store (·.putPresentation p)
  | .putKey profile m => s.store (·.putKey profile m)
  | .removeKey profile =>
    match s.backend.store.removeKey profile with
    | .ok store => s.store fun _ => store
    | .error cause => (Performance.failed (.failed cause), s)
  | .getDcqlPreset id => (.ofExcept (.ok (s.backend.store.dcqlPresets.get? id)) .dcqlPreset, s)
  | .getWalletPreset id => (.ofExcept (.ok (s.backend.store.walletPresets.get? id)) .walletPreset, s)
  | .getDevicePreset id => (.ofExcept (.ok (s.backend.store.devicePresets.get? id)) .devicePreset, s)
  | .getPresentation id => (.ofExcept (.ok (s.backend.store.presentations.get? id)) .presentation, s)
  | .getKey profile => (.ofExcept ((s.backend.store.key profile).mapError .failed) .key, s)
  | .createRequest c =>
    let (created, sources) := c.create s.config s.backend s.sources
    (.ofReported created .created, { s with sources := sources })
  | .answerSdJwt c => (.ofReported (Answer.SdJwt.answer s.backend c) .sdJwt, s)
  | .answerMdoc c pointers =>
    (.ofReported (Answer.Mdoc.answer s.backend s.config.trustIndex c pointers) .mdoc, s)
  | .ensureEncryption x => (.ofLogged (Encryption.ensure s.backend x) fun _ => .done, s)
  | .encrypt x uri payload verbose =>
    match s.payload payload with
    | .error e => (Performance.failed e, s)
    | .ok payload =>
      let (delivered, entropy, clock) :=
        Encryption.encrypt s.backend x uri payload s.sources.2 s.clock
      (.ofReported delivered fun d => .delivered (Traced.of verbose Delivery.trace d) entropy.drawn,
        { s with sources := (s.sources.1, entropy), clock := clock })
  | .decrypt requestId profile token verbose =>
    (.after (s.token token) fun token =>
      .ofLogged (Encryption.decrypt s.backend requestId profile token) fun o =>
        .opened (Traced.of verbose Opened.trace o), s)
  | .accept c tokenOf =>
    (.after (s.withToken c tokenOf) fun c => .ofReported (c.check s.config s.backend) .accepted, s)

def next (s : Session) (step : Option Step) : Performance × Session :=
  let (p, s) := match step with
    | none => (Performance.failed .unreadable, s)
    | some step => s.perform step
  (p, { s with products := s.products ++ [p.product?] })

def run : Session → List (Option Step) → List Performance
  | _, [] => []
  | s, step :: steps =>
    let (p, s) := s.next step
    p :: s.run steps

end Session

end VpExchange
