import VpExchange.Audit.Report
import VpExchange.Clock
import VpExchange.Encryption.Basic
import VpExchange.Entropy
import VpExchange.Jose.Token

set_option autoImplicit false

namespace VpExchange

namespace Encryption

structure Envelope where
  keyId : String
  token : String
deriving DecidableEq, Repr

def plaintext (payload : Members) : Bytes := Bytes.ofText (Json.obj payload).text

/-- Draws an ephemeral scalar, then an initialisation vector. Without a usable key nothing is drawn. -/
def envelop (b : Backend) (profile : Profile) (payload : Members) (e : Entropy) :
    Except Refusal Envelope × Entropy :=
  match b.recipient profile with
  | .error r => (.error r, e)
  | .ok (m, q) =>
    let (k, e) := e.scalar
    let (iv, e) := e.draw 12
    ((Token.encrypt m.keyId q k iv (plaintext payload)).map fun token => ⟨m.keyId, token⟩, e)

end Encryption

structure Delivery where
  exchange : Exchange
  responseUri : Option Url
  envelope : Option Encryption.Envelope
  -- How long encrypting has taken, in microseconds.
  latency : Nat

namespace Delivery

def latencyMs (d : Delivery) : Json := .int (d.latency / 1000 : Nat)

def isEncrypted (d : Delivery) : Bool := d.envelope.isSome

def event (d : Delivery) : Event :=
  let e := (d.exchange.success Telemetry.responseEncrypted)
    |>.field "encryptionRequired" (.bool d.isEncrypted)
    |>.field "latencyMs" d.latencyMs
  match d.envelope with
  | some v => e.field "keyId" (.str v.keyId)
  | none => e

def sealedStep (d : Delivery) : TraceStep :=
  match d.envelope with
  | some v =>
    TraceStep.new "jwe" "response sealed"
      |>.withAttribute "alg" (.str Token.keyAgreement)
      |>.withAttribute "enc" (.str Token.encryption)
      |>.withAttribute "keyId" (.str v.keyId)
  | none => TraceStep.new "jwe" "skipped, response travels unencrypted"

def trace (d : Delivery) : Trace :=
  d.exchange.trace "oid4vp.response.encrypt"
    |>.withStep (TraceStep.new "enforcement" "encryption requirement evaluated"
      |>.withAttribute "encryptionRequired" (.bool d.isEncrypted))
    |>.withStep (d.sealedStep
      |>.withAttribute? "responseUri" (d.responseUri.map fun u => .str u.text)
      |>.withAttribute "latencyMs" d.latencyMs)

end Delivery

namespace Encryption

def encryptedLog (x : Exchange) (v : Envelope) : Log :=
  ⟨.debug, "encrypted direct_post.jwt response",
    [("request_id", .str x.requestId), ("key_id", .str v.keyId)]⟩

def failure (x : Exchange) (r : Refusal) : Event :=
  (x.failure Telemetry.responseEncrypted r).field "encryptionRequired" (.bool true)

/-- Puts a payload into an envelope if it needs one. The clock is read at the start, and again when the
payload has been encrypted. -/
def encrypt (b : Backend) (x : Exchange) (uri : Option Url) (payload : Members) (e : Entropy)
    (clock : Clock) : Reported Delivery × Entropy × Clock :=
  let (start, clock) := clock.now
  if x.isEncrypted then
    match envelop b x.profile payload e with
    | (.error r, e) => (⟨[], .error r, failure x r⟩, e, clock)
    | (.ok v, e) =>
      let (finish, clock) := clock.now
      let d : Delivery := ⟨x, uri, some v, finish - start⟩
      (⟨[encryptedLog x v], .ok d, d.event⟩, e, clock)
  else
    let d : Delivery := ⟨x, uri, none, 0⟩
    (⟨[], .ok d, d.event⟩, e, clock)

end Encryption

end VpExchange
