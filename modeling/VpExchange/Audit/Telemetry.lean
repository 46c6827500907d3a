import VpExchange.Audit.Log
import VpExchange.Protocol.Profile

set_option autoImplicit false

namespace VpExchange

namespace Telemetry

inductive Outcome where
  | success
  | failure
deriving DecidableEq, Repr

def Outcome.name : Outcome → String
  | .success => "success"
  | .failure => "failure"

def requestCreated : String := "oid4vp.request.created"
def walletResponded : String := "oid4vp.wallet.responded"
def responseValidated : String := "oid4vp.response.validated"
def responseEncrypted : String := "oid4vp.response.encrypted"

end Telemetry

structure Event where
  event : String
  outcome : Telemetry.Outcome
  fields : Members

namespace Event

def success (event : String) : Event := ⟨event, .success, []⟩

def field (e : Event) (key : String) (value : Json) : Event :=
  { e with fields := e.fields.insert key value }

def failure (event : String) (r : Refusal) (profile : Profile) (mode : Option ResponseMode) : Event :=
  (⟨event, .failure, []⟩ : Event)
    |>.field "reason" (.str r.problem.title)
    |>.field "status" (.int r.problem.status)
    |>.field "profile" (.str profile.name)
    |>.field "responseMode" (Json.ofOption (fun m => .str m.name) mode)

def toLog (e : Event) : Log where
  level := match e.outcome with
    | .success => .info
    | .failure => .warn
  message := "telemetry"
  fields := [("event", .str e.event), ("fields", .str (Json.obj e.fields).text)]

def toJson (e : Event) : Json :=
  .obj [("event", .str e.event), ("outcome", .str e.outcome.name), ("fields", .obj e.fields)]

end Event

namespace Telemetry

inductive Publisher where
  | recording
  | logging
  | silent
deriving DecidableEq, Repr

def Publisher.recorded : Publisher → List Event → List Event
  | .recording, events => events
  | _, _ => []

def Publisher.logged : Publisher → List Event → List Log
  | .logging, events => events.map Event.toLog
  | _, _ => []

end Telemetry

end VpExchange
