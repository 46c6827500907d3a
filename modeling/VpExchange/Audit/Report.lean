import VpExchange.Audit.Telemetry
import VpExchange.Audit.Trace
import VpExchange.Protocol.Exchange

set_option autoImplicit false

namespace VpExchange

structure Reported (α : Type) where
  logs : List Log
  result : Except Refusal α
  event : Event

def Logged.reported {α : Type} (x : Logged α) (success : α → Event) (failure : Refusal → Event) :
    Reported α where
  logs := x.logs
  result := x.result
  event := match x.result with
    | .ok a => success a
    | .error r => failure r

structure Traced (α : Type) where
  answer : α
  trace : Option Trace

def Traced.of {α : Type} (verbose : Bool) (trace : α → Trace) (a : α) : Traced α :=
  ⟨a, if verbose then some (trace a) else none⟩

namespace Exchange

def trace (x : Exchange) (operation : String) : Trace :=
  Trace.new operation
    |>.withMetadata "requestId" (.str x.requestId)
    |>.withMetadata "profile" (.str x.profile.name)
    |>.withMetadata "responseMode" (.str x.responseMode.name)

def success (x : Exchange) (event : String) : Event :=
  Event.success event
    |>.field "requestId" (.str x.requestId)
    |>.field "profile" (.str x.profile.name)
    |>.field "responseMode" (.str x.responseMode.name)

def failure (x : Exchange) (event : String) (r : Refusal) : Event :=
  Event.failure event r x.profile (some x.responseMode)
    |>.field "requestId" (.str x.requestId)

end Exchange

end VpExchange
