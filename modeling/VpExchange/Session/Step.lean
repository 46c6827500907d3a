import VpExchange.Acceptance.Basic
import VpExchange.Answer.Mdoc
import VpExchange.Answer.SdJwt
import VpExchange.Encryption.Delivery
import VpExchange.Request.Created

set_option autoImplicit false

namespace VpExchange

inductive Taken (α : Type) where
  | given (a : α)
  | ofStep (index : Nat)

inductive Step where
  | putDcqlPreset (p : DcqlPreset)
  | putWalletPreset (p : WalletPreset)
  | putDevicePreset (p : DevicePreset)
  | putPresentation (p : StoredPresentation)
  | putKey (profile : Profile) (m : KeyMaterial)
  | removeKey (profile : Profile)
  | getDcqlPreset (id : String)
  | getWalletPreset (id : String)
  | getDevicePreset (id : String)
  | getPresentation (id : String)
  | getKey (profile : Profile)
  | createRequest (c : RequestCommand)
  | answerSdJwt (c : AnswerCommand SdJwt)
  | answerMdoc (c : AnswerCommand Mdoc) (pointers : List String)
  | ensureEncryption (x : Exchange)
  | encrypt (x : Exchange) (uri : Option Url) (payload : Taken Members) (verbose : Bool)
  | decrypt (requestId : String) (profile : Profile) (token : Taken String) (verbose : Bool)
  -- The product of a step may take the place of the token in the command.
  | accept (c : AcceptanceCommand) (tokenOf : Option Nat)

namespace Step

inductive Result where
  | done
  | dcqlPreset (p : Option DcqlPreset)
  | walletPreset (p : Option WalletPreset)
  | devicePreset (p : Option DevicePreset)
  | presentation (p : Option StoredPresentation)
  | key (m : KeyMaterial)
  | created (r : Traced CreatedRequest)
  | sdJwt (a : Traced Answer)
  | mdoc (d : Traced Answer.Mdoc.Document)
  -- With the number of random bytes drawn in the session so far.
  | delivered (d : Traced Delivery) (drawn : Nat)
  | opened (o : Traced Opened)
  | accepted (a : Traced Acceptance)

inductive Error where
  | refused (r : Refusal)
  | failed (cause : Chain)
  | unreadable
  | nothingThere
deriving DecidableEq, Repr

abbrev Product := Sent

def Result.product? : Result → Option Product
  | .sdJwt a => some (.plain a.answer.payload)
  | .mdoc d => some (.plain d.answer.answer.payload)
  | .delivered d _ => d.answer.envelope.map fun v => .encrypted v.token
  | _ => none

end Step

structure Performance where
  logs : List Log
  result : Except Step.Error Step.Result
  events : List Event

namespace Performance

variable {α : Type}

def failed (e : Step.Error) : Performance := ⟨[], .error e, []⟩

def ofExcept (e : Except Step.Error α) (of : α → Step.Result) : Performance :=
  ⟨[], e.map of, []⟩

def ofLogged (x : Logged α) (of : α → Step.Result) : Performance :=
  ⟨x.logs, (x.result.map of).mapError .refused, []⟩

def ofReported (r : Reported α) (of : α → Step.Result) : Performance :=
  ⟨r.logs, (r.result.map of).mapError .refused, [r.event]⟩

def after (e : Except Step.Error α) (perform : α → Performance) : Performance :=
  match e with
  | .ok a => perform a
  | .error e => failed e

def product? (p : Performance) : Option Step.Product := p.result.toOption.bind (·.product?)

end Performance

end VpExchange
