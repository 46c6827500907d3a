import VpExchange.Audit.Report
import VpExchange.Encryption.Basic
import VpExchange.Presentation

set_option autoImplicit false

namespace VpExchange

structure AnswerCommand (κ : Type) where
  exchange : Exchange
  presetId : Option String
  credential : Option κ
  policy : Option String
  verbose : Bool

namespace Answer

variable {κ : Type}

def bothSources : Refusal :=
  (Refusal.invalidRequest "presetId and an inline credential are mutually exclusive")
    |>.withViolation "presetId" "supply either presetId or an inline credential"

def noSource : Refusal :=
  (Refusal.invalidRequest "either presetId or an inline credential is required")
    |>.withViolation "presetId" "missing"

def credential (load : String → Except Refusal κ) (c : AnswerCommand κ) : Except Refusal κ :=
  match c.presetId, c.credential with
  | some id, none => load id
  | none, some credential => .ok credential
  | some _, some _ => .error bothSources
  | none, none => .error noSource

def loaded {α : Type} (kind id : String) (found : Except Chain (Option α)) : Except Refusal α := do
  match ← Refusal.ofChain .walletUnavailable (kind ++ " preset store unavailable") found with
  | some a => return a
  | none =>
    throw ((Refusal.invalidRequest ("unknown " ++ kind ++ " preset " ++ id)).withViolation
      "presetId" id)

end Answer

structure Answer where
  exchange : Exchange
  presetId : Option String
  presentation : Presentation
  payload : Members

namespace Answer

def payloadFor (x : Exchange) (credentialId format vpToken : String) : Members :=
  responsePayload vpToken (submission x.requestId credentialId format)

def encryptionStep (a : Answer) : TraceStep :=
  TraceStep.new "encryption" "response protection decided"
    |>.withAttribute "encryptionRequired" (.bool a.exchange.isEncrypted)

def policyAttribute (a : Answer) : Option Json :=
  a.presentation.trustedAuthorityMatch.map fun v => .str v.policy

def failure (x : Exchange) (format : String) (r : Refusal) : Event :=
  (x.failure Telemetry.walletResponded r).field "format" (.str format)

end Answer

end VpExchange
