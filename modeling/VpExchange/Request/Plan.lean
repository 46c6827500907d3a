import VpExchange.Request.Basic
import VpExchange.Store

set_option autoImplicit false

namespace VpExchange

structure RequestCommand where
  profile : Profile
  responseMode : ResponseMode
  dcqlPresetId : Option String
  dcqlOverride : Option Json
  signed : Bool
  qr : Bool
  verbose : Bool

structure RequestPlan where
  clientId : String
  dcqlQuery : Json
  clientMetadata : Option Json

namespace RequestPlan

def loadPreset (b : Backend) (id : String) : Except Refusal DcqlPreset := do
  match ← Refusal.ofChain .invalidRequest "unable to load DCQL preset" (b.dcqlPreset id) with
  | some p => return p
  | none =>
    throw ((Refusal.invalidRequest ("unknown DCQL preset " ++ id)).withViolation "dcqlPresetId" id)

def unsignable : Refusal :=
  (Refusal.invalidRequest
      "signed authorization requests require a DCQL preset carrying client metadata")
    |>.withViolation "dcqlPresetId" "required when signedRequest is true"

def queryMissing : Refusal :=
  (Refusal.invalidRequest "a DCQL preset or DCQL override is required")
    |>.withViolation "dcqlQuery" "missing"

def ofPreset (config : Config) (c : RequestCommand) (preset : Option DcqlPreset) :
    Except Refusal RequestPlan := do
  let metadata := preset.bind (·.clientMetadata)
  if c.signed ∧ metadata.isNone then throw unsignable
  match c.dcqlOverride <|> preset.map (·.dcqlQuery) with
  | none => throw queryMissing
  | some query =>
    return ⟨(preset.bind (·.clientId)).getD (config.clientId c.profile), query, metadata⟩

def ofCommand (config : Config) (b : Backend) (c : RequestCommand) : Except Refusal RequestPlan := do
  ofPreset config c (← c.dcqlPresetId.mapM (loadPreset b))

end RequestPlan

end VpExchange
