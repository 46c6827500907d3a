import VpExchange.Presentation
import VpExchange.Text.Quoted

set_option autoImplicit false

namespace VpExchange

structure Mdoc where
  credentialId : String
  format : String
  docType : String
  deviceResponse : String
  claims : Members
  policies : List String

namespace Mdoc

def fields := Json.Fields.cons (.required "credentialId" .string) <|
  .cons (.defaulted "format" .string Presentation.mdocFormat) <|
  .cons (.required "docType" .string) <|
  .cons (.required "deviceResponse" .string) <|
  .cons (.defaulted "claims" .members []) <|
  .cons (.defaulted "trustedAuthorityPolicies" (.list .string) []) .nil

def jsonFormat : Json.Format Mdoc :=
  (Json.Format.record fields).transport
    (fun (id, f, ty, response, claims, policies, ()) => ⟨id, f, ty, response, claims, policies⟩)
    (fun c => (c.credentialId, c.format, c.docType, c.deviceResponse, c.claims, c.policies, ()))

end Mdoc

structure DevicePreset where
  presetId : String
  credential : Mdoc

def DevicePreset.jsonFormat : Json.Format DevicePreset :=
  (Json.Format.named "presetId" Mdoc.jsonFormat).transport
    (fun (id, c) => ⟨id, c⟩) (fun p => (p.presetId, p.credential))

inductive ClaimStatus where
  | satisfied
  | skipped
deriving DecidableEq, Repr

namespace ClaimStatus

def name : ClaimStatus → String
  | .satisfied => "satisfied"
  | .skipped => "skipped"

def ofName? (s : String) : Option ClaimStatus :=
  if s = "satisfied" then some .satisfied else if s = "skipped" then some .skipped else none

def format : Json.Format ClaimStatus := .choice ofName? name

end ClaimStatus

structure ClaimEvaluation where
  pointer : String
  status : ClaimStatus
deriving DecidableEq, Repr

namespace ClaimEvaluation

def fields := Json.Fields.cons (.required "pointer" .string) <|
  .cons (.required "status" ClaimStatus.format) .nil

def format : Json.Format ClaimEvaluation :=
  (Json.Format.record fields).transport
    (fun (p, s, ()) => ⟨p, s⟩) (fun e => (e.pointer, e.status, ()))

end ClaimEvaluation

namespace Claims

def after? : List Char → List Char → Option (List Char)
  | [], cs => some cs
  | _ :: _, [] => none
  | d :: ds, c :: cs => if d = c then after? ds cs else none

def elementOf? (pointer : String) (ns : String) (elements : Json) : Option Json := do
  let element ← after? (ns.toList ++ ['.']) pointer.toList
  (← elements.members?).get? (String.ofList element)

/-- The claim of that name, or else the element of the first namespace that has it. -/
def resolve? (claims : Members) (pointer : String) : Option Json :=
  claims.get? pointer <|> claims.findSome? fun (ns, elements) => elementOf? pointer ns elements

def isPresent : Json → Bool
  | .null => false
  | .str s => !Text.isBlankText s
  | _ => true

-- A pointer to a document type is not looked up.
def isSkipped (pointer : String) : Bool := ".doctype".toList.isSuffixOf pointer.toList

def isSatisfied (claims : Members) (pointer : String) : Bool :=
  isSkipped pointer || (resolve? claims pointer).any isPresent

def statusOf (pointer : String) : ClaimEvaluation :=
  ⟨pointer, if isSkipped pointer then .skipped else .satisfied⟩

def lacking (pointers : List String) : Refusal :=
  pointers.foldl (fun r p => r.withViolation p "claim is absent or blank")
    (.invalidPresentation "device response lacks requested claims")

def evaluate (claims : Members) (pointers : List String) : Logged (List ClaimEvaluation) := do
  match pointers.filter fun p => !isSatisfied claims p with
  | [] => return pointers.map statusOf
  | unsatisfied =>
    Logged.warn "device response lacks requested claims"
      [("unsatisfied", .str (Text.showList (unsatisfied.map Text.quoted)))]
    throw (lacking unsatisfied)

end Claims

end VpExchange
