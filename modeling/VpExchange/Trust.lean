import VpExchange.Audit.Log
import VpExchange.Text.Blank

set_option autoImplicit false

namespace VpExchange

structure TrustedAuthority where
  type : String
  value : String
  label : String
deriving DecidableEq, Repr

namespace TrustedAuthority

def fields := Json.Fields.cons (.required "type" .string) <|
  .cons (.required "value" .string) <|
  .cons (.required "label" .string) .nil

def format : Json.Format TrustedAuthority :=
  (Json.Format.record fields).transport
    (fun (ty, value, label, ()) => ⟨ty, value, label⟩) (fun a => (a.type, a.value, a.label, ()))

end TrustedAuthority

structure TrustSnapshot where
  authorities : List TrustedAuthority
deriving DecidableEq, Repr

namespace TrustSnapshot

def fields := Json.Fields.cons (.defaulted "authorities" (.list TrustedAuthority.format) []) .nil

def format : Json.Format TrustSnapshot :=
  (Json.Format.record fields).transport (fun (as, ()) => ⟨as⟩) (fun s => (s.authorities, ()))

end TrustSnapshot

structure TrustVerdict where
  type : String
  value : String
  label : String
  policy : String
deriving DecidableEq, Repr

namespace TrustVerdict

def fields := Json.Fields.cons (.required "type" .string) <|
  .cons (.required "value" .string) <|
  .cons (.required "label" .string) <|
  .cons (.required "policy" .string) .nil

def format : Json.Format TrustVerdict :=
  (Json.Format.record fields).transport
    (fun (ty, value, label, policy, ()) => ⟨ty, value, label, policy⟩)
    (fun v => (v.type, v.value, v.label, v.policy, ()))

end TrustVerdict

/-- Type and value of a policy, split at its first colon. Without a colon the type is unknown; without
a value behind the colon the whole policy is the value. -/
def splitPolicy (policy : String) : String × String :=
  let cs := policy.toList
  match cs.dropWhile (· ≠ ':') with
  | [] => ("unknown", policy)
  | [_] => (String.ofList (cs.takeWhile (· ≠ ':')), policy)
  | _ :: value => (String.ofList (cs.takeWhile (· ≠ ':')), String.ofList value)

def TrustVerdict.ofPolicy (policy : String) : TrustVerdict :=
  let (ty, value) := splitPolicy policy
  ⟨ty, value, value, policy⟩

def requestedPolicy (requested : Option String) : Option String :=
  requested.filter fun p => !Text.isBlankText p

def unsatisfiedPolicy (policy : String) : Refusal :=
  (Refusal.invalidScope ("Trusted Authority policy " ++ policy ++ " not satisfied by wallet"))
    |>.withViolation "trustedAuthorityPolicy" policy

abbrev TrustIndex := List (String × List (String × String))

namespace TrustIndex

def addLabel (value label : String) : List (String × String) → List (String × String)
  | [] => [(value, label)]
  | (v, l) :: rest => if v = value then (v, l) :: rest else (v, l) :: addLabel value label rest

def add (a : TrustedAuthority) : TrustIndex → TrustIndex
  | [] => [(a.type, addLabel a.value a.label [])]
  | (ty, labels) :: rest =>
    if ty = a.type then (ty, addLabel a.value a.label labels) :: rest
    else (ty, labels) :: add a rest

def ofSnapshot (s : TrustSnapshot) : TrustIndex := s.authorities.foldl (fun i a => add a i) []

def label? (i : TrustIndex) (ty value : String) : Option String :=
  (i.lookup ty).bind fun labels => labels.lookup value

def evaluate (i : TrustIndex) (requested : Option String) (carried : List String) :
    Logged (Option TrustVerdict) := do
  match requestedPolicy requested with
  | none => return none
  | some policy =>
    if carried.contains policy then
      let verdict := TrustVerdict.ofPolicy policy
      let verdict := { verdict with label := (i.label? verdict.type verdict.value).getD verdict.label }
      Logged.debug "trusted authority policy satisfied"
        [("authority_type", .str verdict.type), ("label", .str verdict.label)]
      return some verdict
    else
      Logged.warn "trusted authority policy not satisfied" [("policy", .str policy)]
      throw (unsatisfiedPolicy policy)

end TrustIndex

end VpExchange
