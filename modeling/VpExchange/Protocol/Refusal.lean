import VpExchange.Chain
import VpExchange.Json.Record

set_option autoImplicit false

namespace VpExchange

structure Violation where
  field : String
  message : String
deriving DecidableEq, Repr

namespace Violation

def fields := Json.Fields.cons (.required "field" .string) <|
  .cons (.required "message" .string) .nil

def format : Json.Format Violation :=
  (Json.Format.record fields).transport (fun (f, m, ()) => ⟨f, m⟩) (fun v => (v.field, v.message, ()))

end Violation

structure Problem where
  type : String
  title : String
  status : Nat
  detail : String
  violations : List Violation
deriving DecidableEq, Repr

namespace Problem

def fields := Json.Fields.cons (.required "type" .string) <|
  .cons (.required "title" .string) <|
  .cons (.required "status" (.natBelow 65536)) <|
  .cons (.required "detail" .string) <|
  .cons (.required "violations" (.list Violation.format)) .nil

def format : Json.Format Problem :=
  (Json.Format.record fields).transport
    (fun (ty, title, status, detail, vs, ()) => ⟨ty, title, status, detail, vs⟩)
    (fun p => (p.type, p.title, p.status, p.detail, p.violations, ()))

def code (p : Problem) : String := p.title

end Problem

inductive ProblemCode where
  | invalidRequest
  | invalidScope
  | walletUnavailable
  | invalidPresentation
deriving DecidableEq, Repr

namespace ProblemCode

def name : ProblemCode → String
  | .invalidRequest => "invalid_request"
  | .invalidScope => "invalid_scope"
  | .walletUnavailable => "wallet_unavailable"
  | .invalidPresentation => "invalid_presentation"

def ofName? (s : String) : Option ProblemCode :=
  [invalidRequest, invalidScope, walletUnavailable, invalidPresentation].find? (·.name = s)

def status : ProblemCode → Nat
  | .invalidRequest | .invalidScope => 400
  | .walletUnavailable => 503
  | .invalidPresentation => 422

def typeUri (c : ProblemCode) : String :=
  "https://openid.net/specs/openid-4-verifiable-presentations-1_0.html/error/" ++ c.name

end ProblemCode

structure Refusal where
  code : ProblemCode
  detail : String
  violations : List Violation
  cause : Chain
deriving DecidableEq, Repr

namespace Refusal

def new (code : ProblemCode) (detail : String) : Refusal := ⟨code, detail, [], []⟩

def invalidRequest (detail : String) : Refusal := new .invalidRequest detail
def invalidScope (detail : String) : Refusal := new .invalidScope detail
def walletUnavailable (detail : String) : Refusal := new .walletUnavailable detail
def invalidPresentation (detail : String) : Refusal := new .invalidPresentation detail

def withViolation (r : Refusal) (field message : String) : Refusal :=
  { r with violations := r.violations ++ [⟨field, message⟩] }

def withCause (r : Refusal) (cause : Chain) : Refusal := { r with cause := cause }

def problem (r : Refusal) : Problem :=
  ⟨r.code.typeUri, r.code.name, r.code.status, r.detail, r.violations⟩

def message (r : Refusal) : String := r.problem.title ++ ": " ++ r.problem.detail

def ofChain {α : Type} (code : ProblemCode) (detail : String) : Except Chain α → Except Refusal α
  | .ok a => .ok a
  | .error cause => .error ((new code detail).withCause cause)

end Refusal

end VpExchange
