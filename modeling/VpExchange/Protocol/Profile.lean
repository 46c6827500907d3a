import VpExchange.Json.Record

set_option autoImplicit false

namespace VpExchange

inductive ResponseMode where
  | fragment
  | directPost
  | directPostJwt
deriving DecidableEq, Repr

inductive Profile where
  | haip
  | baseline
deriving DecidableEq, Repr

namespace ResponseMode

def name : ResponseMode → String
  | .fragment => "fragment"
  | .directPost => "direct_post"
  | .directPostJwt => "direct_post.jwt"

def parse? (s : String) : Option ResponseMode :=
  if s = "fragment" ∨ s = "FRAGMENT" then some .fragment
  else if s = "direct_post" ∨ s = "DIRECT_POST" then some .directPost
  else if s = "direct_post.jwt" ∨ s = "DIRECT_POST_JWT" then some .directPostJwt
  else none

def unsupported (s : String) : String := "unsupported response_mode " ++ s

def isDirectPost : ResponseMode → Bool
  | .fragment => false
  | .directPost | .directPostJwt => true

def format : Json.Format ResponseMode := .spelled parse? name

end ResponseMode

namespace Profile

def name : Profile → String
  | .haip => "HAIP"
  | .baseline => "BASELINE"

def ofName? (s : String) : Option Profile :=
  if s = "HAIP" then some .haip else if s = "BASELINE" then some .baseline else none

def parse? (s : String) : Option Profile := ofName? (String.ofList (s.toList.map Char.toUpper))

def unsupported (s : String) : String := "unsupported profile " ++ s

def defaultMode : Profile → ResponseMode
  | .haip => .directPostJwt
  | .baseline => .directPost

def requiresEncryption : Profile → ResponseMode → Bool
  | .haip, .directPostJwt => true
  | _, _ => false

def format : Json.Format Profile := .choice ofName? name

end Profile

end VpExchange
