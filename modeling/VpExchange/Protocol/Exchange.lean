import VpExchange.Protocol.Profile

set_option autoImplicit false

namespace VpExchange

structure Exchange where
  requestId : String
  profile : Profile
  responseMode : ResponseMode
deriving DecidableEq, Repr

namespace Exchange

def isEncrypted (x : Exchange) : Bool := x.profile.requiresEncryption x.responseMode

end Exchange

end VpExchange
