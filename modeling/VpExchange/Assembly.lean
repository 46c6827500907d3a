set_option autoImplicit false

namespace VpExchange

inductive Part where
  | dcqlPresets
  | walletPresets
  | deviceResponses
  | presentations
  | encryptionKeys
deriving DecidableEq, Repr

namespace Part

def all : List Part := [dcqlPresets, walletPresets, deviceResponses, presentations, encryptionKeys]

def required : Part → String
  | dcqlPresets => "DCQL preset repository is required, see `with_dcql_presets`"
  | walletPresets => "wallet preset repository is required, see `with_wallet_presets`"
  | deviceResponses => "device response repository is required, see `with_device_responses`"
  | presentations => "stored presentation repository is required, see `with_presentations`"
  | encryptionKeys => "encryption key repository is required, see `with_encryption_keys`"

def missing? (given : List Part) : Option Part := all.find? fun p => p ∉ given

end Part

end VpExchange
