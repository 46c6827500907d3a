set_option autoImplicit false

namespace VpExchange

/-- The readings still to come. The last of them stays, and without any it is zero. -/
structure Clock where
  readings : List Nat
deriving DecidableEq, Repr

def Clock.now : Clock → Nat × Clock
  | ⟨[]⟩ => (0, ⟨[]⟩)
  | ⟨[t]⟩ => (t, ⟨[t]⟩)
  | ⟨t :: rest⟩ => (t, ⟨rest⟩)

end VpExchange
