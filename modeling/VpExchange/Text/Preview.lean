set_option autoImplicit false

namespace VpExchange.Text

def preview (s : String) (limit : Nat) : String :=
  if s.length ≤ limit then s else String.ofList (s.toList.take limit ++ ['…'])

end VpExchange.Text
