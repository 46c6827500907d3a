set_option autoImplicit false

namespace VpExchange.Text

variable {β : Type}

def searchFrom (bounds : β → Nat × Nat) (table : Array β) (n : Nat) :
    (fuel low high : Nat) → Option β
  | 0, _, _ => none
  | fuel + 1, low, high =>
    if low < high then
      let mid := (low + high) / 2
      match table[mid]? with
      | none => none
      | some entry =>
        if n < (bounds entry).1 then searchFrom bounds table n fuel low mid
        else if (bounds entry).2 < n then searchFrom bounds table n fuel (mid + 1) high
        else some entry
    else none

def search (bounds : β → Nat × Nat) (table : Array β) (n : Nat) : Option β :=
  searchFrom bounds table n table.size 0 table.size

def inRanges (ranges : Array (Nat × Nat)) (c : Char) : Bool := (search id ranges c.toNat).isSome

def valueAt? (table : Array (Nat × Nat × β)) (c : Char) : Option β :=
  (search (fun (first, last, _) => (first, last)) table c.toNat).map fun (_, _, value) => value

end VpExchange.Text
