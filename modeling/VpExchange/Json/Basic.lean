import VpExchange.Decimal.Binary64

/-!
JSON values. An object is its list of members as written; it is canonical when names are unique and
sorted by their characters, here and in every value inside it. `canonical` makes it so: of a repeated
name the last value stays.
-/

set_option autoImplicit false

namespace VpExchange

inductive Json where
  | null
  | bool (b : Bool)
  | int (n : Int)
  | float (x : Binary64)
  | str (s : String)
  | arr (items : List Json)
  | obj (members : List (String × Json))
deriving Inhabited, Repr

abbrev Members := List (String × Json)

namespace Members

def insert (key : String) (value : Json) : Members → Members
  | [] => [(key, value)]
  | (k, v) :: rest =>
    if key < k then (key, value) :: (k, v) :: rest
    else if key = k then (key, value) :: rest
    else (k, v) :: insert key value rest

def ofList (ms : List (String × Json)) : Members :=
  ms.foldl (fun acc m => insert m.1 m.2 acc) []

def get? (key : String) : Members → Option Json
  | [] => none
  | (k, v) :: rest => if k = key then some v else get? key rest

@[simp] theorem get?_insert (ms : Members) (key k : String) (value : Json) :
    (ms.insert key value).get? k = if key = k then some value else ms.get? k := by
  induction ms with
  | nil => simp [insert, get?]
  | cons m rest ih =>
    obtain ⟨l, v⟩ := m
    simp only [insert]
    split
    · simp [get?]
    · split
      · simp_all [get?]
      · simp only [get?, ih]; grind

end Members

namespace Json

mutual

def canonical : Json → Json
  | .arr items => .arr (canonicalItems items)
  | .obj members => .obj (Members.ofList (canonicalMembers members))
  | j => j

def canonicalItems : List Json → List Json
  | [] => []
  | j :: rest => canonical j :: canonicalItems rest

def canonicalMembers : List (String × Json) → List (String × Json)
  | [] => []
  | (k, j) :: rest => (k, canonical j) :: canonicalMembers rest

end

def members? : Json → Option Members
  | .obj ms => some ms
  | _ => none

def text? : Json → Option String
  | .str s => some s
  | _ => none

def ofOption {α : Type} (f : α → Json) : Option α → Json
  | none => .null
  | some a => f a

end Json

end VpExchange
