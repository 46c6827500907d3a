import VpExchange.Text.Visible

set_option autoImplicit false

namespace VpExchange.Text

def escapeQuoted (c : Char) : List Char :=
  if c.toNat = 0 then ['\\', '0']
  else if c = '\t' then ['\\', 't']
  else if c = '\r' then ['\\', 'r']
  else if c = '\n' then ['\\', 'n']
  else if c = '"' ∨ c = '\\' then ['\\', c]
  else if isVisible c then [c]
  else ['\\', 'u', '{'] ++ Nat.toDigits 16 c.toNat ++ ['}']

def quoted (s : String) : String :=
  String.ofList ('"' :: (s.toList.flatMap escapeQuoted ++ ['"']))

def showOption : Option String → String
  | none => "None"
  | some shown => "Some(" ++ shown ++ ")"

def showList (shown : List String) : String := "[" ++ String.intercalate ", " shown ++ "]"

def showRecord (name : String) (fields : List (String × String)) (whole : Bool) : String :=
  let shown := fields.map fun f => f.1 ++ ": " ++ f.2
  name ++ " \x7b " ++ String.intercalate ", " (if whole then shown else shown ++ [".."]) ++ " \x7d"

end VpExchange.Text
