import VpExchange.Text.Split
import VpExchange.Url.Domain.Composed
import VpExchange.Url.Domain.Direction
import VpExchange.Url.Domain.Joining
import VpExchange.Url.Domain.Punycode
import VpExchange.Url.Domain.Replacement

/-!
Domain names in ASCII: characters are replaced by those they stand for, and a label with characters
beyond ASCII is written in Punycode behind `xn--`. A label that comes in that form has to be one that
this writing gives.
-/

set_option autoImplicit false

namespace VpExchange.Url.Domain

def isForbidden (c : Char) : Bool :=
  c.toNat ≤ 32 || c.toNat == 127 ||
    ['%', '#', '/', ':', '<', '>', '?', '@', '[', '\\', ']', '^', '|'].contains c

def isAscii (c : Char) : Bool := c.toNat < 128

structure Label where
  shown : List Char
  ascii : List Char

namespace Label

def acePrefix : List Char := ['x', 'n', '-', '-']

def maxLength : Nat := 1000

def ofPunycode? (cs : List Char) : Option Label := do
  guard (cs.length ≤ 2 * maxLength)
  let shown ← Punycode.decode cs
  guard (shown.length ≤ maxLength)
  guard !(shown.all isAscii)
  guard (shown.all fun c => isKept c && !isForbidden c && c != '.')
  guard (composed shown = shown)
  guard (Punycode.encode shown = cs)
  return ⟨shown, acePrefix ++ cs⟩

def ofChars? (cs : List Char) : Option Label := do
  if acePrefix.isPrefixOf cs then
    guard (cs.all isAscii)
    ofPunycode? (cs.drop 4)
  else if cs.all isAscii then return ⟨cs, cs⟩
  else
    guard (cs.length ≤ maxLength)
    return ⟨cs, acePrefix ++ Punycode.encode cs⟩

def isWellFormed (l : Label) : Bool :=
  !(l.shown.head?.any isMark) && Joining.areInPlace [] l.shown

end Label

def toAscii? (cs : List Char) : Option (List Char) := do
  let text := composed (← cs.mapM mapped?).flatten
  guard !(text.any isForbidden)
  let labels ← (Text.splitAt '.' text).mapM Label.ofChars?
  guard (labels.all Label.isWellFormed)
  guard (Direction.isConsistent (labels.map (·.shown)))
  return List.intercalate ['.'] (labels.map (·.ascii))

end VpExchange.Url.Domain
