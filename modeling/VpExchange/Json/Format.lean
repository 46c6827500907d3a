import VpExchange.Json.Reader
import VpExchange.Json.Printer

set_option autoImplicit false

namespace VpExchange.Json

structure Format (α : Type) where
  read : Nat → Reader α
  ofJson : Json → Option α
  toJson : α → Json

namespace Format

variable {α β : Type}

def decode (f : Format α) (input : Bytes) : Except Fault α := Reader.whole (f.read maxDepth) input

def decodeText (f : Format α) (s : String) : Except Fault α := f.decode (Bytes.ofText s)

def encode (f : Format α) (a : α) : String := (f.toJson a).text

def json : Format Json where
  read depth := return (← Reader.tree depth).canonical
  ofJson j := some j.canonical
  toJson j := j

def buffered (ofJson : Json → Option α) (toJson : α → Json) : Format α where
  read depth := do
    match ofJson (← Reader.tree depth) with
    | some a => return a
    | none => throw .mismatch
  ofJson := ofJson
  toJson := toJson

def string : Format String where
  read _ := do
    match ← Reader.next with
    | none => throw .truncated
    | some b => if b = Reader.byte '"' then Reader.drop; Reader.string else Reader.wrongKind
  ofJson := Json.text?
  toJson := .str

def bool : Format Bool where
  read _ := do
    match ← Reader.valueWith (throw .mismatch) (throw .mismatch) with
    | .bool b => return b
    | _ => throw .mismatch
  ofJson
    | .bool b => some b
    | _ => none
  toJson := .bool

def natBelow (limit : Nat) : Format Nat where
  read _ := do
    match ← Reader.valueWith (throw .mismatch) (throw .mismatch) with
    | .int n => if 0 ≤ n ∧ n < limit then return n.toNat else throw .mismatch
    | _ => throw .mismatch
  ofJson
    | .int n => if 0 ≤ n ∧ n < limit then some n.toNat else none
    | _ => none
  toJson n := .int n

def option (f : Format α) : Format (Option α) where
  read depth := do
    if (← Reader.next) = some (Reader.byte 'n') then
      Reader.drop
      Reader.word ['u', 'l', 'l']
      return none
    else return some (← f.read depth)
  ofJson
    | .null => some none
    | j => (f.ofJson j).map some
  toJson := Json.ofOption f.toJson

def list (f : Format α) : Format (List α) where
  read depth := do
    match ← Reader.next, depth with
    | none, _ => throw .truncated
    | some b, depth =>
      if b = Reader.byte '[' then
        match depth with
        | 0 => throw .malformed
        | depth + 1 => Reader.drop; Reader.items (f.read depth)
      else Reader.wrongKind
  ofJson
    | .arr js => js.mapM f.ofJson
    | _ => none
  toJson as := .arr (as.map f.toJson)

def members : Format Members where
  read depth := do
    match ← Reader.next, depth with
    | none, _ => throw .truncated
    | some b, depth =>
      if b = Reader.byte '{' then
        match depth with
        | 0 => throw .malformed
        | depth + 1 =>
          Reader.drop
          let ms ← Reader.members (Reader.tree depth)
          return Members.ofList (canonicalMembers ms)
      else Reader.wrongKind
  ofJson
    | .obj ms => some (Members.ofList (canonicalMembers ms))
    | _ => none
  toJson := .obj

def spelled (parse : String → Option α) (spell : α → String) : Format α where
  read depth := do
    match parse (← string.read depth) with
    | some a => return a
    | none => throw .mismatch
  ofJson j := j.text?.bind parse
  toJson a := .str (spell a)

/-- One of a few names, written as a string or as an object with that one member, `null`. In a text
anything but a string or an object is no such choice at all. -/
def choice (parse : String → Option α) (spell : α → String) : Format α where
  read depth := do
    let name : Reader α := do
      match parse (← string.read depth) with
      | some a => return a
      | none => throw .mismatch
    let key : Reader α := do
      match ← Reader.next with
      | none => throw .truncated
      | some b => if b = Reader.byte '"' then name else throw .malformed
    match ← Reader.next, depth with
    | none, _ => throw .truncated
    | some b, depth =>
      if b = Reader.byte '"' then name
      else if b = Reader.byte '{' then
        match depth with
        | 0 => throw .malformed
        | _ + 1 =>
          Reader.drop
          let a ← key
          Reader.colon
          match ← Reader.valueWith (throw .mismatch) (throw .mismatch) with
          | .null =>
            match ← Reader.next with
            | none => throw .truncated
            | some b => if b = Reader.byte '}' then Reader.drop; return a else throw .malformed
          | _ => throw .mismatch
      else throw .malformed
  ofJson
    | .str s => parse s
    | .obj [(s, .null)] => parse s
    | _ => none
  toJson a := .str (spell a)

def transport (f : Format α) (of : α → β) (back : β → α) : Format β where
  read depth := return of (← f.read depth)
  ofJson j := (f.ofJson j).map of
  toJson b := f.toJson (back b)

end Format

end VpExchange.Json
