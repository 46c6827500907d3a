import VpExchange.Json.Basic
import VpExchange.Bytes.Hex

/-!
Reading JSON from bytes. A reader takes bytes off the front of its input or fails with a `Fault`, and
the fault found first in the order of the text is the one reported. `tree` reads any value, with its
members as written; `skip` passes over a value whose content does not matter, and is laxer: it takes
any depth, any range of numbers, unpaired surrogates and bytes that are not UTF-8.
-/

set_option autoImplicit false

namespace VpExchange.Json

inductive Fault where
  -- Well-formed so far, but not the value that is asked for.
  | mismatch
  -- Not JSON, or beyond the limits of depth and range.
  | malformed
  -- JSON that stops too early.
  | truncated
deriving DecidableEq, Repr

abbrev Reader (α : Type) := StateT Bytes (Except Fault) α

namespace Reader

def byte (c : Char) : UInt8 := UInt8.ofNat c.toNat

def isSpace (b : UInt8) : Bool := b == 32 || b == 10 || b == 9 || b == 13

def isDigit (b : UInt8) : Bool := 48 ≤ b && b ≤ 57

def peek : Reader (Option UInt8) := fun input => .ok (input.head?, input)

def next : Reader (Option UInt8) := fun input =>
  let input := input.dropWhile isSpace
  .ok (input.head?, input)

def drop : Reader Unit := fun input => .ok ((), input.drop 1)

def takeWhile (p : UInt8 → Bool) : Reader Bytes := fun input =>
  .ok (input.takeWhile p, input.dropWhile p)

def loopFor {σ ρ : Type} (step : σ → Reader (σ ⊕ ρ)) : Nat → σ → Reader ρ
  | 0, _ => throw .truncated
  | n + 1, s => do
    match ← step s with
    | .inl s => loopFor step n s
    | .inr r => return r

/-- Repeats a step that takes bytes until it has a result: the input is long enough a bound. -/
def loop {σ ρ : Type} (step : σ → Reader (σ ⊕ ρ)) (s : σ) : Reader ρ := fun input =>
  loopFor step (input.length + 1) s input

def word : List Char → Reader Unit
  | [] => return
  | c :: rest => do
    match ← peek with
    | none => throw .truncated
    | some b =>
      drop
      if b = byte c then word rest else throw .malformed

-- Four hexadecimal digits; fewer than four bytes are a truncated text, whatever they are.
def hexQuad : Reader Nat := fun input =>
  match input with
  | a :: b :: c :: d :: rest =>
    let digit (x : UInt8) := Hex.digitValue? (Char.ofNat x.toNat)
    match digit a, digit b, digit c, digit d with
    | some a, some b, some c, some d => .ok (a * 4096 + b * 256 + c * 16 + d, rest)
    | _, _, _, _ => .error .malformed
  | _ => .error .truncated

-- The bytes of a code point written as `\u` escapes, after the first `\u`. A high surrogate must be
-- followed by an escaped low one.
def escapedCodePoint : Reader Bytes := do
  let n ← hexQuad
  if 0xDC00 ≤ n ∧ n ≤ 0xDFFF then throw .malformed
  else if n < 0xD800 ∨ 0xDBFF < n then return String.utf8EncodeChar (Char.ofNat n)
  else
    word ['\\', 'u']
    let low ← hexQuad
    if low < 0xDC00 ∨ 0xDFFF < low then throw .malformed
    else
      let n := (n - 0xD800) * 1024 + (low - 0xDC00) + 0x10000
      return String.utf8EncodeChar (Char.ofNat n)

def shortEscape? (b : UInt8) : Option UInt8 :=
  if b = byte '"' ∨ b = byte '\\' ∨ b = byte '/' then some b
  else if b = byte 'b' then some 8
  else if b = byte 'f' then some 12
  else if b = byte 'n' then some 10
  else if b = byte 'r' then some 13
  else if b = byte 't' then some 9
  else none

def stringStep (before : Bytes) : Reader (Bytes ⊕ Bytes) := do
  match ← peek with
  | none => throw .truncated
  | some b =>
    drop
    if b = byte '"' then return .inr before.reverse
    else if b = byte '\\' then
      match ← peek with
      | none => throw .truncated
      | some e =>
        drop
        if e = byte 'u' then return .inl ((← escapedCodePoint).reverse ++ before)
        else match shortEscape? e with
          | some x => return .inl (x :: before)
          | none => throw .malformed
    else if b < 32 then throw .malformed
    else return .inl (b :: before)

def string : Reader String := do
  match Bytes.text? (← loop stringStep []) with
  | some s => return s
  | none => throw .malformed

def skipStringStep (_ : Unit) : Reader (Unit ⊕ Unit) := do
  match ← peek with
  | none => throw .truncated
  | some b =>
    drop
    if b = byte '"' then return .inr ()
    else if b = byte '\\' then
      match ← peek with
      | none => throw .truncated
      | some e =>
        drop
        if e = byte 'u' then
          let _ ← hexQuad
          return .inl ()
        else if (shortEscape? e).isSome then return .inl ()
        else throw .malformed
    else if b < 32 then throw .malformed
    else return .inl ()

def skipString : Reader Unit := loop skipStringStep ()

structure Numeral where
  negative : Bool
  whole : List Nat
  fraction : Option (List Nat)
  exponent : Option Int
deriving Repr

def digits : Reader (List Nat) := do
  return (← takeWhile isDigit).map fun b => b.toNat - 48

def decimal (ds : List Nat) : Nat := ds.foldl (fun n d => n * 10 + d) 0

-- At least one digit. `atEnd` is the fault of a text that ends where a digit has to come.
def someDigits (atEnd : Fault) : Reader (List Nat) := do
  match ← digits with
  | [] =>
    match ← peek with
    | none => throw atEnd
    | some _ => throw .malformed
  | ds => return ds

def wholePart (atEnd : Fault) : Reader (List Nat) := do
  match ← someDigits atEnd with
  | 0 :: _ :: _ => throw .malformed
  | ds => return ds

def fractionPart (atEnd : Fault) : Reader (Option (List Nat)) := do
  if (← peek) = some (byte '.') then
    drop
    return some (← someDigits atEnd)
  else return none

def exponentPart (atEnd : Fault) : Reader (Option Int) := do
  let b ← peek
  if b = some (byte 'e') ∨ b = some (byte 'E') then
    drop
    let sign ← peek
    if sign = some (byte '+') ∨ sign = some (byte '-') then drop
    let n := decimal (← someDigits atEnd)
    return some (if sign = some (byte '-') then -(n : Int) else n)
  else return none

def numeral (atEnd : Fault) (negative : Bool) : Reader Numeral := do
  let whole ← wholePart atEnd
  let fraction ← fractionPart atEnd
  let exponent ← exponentPart atEnd
  return ⟨negative, whole, fraction, exponent⟩

namespace Numeral

def limit : Nat := 1 <<< 64

-- Appends digits to a number as long as it stays below `2 ^ 64`; the digits from the first that does
-- not fit are left over.
def absorb : Nat → List Nat → Nat × List Nat
  | n, [] => (n, [])
  | n, d :: ds => if n * 10 + d < limit then absorb (n * 10 + d) ds else (n, d :: ds)

/-- The significand takes the leading digits below `2 ^ 64`. Whole digits beyond them count as places,
fraction digits beyond them as nothing. -/
def float? (n : Numeral) : Option Binary64 :=
  let (m, dropped) := absorb 0 n.whole
  let fraction := n.fraction.getD []
  let (m, beyond) := absorb m fraction
  let taken := fraction.length - beyond.length
  let exponent := (dropped.length : Int) - taken + n.exponent.getD 0
  Binary64.ofDecimal n.negative m exponent

-- Whole numbers from `-2 ^ 63` to `2 ^ 64 - 1` are integers, except for `-0`.
def value? (n : Numeral) : Option Json :=
  let m := decimal n.whole
  let isInt := n.fraction.isNone && n.exponent.isNone &&
    (if n.negative then 0 < m && m ≤ 1 <<< 63 else m < limit)
  if isInt then some (.int (if n.negative then -(m : Int) else m))
  else n.float?.map .float

end Numeral

def number (negative : Bool) : Reader Json := do
  match (← numeral .truncated negative).value? with
  | some j => return j
  | none => throw .malformed

def hasItem (first : Bool) : Reader Bool := do
  match ← next with
  | none => throw .truncated
  | some b =>
    if b = byte ']' then return false
    else if first then return true
    else if b = byte ',' then
      drop
      match ← next with
      | none => throw .truncated
      | some b => if b = byte ']' then throw .malformed else return true
    else throw .malformed

def endItems : Reader Unit := do
  match ← next with
  | none => throw .truncated
  | some b => if b = byte ']' then drop else throw .malformed

def itemStep {σ : Type} (item : σ → Reader σ) : Bool × σ → Reader ((Bool × σ) ⊕ σ)
  | (first, s) => do
    if ← hasItem first then return .inl (false, ← item s)
    else
      endItems
      return .inr s

def foldItems {σ : Type} (item : σ → Reader σ) (s : σ) : Reader σ := loop (itemStep item) (true, s)

def items {α : Type} (item : Reader α) : Reader (List α) := do
  return (← foldItems (fun acc => return (← item) :: acc) []).reverse

def hasMember (first : Bool) : Reader Bool := do
  let quote : Reader Bool := do
    match ← next with
    | none => throw .truncated
    | some b => if b = byte '"' then drop; return true else throw .malformed
  match ← next with
  | none => throw .truncated
  | some b =>
    if b = byte '}' then drop; return false
    else if first then quote
    else if b = byte ',' then drop; quote
    else throw .malformed

def colon : Reader Unit := do
  match ← next with
  | none => throw .truncated
  | some b => if b = byte ':' then drop else throw .malformed

def memberStep {κ σ : Type} (name : Reader κ) (member : κ → σ → Reader σ) :
    Bool × σ → Reader ((Bool × σ) ⊕ σ)
  | (first, s) => do
    if ← hasMember first then
      let k ← name
      return .inl (false, ← member k s)
    else return .inr s

def foldMembers {κ σ : Type} (name : Reader κ) (member : κ → σ → Reader σ) (s : σ) : Reader σ :=
  loop (memberStep name member) (true, s)

def members {α : Type} (value : Reader α) : Reader (List (String × α)) := do
  let ms ← foldMembers string (fun k acc => do
    colon
    return (k, ← value) :: acc) []
  return ms.reverse

def valueWith (array object : Reader Json) : Reader Json := do
  match ← next with
  | none => throw .truncated
  | some b =>
    if b = byte 'n' then drop; word ['u', 'l', 'l']; return .null
    else if b = byte 't' then drop; word ['r', 'u', 'e']; return .bool true
    else if b = byte 'f' then drop; word ['a', 'l', 's', 'e']; return .bool false
    else if b = byte '-' then drop; number true
    else if isDigit b then number false
    else if b = byte '"' then drop; return .str (← string)
    else if b = byte '[' then drop; array
    else if b = byte '{' then drop; object
    else throw .malformed

def tree : Nat → Reader Json
  | 0 => valueWith (throw .malformed) (throw .malformed)
  | depth + 1 =>
    valueWith (do return .arr (← items (tree depth))) (do return .obj (← members (tree depth)))

def skipTo : Nat → Reader Unit
  | 0 => throw .malformed
  | depth + 1 => do
    match ← next with
    | none => throw .truncated
    | some b =>
      if b = byte 'n' then drop; word ['u', 'l', 'l']
      else if b = byte 't' then drop; word ['r', 'u', 'e']
      else if b = byte 'f' then drop; word ['a', 'l', 's', 'e']
      else if b = byte '-' then
        drop
        let _ ← numeral .malformed true
      else if isDigit b then
        let _ ← numeral .malformed false
      else if b = byte '"' then drop; skipString
      else if b = byte '[' then drop; foldItems (fun _ => skipTo depth) ()
      else if b = byte '{' then
        drop
        foldMembers skipString (fun _ _ => do colon; skipTo depth) ()
      else throw .malformed

-- A value that is passed over: it cannot be nested deeper than its text is long.
def skip : Reader Unit := fun input => skipTo (input.length + 1) input

-- The fault of a value of the wrong kind: a scalar is read first, and its own faults come first.
def wrongKind {α : Type} : Reader α := do
  let _ ← valueWith (throw .mismatch) (throw .mismatch)
  throw .mismatch

def whole {α : Type} (r : Reader α) (input : Bytes) : Except Fault α := do
  let (a, rest) ← r.run input
  if rest.all isSpace then return a else throw .malformed

end Reader

def maxDepth : Nat := 127

def read (input : Bytes) : Except Fault Json :=
  (Reader.whole (Reader.tree maxDepth) input).map canonical

end VpExchange.Json
