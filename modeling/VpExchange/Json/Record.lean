import VpExchange.Json.Format

/-!
Records: objects with known members. They are written in the order of declaration and read in any
order; members that are not known are passed over, a known one may not be repeated, and an array of
the members in the order of declaration is read too.
-/

set_option autoImplicit false

namespace VpExchange.Json

structure Field (α : Type) where
  name : String
  format : Format α
  -- What a member that is not there stands for, if it may be missing.
  absent : Option α
  -- The same at the end of an array.
  trailing : Option α
  -- A value whose member is not written.
  hidden : α → Bool

namespace Field

variable {α : Type}

def required (name : String) (f : Format α) : Field α := ⟨name, f, none, none, fun _ => false⟩

def defaulted (name : String) (f : Format α) (value : α) : Field α :=
  ⟨name, f, some value, some value, fun _ => false⟩

def optional (name : String) (f : Format α) : Field (Option α) :=
  ⟨name, f.option, some none, none, fun _ => false⟩

def trailingOptional (name : String) (f : Format α) : Field (Option α) :=
  defaulted name f.option none

def hidingNone (f : Field (Option α)) : Field (Option α) := { f with hidden := Option.isNone }

end Field

/-- The fields of a record, in the order of declaration, with the type of the values of all of them
and the type of what has been read of each so far. -/
inductive Fields : Type → Type → Type 1
  | nil : Fields Unit Unit
  | cons {α ρ σ : Type} (field : Field α) (rest : Fields ρ σ) : Fields (α × ρ) (Option α × σ)

namespace Fields

def none : {ρ σ : Type} → Fields ρ σ → σ
  | _, _, .nil => ()
  | _, _, .cons _ rest => (Option.none, rest.none)

def finish : {ρ σ : Type} → Fields ρ σ → σ → Option ρ
  | _, _, .nil, _ => some ()
  | _, _, .cons field rest, (a, p) => do
    let a ← a <|> field.absent
    return (a, ← rest.finish p)

def readMember : {ρ σ : Type} → Fields ρ σ → (depth : Nat) → (name : String) → σ → Reader σ
  | _, _, .nil, _, _, p => do
    Reader.colon
    Reader.skip
    return p
  | _, _, .cons field rest, depth, name, (a, p) => do
    if name = field.name then
      match a with
      | some _ => throw .mismatch
      | .none =>
        Reader.colon
        return (some (← field.format.read depth), p)
    else return (a, ← rest.readMember depth name p)

def readItems : {ρ σ : Type} → Fields ρ σ → (depth : Nat) → (first : Bool) → Reader ρ
  | _, _, .nil, _, _ => do
    return ()
  | _, _, .cons field rest, depth, first => do
    if ← Reader.hasItem first then
      let a ← field.format.read depth
      return (a, ← rest.readItems depth false)
    else
      match field.trailing with
      | some a => return (a, ← rest.readItems depth first)
      | .none => throw .mismatch

def takeMember : {ρ σ : Type} → Fields ρ σ → (member : String × Json) → σ → Option σ
  | _, _, .nil, _, p => some p
  | _, _, .cons field rest, (name, j), (a, p) =>
    if name = field.name then
      match a with
      | some _ => Option.none
      | .none => (field.format.ofJson j).map fun a => (some a, p)
    else (rest.takeMember (name, j) p).map fun p => (a, p)

def ofItems : {ρ σ : Type} → Fields ρ σ → List Json → Option ρ
  | _, _, .nil, [] => some ()
  | _, _, .nil, _ :: _ => Option.none
  | _, _, .cons field rest, j :: js => do
    let a ← field.format.ofJson j
    return (a, ← rest.ofItems js)
  | _, _, .cons field rest, [] => do
    let a ← field.trailing
    return (a, ← rest.ofItems [])

def toMembers : {ρ σ : Type} → Fields ρ σ → ρ → List (String × Json)
  | _, _, .nil, _ => []
  | _, _, .cons field rest, (a, r) =>
    if field.hidden a then rest.toMembers r
    else (field.name, field.format.toJson a) :: rest.toMembers r

def readObject {ρ σ : Type} (fs : Fields ρ σ) (depth : Nat) : Reader ρ := do
  let p ← Reader.foldMembers Reader.string (fs.readMember depth) fs.none
  match fs.finish p with
  | some r => return r
  | .none => throw .mismatch

def ofMembers {ρ σ : Type} (fs : Fields ρ σ) (ms : List (String × Json)) : Option ρ := do
  fs.finish (← ms.foldlM (fun p m => fs.takeMember m p) fs.none)

end Fields

namespace Format

def record {ρ σ : Type} (fs : Fields ρ σ) : Format ρ where
  read depth := do
    match ← Reader.next, depth with
    | none, _ => throw .truncated
    | some b, depth =>
      if b = Reader.byte '{' then
        match depth with
        | 0 => throw .malformed
        | depth + 1 => Reader.drop; fs.readObject depth
      else if b = Reader.byte '[' then
        match depth with
        | 0 => throw .malformed
        | depth + 1 =>
          Reader.drop
          let r ← fs.readItems depth true
          Reader.endItems
          return r
      else Reader.wrongKind
  ofJson
    | .obj ms => fs.ofMembers ms
    | .arr js => fs.ofItems js
    | _ => none
  toJson r := .obj (fs.toMembers r)

-- An object that holds a name of its own beside the members of a record. The record is read once the
-- object has ended.
def named {α : Type} (name : String) (f : Format α) : Format (String × α) where
  read depth := do
    match ← Reader.next, depth with
    | none, _ => throw .truncated
    | some b, depth =>
      if b = Reader.byte '{' then
        match depth with
        | 0 => throw .malformed
        | depth + 1 =>
          Reader.drop
          let (id, ms) ← Reader.foldMembers Reader.string (fun k (id, ms) => do
            if k = name then
              match id with
              | some _ => throw .mismatch
              | none =>
                Reader.colon
                return (some (← string.read depth), ms)
            else
              Reader.colon
              return (id, (k, ← Reader.tree depth) :: ms)) ((none : Option String), [])
          match id, f.ofJson (.obj ms.reverse) with
          | some id, some a => return (id, a)
          | _, _ => throw .mismatch
      else Reader.wrongKind
  ofJson
    | .obj ms =>
      match ms.filter (·.1 = name), f.ofJson (.obj (ms.filter (·.1 ≠ name))) with
      | [(_, .str id)], some a => some (id, a)
      | _, _ => none
    | _ => none
  toJson
    | (id, a) =>
      match f.toJson a with
      | .obj ms => .obj ((name, .str id) :: ms)
      | j => j

end Format

end VpExchange.Json
