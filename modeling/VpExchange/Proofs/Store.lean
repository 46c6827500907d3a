import Mathlib.Tactic.SplitIfs
import VpExchange.Store

set_option autoImplicit false

namespace VpExchange

namespace Backend

variable {κ α : Type} [DecidableEq κ] {t : Table κ α} {outage : List κ} {k : κ}

theorem load_eq_ok_iff {found : Option α} :
    load t outage k = .ok found ↔ k ∉ outage ∧ t.get? k = found := by
  rw [load]
  split_ifs with unreached <;> simp [unreached]

theorem load_of_outage (unreached : k ∈ outage) : load t outage k = .error ["backend offline"] :=
  if_pos unreached

end Backend

namespace Store

inductive Place where
  | dcqlPreset (id : String)
  | walletPreset (id : String)
  | devicePreset (id : String)
  | presentation (id : String)
  | key (profile : Profile)
deriving DecidableEq

inductive Record where
  | dcqlPreset (p : DcqlPreset)
  | walletPreset (p : WalletPreset)
  | devicePreset (p : DevicePreset)
  | presentation (p : StoredPresentation)
  -- A key does not say what profile it is for.
  | key (profile : Profile) (m : KeyMaterial)

def Record.place : Record → Place
  | .dcqlPreset p => .dcqlPreset p.presetId
  | .walletPreset p => .walletPreset p.presetId
  | .devicePreset p => .devicePreset p.presetId
  | .presentation p => .presentation p.presentationId
  | .key profile _ => .key profile

def get? (s : Store) : Place → Option Record
  | .dcqlPreset id => (s.dcqlPresets.get? id).map .dcqlPreset
  | .walletPreset id => (s.walletPresets.get? id).map .walletPreset
  | .devicePreset id => (s.devicePresets.get? id).map .devicePreset
  | .presentation id => (s.presentations.get? id).map .presentation
  | .key profile => (s.keys.get? profile).map (.key profile)

def put (s : Store) : Record → Store
  | .dcqlPreset p => s.putDcqlPreset p
  | .walletPreset p => s.putWalletPreset p
  | .devicePreset p => s.putDevicePreset p
  | .presentation p => s.putPresentation p
  | .key profile m => s.putKey profile m

@[simp] theorem get?_empty (l : Place) : empty.get? l = none := by
  cases l <;> rfl

@[simp] theorem get?_put (s : Store) (r : Record) (l : Place) :
    (s.put r).get? l = if l = r.place then some r else s.get? l := by
  -- In another table there is nothing to look at, and in the same one the ids decide.
  cases r <;> cases l <;>
    simp only [put, putDcqlPreset, putWalletPreset, putDevicePreset, putPresentation, putKey, get?,
      Record.place, Table.get?_put, reduceCtorEq, Place.dcqlPreset.injEq, Place.walletPreset.injEq,
      Place.devicePreset.injEq, Place.presentation.injEq, Place.key.injEq, if_false] <;>
    split_ifs with same <;> simp [same]

variable {s s' : Store} {profile : Profile}

theorem get?_of_removeKey (removed : s.removeKey profile = .ok s') (l : Place) :
    s'.get? l = if l = .key profile then none else s.get? l := by
  rw [removeKey] at removed
  split at removed
  next m found =>
    cases removed
    cases l with
    | key profile' =>
      simp only [get?, Table.get?_erase, Place.key.injEq]
      split_ifs <;> rfl
    | _ => rfl
  next => cases removed

theorem removeKey_eq_error_iff {cause : Chain} : s.removeKey profile = .error cause ↔
    s.get? (.key profile) = none ∧ cause = ["no encryption key for " ++ profile.name] := by
  rw [removeKey, get?]
  cases s.keys.get? profile <;> simp [eq_comm]

end Store

end VpExchange
