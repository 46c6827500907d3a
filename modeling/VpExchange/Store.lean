import VpExchange.Credential.SdJwt
import VpExchange.Credential.Mdoc
import VpExchange.Jose.KeyMaterial
import VpExchange.Request.Basic

set_option autoImplicit false

namespace VpExchange

abbrev Table (κ α : Type) := List (κ × α)

namespace Table

variable {κ α : Type} [DecidableEq κ]

def get? (t : Table κ α) (k : κ) : Option α := (t.find? (·.1 = k)).map (·.2)

def erase (t : Table κ α) (k : κ) : Table κ α := t.filter (·.1 ≠ k)

def put (t : Table κ α) (k : κ) (a : α) : Table κ α := (k, a) :: t.erase k

@[simp] theorem get?_nil (k : κ) : get? ([] : Table κ α) k = none := rfl

@[simp] theorem get?_erase (t : Table κ α) (k l : κ) :
    (t.erase k).get? l = if l = k then none else t.get? l := by
  induction t with
  | nil => simp [erase, get?]
  | cons e t ih =>
    simp only [erase, get?, List.filter_cons, List.find?_cons] at *
    grind

@[simp] theorem get?_put (t : Table κ α) (k l : κ) (a : α) :
    (t.put k a).get? l = if l = k then some a else t.get? l := by
  by_cases h : l = k
  · simp [put, get?, h]
  · have := get?_erase t k l
    simp only [h, if_false] at this
    simpa [put, get?, List.find?_cons, Ne.symm h, h] using this

end Table

structure Store where
  dcqlPresets : Table String DcqlPreset
  walletPresets : Table String WalletPreset
  devicePresets : Table String DevicePreset
  presentations : Table String StoredPresentation
  keys : Table Profile KeyMaterial

namespace Store

def empty : Store := ⟨[], [], [], [], []⟩

def putDcqlPreset (s : Store) (p : DcqlPreset) : Store :=
  { s with dcqlPresets := s.dcqlPresets.put p.presetId p }

def putWalletPreset (s : Store) (p : WalletPreset) : Store :=
  { s with walletPresets := s.walletPresets.put p.presetId p }

def putDevicePreset (s : Store) (p : DevicePreset) : Store :=
  { s with devicePresets := s.devicePresets.put p.presetId p }

def putPresentation (s : Store) (p : StoredPresentation) : Store :=
  { s with presentations := s.presentations.put p.presentationId p }

def putKey (s : Store) (profile : Profile) (m : KeyMaterial) : Store :=
  { s with keys := s.keys.put profile m }

def removeKey (s : Store) (profile : Profile) : Except Chain Store :=
  match s.keys.get? profile with
  | some _ => .ok { s with keys := s.keys.erase profile }
  | none => .error ["no encryption key for " ++ profile.name]

def key (s : Store) (profile : Profile) : Except Chain KeyMaterial :=
  match s.keys.get? profile with
  | some m => .ok m
  | none => .error ["no encryption key configured for " ++ profile.name]

end Store

structure Outage where
  dcqlPresets : List String
  walletPresets : List String
  devicePresets : List String
  presentations : List String
  keys : List Profile

def Outage.none : Outage := ⟨[], [], [], [], []⟩

structure Backend where
  store : Store
  outage : Outage

namespace Backend

def offline : Chain := ["backend offline"]

def load {κ α : Type} [DecidableEq κ] (t : Table κ α) (outage : List κ) (k : κ) :
    Except Chain (Option α) :=
  if k ∈ outage then .error offline else .ok (t.get? k)

def dcqlPreset (b : Backend) (id : String) : Except Chain (Option DcqlPreset) :=
  load b.store.dcqlPresets b.outage.dcqlPresets id

def walletPreset (b : Backend) (id : String) : Except Chain (Option WalletPreset) :=
  load b.store.walletPresets b.outage.walletPresets id

def devicePreset (b : Backend) (id : String) : Except Chain (Option DevicePreset) :=
  load b.store.devicePresets b.outage.devicePresets id

def presentation (b : Backend) (id : String) : Except Chain (Option StoredPresentation) :=
  load b.store.presentations b.outage.presentations id

def key (b : Backend) (profile : Profile) : Except Chain KeyMaterial :=
  if profile ∈ b.outage.keys then .error offline else b.store.key profile

end Backend

end VpExchange
