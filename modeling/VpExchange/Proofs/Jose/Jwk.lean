import VpExchange.Jose.KeyMaterial
import VpExchange.Proofs.Base64
import VpExchange.Proofs.Bytes
import VpExchange.Proofs.Json.Record
import VpExchange.Proofs.Refusal

set_option autoImplicit false

namespace VpExchange

open P256

namespace Jwk

-- Exactly 32 bytes: shorter spellings of small numbers are refused.
def Spells (value : Option String) (n : Nat) : Prop :=
  ∃ bs : Bytes, value = some (Base64.encode bs) ∧ bs.length = 32 ∧ Bytes.toNat bs = n

structure IsPublic (j : Jwk) (q : Point) : Prop where
  kty : j.kty = "EC"
  crv : j.crv = "P-256"
  x : Spells j.x q.x
  y : Spells j.y q.y

structure IsPrivate (j : Jwk) (k : Scalar) : Prop where
  kty : j.kty = "EC"
  crv : j.crv = "P-256"
  d : Spells j.d k.val

theorem number_eq_ok_iff {member : String} {value : Option String} {n : Nat} :
    number member value = .ok n ↔ Spells value n := by
  constructor
  · intro h
    cases value with
    | none => cases h
    | some s =>
      simp only [number] at h
      split at h
      next => cases h
      next bs hbs =>
        split_ifs at h with length
        cases h
        exact ⟨bs, by rw [Base64.decode?_eq_some_iff.mp hbs], length, rfl⟩
  · rintro ⟨bs, rfl, length, rfl⟩
    simp [number, length]

theorem ensureP256_eq_ok_iff {j : Jwk} {u : Unit} :
    j.ensureP256 = .ok u ↔ j.kty = "EC" ∧ j.crv = "P-256" := by
  simp only [ensureP256, check_eq_ok_iff]
  by_cases kty : j.kty = "EC" <;> by_cases crv : j.crv = "P-256" <;>
    simp [kty, crv, pure, Except.pure, throw_eq_ok_iff]

theorem pointOf_eq_ok_iff {x y : Nat} {q : Point} : pointOf x y = .ok q ↔ x = q.x ∧ y = q.y := by
  rw [← Point.ofCoordinates?_eq_some_iff, pointOf]
  split
  next h => simp [h]
  next h => simp [h]

theorem point_eq_ok_iff {j : Jwk} {q : Point} : j.point = .ok q ↔ j.IsPublic q := by
  simp only [point, bind_eq_ok_iff, ensureP256_eq_ok_iff, number_eq_ok_iff, pointOf_eq_ok_iff]
  constructor
  · rintro ⟨_, ⟨kty, crv⟩, x, hx, y, hy, rfl, rfl⟩
    exact ⟨kty, crv, hx, hy⟩
  · rintro ⟨kty, crv, hx, hy⟩
    exact ⟨(), ⟨kty, crv⟩, q.x, hx, q.y, hy, rfl, rfl⟩

theorem scalar_eq_ok_iff {j : Jwk} {k : Scalar} : j.scalar = .ok k ↔ j.IsPrivate k := by
  simp only [scalar, bind_eq_ok_iff, ensureP256_eq_ok_iff, number_eq_ok_iff]
  constructor
  · rintro ⟨_, ⟨kty, crv⟩, d, hd, h⟩
    split at h
    next k' hk =>
      cases h
      exact ⟨kty, crv, Scalar.ofNat?_eq_some_iff.mp hk ▸ hd⟩
    next => cases h
  · rintro ⟨kty, crv, hd⟩
    refine ⟨(), ⟨kty, crv⟩, k.val, hd, ?_⟩
    rw [Scalar.ofNat?_eq_some_iff.mpr rfl]
    rfl

theorem spells_ofNat {n : Nat} (h : n < p) : Spells (some (Base64.encode (Bytes.ofNat 32 n))) n :=
  ⟨Bytes.ofNat 32 n, rfl, Bytes.length_ofNat 32 n,
    Bytes.toNat_ofNat_of_lt (h.trans (by decide : p < 256 ^ 32))⟩

theorem isPublic_ofPoint (q : Point) : (ofPoint q).IsPublic q :=
  ⟨rfl, rfl, spells_ofNat q.lt_p.1, spells_ofNat q.lt_p.2⟩

theorem reads_format (j : Jwk) : format.Reads j := by
  have member (a : Option String) :
      ∀ s, a = some s → Json.Format.string.Reads s ∧ Json.Format.string.toJson s ≠ .null :=
    fun s _ => ⟨Json.Format.reads_string s, nofun⟩
  refine Json.Format.reads_transport (Json.Format.reads_record ?_) rfl
  exact ⟨Json.Field.reads_required (Json.Format.reads_string j.kty), by decide,
    Json.Field.reads_required (Json.Format.reads_string j.crv), by decide,
    Json.Field.reads_hidingNone (member j.x), by decide,
    Json.Field.reads_hidingNone (member j.y), by decide,
    Json.Field.reads_hidingNone (member j.d), by decide, trivial⟩

theorem depth_toJson (j : Jwk) : (format.toJson j).depth = 1 := by
  obtain ⟨kty, crv, x, y, d⟩ := j
  cases x <;> cases y <;> cases d <;> rfl

end Jwk

end VpExchange
