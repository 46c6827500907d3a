import Mathlib.Data.ZMod.Basic
import VpExchange.Proofs.Crypto.Cofactor
import VpExchange.Proofs.Jose.Sealing

set_option autoImplicit false

namespace VpExchange

open P256

structure P256.OnCurve (x y : Nat) : Prop where
  x_lt : x < p
  y_lt : y < p
  equation : (y : Int) ^ 2 ≡ (x : Int) ^ 3 - 3 * x + b [ZMOD p]

theorem P256.onCurve_iff {x y : Nat} : onCurve x y = true ↔ OnCurve x y := by
  have sides (hx : x < p) (hy : y < p) :
      onCurve x y = true ↔ (y : Int) ^ 2 ≡ (x : Int) ^ 3 - 3 * x + b [ZMOD p] := by
    rw [← equation_iff hx hy, WeierstrassCurve.Affine.equation_iff, ← ZMod.intCast_eq_intCast_iff]
    simp only [curve]
    push_cast
    constructor
    · intro h
      linear_combination h
    · intro h
      linear_combination h
  constructor
  · intro valid
    obtain ⟨hx, hy⟩ := Point.lt_p ⟨x, y, valid⟩
    exact ⟨hx, hy, (sides hx hy).mp valid⟩
  · rintro ⟨hx, hy, equation⟩
    exact (sides hx hy).mpr equation

namespace Jwk

theorem Spells.eq_some {value : Option String} {n : Nat} (h : Spells value n) :
    value = some (Base64.encode (Bytes.ofNat 32 n)) := by
  obtain ⟨bs, rfl, length, rfl⟩ := h
  rw [← length, Bytes.ofNat_toNat]

theorem exists_point_iff {j : Jwk} : (∃ q, j.point = .ok q) ↔
    j.kty = "EC" ∧ j.crv = "P-256" ∧ ∃ x y, Spells j.x x ∧ Spells j.y y ∧ OnCurve x y := by
  simp only [point_eq_ok_iff]
  constructor
  · rintro ⟨q, h⟩
    exact ⟨h.kty, h.crv, q.x, q.y, h.x, h.y, onCurve_iff.mp q.valid⟩
  · rintro ⟨kty, crv, x, y, hx, hy, valid⟩
    exact ⟨⟨x, y, onCurve_iff.mpr valid⟩, kty, crv, hx, hy⟩

theorem exists_scalar_iff {j : Jwk} : (∃ k, j.scalar = .ok k) ↔
    j.kty = "EC" ∧ j.crv = "P-256" ∧ ∃ d, Spells j.d d ∧ 0 < d ∧ d < n := by
  simp only [scalar_eq_ok_iff]
  constructor
  · rintro ⟨k, h⟩
    exact ⟨h.kty, h.crv, k.val, h.d, k.bounds⟩
  · rintro ⟨kty, crv, d, hd, bounds⟩
    exact ⟨⟨d, by simpa [isScalar] using bounds⟩, kty, crv, hd⟩

theorem IsPublic.ofPoint_eq {j : Jwk} {q : Point} (h : j.IsPublic q) : ofPoint q = { j with d := none } := by
  obtain ⟨kty, crv, x, y, d⟩ := j
  obtain ⟨rfl, rfl, hx, hy⟩ := h
  obtain rfl := hx.eq_some
  obtain rfl := hy.eq_some
  rfl

theorem pointOf_coordinates (q : Point) :
    pointOf (Bytes.toNat (Bytes.ofNat 32 q.x)) (Bytes.toNat (Bytes.ofNat 32 q.y)) = .ok q := by
  have wide : p < 256 ^ 32 := by decide
  exact pointOf_eq_ok_iff.mpr ⟨Bytes.toNat_ofNat_of_lt (q.lt_p.1.trans wide),
    Bytes.toNat_ofNat_of_lt (q.lt_p.2.trans wide)⟩

/-- Keys are read as points exactly if they spell one, and nothing is lost on the way from a key to its
point and back, nor from a point to its key or its coordinates and back. Every scalar has a point, and
private keys are read exactly if they spell a number in range, whatever else they spell. -/
theorem keys_correspond :
    (∀ j : Jwk, (∃ q, j.point = .ok q) ↔
      j.kty = "EC" ∧ j.crv = "P-256" ∧ ∃ x y, Spells j.x x ∧ Spells j.y y ∧ OnCurve x y) ∧
    (∀ (j : Jwk) (q : Point), j.point = .ok q → ofPoint q = { j with d := none }) ∧
    (∀ q : Point, (ofPoint q).point = .ok q ∧
      pointOf (Bytes.toNat (Bytes.ofNat 32 q.x)) (Bytes.toNat (Bytes.ofNat 32 q.y)) = .ok q) ∧
    (∀ k : Scalar, ∃ q, publicPoint k = .ok q) ∧
    ∀ j : Jwk, (∃ k, j.scalar = .ok k) ↔
      j.kty = "EC" ∧ j.crv = "P-256" ∧ ∃ d, Spells j.d d ∧ 0 < d ∧ d < n := by
  refine ⟨fun _ => exists_point_iff, fun j q h => (point_eq_ok_iff.mp h).ofPoint_eq, fun q => ?_,
    fun k => ?_, fun _ => exists_scalar_iff⟩
  · exact ⟨point_eq_ok_iff.mpr (isPublic_ofPoint q), pointOf_coordinates q⟩
  · obtain ⟨q, product, -⟩ := multiple_eq_ok k generator
    exact ⟨q, publicPoint_eq_ok_iff.mpr product⟩

def sampleOnAxis : Jwk where
  kty := "EC"
  crv := "P-256"
  x := some "AAAAAAAAAAAAAAAAAAAAAAAAAAAAAAAAAAAAAAAAAAA"
  y := some "ZkhceA4vg9ckM71dhKBrtlQcKvMdrocXKL-FahdPk_Q"
  d := some "AAAAAAAAAAAAAAAAAAAAAAAAAAAAAAAAAAAAAAAAAAE"

theorem keys_correspond_sample : ∃ q : Point, q.x = 0 ∧ sampleOnAxis.point = .ok q ∧
    ofPoint q = { sampleOnAxis with d := none } := by
  have read : sampleOnAxis.point = .ok
      ⟨0, 0x66485c780e2f83d72433bd5d84a06bb6541c2af31dae871728bf856a174f93f4, by decide⟩ := by
    decide +kernel
  exact ⟨_, rfl, read, keys_correspond.2.1 _ _ read⟩

end Jwk

end VpExchange
