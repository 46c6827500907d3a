import VpExchange.Bytes.Basic

/-!
The curve P-256: `y² = x³ - 3x + b` over the integers modulo `p`. A `Point` is finite and on the curve
by its type; multiples are computed in Jacobian coordinates, and the result is taken for a point only
once it has been found on the curve again.
-/

set_option autoImplicit false

namespace VpExchange.P256

def p : Nat := 0xffffffff00000001000000000000000000000000ffffffffffffffffffffffff

def n : Nat := 0xffffffff00000000ffffffffffffffffbce6faada7179e84f3b9cac2fc632551

def b : Nat := 0x5ac635d8aa3a93e7b3ebbd55769886bc651d06b0cc53b0f63bce3c3e27d2604b

def onCurve (x y : Nat) : Bool :=
  x < p && y < p && y * y % p == (x * x * x + (p - 3) * x + b) % p

structure Point where
  x : Nat
  y : Nat
  valid : onCurve x y = true
deriving DecidableEq

def Point.ofCoordinates? (x y : Nat) : Option Point :=
  if h : onCurve x y = true then some ⟨x, y, h⟩ else none

theorem Point.ofCoordinates?_eq_some_iff {x y : Nat} {q : Point} :
    Point.ofCoordinates? x y = some q ↔ x = q.x ∧ y = q.y := by
  constructor
  · intro h
    simp only [Point.ofCoordinates?] at h
    split at h
    · cases h
      exact ⟨rfl, rfl⟩
    · cases h
  · rintro ⟨rfl, rfl⟩
    exact dif_pos q.valid

theorem Point.lt_p (q : Point) : q.x < p ∧ q.y < p := by
  have valid := q.valid
  simp only [onCurve, Bool.and_eq_true, decide_eq_true_eq] at valid
  exact valid.1

def isScalar (k : Nat) : Bool := 0 < k && k < n

structure Scalar where
  val : Nat
  valid : isScalar val = true
deriving DecidableEq

def Scalar.ofNat? (k : Nat) : Option Scalar :=
  if h : isScalar k = true then some ⟨k, h⟩ else none

theorem Scalar.ofNat?_eq_some_iff {k : Nat} {d : Scalar} : Scalar.ofNat? k = some d ↔ k = d.val := by
  constructor
  · intro h
    simp only [Scalar.ofNat?] at h
    split at h
    · cases h
      rfl
    · cases h
  · rintro rfl
    exact dif_pos d.valid

theorem Scalar.bounds (k : Scalar) : 0 < k.val ∧ k.val < n := by
  have valid := k.valid
  simpa only [isScalar, Bool.and_eq_true, decide_eq_true_eq] using valid

def generator : Point where
  x := 0x6b17d1f2e12c4247f8bce6e563a440f277037d812deb33a0f4a13945d898c296
  y := 0x4fe342e2fe1a7f9b8ee7eb4a7c0f9e162bce33576b315ececbb6406837bf51f5
  valid := by decide

-- The point `(x / z², y / z³)`, or the one at infinity if `z` is zero.
structure Jacobian where
  x : Nat
  y : Nat
  z : Nat

namespace Jacobian

def infinity : Jacobian := ⟨1, 1, 0⟩

def ofPoint (q : Point) : Jacobian := ⟨q.x, q.y, 1⟩

def sub (a b : Nat) : Nat := (a + (p - b)) % p

def double (q : Jacobian) : Jacobian :=
  if q.z = 0 then q
  else
    let zz := q.z * q.z % p
    let yy := q.y * q.y % p
    let m := 3 * sub q.x zz * (q.x + zz) % p
    let s := 4 * q.x * yy % p
    let x := sub (m * m % p) (2 * s % p)
    ⟨x, sub (m * sub s x % p) (8 * yy * yy % p), 2 * q.y * q.z % p⟩

def add (q r : Jacobian) : Jacobian :=
  if q.z = 0 then r
  else if r.z = 0 then q
  else
    let qzz := q.z * q.z % p
    let rzz := r.z * r.z % p
    let u1 := q.x * rzz % p
    let u2 := r.x * qzz % p
    let s1 := q.y * rzz * r.z % p
    let s2 := r.y * qzz * q.z % p
    if u1 = u2 then if s1 = s2 then double q else infinity
    else
      let h := sub u2 u1
      let t := sub s2 s1
      let hh := h * h % p
      let hhh := h * hh % p
      let v := u1 * hh % p
      let x := sub (sub (t * t % p) hhh) (2 * v % p)
      ⟨x, sub (t * sub v x % p) (s1 * hhh % p), q.z * r.z % p * h % p⟩

def multiple (q : Jacobian) (bits : List Bool) : Jacobian :=
  bits.foldl (fun acc bit => if bit then add (double acc) q else double acc) infinity

end Jacobian

def bits : (width : Nat) → Nat → List Bool
  | 0, _ => []
  | width + 1, k => k.testBit width :: bits width k

def power (a : Nat) (exponent : List Bool) : Nat :=
  exponent.foldl (fun acc bit => if bit then acc * acc % p * a % p else acc * acc % p) 1

def inverse (a : Nat) : Nat := power a (bits 256 (p - 2))

inductive PointError where
  | infinity
  | offCurve
deriving DecidableEq, Repr

def Jacobian.toPoint (q : Jacobian) : Except PointError Point :=
  if q.z % p = 0 then .error .infinity
  else
    let i := inverse q.z
    let ii := i * i % p
    match Point.ofCoordinates? (q.x * ii % p) (q.y * ii % p * i % p) with
    | some r => .ok r
    | none => .error .offCurve

def multiple (k : Scalar) (q : Point) : Except PointError Point :=
  ((Jacobian.ofPoint q).multiple (bits 256 k.val)).toPoint

end VpExchange.P256
