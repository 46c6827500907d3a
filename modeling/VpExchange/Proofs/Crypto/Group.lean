import Mathlib.AlgebraicGeometry.EllipticCurve.Affine.Point
import Mathlib.FieldTheory.Finite.Basic
import VpExchange.Proofs.Crypto.Primality

set_option autoImplicit false

namespace VpExchange.P256

open WeierstrassCurve

section Formulas

variable {F : Type} [Field F] [DecidableEq F] {W : Affine F}

structure IsShort (W : Affine F) : Prop where
  a₁ : W.a₁ = 0
  a₂ : W.a₂ = 0
  a₃ : W.a₃ = 0
  a₄ : W.a₄ = -3

omit [DecidableEq F] in
theorem exists_some_of_eq {P : W.Point} {x y u v : F} {h : W.Nonsingular x y}
    (hP : P = .some x y h) (hx : x = u) (hy : y = v) : ∃ h', P = .some u v h' := by
  subst hx hy
  exact ⟨h, hP⟩

omit [DecidableEq F] in
theorem sub_negY (short : IsShort W) {x y z : F} (hz : z ≠ 0) :
    y / z ^ 3 - W.negY (x / z ^ 2) (y / z ^ 3) = 2 * y * z / z ^ 4 := by
  rw [Affine.negY, short.a₁, short.a₃]
  field_simp
  ring

theorem double_vertical (short : IsShort W) {x y z : F} (hz : z ≠ 0) (hy : 2 * y * z = 0)
    (h : W.Nonsingular (x / z ^ 2) (y / z ^ 3)) :
    Affine.Point.some _ _ h + .some _ _ h = 0 := by
  have same := sub_negY short (x := x) (y := y) hz
  rw [hy, zero_div, sub_eq_zero] at same
  exact Affine.Point.add_self_of_Y_eq same

theorem double_some (short : IsShort W) {x y z : F} (hz : z ≠ 0) (hy : 2 * y * z ≠ 0)
    (h : W.Nonsingular (x / z ^ 2) (y / z ^ 3)) {m s x' : F} (hm : m = 3 * (x - z ^ 2) * (x + z ^ 2))
    (hs : s = 4 * x * y ^ 2) (hx' : x' = m ^ 2 - 2 * s) :
    ∃ h', Affine.Point.some _ _ h + .some _ _ h =
      .some (x' / (2 * y * z) ^ 2) ((m * (s - x') - 8 * y ^ 4) / (2 * y * z) ^ 3) h' := by
  have sum := sub_negY short (x := x) (y := y) hz
  have tangent : y / z ^ 3 ≠ W.negY (x / z ^ 2) (y / z ^ 3) := by
    intro same
    rw [← sub_eq_zero, sum] at same
    exact div_ne_zero hy (pow_ne_zero 4 hz) same
  have slope : W.slope (x / z ^ 2) (x / z ^ 2) (y / z ^ 3) (y / z ^ 3) = m / (2 * y * z) := by
    rw [Affine.slope_of_Y_ne rfl tangent, sum, short.a₁, short.a₂, short.a₄, hm]
    -- `field_simp` would take the denominator apart and lose that it is not zero.
    generalize 2 * y * z = d at hy
    field_simp
    ring
  have abscissa : x / z ^ 2 = s / (2 * y * z) ^ 2 := by
    rw [div_eq_div_iff (pow_ne_zero 2 hz) (pow_ne_zero 2 hy), hs]
    ring
  have ordinate : y / z ^ 3 = 8 * y ^ 4 / (2 * y * z) ^ 3 := by
    rw [div_eq_div_iff (pow_ne_zero 3 hz) (pow_ne_zero 3 hy)]
    ring
  apply exists_some_of_eq (Affine.Point.add_self_of_Y_ne tangent)
  · rw [Affine.addX, slope, abscissa, short.a₁, short.a₂, hx']
    field_simp
    ring
  · rw [Affine.addY, Affine.negAddY, Affine.addX, slope, abscissa, ordinate, Affine.negY, short.a₁,
      short.a₂, short.a₃, hx']
    generalize 2 * y * z = d at hy
    field_simp
    ring

theorem add_some (short : IsShort W) {x₁ y₁ z₁ x₂ y₂ z₂ : F} (hz₁ : z₁ ≠ 0) (hz₂ : z₂ ≠ 0)
    (h₁ : W.Nonsingular (x₁ / z₁ ^ 2) (y₁ / z₁ ^ 3)) (h₂ : W.Nonsingular (x₂ / z₂ ^ 2) (y₂ / z₂ ^ 3))
    {h t x₃ : F} (hh : h = x₂ * z₁ ^ 2 - x₁ * z₂ ^ 2) (ht : t = y₂ * z₁ ^ 3 - y₁ * z₂ ^ 3) (h0 : h ≠ 0)
    (hx₃ : x₃ = t ^ 2 - h ^ 3 - 2 * (x₁ * z₂ ^ 2 * h ^ 2)) :
    ∃ h', Affine.Point.some _ _ h₁ + .some _ _ h₂ =
      .some (x₃ / (z₁ * z₂ * h) ^ 2)
        ((t * (x₁ * z₂ ^ 2 * h ^ 2 - x₃) - y₁ * z₂ ^ 3 * h ^ 3) / (z₁ * z₂ * h) ^ 3) h' := by
  have other : x₁ / z₁ ^ 2 ≠ x₂ / z₂ ^ 2 := by
    intro same
    field_simp at same
    exact h0 (by rw [hh]; linear_combination -same)
  have k : x₁ / z₁ ^ 2 - x₂ / z₂ ^ 2 = - h / (z₁ ^ 2 * z₂ ^ 2) := by
    rw [hh]; field_simp; ring
  have slope : W.slope (x₁ / z₁ ^ 2) (x₂ / z₂ ^ 2) (y₁ / z₁ ^ 3) (y₂ / z₂ ^ 3) = t / (z₁ * z₂ * h) := by
    rw [Affine.slope_of_X_ne other, k, ht]
    field_simp
    ring
  have x2 : x₂ = (h + x₁ * z₂ ^ 2) / z₁ ^ 2 := by rw [hh]; field_simp; ring
  apply exists_some_of_eq (Affine.Point.add_of_X_ne other)
  · rw [Affine.addX, slope, short.a₁, short.a₂, x2, hx₃]
    field_simp
    ring
  · rw [Affine.addY, Affine.negAddY, Affine.addX, slope, Affine.negY, short.a₁, short.a₂, short.a₃, x2, hx₃]
    field_simp
    ring

end Formulas

instance : Fact p.Prime := ⟨prime_p⟩

def curve : Affine (ZMod p) := ⟨0, 0, 0, -3, (b : ZMod p)⟩

theorem isShort_curve : IsShort curve := ⟨rfl, rfl, rfl, rfl⟩

theorem discriminant_ne_zero : curve.Δ ≠ 0 := by
  have value : curve.Δ = -((432 * (b * b - 4) : Nat) : ZMod p) := by
    have four : 4 ≤ b * b := by decide
    simp only [WeierstrassCurve.Δ, WeierstrassCurve.b₂, WeierstrassCurve.b₄, WeierstrassCurve.b₆,
      WeierstrassCurve.b₈, curve]
    push_cast [Nat.cast_sub four]
    ring
  rw [value, neg_ne_zero, Ne, ZMod.natCast_eq_zero_iff]
  decide

theorem equation_iff {x y : Nat} (hx : x < p) (hy : y < p) :
    curve.Equation (x : ZMod p) (y : ZMod p) ↔ onCurve x y = true := by
  have three : 3 ≤ p := by decide
  have sides : (x : ZMod p) * x * x + ((p - 3 : Nat) : ZMod p) * x + b = x ^ 3 + -3 * x + b := by
    rw [Nat.cast_sub three, ZMod.natCast_self]
    push_cast
    ring
  rw [Affine.equation_iff]
  simp only [onCurve, hx, hy, decide_true, Bool.true_and, beq_iff_eq, curve]
  rw [← Nat.ModEq, ← ZMod.natCast_eq_natCast_iff]
  push_cast
  rw [sides]
  constructor
  · intro h
    linear_combination h
  · intro h
    linear_combination h

theorem Point.equation (q : Point) : curve.Equation (q.x : ZMod p) (q.y : ZMod p) :=
  (equation_iff q.lt_p.1 q.lt_p.2).mpr q.valid

def Point.element (q : Point) : curve.Point :=
  .some q.x q.y ((Affine.equation_iff_nonsingular_of_Δ_ne_zero discriminant_ne_zero).mp q.equation)

theorem cast_injective {a b : Nat} (ha : a < p) (hb : b < p) (h : (a : ZMod p) = b) : a = b := by
  rw [ZMod.natCast_eq_natCast_iff'] at h
  rwa [Nat.mod_eq_of_lt ha, Nat.mod_eq_of_lt hb] at h

theorem Point.element_injective {q r : Point} (h : q.element = r.element) : q = r := by
  obtain ⟨hx, hy⟩ := Affine.Point.some.inj h
  have x := cast_injective q.lt_p.1 r.lt_p.1 hx
  have y := cast_injective q.lt_p.2 r.lt_p.2 hy
  cases q
  cases r
  cases x
  cases y
  rfl

namespace Jacobian

inductive Represents (j : Jacobian) : curve.Point → Prop
  | infinity (hz : j.z = 0) : Represents j 0
  | finite {h} (hz : (j.z : ZMod p) ≠ 0) :
    Represents j (.some ((j.x : ZMod p) / (j.z : ZMod p) ^ 2) ((j.y : ZMod p) / (j.z : ZMod p) ^ 3) h)

variable {j k : Jacobian} {P Q : curve.Point}

theorem mod_lt (a : Nat) : a % p < p := Nat.mod_lt a (by decide)

theorem cast_sub {a b : Nat} (h : b < p) : (sub a b : ZMod p) = a - b := by
  rw [sub, ZMod.natCast_mod, Nat.cast_add, Nat.cast_sub h.le, ZMod.natCast_self]
  ring

theorem sub_lt (a b : Nat) : sub a b < p := mod_lt _

theorem ne_zero_of_cast {a : Nat} (h : (a : ZMod p) ≠ 0) : a ≠ 0 := by
  rintro rfl
  exact h Nat.cast_zero

theorem represents_of (reduced : j.z < p) (infinite : (j.z : ZMod p) = 0 → P = 0)
    (finite : (j.z : ZMod p) ≠ 0 →
      ∃ h, P = .some ((j.x : ZMod p) / (j.z : ZMod p) ^ 2) ((j.y : ZMod p) / (j.z : ZMod p) ^ 3) h) :
    j.Represents P := by
  by_cases zero : (j.z : ZMod p) = 0
  · rw [infinite zero]
    exact .infinity (cast_injective reduced (by decide) (by rw [zero, Nat.cast_zero]))
  · obtain ⟨h, rfl⟩ := finite zero
    exact .finite zero

theorem Represents.eq_zero (h : j.Represents P) (hz : j.z = 0) : P = 0 := by
  cases h with
  | infinity => rfl
  | finite other => exact absurd hz (ne_zero_of_cast other)

theorem represents_infinity : infinity.Represents 0 := .infinity rfl

theorem represents_ofPoint (q : Point) : (ofPoint q).Represents q.element := by
  have one : ((ofPoint q).z : ZMod p) = 1 := Nat.cast_one
  obtain ⟨h, same⟩ := exists_some_of_eq (P := q.element) rfl
    (u := ((ofPoint q).x : ZMod p) / ((ofPoint q).z : ZMod p) ^ 2)
    (v := ((ofPoint q).y : ZMod p) / ((ofPoint q).z : ZMod p) ^ 3)
    (by rw [one, one_pow, div_one]; rfl) (by rw [one, one_pow, div_one]; rfl)
  rw [same]
  exact .finite (by rw [one]; exact one_ne_zero)

theorem cast_double (hz : j.z ≠ 0) : ∃ m s x' : ZMod p,
    m = 3 * (j.x - (j.z : ZMod p) ^ 2) * (j.x + (j.z : ZMod p) ^ 2) ∧
    s = 4 * j.x * (j.y : ZMod p) ^ 2 ∧ x' = m ^ 2 - 2 * s ∧
    (double j).x = x' ∧ (double j).y = m * (s - x') - 8 * (j.y : ZMod p) ^ 4 ∧
    (double j).z = 2 * j.y * (j.z : ZMod p) := by
  refine ⟨_, _, _, rfl, rfl, rfl, ?_⟩
  rw [double, if_neg hz]
  simp only [cast_sub (mod_lt _), cast_sub (sub_lt _ _), ZMod.natCast_mod, Nat.cast_mul, Nat.cast_add,
    Nat.cast_ofNat]
  refine ⟨by ring, by ring, trivial⟩

theorem double_z_lt (hz : j.z ≠ 0) : (double j).z < p := by
  rw [double, if_neg hz]
  exact mod_lt _

theorem represents_double (h : j.Represents P) : (double j).Represents (P + P) := by
  cases h with
  | infinity hz =>
    rw [double, if_pos hz, add_zero]
    exact .infinity hz
  | finite hz =>
    have zero := ne_zero_of_cast hz
    obtain ⟨m, s, x', hm, hs, hx', x, y, z⟩ := cast_double zero
    apply represents_of (double_z_lt zero)
    · intro infinite
      rw [z] at infinite
      exact double_vertical isShort_curve hz infinite _
    · intro finite
      rw [z] at finite
      rw [x, y, z]
      exact double_some isShort_curve hz finite _ hm hs hx'

theorem mod_eq_iff {a b : Nat} : a % p = b % p ↔ (a : ZMod p) = b :=
  (ZMod.natCast_eq_natCast_iff' a b p).symm

theorem cast_add (hj : j.z ≠ 0) (hk : k.z ≠ 0)
    (other : (k.x : ZMod p) * (j.z : ZMod p) ^ 2 ≠ j.x * (k.z : ZMod p) ^ 2) : ∃ h t x' : ZMod p,
    h = k.x * (j.z : ZMod p) ^ 2 - j.x * (k.z : ZMod p) ^ 2 ∧
    t = k.y * (j.z : ZMod p) ^ 3 - j.y * (k.z : ZMod p) ^ 3 ∧
    x' = t ^ 2 - h ^ 3 - 2 * (j.x * (k.z : ZMod p) ^ 2 * h ^ 2) ∧
    (add j k).x = x' ∧
    (add j k).y = t * (j.x * (k.z : ZMod p) ^ 2 * h ^ 2 - x') - j.y * (k.z : ZMod p) ^ 3 * h ^ 3 ∧
    (add j k).z = j.z * k.z * h ∧ (add j k).z < p := by
  have different : ¬j.x * (k.z * k.z % p) % p = k.x * (j.z * j.z % p) % p := by
    intro same
    rw [mod_eq_iff] at same
    simp only [ZMod.natCast_mod, Nat.cast_mul] at same
    exact other (by linear_combination -same)
  refine ⟨_, _, _, rfl, rfl, rfl, ?_⟩
  rw [add, if_neg hj, if_neg hk, if_neg different]
  simp only [cast_sub (mod_lt _), cast_sub (sub_lt _ _), ZMod.natCast_mod, Nat.cast_mul, Nat.cast_ofNat]
  exact ⟨by ring, by ring, by ring, mod_lt _⟩

theorem represents_add_aligned {h₁ h₂} (hj : (j.z : ZMod p) ≠ 0) (hk : (k.z : ZMod p) ≠ 0)
    (hP : P = .some ((j.x : ZMod p) / (j.z : ZMod p) ^ 2) ((j.y : ZMod p) / (j.z : ZMod p) ^ 3) h₁)
    (hQ : Q = .some ((k.x : ZMod p) / (k.z : ZMod p) ^ 2) ((k.y : ZMod p) / (k.z : ZMod p) ^ 3) h₂)
    (aligned : (k.x : ZMod p) * (j.z : ZMod p) ^ 2 = j.x * (k.z : ZMod p) ^ 2) :
    (add j k).Represents (P + Q) := by
  have u : j.x * (k.z * k.z % p) % p = k.x * (j.z * j.z % p) % p := by
    rw [mod_eq_iff]
    simp only [ZMod.natCast_mod, Nat.cast_mul]
    linear_combination -aligned
  have x : (j.x : ZMod p) / (j.z : ZMod p) ^ 2 = (k.x : ZMod p) / (k.z : ZMod p) ^ 2 := by
    rw [div_eq_div_iff (pow_ne_zero 2 hj) (pow_ne_zero 2 hk)]
    exact aligned.symm
  have y : j.y * (k.z * k.z % p) * k.z % p = k.y * (j.z * j.z % p) * j.z % p ↔
      (j.y : ZMod p) / (j.z : ZMod p) ^ 3 = (k.y : ZMod p) / (k.z : ZMod p) ^ 3 := by
    rw [mod_eq_iff, div_eq_div_iff (pow_ne_zero 3 hj) (pow_ne_zero 3 hk)]
    simp only [ZMod.natCast_mod, Nat.cast_mul]
    constructor <;> intro same <;> linear_combination same
  rw [add, if_neg (ne_zero_of_cast hj), if_neg (ne_zero_of_cast hk), if_pos u]
  -- Over one abscissa there are one element and its opposite: the sum is a double or zero.
  split_ifs with s
  · have same : Q = P := by
      rw [hP, hQ, Affine.Point.some.injEq]
      exact ⟨x.symm, (y.mp s).symm⟩
    rw [same]
    exact represents_double (hP ▸ .finite hj)
  · have opposite := (Affine.Y_eq_of_X_eq h₁.left h₂.left x).resolve_left (mt y.mpr s)
    rw [hP, hQ, Affine.Point.add_of_Y_eq x opposite]
    exact represents_infinity

theorem represents_add (hj : j.Represents P) (hk : k.Represents Q) : (add j k).Represents (P + Q) := by
  cases hj with
  | infinity zero =>
    rw [add, if_pos zero, zero_add]
    exact hk
  | finite hj =>
    have finite := ne_zero_of_cast hj
    cases hk with
    | infinity zero =>
      rw [add, if_neg finite, if_pos zero, add_zero]
      exact .finite hj
    | finite hk =>
      by_cases aligned : (k.x : ZMod p) * (j.z : ZMod p) ^ 2 = j.x * (k.z : ZMod p) ^ 2
      · exact represents_add_aligned hj hk rfl rfl aligned
      · obtain ⟨h, t, x', hh, ht, hx', x, y, z, reduced⟩ := cast_add finite (ne_zero_of_cast hk) aligned
        have h0 : h ≠ 0 := by
          rw [hh]
          exact sub_ne_zero.mpr aligned
        apply represents_of reduced
        · intro infinite
          rw [z] at infinite
          exact absurd infinite (mul_ne_zero (mul_ne_zero hj hk) h0)
        · intro _
          rw [x, y, z]
          exact add_some isShort_curve hj hk _ _ hh ht h0 hx'

theorem represents_multiple (h : j.Represents P) (exponent : List Bool) :
    (j.multiple exponent).Represents (numberFrom 0 exponent • P) := by
  -- What is kept: after some bits the accumulator stands for the multiple by the number they make.
  have zero : infinity.Represents (0 • P) := by
    rw [zero_nsmul]
    exact represents_infinity
  refine foldl_bits (R := fun (acc : Jacobian) n => acc.Represents (n • P)) ?_ zero exponent
  intro acc n bit hacc
  have twice : (double acc).Represents ((2 * n) • P) := by
    rw [two_mul, add_nsmul]
    exact represents_double hacc
  cases bit with
  | true =>
    rw [Bool.toNat_true, succ_nsmul]
    exact represents_add twice h
  | false => exact twice

theorem cast_inverse (a : Nat) (h : (a : ZMod p) ≠ 0) : (inverse a : ZMod p) = (a : ZMod p)⁻¹ := by
  have power : (inverse a : ZMod p) = (a : ZMod p) ^ (p - 2) := cast_residue_bits (by decide)
  have fermat : (a : ZMod p) ^ (p - 2) * a = 1 := by
    rw [← pow_succ]
    exact ZMod.pow_card_sub_one_eq_one h
  rw [power]
  exact eq_inv_of_mul_eq_one_left fermat

theorem toPoint_of_represents (h : j.Represents P) (finite : P ≠ 0) :
    ∃ q : Point, j.toPoint = .ok q ∧ q.element = P := by
  cases h with
  | infinity => exact absurd rfl finite
  | @finite ns hz =>
    have nonzero : ¬j.z % p = 0 := by
      intro zero
      exact hz ((ZMod.natCast_eq_zero_iff j.z p).mpr (Nat.dvd_of_mod_eq_zero zero))
    let i := inverse j.z
    have x : ((j.x * (i * i % p) % p : Nat) : ZMod p) = j.x / (j.z : ZMod p) ^ 2 := by
      simp only [ZMod.natCast_mod, Nat.cast_mul, i, cast_inverse j.z hz]
      field_simp
    have y : ((j.y * (i * i % p) % p * i % p : Nat) : ZMod p) = j.y / (j.z : ZMod p) ^ 3 := by
      simp only [ZMod.natCast_mod, Nat.cast_mul, i, cast_inverse j.z hz]
      field_simp
    -- The quotients satisfy the equation, so the check that the program makes again passes.
    have valid : onCurve (j.x * (i * i % p) % p) (j.y * (i * i % p) % p * i % p) = true := by
      rw [← equation_iff (mod_lt _) (mod_lt _), x, y]
      exact ns.left
    refine ⟨⟨_, _, valid⟩, ?_, ?_⟩
    · rw [toPoint, if_neg nonzero]
      simp only [Point.ofCoordinates?, i, dif_pos valid]
    · rw [Point.element, Affine.Point.some.injEq]
      exact ⟨x, y⟩

end Jacobian

theorem multiple_of_ne_zero {k : Scalar} {q : Point} (h : k.val • q.element ≠ 0) :
    ∃ r, multiple k q = .ok r ∧ r.element = k.val • q.element := by
  have represents := Jacobian.represents_multiple (Jacobian.represents_ofPoint q) (bits 256 k.val)
  rw [numberFrom_bits_of_lt (k.bounds.2.trans (by decide))] at represents
  exact Jacobian.toPoint_of_represents represents h

theorem nsmul_generator : n • generator.element = 0 := by
  have represents := Jacobian.represents_multiple (Jacobian.represents_ofPoint generator) (bits 256 n)
  rw [numberFrom_bits_of_lt (by decide)] at represents
  exact represents.eq_zero (by decide +kernel)

theorem addOrderOf_generator : addOrderOf generator.element = n :=
  haveI : Fact n.Prime := ⟨prime_n⟩
  addOrderOf_eq_prime nsmul_generator (Affine.Point.some_ne_zero _)

theorem nsmul_generator_eq_zero_iff {k : Nat} : k • generator.element = 0 ↔ n ∣ k := by
  rw [← addOrderOf_dvd_iff_nsmul_eq_zero, addOrderOf_generator]

theorem not_dvd_scalar (k : Scalar) : ¬n ∣ k.val :=
  Nat.not_dvd_of_pos_of_lt k.bounds.1 k.bounds.2

theorem multiple_generator (k : Scalar) :
    ∃ q, multiple k generator = .ok q ∧ q.element = k.val • generator.element :=
  multiple_of_ne_zero (mt nsmul_generator_eq_zero_iff.mp (not_dvd_scalar k))

theorem multiple_multiple {k d : Scalar} {q r : Point} (hq : multiple d generator = .ok q)
    (hr : multiple k generator = .ok r) : ∃ z, multiple k q = .ok z ∧ multiple d r = .ok z := by
  obtain ⟨q', hq', dG⟩ := multiple_generator d
  obtain ⟨r', hr', kG⟩ := multiple_generator k
  obtain rfl : q' = q := Except.ok.inj (hq'.symm.trans hq)
  obtain rfl : r' = r := Except.ok.inj (hr'.symm.trans hr)
  have product : k.val • q'.element = (k.val * d.val) • generator.element := by
    rw [dG, smul_smul]
  have finite : (k.val * d.val) • generator.element ≠ 0 := by
    rw [Ne, nsmul_generator_eq_zero_iff, prime_n.dvd_mul]
    exact not_or.mpr ⟨not_dvd_scalar k, not_dvd_scalar d⟩
  have same : d.val • r'.element = k.val • q'.element := by
    rw [product, kG, smul_smul, Nat.mul_comm]
  -- Neither party gets to infinity: the order is prime and divides no scalar.
  rw [← product] at finite
  obtain ⟨z, hz, element⟩ := multiple_of_ne_zero finite
  obtain ⟨z', hz', element'⟩ := multiple_of_ne_zero (same ▸ finite)
  obtain rfl : z' = z := Point.element_injective (by rw [element, element', same])
  exact ⟨z', hz, hz'⟩

end VpExchange.P256
