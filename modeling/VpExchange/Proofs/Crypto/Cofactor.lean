import Mathlib.GroupTheory.OrderOfElement
import VpExchange.Proofs.Crypto.Group

/-!
Every finite point has the order `n`, so that no multiple by a scalar is ever at infinity. There are at
most two points over one abscissa and thus fewer than `3 * n` in all, which leaves room for no other
order than two; and no point has that one, because `x³ - 3x + b` has no root in the field.
-/

set_option autoImplicit false

namespace VpExchange.P256

open WeierstrassCurve

-- What `c₀ + c₁ x + c₂ x²` is modulo the cubic, by its coefficients modulo `p`.
structure Remainder where
  c₀ : Nat
  c₁ : Nat
  c₂ : Nat
deriving DecidableEq

namespace Remainder

def one : Remainder := ⟨1, 0, 0⟩

def abscissa : Remainder := ⟨0, 1, 0⟩

def mul (f g : Remainder) : Remainder :=
  let d₃ := f.c₁ * g.c₂ + f.c₂ * g.c₁
  let d₄ := f.c₂ * g.c₂
  ⟨(f.c₀ * g.c₀ + (p - b) * d₃) % p,
    (f.c₀ * g.c₁ + f.c₁ * g.c₀ + 3 * d₃ + (p - b) * d₄) % p,
    (f.c₀ * g.c₂ + f.c₁ * g.c₁ + f.c₂ * g.c₀ + 3 * d₄) % p⟩

def subAbscissa (f : Remainder) : Remainder := ⟨f.c₀, f.c₁ + (p - 1), f.c₂⟩

def power (f : Remainder) (exponent : List Bool) : Remainder :=
  exponent.foldl (fun acc bit => if bit then mul (mul acc acc) f else mul acc acc) one

def eval (f : Remainder) (r : ZMod p) : ZMod p := f.c₀ + f.c₁ * r + f.c₂ * r ^ 2

variable {r : ZMod p}

theorem eval_one : one.eval r = 1 := by simp [eval, one]

theorem eval_abscissa : abscissa.eval r = r := by simp [eval, abscissa]

theorem eval_subAbscissa (f : Remainder) : f.subAbscissa.eval r = f.eval r - r := by
  have minus : ((p - 1 : Nat) : ZMod p) = -1 := by
    rw [Nat.cast_sub (by decide), ZMod.natCast_self, Nat.cast_one, zero_sub]
  simp only [eval, subAbscissa, Nat.cast_add, minus]
  ring

theorem eval_mul (root : r ^ 3 - 3 * r + b = 0) (f g : Remainder) :
    (mul f g).eval r = f.eval r * g.eval r := by
  have minus : ((p - b : Nat) : ZMod p) = -b := by
    rw [Nat.cast_sub (by decide), ZMod.natCast_self, zero_sub]
  simp only [eval, mul, ZMod.natCast_mod, Nat.cast_add, Nat.cast_mul, Nat.cast_ofNat, minus]
  linear_combination (-(f.c₁ * g.c₂ + f.c₂ * g.c₁) - f.c₂ * g.c₂ * r : ZMod p) * root

theorem eval_power (root : r ^ 3 - 3 * r + b = 0) (f : Remainder) (exponent : List Bool) :
    (f.power exponent).eval r = f.eval r ^ numberFrom 0 exponent := by
  have none : one.eval r = f.eval r ^ 0 := by rw [eval_one, pow_zero]
  refine foldl_bits (R := fun (acc : Remainder) k => acc.eval r = f.eval r ^ k) ?_ none exponent
  intro acc k bit h
  cases bit with
  | true =>
    rw [Bool.toNat_true, if_pos rfl, eval_mul root, eval_mul root, h]
    ring
  | false =>
    rw [Bool.toNat_false, if_neg Bool.false_ne_true, eval_mul root, h]
    ring

-- The inverse of `x ^ p - x` modulo the cubic.
def separator : Remainder where
  c₀ := 0xa969487079f1744798bf0de6fded091b66e9d328eb0645fe5d979d1339b7f47f
  c₁ := 0xa4a08891884100c13323460107a8d28eede4387fa3e6e9bfebec9f6d72d0b5cc
  c₂ := 0x4cde11cf86cb876cd59cf0115813c55af0ecd3cda667d98bb9a347a56aa74a6d

theorem mul_separator : mul separator (abscissa.power (bits 256 p)).subAbscissa = one := by
  decide +kernel

end Remainder

theorem cubic_ne_zero (r : ZMod p) : r ^ 3 - 3 * r + b ≠ 0 := by
  intro root
  -- An element of the field is its own power by `p`, and the cubic has no such root.
  have fixed : (Remainder.abscissa.power (bits 256 p)).eval r = r := by
    rw [Remainder.eval_power root, Remainder.eval_abscissa, numberFrom_bits_of_lt (by decide)]
    exact ZMod.pow_card r
  have product := congrArg (Remainder.eval · r) Remainder.mul_separator
  simp only [Remainder.eval_mul root, Remainder.eval_subAbscissa, fixed, sub_self, mul_zero,
    Remainder.eval_one] at product
  exact zero_ne_one product

theorem two_nsmul_ne_zero {P : curve.Point} (finite : P ≠ 0) : 2 • P ≠ 0 := by
  intro zero
  cases P with
  | zero => exact finite rfl
  | some x y h =>
    -- A point that is its own opposite lies on the axis, over a root of the cubic.
    have opposite := add_eq_zero_iff_eq_neg.mp (two_nsmul (Affine.Point.some x y h) ▸ zero)
    rw [Affine.Point.neg_some, Affine.Point.some.injEq] at opposite
    have twice : 2 * y = 0 := by
      have same := opposite.2
      simp only [Affine.negY, isShort_curve.a₁, isShort_curve.a₃] at same
      linear_combination same
    have two : (2 : ZMod p) ≠ 0 := by decide
    have axis : y = 0 := (mul_eq_zero.mp twice).resolve_left two
    have equation := (Affine.equation_iff ..).mp h.left
    simp only [axis, isShort_curve.a₁, isShort_curve.a₂, isShort_curve.a₃, isShort_curve.a₄] at equation
    apply cubic_ne_zero x
    have constant : curve.a₆ = (b : ZMod p) := rfl
    linear_combination -equation - constant

def side : curve.Point → Option (ZMod p × Bool)
  | .zero => none
  | .some x y _ => some (x, decide (y.val ≤ (-y).val))

theorem side_injective : Function.Injective side := by
  intro P Q same
  cases P with
  | zero =>
    cases Q with
    | zero => rfl
    | some => cases same
  | some x y h =>
    cases Q with
    | zero => cases same
    | some u v h' =>
      simp only [side, Option.some.injEq, Prod.mk.injEq, decide_eq_decide] at same
      obtain ⟨rfl, smaller⟩ := same
      rw [Affine.Point.some.injEq]
      refine ⟨rfl, ?_⟩
      rcases Affine.Y_eq_of_X_eq h.left h'.left rfl with same | opposite
      · exact same
      · have minus : y = -v := by
          rw [opposite, Affine.negY, isShort_curve.a₁, isShort_curve.a₃]
          ring
        rw [minus, neg_neg] at smaller
        rw [minus]
        apply ZMod.val_injective p
        rcases le_total (-v).val v.val with le | le
        · exact le_antisymm le (smaller.mp le)
        · exact le_antisymm (smaller.mpr le) le

instance : Finite curve.Point := Finite.of_injective side side_injective

theorem card_le : Nat.card curve.Point ≤ 2 * p + 1 := by
  have sides : Nat.card (Option (ZMod p × Bool)) = 2 * p + 1 := by
    rw [Finite.card_option, Nat.card_prod, Nat.card_zmod, Nat.card_eq_fintype_card, Fintype.card_bool,
      Nat.mul_comm]
  rw [← sides]
  exact Nat.card_le_card_of_injective side side_injective

theorem nsmul_ne_zero {P : curve.Point} (finite : P ≠ 0) {k : Nat} (pos : 0 < k) (small : k < n) :
    k • P ≠ 0 := by
  intro zero
  have divides : addOrderOf P ∣ k := addOrderOf_dvd_of_nsmul_eq_zero zero
  have order_pos : 0 < addOrderOf P := Nat.pos_of_dvd_of_pos divides pos
  have order_lt : addOrderOf P < n := (Nat.le_of_dvd pos divides).trans_lt small
  have coprime : Nat.Coprime n (addOrderOf P) :=
    (Nat.Prime.coprime_iff_not_dvd prime_n).mpr (Nat.not_dvd_of_pos_of_lt order_pos order_lt)
  -- Both orders divide the number of all points, and there are fewer than three times `n`.
  have product : n * addOrderOf P ∣ Nat.card curve.Point :=
    coprime.mul_dvd_of_dvd_of_dvd (addOrderOf_generator ▸ addOrderOf_dvd_natCard generator.element)
      (addOrderOf_dvd_natCard P)
  have bound : n * addOrderOf P < n * 3 :=
    ((Nat.le_of_dvd Nat.card_pos product).trans card_le).trans_lt (by decide)
  have order_le : addOrderOf P ≤ 2 := Nat.le_of_lt_succ (Nat.lt_of_mul_lt_mul_left bound)
  have twice : addOrderOf P ∣ 2 := by
    interval_cases addOrderOf P <;> decide
  exact two_nsmul_ne_zero finite (addOrderOf_dvd_iff_nsmul_eq_zero.mp twice)

theorem multiple_eq_ok (k : Scalar) (q : Point) :
    ∃ r, multiple k q = .ok r ∧ r.element = k.val • q.element :=
  multiple_of_ne_zero (nsmul_ne_zero (Affine.Point.some_ne_zero _) k.bounds.1 k.bounds.2)

end VpExchange.P256
