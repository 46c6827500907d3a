import Mathlib.NumberTheory.LucasPrimality
import Mathlib.Tactic.NormNum.Prime
import Mathlib.Tactic.Ring
import VpExchange.Crypto.P256

/-!
The size of the field and the order of the generator are primes. A certificate for a number is an
element of that multiplicative order which only a field has, and the primes that the order is made of;
those of the large primes are certified in turn.
-/

set_option autoImplicit false

namespace VpExchange.P256

def numberFrom (k : Nat) (exponent : List Bool) : Nat := exponent.foldl (fun k bit => 2 * k + bit.toNat) k

theorem numberFrom_bits (width k n : Nat) : numberFrom n (bits width k) = n * 2 ^ width + k % 2 ^ width := by
  induction width generalizing n with
  | zero => simp [bits, numberFrom, Nat.mod_one]
  | succ width ih =>
    have rest := ih (2 * n + (k.testBit width).toNat)
    have top : k % 2 ^ (width + 1) = k % 2 ^ width + 2 ^ width * (k / 2 ^ width % 2) := Nat.mod_mul
    have bit : (k.testBit width).toNat = k / 2 ^ width % 2 := Nat.toNat_testBit k width
    rw [bits, numberFrom, List.foldl_cons, ← numberFrom, rest, top, bit]
    ring

theorem numberFrom_bits_of_lt {width k : Nat} (h : k < 2 ^ width) : numberFrom 0 (bits width k) = k := by
  rw [numberFrom_bits, Nat.mod_eq_of_lt h, Nat.zero_mul, Nat.zero_add]

-- Powers in the field and multiples on the curve go through the bits of a number alike.
theorem foldl_bits {α : Type} {R : α → Nat → Prop} {step : α → Bool → α}
    (kept : ∀ a k bit, R a k → R (step a bit) (2 * k + bit.toNat)) {a : α} {k : Nat} (h : R a k)
    (exponent : List Bool) : R (exponent.foldl step a) (numberFrom k exponent) := by
  induction exponent generalizing a k with
  | nil => exact h
  | cons bit exponent ih => exact ih (kept a k bit h)

def residue (m a : Nat) (exponent : List Bool) : Nat :=
  exponent.foldl (fun acc bit => if bit then acc * acc % m * a % m else acc * acc % m) 1

theorem cast_residue (m a : Nat) (exponent : List Bool) :
    (residue m a exponent : ZMod m) = (a : ZMod m) ^ numberFrom 0 exponent := by
  have one : ((1 : Nat) : ZMod m) = (a : ZMod m) ^ 0 := by simp
  have kept (acc k : Nat) (bit : Bool) (h : (acc : ZMod m) = (a : ZMod m) ^ k) :
      ((if bit then acc * acc % m * a % m else acc * acc % m : Nat) : ZMod m) =
        (a : ZMod m) ^ (2 * k + bit.toNat) := by
    cases bit with
    | true => simp [h, pow_succ, pow_mul, mul_comm 2 k]
    | false => simp [h, pow_mul, mul_comm 2 k, pow_two]
  exact foldl_bits (R := fun (acc : Nat) k => (acc : ZMod m) = (a : ZMod m) ^ k) kept one exponent

theorem cast_residue_bits {m a width k : Nat} (h : k < 2 ^ width) :
    (residue m a (bits width k) : ZMod m) = (a : ZMod m) ^ k := by
  rw [cast_residue, numberFrom_bits_of_lt h]

structure Certificate where
  number : Nat
  -- Its order is one less than the number.
  root : Nat
  factors : List Nat

namespace Certificate

def rootPower (c : Certificate) (factor : Nat) : Nat :=
  residue c.number c.root (bits (c.number.log2 + 1) ((c.number - 1) / factor))

def holds (c : Certificate) : Bool :=
  1 < c.number && c.factors.prod == c.number - 1 && c.rootPower 1 == 1 &&
    c.factors.all fun q => c.rootPower q % c.number != 1

theorem cast_rootPower (c : Certificate) (factor : Nat) :
    (c.rootPower factor : ZMod c.number) = (c.root : ZMod c.number) ^ ((c.number - 1) / factor) := by
  have small : (c.number - 1) / factor ≤ c.number := (Nat.div_le_self _ _).trans (Nat.sub_le _ _)
  exact cast_residue_bits (small.trans_lt Nat.lt_log2_self)

theorem prime_of_holds {c : Certificate} (h : c.holds = true) (prime : ∀ q ∈ c.factors, q.Prime) :
    c.number.Prime := by
  simp only [holds, Bool.and_eq_true, decide_eq_true_eq, beq_iff_eq, List.all_eq_true, bne_iff_ne] at h
  obtain ⟨⟨⟨pos, product⟩, full⟩, proper⟩ := h
  apply lucas_primality c.number c.root
  · have power := cast_rootPower c 1
    rw [full, Nat.div_one, Nat.cast_one] at power
    exact power.symm
  · intro q hq divides
    rw [← product] at divides
    obtain ⟨r, hr, same⟩ := (Prime.dvd_prod_iff hq.prime).mp divides
    obtain rfl : q = r := (Nat.prime_dvd_prime_iff_eq hq (prime r hr)).mp same
    intro one
    rw [← cast_rootPower, ← Nat.cast_one, ZMod.natCast_eq_natCast_iff'] at one
    exact proper q hr (one.trans (Nat.mod_eq_of_lt pos))

-- Each certificate may use the numbers of those before it.
def chain (known : List Nat) : List Certificate → Bool
  | [] => true
  | c :: rest => c.holds && c.factors.all known.contains && chain (c.number :: known) rest

theorem prime_of_chain {cs : List Certificate} {known : List Nat} (prime : ∀ q ∈ known, q.Prime)
    (h : chain known cs = true) : ∀ c ∈ cs, c.number.Prime := by
  induction cs generalizing known with
  | nil => exact fun _ hc => nomatch hc
  | cons c rest ih =>
    simp only [chain, Bool.and_eq_true, List.all_eq_true, List.contains_iff_mem] at h
    obtain ⟨⟨holds, factors⟩, later⟩ := h
    have first : c.number.Prime := prime_of_holds holds fun q hq => prime q (factors q hq)
    have others := ih (List.forall_mem_cons.mpr ⟨first, prime⟩) later
    exact List.forall_mem_cons.mpr ⟨first, others⟩

end Certificate

def smallPrimes : List Nat :=
  [2, 3, 5, 7, 11, 17, 23, 29, 41, 43, 53, 71, 107, 127, 131, 173, 197, 257, 311, 373, 641, 1297, 1531,
    2411, 3023, 3407, 3677, 3769, 16879, 17449, 18169, 38189, 65537, 78283, 126241, 155317, 490463,
    704251, 3969899, 6700417, 9350987]

theorem prime_of_mem_smallPrimes : ∀ q ∈ smallPrimes, q.Prime := by
  simp only [smallPrimes, List.forall_mem_cons, List.not_mem_nil, false_imp_iff, implies_true, and_true]
  norm_num

def certificates : List Certificate :=
  [⟨66417393611, 6, [2, 5, 53, 173, 197, 3677]⟩,
    ⟨11290956913871, 13, [2, 5, 17, 66417393611]⟩,
    ⟨46076956964474543, 5, [2, 23, 18169, 78283, 704251]⟩,
    ⟨204061199, 11, [2, 11, 23, 107, 3769]⟩,
    ⟨34282281433, 17, [2, 2, 2, 3, 7, 204061199]⟩,
    ⟨774023187263532362759620327192479577272145303, 3,
      [2, 3, 3, 2411, 34282281433, 11290956913871, 46076956964474543]⟩,
    ⟨835945042244614951780389953367877943453916927241, 11,
      [2, 2, 2, 3, 3, 3, 5, 774023187263532362759620327192479577272145303]⟩,
    ⟨p, 6, [2, 3, 5, 5, 17, 257, 641, 1531, 65537, 490463, 6700417,
      835945042244614951780389953367877943453916927241]⟩,
    ⟨311245691, 2, [2, 5, 7, 17, 29, 29, 311]⟩,
    ⟨622491383, 5, [2, 311245691]⟩,
    ⟨187019741, 2, [2, 2, 5, 9350987]⟩,
    ⟨1002328039319, 19, [2, 126241, 3969899]⟩,
    ⟨191039911, 3, [2, 3, 5, 41, 155317]⟩,
    ⟨208150935158385979, 2, [2, 3, 11, 43, 127, 3023, 191039911]⟩,
    ⟨2624747550333869278416773953, 7, [2, 2, 2, 2, 2, 2, 3, 3, 1297, 16879, 208150935158385979]⟩,
    ⟨n, 7, [2, 2, 2, 2, 3, 71, 131, 373, 3407, 17449, 38189, 187019741, 622491383, 1002328039319,
      2624747550333869278416773953]⟩]

theorem prime_of_mem_certificates : ∀ c ∈ certificates, c.number.Prime :=
  Certificate.prime_of_chain prime_of_mem_smallPrimes (by decide +kernel)

theorem prime_p : p.Prime := prime_of_mem_certificates certificates[7] (List.getElem_mem _)

theorem prime_n : n.Prime := prime_of_mem_certificates certificates[15] (List.getElem_mem _)

end VpExchange.P256
