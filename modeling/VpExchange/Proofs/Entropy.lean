import Mathlib.Data.List.GetD
import Mathlib.Tactic.Common
import VpExchange.Entropy

set_option autoImplicit false

namespace VpExchange

def Bytes.IsScalar (bs : Bytes) : Prop := 1 ≤ Bytes.toNat bs ∧ Bytes.toNat bs < P256.n

theorem Bytes.isScalar_iff {bs : Bytes} :
    bs.IsScalar ↔ ∃ k, P256.Scalar.ofNat? (Bytes.toNat bs) = some k := by
  simp only [P256.Scalar.ofNat?_eq_some_iff]
  constructor
  · intro inRange
    have valid : P256.isScalar (Bytes.toNat bs) = true := by
      rw [P256.isScalar, Bool.and_eq_true, decide_eq_true_eq, decide_eq_true_eq]
      exact inRange
    exact ⟨⟨_, valid⟩, rfl⟩
  · rintro ⟨k, same⟩
    rw [IsScalar, same]
    exact k.bounds

namespace Entropy

/-- So many bytes of the endless stream: the given ones, and ones ever after. -/
def stretch (given : Bytes) (start count : Nat) : Bytes :=
  (List.range count).map fun i => given.getD (start + i) 1

@[simp] theorem length_stretch (given : Bytes) (start count : Nat) :
    (stretch given start count).length = count := by
  simp [stretch]

def Follows (e : Entropy) (given : Bytes) : Prop := e.rest = given.drop e.drawn

variable {e : Entropy} {given : Bytes}

theorem skip_skip (e : Entropy) (count count' : Nat) :
    (e.skip count).skip count' = e.skip (count + count') := by
  simp only [skip, List.drop_drop, Nat.add_assoc]

theorem follows_ofBytes (given : Bytes) : (ofBytes given).Follows given := rfl

theorem Follows.skip (follows : e.Follows given) (count : Nat) : (e.skip count).Follows given := by
  show e.rest.drop count = given.drop (e.drawn + count)
  rw [follows, List.drop_drop]

theorem Follows.peek (follows : e.Follows given) (count : Nat) :
    e.peek count = stretch given e.drawn count := by
  rw [Entropy.peek, follows]
  apply List.ext_getElem (by simp)
  intro i below _
  simp only [stretch, List.getElem_take, List.getElem_append, List.getElem_replicate, List.getElem_map,
    List.getElem_range, List.getElem_drop, List.length_drop]
  split_ifs with served
  · rw [List.getD_eq_getElem]
  · rw [List.getD_eq_default]
    omega

/-- Blocks of 32 bytes from there on, of which only the last is a scalar. -/
structure Found (given : Bytes) (start before : Nat) : Prop where
  passed : ∀ i < before, ¬(stretch given (start + 32 * i) 32).IsScalar
  last : (stretch given (start + 32 * before) 32).IsScalar

theorem isScalar_ones : Bytes.IsScalar (List.replicate 32 1) := by
  constructor <;> decide

theorem scalarWithin_found {blocks : Nat} (follows : e.Follows given) (enough : e.rest.length ≤ 32 * blocks) :
    ∃ before, Found given e.drawn before ∧ (scalarWithin blocks e).2 = e.skip (32 * (before + 1)) ∧
      (scalarWithin blocks e).1.val = Bytes.toNat (stretch given (e.drawn + 32 * before) 32) := by
  induction blocks generalizing e with
  | zero =>
    have ones : stretch given e.drawn 32 = List.replicate 32 1 := by
      rw [← follows.peek, Entropy.peek, List.length_eq_zero_iff.mp (Nat.le_zero.mp enough)]
      rfl
    refine ⟨0, ⟨fun i below => absurd below i.not_lt_zero, ?_⟩, rfl, ?_⟩
    · rw [Nat.mul_zero, Nat.add_zero, ones]
      exact isScalar_ones
    · rw [Nat.mul_zero, Nat.add_zero, ones]
      rfl
  | succ blocks ih =>
    rw [scalarWithin, follows.peek]
    cases drawn : P256.Scalar.ofNat? (Bytes.toNat (stretch given e.drawn 32)) with
    | some k =>
      refine ⟨0, ⟨fun i below => absurd below i.not_lt_zero, ?_⟩, rfl, ?_⟩
      · exact Bytes.isScalar_iff.mpr ⟨k, drawn⟩
      · exact (P256.Scalar.ofNat?_eq_some_iff.mp drawn).symm
    | none =>
      have passed : ¬(stretch given e.drawn 32).IsScalar := by simp [Bytes.isScalar_iff, drawn]
      have enough' : (e.skip 32).rest.length ≤ 32 * blocks := by
        rw [skip, List.length_drop]
        omega
      obtain ⟨before, found, left, same⟩ := ih (follows.skip 32) enough'
      have next (i : Nat) : e.drawn + 32 * (i + 1) = (e.skip 32).drawn + 32 * i := by
        show _ = e.drawn + 32 + 32 * i
        omega
      refine ⟨before + 1, ⟨?_, ?_⟩, ?_, ?_⟩
      · intro i below
        cases i with
        | zero => exact passed
        | succ i =>
          rw [next]
          exact found.passed i (Nat.lt_of_succ_lt_succ below)
      · rw [next]
        exact found.last
      · rw [left, skip_skip]
        congr 1
        omega
      · rw [next]
        exact same

theorem scalar_found (follows : e.Follows given) :
    ∃ before, Found given e.drawn before ∧ e.scalar.2 = e.skip (32 * (before + 1)) ∧
      e.scalar.1.val = Bytes.toNat (stretch given (e.drawn + 32 * before) 32) :=
  scalarWithin_found follows (by omega)

theorem exists_found (given : Bytes) (start : Nat) : ∃ before, Found given start before := by
  obtain ⟨before, found, -, -⟩ := scalar_found (e := ⟨given.drop start, start⟩) rfl
  exact ⟨before, found⟩

end Entropy

end VpExchange
