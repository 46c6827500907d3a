import Mathlib.Tactic.Common
import VpExchange.Json.Reader

set_option autoImplicit false

namespace VpExchange.Json.Reader

variable {α β σ ρ : Type}

theorem run_bind_ok {x : Reader α} {f : α → Reader β} {input rest : Bytes} {a : α}
    (h : x.run input = .ok (a, rest)) : (x >>= f).run input = (f a).run rest := by
  rw [StateT.run_bind, h]
  rfl

theorem run_bind_error {x : Reader α} {f : α → Reader β} {input : Bytes} {e : Fault}
    (h : x.run input = .error e) : (x >>= f).run input = .error e := by
  rw [StateT.run_bind, h]
  rfl

theorem run_bind_peek (f : Option UInt8 → Reader β) (input : Bytes) :
    (peek >>= f).run input = (f input.head?).run input := rfl

theorem run_bind_drop (f : Unit → Reader β) (b : UInt8) (rest : Bytes) :
    (drop >>= f).run (b :: rest) = (f ()).run rest := rfl

theorem run_next {b : UInt8} (h : isSpace b = false) (rest : Bytes) :
    next.run (b :: rest) = .ok (some b, b :: rest) := by
  show Except.ok _ = _
  rw [List.dropWhile_cons_of_neg (by simp [h])]
  rfl

theorem run_bind_next {b : UInt8} (h : isSpace b = false) (f : Option UInt8 → Reader β) (rest : Bytes) :
    (next >>= f).run (b :: rest) = (f (some b)).run (b :: rest) :=
  run_bind_ok (run_next h rest)

theorem run_word (cs : List Char) (rest : Bytes) :
    (word cs).run (cs.map byte ++ rest) = .ok ((), rest) := by
  induction cs with
  | nil => rfl
  | cons c cs ih =>
    rw [List.map_cons, List.cons_append, word, run_bind_peek]
    show (drop >>= _).run _ = _
    rw [run_bind_drop, if_pos rfl, ih]

-- A loop is read off its steps: a step that goes on takes at least a byte, which is why the bound of
-- the loop is never reached.
inductive Runs (step : σ → Reader (σ ⊕ ρ)) : σ → Bytes → Except Fault (ρ × Bytes) → Prop
  | stop {s : σ} {input rest : Bytes} {r : ρ} (h : (step s).run input = .ok (.inr r, rest)) :
      Runs step s input (.ok (r, rest))
  | fail {s : σ} {input : Bytes} {e : Fault} (h : (step s).run input = .error e) :
      Runs step s input (.error e)
  | step {s t : σ} {input rest : Bytes} {result : Except Fault (ρ × Bytes)}
      (h : (step s).run input = .ok (.inl t, rest)) (shorter : rest.length < input.length)
      (later : Runs step t rest result) : Runs step s input result

theorem run_loopFor {step : σ → Reader (σ ⊕ ρ)} {s : σ} {input : Bytes}
    {result : Except Fault (ρ × Bytes)} (h : Runs step s input result) {n : Nat}
    (bound : input.length < n) : (loopFor step n s).run input = result := by
  -- On the chain of steps; the bound shrinks by one where the input shrinks by at least one.
  induction h generalizing n with
  | stop h =>
    obtain ⟨n, rfl⟩ := Nat.exists_eq_add_of_lt bound
    rw [loopFor, run_bind_ok h]
    rfl
  | fail h =>
    obtain ⟨n, rfl⟩ := Nat.exists_eq_add_of_lt bound
    rw [loopFor, run_bind_error h]
  | step h shorter _ ih =>
    obtain ⟨n, rfl⟩ := Nat.exists_eq_add_of_lt bound
    rw [loopFor, run_bind_ok h]
    exact ih (by omega)

theorem run_loop {step : σ → Reader (σ ⊕ ρ)} {s : σ} {input : Bytes}
    {result : Except Fault (ρ × Bytes)} (h : Runs step s input result) :
    (loop step s).run input = result :=
  run_loopFor h (Nat.lt_succ_self _)

end VpExchange.Json.Reader
