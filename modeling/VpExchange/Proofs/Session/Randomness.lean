import VpExchange.Proofs.Acceptance.Decision
import VpExchange.Proofs.Encryption.Enforcement
import VpExchange.Proofs.Entropy
import VpExchange.Proofs.Session.Frame

set_option autoImplicit false

namespace VpExchange

open P256

/-- A token made from the bytes of a stream between two positions: blocks of which only the last is a scalar,
and behind them the initialisation vector. -/
structure Token.MadeFrom (given : Bytes) (start before stop : Nat) (token : String) : Prop where
  found : Entropy.Found given start before
  parts : ∃ header h t k q, Spelled token header h t ∧
    k.val = Bytes.toNat (Entropy.stretch given (start + 32 * before) 32) ∧
    multiple k generator = .ok q ∧ h.epk = Jwk.ofPoint q ∧
    t.iv = Entropy.stretch given (start + 32 * (before + 1)) 12
  stop : stop = start + 32 * (before + 1) + 12

namespace Encryption

variable {b : Backend} {x : Exchange} {uri : Option Url} {payload : Members} {e : Entropy} {clock : Clock}

theorem entropy_envelop (b : Backend) (profile : Profile) (payload : Members) (e : Entropy) :
    (envelop b profile payload e).2 = match b.recipient profile with
      | .error _ => e
      | .ok _ => e.scalar.2.skip 12 := by
  rw [envelop]
  cases b.recipient profile <;> rfl

theorem entropy_encrypt (b : Backend) (x : Exchange) (uri : Option Url) (payload : Members) (e : Entropy)
    (clock : Clock) : (encrypt b x uri payload e clock).2.1 =
      if x.isEncrypted then (envelop b x.profile payload e).2 else e := by
  rw [encrypt]
  split_ifs
  · cases envelop b x.profile payload e with
    | mk result e' => cases result <;> rfl
  · rfl

theorem entropy_encrypt_of_refused {r : Refusal} (refused : (encrypt b x uri payload e clock).1.result = .error r) :
    (encrypt b x uri payload e clock).2.1 = e := by
  rw [result_encrypt] at refused
  rw [entropy_encrypt]
  split_ifs at refused ⊢
  rw [entropy_envelop]
  cases recipient : b.recipient x.profile with
  | error _ => rfl
  | ok found =>
    obtain ⟨token, made⟩ := envelop_of_recipient recipient payload e
    rw [made] at refused
    cases refused

theorem encrypt_madeFrom {given : Bytes} (follows : e.Follows given) (encrypted : x.isEncrypted = true)
    {d : Delivery} (sent : (encrypt b x uri payload e clock).1.result = .ok d) : ∃ v before,
      d.envelope = some v ∧
        Token.MadeFrom given e.drawn before (encrypt b x uri payload e clock).2.1.drawn v.token := by
  rw [result_encrypt, if_pos encrypted] at sent
  obtain ⟨v, made, rfl⟩ := map_eq_ok_iff.mp sent
  obtain ⟨m, q, ephemeral, z, key, point, made', -, rfl⟩ := envelop_eq_ok_iff.mp made
  obtain ⟨before, found, left, scalar⟩ := Entropy.scalar_found follows
  have iv : e.scalar.2.peek 12 = Entropy.stretch given (e.drawn + 32 * (before + 1)) 12 := by
    rw [left]
    exact (follows.skip _).peek 12
  refine ⟨_, before, rfl, found, ?_, ?_⟩
  · exact ⟨_, _, _, e.scalar.1, ephemeral, Token.spelled_sealed (Entropy.length_peek _ 12), scalar, made',
      rfl, iv⟩
  · rw [entropy_encrypt, if_pos encrypted, entropy_envelop, recipient_eq_ok_iff.mpr ⟨key, point⟩, left]
    rfl

end Encryption

namespace Session

variable {s : Session} {step : Step}

theorem entropy_perform (numbered : s.sources.1 ≠ .random) (step : Step) :
    (s.perform step).2.sources.2 = s.sources.2 ∨
    ∃ x uri payload verbose, s.call? step = some (.encrypt x uri payload verbose) ∧
      (s.perform step).2.sources.2 =
        (Encryption.encrypt s.backend x uri payload s.sources.2 s.clock).2.1 := by
  cases called : s.call? step with
  | none => exact .inl (congrArg (·.2) (sources_of_no_call called))
  | some c =>
    rw [perform_of_call called]
    cases c with
    | create c =>
      obtain ⟨made, seeds, -, drawn⟩ := c.create_of_not_random s.config s.backend numbered
      left
      show (c.create s.config s.backend (s.sources.1, s.sources.2)).2.2 = _
      rw [drawn]
    | encrypt x uri payload verbose => exact .inr ⟨x, uri, payload, verbose, rfl, rfl⟩
    | _ => exact .inl rfl

theorem follows_perform {given : Bytes} (numbered : s.sources.1 ≠ .random)
    (follows : s.sources.2.Follows given) (step : Step) :
    (s.perform step).2.sources.2.Follows given ∧
      s.sources.2.drawn ≤ (s.perform step).2.sources.2.drawn := by
  rcases entropy_perform numbered step with kept | ⟨x, uri, payload, verbose, -, drawn⟩
  · rw [kept]
    exact ⟨follows, Nat.le_refl _⟩
  · rw [drawn, Encryption.entropy_encrypt]
    split_ifs
    · rw [Encryption.entropy_envelop]
      cases s.backend.recipient x.profile with
      | error r => exact ⟨follows, Nat.le_refl _⟩
      | ok found =>
        obtain ⟨before, -, left, -⟩ := Entropy.scalar_found follows
        rw [left, Entropy.skip_skip]
        exact ⟨follows.skip _, Nat.le_add_right _ _⟩
    · exact ⟨follows, Nat.le_refl _⟩

theorem follows_next {given : Bytes} (numbered : s.sources.1 ≠ .random)
    (follows : s.sources.2.Follows given) (step : Option Step) :
    (s.next step).2.sources.2.Follows given ∧ s.sources.2.drawn ≤ (s.next step).2.sources.2.drawn := by
  cases step with
  | none => exact ⟨follows, Nat.le_refl _⟩
  | some step => exact follows_perform numbered follows step

theorem follows_after {given : Bytes} (numbered : s.sources.1 ≠ .random)
    (follows : s.sources.2.Follows given) (steps : List (Option Step)) :
    (s.after steps).sources.2.Follows given := by
  induction steps generalizing s with
  | nil => exact follows
  | cons step steps ih => exact ih (given_next numbered step) (follows_next numbered follows step).1

/-- Where in the stream each step of a run has begun and ended. -/
def reads : Session → List (Option Step) → List (Nat × Nat)
  | _, [] => []
  | s, step :: steps =>
    (s.sources.2.drawn, (s.next step).2.sources.2.drawn) :: (s.next step).2.reads steps

theorem reads_ascend {given : Bytes} (numbered : s.sources.1 ≠ .random)
    (follows : s.sources.2.Follows given) (steps : List (Option Step)) :
    (s.reads steps).Pairwise (fun earlier later => earlier.2 ≤ later.1) ∧
      ∀ read ∈ s.reads steps, s.sources.2.drawn ≤ read.1 := by
  induction steps generalizing s with
  | nil => exact ⟨.nil, nofun⟩
  | cons step steps ih =>
    obtain ⟨follows', onward⟩ := follows_next numbered follows step
    obtain ⟨ascend, beyond⟩ := ih (given_next numbered step) follows'
    refine ⟨.cons beyond ascend, ?_⟩
    intro read inside
    rcases List.mem_cons.mp inside with rfl | later
    · exact Nat.le_refl _
    · exact onward.trans (beyond read later)

theorem encrypt_of_call {x : Exchange} {uri : Option Url} {payload : Members} {verbose : Bool}
    (called : s.call? step = some (.encrypt x uri payload verbose)) :
    let sent := Encryption.encrypt s.backend x uri payload s.sources.2 s.clock
    (s.perform step).1.result = (sent.1.result.map fun d =>
      .delivered (Traced.of verbose Delivery.trace d) sent.2.1.drawn).mapError .refused ∧
    (s.perform step).2.sources.2 = sent.2.1 := by
  rw [perform_of_call called]
  exact ⟨rfl, rfl⟩

end Session

end VpExchange
