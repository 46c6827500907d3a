import VpExchange.Proofs.Answer
import VpExchange.Proofs.Crypto.Cofactor
import VpExchange.Proofs.Encryption.RoundTrip

set_option autoImplicit false

namespace VpExchange

open P256

theorem Token.exists_encrypt (keyId : String) (q : Point) (k : Scalar) (iv text : Bytes) :
    ∃ s, Token.encrypt keyId q k iv text = .ok s := by
  obtain ⟨ephemeral, hE, -⟩ := multiple_eq_ok k generator
  obtain ⟨z, hz, -⟩ := multiple_eq_ok k q
  exact ⟨_, encrypt_eq_ok_iff.mpr ⟨ephemeral, z, hE, hz, rfl⟩⟩

namespace Encryption

variable {b : Backend}

theorem result_ensure (b : Backend) (x : Exchange) : (ensure b x).result =
    if x.isEncrypted then (b.recipient x.profile).map fun _ => () else .ok () := by
  rw [ensure]
  split_ifs
  · rw [Logged.result_bind, Logged.result_liftM]
    cases b.recipient x.profile <;> rfl
  · rfl

theorem envelop_of_recipient {profile : Profile} {m : KeyMaterial} {q : Point}
    (found : b.recipient profile = .ok (m, q)) (payload : Members) (e : Entropy) :
    ∃ token, (envelop b profile payload e).1 = .ok ⟨m.keyId, token⟩ := by
  obtain ⟨token, made⟩ :=
    Token.exists_encrypt m.keyId q e.scalar.1 (e.scalar.2.draw 12).1 (plaintext payload)
  refine ⟨token, ?_⟩
  rw [envelop, found]
  show (Token.encrypt _ _ _ _ _).map _ = _
  rw [made]
  rfl

theorem envelop_of_refused {profile : Profile} {r : Refusal} (refused : b.recipient profile = .error r)
    (payload : Members) (e : Entropy) : (envelop b profile payload e).1 = .error r := by
  rw [envelop, refused]

theorem map_envelop (b : Backend) (profile : Profile) (payload : Members) (e : Entropy) :
    (envelop b profile payload e).1.map (fun _ => ()) = (b.recipient profile).map fun _ => () := by
  cases recipient : b.recipient profile with
  | error r =>
    rw [envelop_of_refused recipient]
    rfl
  | ok found =>
    obtain ⟨token, made⟩ := envelop_of_recipient recipient payload e
    rw [made]
    rfl

theorem map_encrypt (b : Backend) (x : Exchange) (requestId : String) (uri : Option Url)
    (payload : Members) (e : Entropy) (clock : Clock) :
    (encrypt b { x with requestId := requestId } uri payload e clock).1.result.map (fun _ => ()) =
      (ensure b x).result := by
  rw [result_encrypt, result_ensure, ← map_envelop b x.profile payload e]
  show Except.map _ (if x.isEncrypted then _ else _) = _
  split_ifs
  · cases (envelop b x.profile payload e).1 <;> rfl
  · rfl

theorem isEncrypted_of_encrypt {x : Exchange} {uri : Option Url} {payload : Members} {e : Entropy}
    {clock : Clock} {d : Delivery} (h : (encrypt b x uri payload e clock).1.result = .ok d) :
    d.isEncrypted = x.isEncrypted := by
  rw [result_encrypt] at h
  split_ifs at h with encrypted
  · obtain ⟨v, -, rfl⟩ := map_eq_ok_iff.mp h
    exact encrypted.symm
  · cases h
    exact (Bool.eq_false_of_not_eq_true encrypted).symm

/-- What a wallet comes to behind the check: an answer that has to be encrypted can be, for any request
and with any randomness, and a command that fails the check fails as the check does. -/
structure Foretold {α : Type} (b : Backend) (x : Exchange) (answered : Except Refusal α)
    (exchange : α → Exchange) (payload : α → Members) : Prop where
  delivered : ∀ a, answered = .ok a → (exchange a).isEncrypted = true →
    ∀ requestId uri e clock, ∃ d,
      (encrypt b { exchange a with requestId := requestId } uri (payload a) e clock).1.result = .ok d ∧
        d.isEncrypted = true
  refused : ∀ r, (ensure b x).result = .error r → answered = .error r

theorem foretold_of_ensure_bind {α : Type} {x : Exchange} {answered : Except Refusal α}
    {rest : Unit → Logged α} (checked : answered = (ensure b x >>= rest).result)
    {exchange : α → Exchange} (kept : ∀ a, answered = .ok a → exchange a = x)
    (payload : α → Members) : Foretold b x answered exchange payload where
  delivered := by
    intro a answer encrypted requestId uri e clock
    rw [kept a answer] at encrypted ⊢
    obtain ⟨⟨⟩, ensured, -⟩ := Logged.result_bind_eq_ok_iff.mp (checked ▸ answer)
    have both := map_encrypt b x requestId uri (payload a) e clock
    rw [ensured] at both
    obtain ⟨d, delivered, -⟩ := map_eq_ok_iff.mp both
    exact ⟨d, delivered, (isEncrypted_of_encrypt delivered).trans encrypted⟩
  refused := by
    intro r failed
    rw [checked, Logged.bind_of_error failed]

end Encryption

theorem Answer.SdJwt.foretold (b : Backend) (c : AnswerCommand SdJwt) :
    Encryption.Foretold b c.exchange (answer b c).result (·.answer.exchange) (·.answer.payload) := by
  apply Encryption.foretold_of_ensure_bind (congrArg Logged.result (Logged.map_bind ..))
  intro t answered
  obtain ⟨a, assembled, rfl⟩ := answer_eq_ok_iff.mp answered
  obtain ⟨-, credential, -, -, rfl⟩ := assemble_eq_ok_iff.mp assembled
  rfl

theorem Answer.Mdoc.foretold (b : Backend) (trust : TrustIndex) (c : AnswerCommand Mdoc)
    (pointers : List String) :
    Encryption.Foretold b c.exchange (answer b trust c pointers).result (·.answer.answer.exchange)
      (·.answer.answer.payload) := by
  apply Encryption.foretold_of_ensure_bind (congrArg Logged.result (Logged.map_bind ..))
  intro t answered
  obtain ⟨d, assembled, rfl⟩ := answer_eq_ok_iff.mp answered
  obtain ⟨-, credential, claims, bytes, -, -, -, -, rfl⟩ := assemble_eq_ok_iff.mp assembled
  rfl

/-- The check and the encryption of any payload, for any request of the same profile and mode, both pass
or are both refused alike, problem and causes; and both wallets come to what the check has foretold,
whatever else their commands say. -/
theorem ensure_foretells (b : Backend) (x : Exchange) :
    (∀ requestId uri payload e clock,
      (Encryption.encrypt b { x with requestId := requestId } uri payload e clock).1.result.map
        (fun _ => ()) = (Encryption.ensure b x).result) ∧
    (∀ c : AnswerCommand SdJwt, c.exchange = x →
      Encryption.Foretold b x (Answer.SdJwt.answer b c).result (·.answer.exchange) (·.answer.payload)) ∧
    ∀ (trust : TrustIndex) (c : AnswerCommand Mdoc) (pointers : List String), c.exchange = x →
      Encryption.Foretold b x (Answer.Mdoc.answer b trust c pointers).result (·.answer.answer.exchange)
        (·.answer.answer.payload) := by
  refine ⟨Encryption.map_encrypt b x, ?_, ?_⟩
  · rintro c rfl
    exact Answer.SdJwt.foretold b c
  · rintro trust c pointers rfl
    exact Answer.Mdoc.foretold b trust c pointers

def Encryption.sampleCommand : AnswerCommand SdJwt where
  exchange := ⟨"request-1", .haip, .directPostJwt⟩
  presetId := none
  credential := some ⟨"pid-1", Presentation.sdJwtFormat, "issuer.signed.jwt", [], none, none, []⟩
  policy := none
  verbose := false

-- With the verifier's key the answer can be sent; without one, it is not even noticed that a command has
-- two credentials.
theorem ensure_foretells_sample :
    (∃ t d, (Answer.SdJwt.answer Encryption.sampleBackend Encryption.sampleCommand).result = .ok t ∧
      (Encryption.encrypt Encryption.sampleBackend
        { Encryption.sampleCommand.exchange with requestId := "request-2" } none t.answer.payload
        (Entropy.ofBytes []) ⟨[]⟩).1.result = .ok d ∧ d.isEncrypted = true) ∧
    ∃ r, (Answer.SdJwt.answer ⟨Store.empty, Outage.none⟩
      { Encryption.sampleCommand with presetId := some "nobody" }).result = .error r ∧
      r.detail = "verifier encryption key is unavailable" := by
  constructor
  · obtain ⟨q, point, -⟩ := Encryption.isPaired_sample.point_eq
    have ensured := (Encryption.ensure_eq_ok_iff (b := Encryption.sampleBackend)
      (x := Encryption.sampleCommand.exchange)).mpr fun _ => ⟨_, q, rfl, point⟩
    have satisfied : Satisfied Encryption.sampleCommand.policy [] := nofun
    obtain ⟨t, answered, kept⟩ : ∃ t,
        (Answer.SdJwt.answer Encryption.sampleBackend Encryption.sampleCommand).result = .ok t ∧
          t.answer.exchange = Encryption.sampleCommand.exchange :=
      ⟨_, Answer.SdJwt.answer_eq_ok_iff.mpr
        ⟨_, Answer.SdJwt.assemble_eq_ok_iff.mpr ⟨ensured, _, rfl, satisfied, rfl⟩, rfl⟩, rfl⟩
    obtain ⟨d, sent, encrypted⟩ := ((ensure_foretells Encryption.sampleBackend
      Encryption.sampleCommand.exchange).2.1 Encryption.sampleCommand rfl).delivered t answered
      (by rw [kept]; rfl) "request-2" none (Entropy.ofBytes []) ⟨[]⟩
    rw [kept] at sent
    exact ⟨t, d, answered, sent, encrypted⟩
  · exact ⟨_, ((ensure_foretells ⟨Store.empty, Outage.none⟩ Encryption.sampleCommand.exchange).2.1
      { Encryption.sampleCommand with presetId := some "nobody" } rfl).refused _ rfl, rfl⟩

end VpExchange
