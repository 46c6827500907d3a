import VpExchange.Encryption.Delivery
import VpExchange.Proofs.Encryption.Opening
import VpExchange.Proofs.Jose.Sealing

set_option autoImplicit false

namespace VpExchange.Encryption

open P256

variable {b : Backend} {profile : Profile}

theorem recipient_eq_ok_iff {m : KeyMaterial} {q : Point} :
    b.recipient profile = .ok (m, q) ↔ b.key profile = .ok m ∧ m.point = .ok q := by
  simp only [Backend.recipient, bind_eq_ok_iff, keyMaterial_eq_ok_iff, usable_eq_ok_iff, pure_eq_ok_iff]
  constructor
  · rintro ⟨m', key, q', point, ⟨⟩⟩
    exact ⟨key, point⟩
  · rintro ⟨key, point⟩
    exact ⟨m, key, q, point, rfl⟩

theorem ensure_eq_ok_iff {x : Exchange} : (ensure b x).result = .ok () ↔
    (x.isEncrypted = true → ∃ m q, b.key x.profile = .ok m ∧ m.point = .ok q) := by
  rw [ensure]
  cases x.isEncrypted with
  | false => exact ⟨fun _ => nofun, fun _ => rfl⟩
  | true =>
    simp only [if_true, Logged.result_bind_eq_ok_iff, Logged.result_liftM, Prod.exists,
      recipient_eq_ok_iff]
    constructor
    · rintro ⟨m, q, found, -⟩ -
      exact ⟨m, q, found⟩
    · intro h
      obtain ⟨m, q, found⟩ := h trivial
      exact ⟨m, q, found, rfl⟩

def envelopeOf (m : KeyMaterial) (ephemeral z : Point) (iv : Bytes) (payload : Members) : Envelope :=
  ⟨m.keyId, (Token.sealed m.keyId ephemeral (Bytes.ofNat 32 z.x) iv (plaintext payload)).spelling⟩

theorem envelop_eq_ok_iff {payload : Members} {e : Entropy} {v : Envelope} :
    (envelop b profile payload e).1 = .ok v ↔ ∃ m q ephemeral z, b.key profile = .ok m ∧
      m.point = .ok q ∧ multiple e.scalar.1 generator = .ok ephemeral ∧
      multiple e.scalar.1 q = .ok z ∧ v = envelopeOf m ephemeral z (e.scalar.2.peek 12) payload := by
  rw [envelop]
  cases recipient : b.recipient profile with
  | error r =>
    refine ⟨nofun, ?_⟩
    rintro ⟨m, q, -, -, key, point, -⟩
    rw [recipient_eq_ok_iff.mpr ⟨key, point⟩] at recipient
    cases recipient
  | ok r =>
    obtain ⟨m, q⟩ := r
    obtain ⟨key, point⟩ := recipient_eq_ok_iff.mp recipient
    show (Token.encrypt _ _ _ _ _).map _ = .ok v ↔ _
    simp only [map_eq_ok_iff, Token.encrypt_eq_ok_iff]
    constructor
    · rintro ⟨token, ⟨ephemeral, z, hE, hz, rfl⟩, rfl⟩
      exact ⟨m, q, ephemeral, z, key, point, hE, hz, rfl⟩
    · rintro ⟨m', q', ephemeral, z, key', point', hE, hz, rfl⟩
      obtain rfl := Except.ok.inj (key.symm.trans key')
      obtain rfl := Except.ok.inj (point.symm.trans point')
      exact ⟨_, ⟨ephemeral, z, hE, hz, rfl⟩, rfl⟩

theorem result_encrypt (b : Backend) (x : Exchange) (uri : Option Url) (payload : Members) (e : Entropy)
    (clock : Clock) : (encrypt b x uri payload e clock).1.result =
      if x.isEncrypted then (envelop b x.profile payload e).1.map fun v =>
        ⟨x, uri, some v, clock.now.2.now.1 - clock.now.1⟩
      else .ok ⟨x, uri, none, 0⟩ := by
  rw [encrypt]
  split_ifs with encrypted
  · cases envelop b x.profile payload e with
    | mk result e' => cases result <;> rfl
  · rfl

end VpExchange.Encryption
