import VpExchange.Encryption.Opened
import VpExchange.Proofs.Jose.Token

set_option autoImplicit false

namespace VpExchange.Encryption

/-- What is handed to the cipher: the secret that the content key is derived from, and the token. -/
def handed (b : Backend) (requestId : String) (profile : Profile) (s : String) :
    Logged (Bytes × Token) := do
  let t ← Token.parse s
  let m ← b.keyMaterial profile
  checkKeyId requestId m t.kid
  let k ← Backend.usable m.scalar
  let secret ← Token.agree k t.ephemeral
  return (secret, t)

def unsealed (secret : Bytes) (t : Token) : Except Refusal Bytes :=
  match Gcm.decrypt? (Token.cipher secret) t.iv (Bytes.ofText t.headerSegment) t.text t.tag with
  | some bs => .ok bs
  | none => .error ((Refusal.invalidRequest "direct_post.jwt could not be decrypted").withCause
      ["AES-GCM authentication failed"])

def opened (requestId : String) (profile : Profile) (secret : Bytes) (t : Token) : Logged Opened := do
  let text ← unsealed secret t
  let payload ← payloadOf text
  Logged.debug "decrypted direct_post.jwt response"
    [("request_id", .str requestId), ("kid", showKeyId t.kid)]
  return ⟨requestId, profile, t.kid, payload⟩

theorem token_decrypt (t : Token) (k : P256.Scalar) :
    t.decrypt k = Token.agree k t.ephemeral >>= fun secret => unsealed secret t := by
  refine congrArg (Token.agree k t.ephemeral >>= ·) (funext fun secret => ?_)
  rw [unsealed]
  cases Gcm.decrypt? (Token.cipher secret) t.iv (Bytes.ofText t.headerSegment) t.text t.tag with
  | none => rfl
  | some bs => rfl

theorem liftM_bind {α β : Type} (x : Except Refusal α) (f : α → Except Refusal β) :
    (liftM (x >>= f) : Logged β) = liftM x >>= fun a => liftM (f a) := by
  cases x <;> rfl

-- All checks before the cipher are on one side and all after it on the other.
theorem decrypt_eq_handed (b : Backend) (requestId : String) (profile : Profile) (s : String) :
    decrypt b requestId profile s =
      handed b requestId profile s >>= fun (secret, t) => opened requestId profile secret t := by
  simp only [decrypt, handed, opened, token_decrypt, liftM_bind, Logged.bind_assoc, Logged.pure_bind]

/-- The verifier holds a key for the profile, the token names no other, and the secret is the first
coordinate of the product of the key's scalar and the token's point. -/
def Shared (b : Backend) (profile : Profile) (t : Token) (secret : Bytes) : Prop :=
  ∃ m d z, b.key profile = .ok m ∧ (∀ kid, t.kid = some kid → kid = m.keyId) ∧
    m.privateJwk.IsPrivate d ∧ P256.multiple d t.ephemeral = .ok z ∧ secret = Bytes.ofNat 32 z.x

def Opens (b : Backend) (profile : Profile) (s : String) (kid : Option String) (payload : Members) :
    Prop :=
  ∃ header h t secret text, Token.Spelled s header h t ∧ h.kid = kid ∧ Shared b profile t secret ∧
    Gcm.decrypt? (Aes.encrypt (ContentKey.ofSecret secret)) t.iv
      (Bytes.ofText (Base64.encode header)) t.text t.tag = some text ∧
    Json.read text = .ok (.obj payload)

theorem checkKeyId_eq_ok_iff {requestId : String} {m : KeyMaterial} {kid : Option String} {u : Unit} :
    (checkKeyId requestId m kid).result = .ok u ↔ ∀ k, kid = some k → k = m.keyId := by
  cases kid with
  | none => exact ⟨fun _ => nofun, fun _ => rfl⟩
  | some kid =>
    rw [checkKeyId]
    split_ifs with other
    · exact ⟨nofun, fun h => absurd (h kid rfl) other⟩
    · refine ⟨?_, fun _ => rfl⟩
      rintro - _ ⟨⟩
      exact not_not.mp other

theorem keyMaterial_eq_ok_iff {b : Backend} {profile : Profile} {m : KeyMaterial} :
    b.keyMaterial profile = .ok m ↔ b.key profile = .ok m :=
  Refusal.ofChain_eq_ok_iff

theorem usable_eq_ok_iff {α : Type} {x : Except Jwk.Error α} {a : α} :
    Backend.usable x = .ok a ↔ x = .ok a := by
  rw [Backend.usable, Refusal.ofChain_eq_ok_iff, mapError_eq_ok_iff]

theorem handed_eq_ok_iff {b : Backend} {requestId : String} {profile : Profile} {s : String}
    {secret : Bytes} {t : Token} :
    (handed b requestId profile s).result = .ok (secret, t) ↔
      (∃ header h, Token.Spelled s header h t) ∧ Shared b profile t secret := by
  simp only [handed, Logged.result_bind_eq_ok_iff, Logged.result_liftM, Token.parse_eq_ok_iff,
    keyMaterial_eq_ok_iff, checkKeyId_eq_ok_iff, usable_eq_ok_iff, KeyMaterial.scalar,
    Jwk.scalar_eq_ok_iff, Token.agree_eq_ok_iff, Logged.result_pure]
  constructor
  · rintro ⟨t', spelled, m, key, -, kid, d, hd, secret', ⟨z, hz, rfl⟩, ⟨⟩⟩
    exact ⟨spelled, m, d, z, key, kid, hd, hz, rfl⟩
  · rintro ⟨spelled, m, d, z, key, kid, hd, hz, rfl⟩
    exact ⟨t, spelled, m, key, (), kid, d, hd, _, ⟨z, hz, rfl⟩, rfl⟩

theorem unsealed_eq_ok_iff {secret : Bytes} {t : Token} {text : Bytes} :
    unsealed secret t = .ok text ↔
      Gcm.decrypt? (Token.cipher secret) t.iv (Bytes.ofText t.headerSegment) t.text t.tag = some text := by
  rw [unsealed]
  split
  next h => simp [h]
  next h => simp [h]

theorem payloadOf_eq_ok_iff {text : Bytes} {payload : Members} :
    payloadOf text = .ok payload ↔ Json.read text = .ok (.obj payload) := by
  cases h : Json.read text with
  | error f => simp [payloadOf, h]
  | ok j => cases j <;> simp [payloadOf, h]

theorem result_opened (requestId : String) (profile : Profile) (secret : Bytes) (t : Token) :
    (opened requestId profile secret t).result =
      (unsealed secret t >>= payloadOf).map fun payload => ⟨requestId, profile, t.kid, payload⟩ := by
  simp only [opened, Logged.result_bind, Logged.result_liftM]
  cases unsealed secret t with
  | error r => rfl
  | ok text =>
    show ((payloadOf text).bind fun payload => _) = (payloadOf text).map _
    cases payloadOf text <;> rfl

theorem opened_eq_ok_iff {requestId : String} {profile : Profile} {secret : Bytes} {t : Token}
    {o : Opened} :
    (opened requestId profile secret t).result = .ok o ↔
      ∃ text payload, unsealed secret t = .ok text ∧ payloadOf text = .ok payload ∧
        o = ⟨requestId, profile, t.kid, payload⟩ := by
  simp only [result_opened, map_eq_ok_iff, bind_eq_ok_iff]
  constructor
  · rintro ⟨payload, ⟨text, htext, hpayload⟩, rfl⟩
    exact ⟨text, payload, htext, hpayload, rfl⟩
  · rintro ⟨text, payload, htext, hpayload, rfl⟩
    exact ⟨payload, ⟨text, htext, hpayload⟩, rfl⟩

theorem decrypt_eq_ok_iff {b : Backend} {requestId : String} {profile : Profile} {s : String}
    {o : Opened} :
    (decrypt b requestId profile s).result = .ok o ↔
      Opens b profile s o.keyId o.payload ∧ o.requestId = requestId ∧ o.profile = profile := by
  rw [decrypt_eq_handed, Logged.result_bind_eq_ok_iff]
  constructor
  · rintro ⟨⟨secret, t⟩, reached, out⟩
    obtain ⟨⟨header, h, spelled⟩, shared⟩ := handed_eq_ok_iff.mp reached
    obtain ⟨text, payload, htext, hpayload, rfl⟩ := opened_eq_ok_iff.mp out
    refine ⟨⟨header, h, t, secret, text, spelled, spelled.kid.symm, shared, ?_, ?_⟩, rfl, rfl⟩
    · rw [← spelled.headerSegment]
      exact unsealed_eq_ok_iff.mp htext
    · exact payloadOf_eq_ok_iff.mp hpayload
  · rintro ⟨⟨header, h, t, secret, text, spelled, kid, shared, htext, hpayload⟩, rfl, rfl⟩
    refine ⟨(secret, t), handed_eq_ok_iff.mpr ⟨⟨header, h, spelled⟩, shared⟩, ?_⟩
    refine opened_eq_ok_iff.mpr ⟨text, o.payload, unsealed_eq_ok_iff.mpr ?_,
      payloadOf_eq_ok_iff.mpr hpayload, ?_⟩
    · rw [spelled.headerSegment]
      exact htext
    · rw [spelled.kid, kid]

theorem refuses_keyMaterial (b : Backend) (profile : Profile) :
    Refusal.RefusesWith [.invalidRequest] (b.keyMaterial profile) :=
  Refusal.refuses_ofChain (by decide) _

theorem refuses_usable {α : Type} (x : Except Jwk.Error α) :
    Refusal.RefusesWith [.invalidRequest] (Backend.usable x) :=
  Refusal.refuses_ofChain (by decide) _

theorem refuses_checkKeyId (requestId : String) (m : KeyMaterial) (kid : Option String) :
    Refusal.RefusesWith [.invalidRequest] (checkKeyId requestId m kid).result := by
  cases kid with
  | none => exact Refusal.refuses_ok ()
  | some kid =>
    rw [checkKeyId]
    split_ifs
    · exact Refusal.refuses_error (by simp) rfl
    · exact Refusal.refuses_ok ()

theorem refuses_handed (b : Backend) (requestId : String) (profile : Profile) (s : String) :
    Refusal.RefusesWith [.invalidRequest] (handed b requestId profile s).result := by
  apply Logged.refuses_result_bind (Token.refuses_parse s)
  intro t
  apply Logged.refuses_result_bind (refuses_keyMaterial b profile)
  intro m
  apply Logged.refuses_result_bind (refuses_checkKeyId requestId m t.kid)
  intro _
  apply Logged.refuses_result_bind (refuses_usable m.scalar)
  intro k
  apply Logged.refuses_result_bind (Token.refuses_agree k t.ephemeral)
  intro secret
  exact Refusal.refuses_ok _

theorem refuses_unsealed (secret : Bytes) (t : Token) :
    Refusal.RefusesWith [.invalidRequest] (unsealed secret t) := by
  rw [unsealed]
  split
  · exact Refusal.refuses_ok _
  · exact Refusal.refuses_ofChain (by decide) (.error _)

theorem refuses_payloadOf (text : Bytes) : Refusal.RefusesWith [.invalidRequest] (payloadOf text) := by
  rw [payloadOf]
  split
  · exact Refusal.refuses_ok _
  · exact Refusal.refuses_error (by simp) rfl
  · exact Refusal.refuses_ofChain (by decide) (.error _)

theorem refuses_decrypt (b : Backend) (requestId : String) (profile : Profile) (s : String) :
    Refusal.RefusesWith [.invalidRequest] (decrypt b requestId profile s).result := by
  rw [decrypt_eq_handed]
  apply Logged.refuses_result_bind (refuses_handed b requestId profile s)
  rintro ⟨secret, t⟩
  show Refusal.RefusesWith [.invalidRequest] (opened requestId profile secret t).result
  rw [result_opened]
  exact Refusal.refuses_map (Refusal.refuses_bind (refuses_unsealed secret t) refuses_payloadOf) _

theorem within_decrypt (b : Backend) (requestId : String) (profile : Profile) (s : String) :
    Refusal.Within [.invalidRequest] (decrypt b requestId profile s).result :=
  (refuses_decrypt b requestId profile s).within

/-- Decrypting accepts the texts that the key opens, with what is inside, and nothing else. All others
are invalid requests, and one that spells no token is answered alike whatever the store and the key. -/
theorem decrypt_decides (b : Backend) (requestId : String) (profile : Profile) (s : String) :
    (∀ o, (decrypt b requestId profile s).result = .ok o ↔
      Opens b profile s o.keyId o.payload ∧ o.requestId = requestId ∧ o.profile = profile) ∧
    ((∃ kid payload, Opens b profile s kid payload) ∨
      ∃ r, (decrypt b requestId profile s).result = .error r ∧ r.code = .invalidRequest) ∧
    ((∃ header h t, Token.Spelled s header h t) ∨
      ∃ r, r.code = .invalidRequest ∧
        ∀ b' requestId' profile', decrypt b' requestId' profile' s = throw r) := by
  refine ⟨fun o => decrypt_eq_ok_iff, ?_, ?_⟩
  · cases h : (decrypt b requestId profile s).result with
    | ok o => exact .inl ⟨o.keyId, o.payload, (decrypt_eq_ok_iff.mp h).1⟩
    | error r => exact .inr ⟨r, rfl, List.mem_singleton.mp (within_decrypt b requestId profile s r h)⟩
  · cases h : Token.parse s with
    | ok t =>
      obtain ⟨header, hd, spelled⟩ := Token.parse_eq_ok_iff.mp h
      exact .inl ⟨header, hd, t, spelled⟩
    | error r =>
      refine .inr ⟨r, List.mem_singleton.mp (Token.within_parse s r h), fun b' requestId' profile' => ?_⟩
      rw [decrypt, h]
      rfl

end VpExchange.Encryption
