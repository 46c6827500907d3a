import VpExchange.Proofs.Encryption.Enforcement

set_option autoImplicit false

namespace VpExchange

open P256

namespace KeyMaterial

def sending (m : KeyMaterial) : String × Except Jwk.Error Point := (m.keyId, m.point)

def receiving (m : KeyMaterial) : String × Except Jwk.Error Scalar := (m.keyId, m.scalar)

theorem receiving_eq (m : KeyMaterial) (publicJwk : Option Jwk) :
    m.receiving = { m with publicJwk := publicJwk : KeyMaterial }.receiving := rfl

theorem sending_eq {m : KeyMaterial} (given : m.publicJwk ≠ none) (privateJwk : Jwk) :
    m.sending = { m with privateJwk := privateJwk : KeyMaterial }.sending := by
  obtain ⟨j, given⟩ := Option.ne_none_iff_exists'.mp given
  simp only [sending, point, given]

theorem exists_sending_derived {m : KeyMaterial} {d : Scalar} (scalar : m.scalar = .ok d)
    (absent : m.publicJwk = none) : ∃ q, Jwk.publicPoint d = .ok q ∧
      m.sending = { m with publicJwk := some (Jwk.ofPoint q) : KeyMaterial }.sending := by
  obtain ⟨q, product, -⟩ := multiple_eq_ok d generator
  have derived : Jwk.publicPoint d = .ok q := Jwk.publicPoint_eq_ok_iff.mpr product
  have written : (Jwk.ofPoint q).point = .ok q := Jwk.point_eq_ok_iff.mpr (Jwk.isPublic_ofPoint q)
  refine ⟨q, derived, ?_⟩
  simp only [sending, point, absent, scalar, written]
  exact congrArg _ derived

end KeyMaterial

namespace Encryption

variable {b b' : Backend}

/-- The same responses can be encrypted, and they are encrypted to the same tokens. -/
structure SendsAlike (b b' : Backend) : Prop where
  ensure : ∀ x, ensure b x = ensure b' x
  encrypt : ∀ x uri payload e clock, encrypt b x uri payload e clock = encrypt b' x uri payload e clock

theorem recipient_alike {profile : Profile}
    (same : (b.key profile).map KeyMaterial.sending = (b'.key profile).map KeyMaterial.sending) :
    (b.recipient profile).map (fun r => (r.1.keyId, r.2)) =
      (b'.recipient profile).map (fun r => (r.1.keyId, r.2)) := by
  rw [Backend.recipient, Backend.recipient, Backend.keyMaterial, Backend.keyMaterial]
  rcases alike_of_map_eq same with ⟨cause, key, key'⟩ | ⟨m, m', key, key', same⟩
  · rw [key, key']
  · obtain ⟨keyId, point⟩ := Prod.ext_iff.mp same
    rw [key, key']
    show ((Backend.usable m.point).bind fun q => _).map _ = ((Backend.usable m'.point).bind fun q => _).map _
    rw [show m.point = m'.point from point]
    cases Backend.usable m'.point with
    | error r => rfl
    | ok q => exact congrArg (fun id => Except.ok (id, q)) keyId

theorem envelop_alike {profile : Profile}
    (same : (b.key profile).map KeyMaterial.sending = (b'.key profile).map KeyMaterial.sending)
    (payload : Members) (e : Entropy) : envelop b profile payload e = envelop b' profile payload e := by
  rw [envelop, envelop]
  rcases alike_of_map_eq (recipient_alike same) with
    ⟨r, refused, refused'⟩ | ⟨⟨m, q⟩, ⟨m', q'⟩, found, found', same⟩
  · rw [refused, refused']
  · obtain ⟨keyId, rfl⟩ := Prod.ext_iff.mp same
    rw [found, found']
    show (Except.map _ (Token.encrypt m.keyId ..), _) = (Except.map _ (Token.encrypt m'.keyId ..), _)
    rw [show m.keyId = m'.keyId from keyId]

theorem sendsAlike_of_keys
    (same : ∀ profile, (b.key profile).map KeyMaterial.sending = (b'.key profile).map KeyMaterial.sending) :
    SendsAlike b b' where
  ensure x := by
    rw [Encryption.ensure, Encryption.ensure]
    rcases alike_of_map_eq (recipient_alike (same x.profile)) with
      ⟨r, refused, refused'⟩ | ⟨⟨m, q⟩, ⟨m', q'⟩, found, found', same⟩
    · rw [refused, refused']
    · have keyId : m.keyId = m'.keyId := congrArg Prod.fst same
      rw [found, found']
      show (if _ then Logged.debug _ [_, ("key_id", .str m.keyId)] else _) =
        if _ then Logged.debug _ [_, ("key_id", .str m'.keyId)] else _
      rw [keyId]
  encrypt x uri payload e clock := by
    rw [Encryption.encrypt, Encryption.encrypt, envelop_alike (same x.profile)]

def OpensAlike (b b' : Backend) : Prop :=
  ∀ requestId profile s, decrypt b requestId profile s = decrypt b' requestId profile s

theorem checkKeyId_congr {m m' : KeyMaterial} (same : m.keyId = m'.keyId) (requestId : String)
    (kid : Option String) : checkKeyId requestId m kid = checkKeyId requestId m' kid := by
  cases kid with
  | none => rfl
  | some kid => rw [checkKeyId, checkKeyId, same]

theorem opensAlike_of_keys
    (same : ∀ profile,
      (b.key profile).map KeyMaterial.receiving = (b'.key profile).map KeyMaterial.receiving) :
    OpensAlike b b' := by
  intro requestId profile s
  rw [decrypt, decrypt]
  congr 1
  funext t
  rw [Backend.keyMaterial, Backend.keyMaterial]
  rcases alike_of_map_eq (same profile) with ⟨cause, key, key'⟩ | ⟨m, m', key, key', same⟩
  · rw [key, key']
  · obtain ⟨keyId, scalar⟩ := Prod.ext_iff.mp same
    rw [key, key']
    show (checkKeyId requestId m t.kid >>= fun _ => liftM (Backend.usable m.scalar) >>= _) =
      (checkKeyId requestId m' t.kid >>= fun _ => liftM (Backend.usable m'.scalar) >>= _)
    rw [checkKeyId_congr keyId, show m.scalar = m'.scalar from scalar]

end Encryption

namespace Backend

def withKey (b : Backend) (profile : Profile) (m : KeyMaterial) : Backend :=
  { b with store := b.store.putKey profile m }

theorem map_key_withKey {α : Type} {use : KeyMaterial → α} {m m' : KeyMaterial} (same : use m = use m')
    (b : Backend) (stored profile : Profile) :
    ((b.withKey stored m).key profile).map use = ((b.withKey stored m').key profile).map use := by
  simp only [key, withKey, Store.key, Store.putKey, Table.get?_put]
  split_ifs
  · rfl
  · exact congrArg Except.ok same
  · rfl

end Backend

namespace Encryption

/-- Who sends and who receives cannot tell whether a public half is given that belongs to the private
one. Who sends to a public half that is given does not use the private one, and who receives never uses
a public half. -/
theorem public_half_stands_in (b : Backend) (profile : Profile) (m : KeyMaterial) :
    (∀ d, m.scalar = .ok d → m.publicJwk = none → ∃ q, Jwk.publicPoint d = .ok q ∧
      let m' : KeyMaterial := { m with publicJwk := some (Jwk.ofPoint q) }
      SendsAlike (b.withKey profile m) (b.withKey profile m') ∧
        OpensAlike (b.withKey profile m) (b.withKey profile m')) ∧
    (∀ privateJwk, m.publicJwk ≠ none →
      SendsAlike (b.withKey profile m) (b.withKey profile { m with privateJwk := privateJwk })) ∧
    ∀ publicJwk,
      OpensAlike (b.withKey profile m) (b.withKey profile { m with publicJwk := publicJwk }) := by
  refine ⟨fun d scalar absent => ?_, fun privateJwk given => ?_, fun publicJwk => ?_⟩
  · obtain ⟨q, derived, same⟩ := KeyMaterial.exists_sending_derived scalar absent
    exact ⟨q, derived, sendsAlike_of_keys (Backend.map_key_withKey same b profile),
      opensAlike_of_keys (Backend.map_key_withKey (m.receiving_eq _) b profile)⟩
  · exact sendsAlike_of_keys
      (Backend.map_key_withKey (KeyMaterial.sending_eq given privateJwk) b profile)
  · exact opensAlike_of_keys (Backend.map_key_withKey (m.receiving_eq publicJwk) b profile)

theorem public_half_stands_in_sample :
    let derived : KeyMaterial := { sampleKey with publicJwk := none }
    let broken : KeyMaterial := { sampleKey with privateJwk := Jwk.ofScalarText "" }
    derived.scalar = .ok sampleScalar ∧ Jwk.publicPoint sampleScalar = .ok generator ∧
      SendsAlike (sampleBackend.withKey .haip derived) (sampleBackend.withKey .haip sampleKey) ∧
      OpensAlike (sampleBackend.withKey .haip derived) (sampleBackend.withKey .haip sampleKey) ∧
      SendsAlike (sampleBackend.withKey .haip sampleKey) (sampleBackend.withKey .haip broken) := by
  have scalar : sampleKey.scalar = .ok sampleScalar := Jwk.scalar_eq_ok_iff.mpr isPaired_sample.scalar
  have product : Jwk.publicPoint sampleScalar = .ok generator := by decide +kernel
  obtain ⟨q, derived, sends, opens⟩ := (public_half_stands_in sampleBackend .haip
    { sampleKey with publicJwk := none }).1 sampleScalar scalar rfl
  cases product.symm.trans derived
  exact ⟨scalar, product, sends, opens, (public_half_stands_in sampleBackend .haip sampleKey).2.1 _ nofun⟩

end Encryption

end VpExchange
