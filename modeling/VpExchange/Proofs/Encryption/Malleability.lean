import VpExchange.Proofs.Encryption.RoundTrip

set_option autoImplicit false

namespace VpExchange

theorem Bytes.map_succ_ne {bs : Bytes} (nonempty : bs ≠ []) : bs.map (· + 1) ≠ bs := by
  cases bs with
  | nil => exact absurd rfl nonempty
  | cons b bs =>
    intro same
    have first : b + 1 = b := (List.cons.inj same).1
    simp at first

namespace Token

-- What the cipher is given beside its key, the associated data as they were sent.
def cipherInput (t : Token) : Bytes × Bytes × Bytes × Bytes :=
  (Bytes.ofText t.headerSegment, t.iv, t.text, t.tag)

theorem spelling_eq_of_cipherInput {t t' : Token} (h : t.cipherInput = t'.cipherInput) :
    t.spelling = t'.spelling := by
  simp only [cipherInput, Prod.mk.injEq] at h
  obtain ⟨header, iv, text, tag⟩ := h
  rw [spelling, spelling, Bytes.ofText_injective header, iv, text, tag]

theorem parse_trim (s : String) : parse (Text.trim s) = parse s := by
  rw [parse, parse, Text.trim, String.toList_ofList, Text.trimChars_trimChars]

def front (t : Token) : List Char :=
  t.headerSegment.toList ++ '.' :: ([] ++ '.' :: ((Base64.encode t.iv).toList ++ '.' ::
    (Base64.encode t.text).toList))

theorem toList_spelling (t : Token) :
    t.spelling.toList = t.front ++ '.' :: (Base64.encode t.tag).toList := by
  simp [spelling, toList_compact, front]

theorem spelling_eq_front (t : Token) :
    t.spelling = String.ofList t.front ++ "." ++ Base64.encode t.tag := by
  rw [← String.toList_inj, toList_spelling]
  simp

theorem count_front {t : Token} (h : '.' ∉ t.headerSegment.toList) : t.front.count '.' = 3 := by
  have none {cs : List Char} (h : '.' ∉ cs) : cs.count '.' = 0 := List.count_eq_zero_of_not_mem h
  simp [front, List.count_append, none h, none (Base64.dot_notMem_encode _)]

theorem split_last {front front' tail tail' : List Char} (h : front ++ '.' :: tail = front' ++ '.' :: tail')
    (count : front.count '.' = front'.count '.') : front = front' ∧ tail = tail' := by
  induction front generalizing front' with
  | nil =>
    cases front' with
    | nil => exact ⟨rfl, (List.cons.inj h).2⟩
    | cons c front' =>
      obtain ⟨rfl, -⟩ := List.cons.inj h
      simp at count
  | cons c front ih =>
    cases front' with
    | nil =>
      obtain ⟨rfl, -⟩ := List.cons.inj h
      simp at count
    | cons c' front' =>
      obtain ⟨rfl, rest⟩ := List.cons.inj h
      have fewer : front.count '.' = front'.count '.' := by simpa [List.count_cons] using count
      obtain ⟨rfl, rfl⟩ := ih rest fewer
      exact ⟨rfl, rfl⟩

theorem front_injective {t t' : Token} (h : '.' ∉ t.headerSegment.toList)
    (h' : '.' ∉ t'.headerSegment.toList) (same : t.front = t'.front) :
    t.headerSegment = t'.headerSegment ∧ t.iv = t'.iv ∧ t.text = t'.text := by
  have pieces {t : Token} (h : '.' ∉ t.headerSegment.toList) : Text.splitAt '.' t.front =
      [t.headerSegment.toList, [], (Base64.encode t.iv).toList, (Base64.encode t.text).toList] := by
    rw [front, Text.splitAt_append h, Text.splitAt_append (by simp),
      Text.splitAt_append (Base64.dot_notMem_encode t.iv),
      Text.splitAt_of_notMem (Base64.dot_notMem_encode t.text)]
  have split := pieces h
  rw [same, pieces h'] at split
  simp only [List.cons.injEq, String.toList_inj, and_true, true_and] at split
  exact ⟨split.1.symm, (Base64.encode_injective split.2.1).symm, (Base64.encode_injective split.2.2).symm⟩

namespace Spelled

variable {s s' : String} {header header' : Bytes} {h h' : TokenHeader} {t t' : Token}

theorem dot_notMem (spelled : Spelled s header h t) : '.' ∉ t.headerSegment.toList := by
  rw [spelled.headerSegment]
  exact Base64.dot_notMem_encode header

theorem split_tag (spelled : Spelled s header h t) {front tag : String}
    (text : Text.trim s = front ++ "." ++ tag) (count : front.toList.count '.' = 3) :
    front.toList = t.front ∧ tag = Base64.encode t.tag := by
  have chars : front.toList ++ '.' :: tag.toList = t.front ++ '.' :: (Base64.encode t.tag).toList := by
    rw [← toList_spelling, ← spelled.trim_spelling, text]
    simp
  obtain ⟨same, tail⟩ := split_last chars (by rw [count, count_front spelled.dot_notMem])
  exact ⟨same, String.toList_inj.mp tail⟩

theorem count_dots (spelled : Spelled s header h t) {front tag : String}
    (text : Text.trim s = front ++ "." ++ tag) (last : '.' ∉ tag.toList) :
    front.toList.count '.' = 3 := by
  have chars := congrArg (fun s : String => s.toList.count '.') (text.symm.trans spelled.trim_spelling)
  have tail : tag.toList.count '.' = 0 := List.count_eq_zero_of_not_mem last
  have own : (Base64.encode t.tag).toList.count '.' = 0 :=
    List.count_eq_zero_of_not_mem (Base64.dot_notMem_encode t.tag)
  simpa [toList_spelling, List.count_append, tail, own, count_front spelled.dot_notMem] using chars

theorem retagged (spelled : Spelled s header h t) {tag : Bytes} (length : tag.length = 16) :
    Spelled ({ t with tag := tag } : Token).spelling header h { t with tag := tag } where
  text := by
    rw [spelling, spelled.headerSegment]
    exact Text.trim_of_not_blank (not_blank_of_mem_compact fun _ => Base64.not_blank_of_mem_encode)
  headerSegment := spelled.headerSegment
  decoded := spelled.decoded
  alg := spelled.alg
  enc := spelled.enc
  kid := spelled.kid
  ephemeral := spelled.ephemeral
  iv := spelled.iv
  tag := length

theorem ephemeral_eq (spelled : Spelled s header h t) (spelled' : Spelled s' header' h' t')
    (same : t.headerSegment = t'.headerSegment) : t.ephemeral = t'.ephemeral := by
  rw [spelled.headerSegment, spelled'.headerSegment] at same
  obtain rfl := Base64.encode_injective same
  obtain rfl := Except.ok.inj (spelled.decoded.symm.trans spelled'.decoded)
  have point := Jwk.point_eq_ok_iff.mpr spelled.ephemeral
  have point' := Jwk.point_eq_ok_iff.mpr spelled'.ephemeral
  exact Except.ok.inj (point.symm.trans point')

end Spelled

end Token

namespace Encryption

variable {b : Backend} {profile : Profile} {t t' : Token} {secret secret' : Bytes}

theorem Shared.secret_eq (shared : Shared b profile t secret) (shared' : Shared b profile t' secret')
    (same : t.ephemeral = t'.ephemeral) : secret = secret' := by
  obtain ⟨m, d, z, key, -, scalar, hz, rfl⟩ := shared
  obtain ⟨m', d', z', key', -, scalar', hz', rfl⟩ := shared'
  obtain rfl := Except.ok.inj (key.symm.trans key')
  have sameScalar := (Jwk.scalar_eq_ok_iff.mpr scalar).symm.trans (Jwk.scalar_eq_ok_iff.mpr scalar')
  obtain rfl := Except.ok.inj sameScalar
  rw [same] at hz
  obtain rfl := Except.ok.inj (hz.symm.trans hz')
  rfl

theorem handed_retagged {requestId s : String}
    (reached : (handed b requestId profile s).result = .ok (secret, t)) (requestId' : String)
    {tag : Bytes} (length : tag.length = 16) :
    (handed b requestId' profile ({ t with tag := tag } : Token).spelling).result =
      .ok (secret, { t with tag := tag }) := by
  obtain ⟨⟨header, h, spelled⟩, shared⟩ := handed_eq_ok_iff.mp reached
  exact handed_eq_ok_iff.mpr ⟨⟨header, h, spelled.retagged length⟩, shared⟩

theorem tag_of_unsealed {text : Bytes} (h : unsealed secret t = .ok text) :
    Gcm.tag (Token.cipher secret) t.iv (Bytes.ofText t.headerSegment) t.text = t.tag := by
  have opens := unsealed_eq_ok_iff.mp h
  rw [Gcm.decrypt?] at opens
  split_ifs at opens with same
  exact same

theorem handed_of_decrypt {requestId s : String} {o : Opened}
    (accepted : (decrypt b requestId profile s).result = .ok o) : ∃ secret t text,
      (handed b requestId profile s).result = .ok (secret, t) ∧ unsealed secret t = .ok text := by
  rw [decrypt_eq_handed, Logged.result_bind_eq_ok_iff] at accepted
  obtain ⟨⟨secret, t⟩, reached, out⟩ := accepted
  obtain ⟨text, -, opens, -, -⟩ := opened_eq_ok_iff.mp out
  exact ⟨secret, t, text, reached, opens⟩

theorem trim_eq_of_cipherInput {b b' : Backend} {requestId requestId' : String}
    {profile profile' : Profile} {s s' : String}
    (reached : (handed b requestId profile s).result = .ok (secret, t))
    (reached' : (handed b' requestId' profile' s').result = .ok (secret', t'))
    (same : t.cipherInput = t'.cipherInput) : Text.trim s = Text.trim s' := by
  obtain ⟨⟨header, h, spelled⟩, -⟩ := handed_eq_ok_iff.mp reached
  obtain ⟨⟨header', h', spelled'⟩, -⟩ := handed_eq_ok_iff.mp reached'
  rw [spelled.trim_spelling, spelled'.trim_spelling, Token.spelling_eq_of_cipherInput same]

theorem decrypt_trim (b : Backend) (requestId : String) (profile : Profile) (s : String) :
    decrypt b requestId profile (Text.trim s) = decrypt b requestId profile s := by
  rw [decrypt, decrypt, Token.parse_trim]

theorem parse_of_encrypt {x : Exchange} {uri : Option Url} {payload : Members} {e : Entropy}
    {clock : Clock} {delivery : Delivery} {v : Envelope}
    (sent : (encrypt b x uri payload e clock).1.result = .ok delivery)
    (envelope : delivery.envelope = some v) :
    ∃ t, Token.parse v.token = .ok t ∧ t.spelling = v.token := by
  rw [result_encrypt] at sent
  split_ifs at sent with encrypted
  · obtain ⟨v', made, rfl⟩ := map_eq_ok_iff.mp sent
    obtain rfl : v' = v := Option.some.inj envelope
    obtain ⟨m, q, ephemeral, z, -, -, -, -, rfl⟩ := envelop_eq_ok_iff.mp made
    have spelled := @Token.spelled_sealed m.keyId ephemeral (Bytes.ofNat 32 z.x) _ (plaintext payload)
      (Entropy.length_peek e.scalar.2 12)
    exact ⟨_, Token.parse_eq_ok_iff.mpr ⟨_, _, spelled⟩, rfl⟩
  · cases sent
    cases envelope

theorem error_of_other_tag {requestId requestId' s s' front tag tag' : String} {o : Opened}
    (accepted : (decrypt b requestId profile s).result = .ok o)
    (text : Text.trim s = front ++ "." ++ tag) (last : '.' ∉ tag.toList)
    (text' : Text.trim s' = front ++ "." ++ tag') (other : tag' ≠ tag) :
    ∃ r, (decrypt b requestId' profile s').result = .error r := by
  cases result : (decrypt b requestId' profile s').result with
  | error r => exact ⟨r, rfl⟩
  | ok o' =>
    obtain ⟨secret, t, bs, reached, opens⟩ := handed_of_decrypt accepted
    obtain ⟨secret', t', bs', reached', opens'⟩ := handed_of_decrypt result
    obtain ⟨⟨header, h, spelled⟩, shared⟩ := handed_eq_ok_iff.mp reached
    obtain ⟨⟨header', h', spelled'⟩, shared'⟩ := handed_eq_ok_iff.mp reached'
    have count := spelled.count_dots text last
    obtain ⟨front_eq, tag_eq⟩ := spelled.split_tag text count
    obtain ⟨front_eq', tag_eq'⟩ := spelled'.split_tag text' count
    obtain ⟨segment, iv, body⟩ := Token.front_injective spelled.dot_notMem spelled'.dot_notMem
      (front_eq.symm.trans front_eq')
    -- The secret depends on the first segment only, so both tags are computed from the same data.
    have secrets := shared.secret_eq shared' (spelled.ephemeral_eq spelled' segment)
    have tags := tag_of_unsealed opens
    rw [secrets, iv, segment, body, tag_of_unsealed opens'] at tags
    rw [tag_eq, tag_eq', tags] at other
    exact absurd rfl other

end Encryption

end VpExchange
