import VpExchange.Jose.Token
import VpExchange.Proofs.Jose.Jwk
import VpExchange.Proofs.Text

set_option autoImplicit false

namespace VpExchange

namespace TokenHeader

theorem reads_format (h : TokenHeader) : format.Reads h := by
  refine Json.Format.reads_transport (Json.Format.reads_record ?_) rfl
  exact ⟨Json.Field.reads_required (Json.Format.reads_string h.alg), by decide,
    Json.Field.reads_required (Json.Format.reads_string h.enc), by decide,
    Json.Field.reads_hidingNone fun kid _ => ⟨Json.Format.reads_string kid, nofun⟩, by decide,
    Json.Field.reads_required (Jwk.reads_format h.epk), by decide, trivial⟩

theorem depth_toJson (h : TokenHeader) : (format.toJson h).depth = 2 := by
  obtain ⟨alg, enc, kid, epk⟩ := h
  have inner := Jwk.depth_toJson epk
  cases kid <;>
    simp [format, fields, Json.Format.transport, Json.Format.record, Json.Fields.toMembers,
      Json.Field.required, Json.Field.trailingOptional, Json.Field.hidingNone, Json.Field.defaulted,
      Json.Format.string, Json.Format.option, Json.ofOption, Json.depth, Json.depthMembers, inner]

theorem decode_encode (h : TokenHeader) : format.decode (Bytes.ofText (format.encode h)) = .ok h :=
  Json.Format.decodeText_encode (reads_format h) (by rw [depth_toJson]; decide)

end TokenHeader

namespace Token

-- `header` are the bytes of the first segment as they were sent, and `h` is what they say.
structure Spelled (s : String) (header : Bytes) (h : TokenHeader) (t : Token) : Prop where
  text : Text.trim s = compact (Base64.encode header) t.iv t.text t.tag
  headerSegment : t.headerSegment = Base64.encode header
  decoded : TokenHeader.format.decode header = .ok h
  alg : h.alg = "ECDH-ES"
  enc : h.enc = "A128GCM"
  kid : t.kid = h.kid
  ephemeral : h.epk.IsPublic t.ephemeral
  iv : t.iv.length = 12
  tag : t.tag.length = 16

def spelling (t : Token) : String := compact t.headerSegment t.iv t.text t.tag

theorem Spelled.trim_spelling {s : String} {header : Bytes} {h : TokenHeader} {t : Token}
    (spelled : Spelled s header h t) : Text.trim s = t.spelling := by
  rw [spelled.text, spelling, spelled.headerSegment]

theorem decodeSegment_eq_ok_iff {segment : String} {bs : Bytes} :
    Base64.decodeSegment segment = .ok bs ↔ segment = Base64.encode bs := by
  rw [← Base64.decode?_eq_some_iff, Base64.decodeSegment]
  split
  next h => simp [h]
  next h => simp [h]

theorem exactSegment_eq_ok_iff {length : Nat} {name segment : String} {bs : Bytes} :
    exactSegment length name segment = .ok bs ↔ segment = Base64.encode bs ∧ bs.length = length := by
  simp only [exactSegment, bind_eq_ok_iff, Refusal.ofChain_eq_ok_iff, decodeSegment_eq_ok_iff]
  constructor
  · rintro ⟨bs', rfl, h⟩
    split_ifs at h with hl
    cases h
    exact ⟨rfl, hl⟩
  · rintro ⟨rfl, hl⟩
    exact ⟨bs, rfl, if_pos hl⟩

theorem headerOf_eq_ok_iff {segment : String} {h : TokenHeader} :
    headerOf segment = .ok h ↔
      ∃ header, segment = Base64.encode header ∧ TokenHeader.format.decode header = .ok h := by
  simp only [headerOf, bind_eq_ok_iff, decodeSegment_eq_ok_iff, mapError_eq_ok_iff]

theorem toList_compact (headerSegment : String) (iv text tag : Bytes) :
    (compact headerSegment iv text tag).toList =
      headerSegment.toList ++ '.' :: ([] ++ '.' :: ((Base64.encode iv).toList ++ '.' ::
        ((Base64.encode text).toList ++ '.' :: (Base64.encode tag).toList))) := by
  simp [compact]

theorem not_blank_of_mem_compact {headerSegment : String} {iv text tag : Bytes}
    (h : ∀ c ∈ headerSegment.toList, Text.isBlank c = false) :
    ∀ c ∈ (compact headerSegment iv text tag).toList, Text.isBlank c = false := by
  intro c hc
  simp only [toList_compact, List.mem_append, List.mem_cons, List.not_mem_nil, false_or] at hc
  rcases hc with hc | rfl | rfl | hc | rfl | hc | rfl | hc
  · exact h c hc
  · decide
  · decide
  · exact Base64.not_blank_of_mem_encode hc
  · decide
  · exact Base64.not_blank_of_mem_encode hc
  · decide
  · exact Base64.not_blank_of_mem_encode hc

theorem splitAt_compact {headerSegment : String} (h : '.' ∉ headerSegment.toList)
    (iv text tag : Bytes) :
    (Text.splitAt '.' (compact headerSegment iv text tag).toList).map String.ofList =
      [headerSegment, "", Base64.encode iv, Base64.encode text, Base64.encode tag] := by
  rw [toList_compact, Text.splitAt_append h, Text.splitAt_append (by simp),
    Text.splitAt_append (Base64.dot_notMem_encode iv), Text.splitAt_append (Base64.dot_notMem_encode text),
    Text.splitAt_of_notMem (Base64.dot_notMem_encode tag)]
  simp [String.ofList_toList]

theorem eq_compact_of_splitAt {cs : List Char} {headerSegment : String} {iv text tag : Bytes}
    (h : (Text.splitAt '.' cs).map String.ofList =
      [headerSegment, "", Base64.encode iv, Base64.encode text, Base64.encode tag]) :
    String.ofList cs = compact headerSegment iv text tag := by
  have pieces : Text.splitAt '.' cs = [headerSegment.toList, [], (Base64.encode iv).toList,
      (Base64.encode text).toList, (Base64.encode tag).toList] := by
    have := congrArg (List.map String.toList) h
    simpa [Function.comp_def] using this
  have joined := Text.intercalate_splitAt '.' cs
  rw [pieces] at joined
  rw [← joined, ← String.toList_inj, toList_compact, String.toList_ofList]
  simp [List.intercalate]

theorem parse_eq_ok_iff {s : String} {t : Token} :
    parse s = .ok t ↔ ∃ header h, Spelled s header h t := by
  constructor
  · intro h
    rw [parse] at h
    split at h
    next headerSegment encryptedKey iv text tag pieces =>
      simp only [check_eq_ok_iff, bind_eq_ok_iff, Refusal.ofChain_eq_ok_iff, headerOf_eq_ok_iff,
        mapError_eq_ok_iff, Jwk.point_eq_ok_iff, exactSegment_eq_ok_iff, decodeSegment_eq_ok_iff,
        pure_eq_ok_iff, ne_eq, not_not, not_or] at h
      -- The checks in their order, each as a fact about the parts.
      obtain ⟨rfl, h, ⟨header, rfl, decoded⟩, ⟨alg, enc⟩, ephemeral, point, iv, ⟨rfl, hiv⟩, tag,
        ⟨rfl, htag⟩, text, rfl, rfl⟩ := h
      exact ⟨header, h, eq_compact_of_splitAt pieces, rfl, decoded, alg, enc, rfl, point, hiv, htag⟩
    next => cases h
  · rintro ⟨header, h, spelled⟩
    -- The text is cut where the compact form was joined, so each check sees the part it is about.
    have chars : Text.trimChars s.toList =
        (compact (Base64.encode header) t.iv t.text t.tag).toList := by
      rw [← spelled.text, Text.trim, String.toList_ofList]
    rw [parse, chars, splitAt_compact (Base64.dot_notMem_encode header)]
    simp only [check_eq_ok_iff, bind_eq_ok_iff, Refusal.ofChain_eq_ok_iff, headerOf_eq_ok_iff,
      mapError_eq_ok_iff, Jwk.point_eq_ok_iff, exactSegment_eq_ok_iff, decodeSegment_eq_ok_iff,
      pure_eq_ok_iff, ne_eq, not_not, not_or]
    refine ⟨trivial, h, ⟨header, rfl, spelled.decoded⟩, ⟨spelled.alg, spelled.enc⟩, t.ephemeral,
      spelled.ephemeral, t.iv, ⟨rfl, spelled.iv⟩, t.tag, ⟨rfl, spelled.tag⟩, t.text, rfl, ?_⟩
    rw [← spelled.headerSegment, ← spelled.kid]

theorem refuses_exactSegment {name : String}
    (fixed : "direct_post.jwt " ++ name ++ " is malformed" ∈ Refusal.causedDetails) (length : Nat)
    (segment : String) : Refusal.RefusesWith [.invalidRequest] (exactSegment length name segment) := by
  apply Refusal.refuses_bind (Refusal.refuses_ofChain fixed _)
  intro bs
  split_ifs
  · exact Refusal.refuses_ok bs
  · exact Refusal.refuses_error (by simp) rfl

theorem refuses_parse (s : String) : Refusal.RefusesWith [.invalidRequest] (parse s) := by
  rw [parse]
  split
  · apply Refusal.refuses_check (by simp) rfl
    apply Refusal.refuses_bind (Refusal.refuses_ofChain (by decide) _)
    intro h
    apply Refusal.refuses_check (by simp [unsupportedAlgorithms]) rfl
    apply Refusal.refuses_bind (Refusal.refuses_ofChain (by decide) _)
    intro ephemeral
    apply Refusal.refuses_bind (refuses_exactSegment (by decide) _ _)
    intro iv
    apply Refusal.refuses_bind (refuses_exactSegment (by decide) _ _)
    intro tag
    apply Refusal.refuses_bind (Refusal.refuses_ofChain (by decide) _)
    intro text
    exact Refusal.refuses_ok _
  · exact Refusal.refuses_error (by simp) rfl

theorem within_parse (s : String) : Refusal.Within [.invalidRequest] (parse s) := (refuses_parse s).within

theorem refuses_agree (k : P256.Scalar) (q : P256.Point) :
    Refusal.RefusesWith [.invalidRequest] (agree k q) :=
  Refusal.refuses_ofChain (by decide) _

theorem agree_eq_ok_iff {k : P256.Scalar} {q : P256.Point} {secret : Bytes} :
    agree k q = .ok secret ↔ ∃ z, P256.multiple k q = .ok z ∧ secret = Bytes.ofNat 32 z.x := by
  rw [agree, Refusal.ofChain_eq_ok_iff, mapError_eq_ok_iff, Jwk.sharedSecret]
  cases P256.multiple k q with
  | error e => exact ⟨nofun, nofun⟩
  | ok z => exact ⟨fun h => ⟨z, rfl, by cases h; rfl⟩, fun ⟨_, h, h'⟩ => by cases h; rw [h']⟩

end Token

end VpExchange
