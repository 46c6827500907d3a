import VpExchange.Proofs.Crypto.Cofactor
import VpExchange.Proofs.Encryption.RoundTrip

set_option autoImplicit false

namespace VpExchange

open P256

theorem Base64.length_encode (bs : Bytes) : (Base64.encode bs).length = (4 * bs.length + 2) / 3 := by
  have chars (bs : Bytes) : (encodeChars .url bs).length = (4 * bs.length + 2) / 3 := by
    induction bs using encodeChars.induct with
    | case1 => rfl
    | case2 x => simp [encodeChars]
    | case3 x y => simp [encodeChars]
    | case4 x y z rest ih =>
      simp only [encodeChars, List.length_cons, ih]
      omega
  rw [encode, String.length_ofList, chars]

namespace Receiver

def member? (name : String) (j : Json) : Option Json := j.members?.bind (·.get? name)

def text? (name : String) (j : Json) : Option String := (member? name j).bind Json.text?

def coordinate? (name : String) (key : Json) : Option Nat := do
  let bs ← Base64.decode? (← text? name key)
  guard (bs.length = 32)
  return Bytes.toNat bs

def ephemeral? (header : Json) : Option Point := do
  let key ← member? "epk" header
  guard (text? "kty" key = some "EC" ∧ text? "crv" key = some "P-256")
  Point.ofCoordinates? (← coordinate? "x" key) (← coordinate? "y" key)

def contentKey (secret : Bytes) : Bytes :=
  (Sha256.digest ([0, 0, 0, 1] ++ secret ++ [0, 0, 0, 7] ++ Bytes.ofText "A128GCM" ++ [0, 0, 0, 0] ++
    [0, 0, 0, 0] ++ [0, 0, 0, 128])).take 16

def ascii (s : String) : Bytes := s.toList.map fun c => UInt8.ofNat c.toNat

/-- The key id that a token names and the text that it has for the holder of the scalar. -/
def open? (d : Scalar) (token : String) : Option (Option String × Bytes) :=
  match (Text.splitAt '.' token.toList).map String.ofList with
  | [header, "", iv, text, tag] => do
    let h ← (Json.read (← Base64.decode? header)).toOption
    guard (text? "alg" h = some "ECDH-ES" ∧ text? "enc" h = some "A128GCM")
    let z ← (multiple d (← ephemeral? h)).toOption
    let key := contentKey (Bytes.ofNat 32 z.x)
    let bs ← Gcm.decrypt? (Aes.encrypt key) (← Base64.decode? iv) (ascii header) (← Base64.decode? text)
      (← Base64.decode? tag)
    return (text? "kid" h, bs)
  | _ => none

theorem contentKey_eq (secret : Bytes) : contentKey secret = ContentKey.ofSecret secret := by
  have one : Bytes.ofNat 4 1 = [0, 0, 0, 1] := by decide
  have bits : Bytes.ofNat 4 128 = [0, 0, 0, 128] := by decide
  have named : ContentKey.lengthPrefixed (Bytes.ofText "A128GCM") =
      [0, 0, 0, 7] ++ Bytes.ofText "A128GCM" := by decide
  have unnamed : ContentKey.lengthPrefixed [] = [0, 0, 0, 0] := by decide
  rw [contentKey, ContentKey.ofSecret, ContentKey.input, one, bits, named, unnamed]
  simp only [List.append_assoc]

theorem ascii_encode (bs : Bytes) : ascii (Base64.encode bs) = Bytes.ofText (Base64.encode bs) := by
  have small : ∀ n < 64, (Base64.Alphabet.url.char n).toNat < 128 := by decide
  rw [Base64.encode, Bytes.ofText_ofList, Bytes.ofChars_ascii, ascii, String.toList_ofList]
  intro c mem
  obtain ⟨n, digit, rfl⟩ := Base64.mem_encodeChars mem
  exact small n digit

def headerOf (keyId x y : String) : Json :=
  .obj [("alg", .str "ECDH-ES"), ("enc", .str "A128GCM"), ("kid", .str keyId),
    ("epk", .obj [("kty", .str "EC"), ("crv", .str "P-256"), ("x", .str x), ("y", .str y)])]

theorem read_headerOf (keyId x y : String) :
    Json.read (Bytes.ofText (headerOf keyId x y).text) = .ok (headerOf keyId x y).canonical := by
  have whole : (headerOf keyId x y).IsWhole := by
    simp [headerOf, Json.IsWhole, Json.MembersWhole]
  have taken : (Json.Reader.tree Json.maxDepth).run (Bytes.ofChars (headerOf keyId x y).print ++ []) = _ :=
    Json.Reader.run_tree_of_shallow whole (by simp [headerOf, Json.depth, Json.depthMembers, Json.maxDepth])
      Json.Reader.ends_nil
  rw [List.append_nil] at taken
  rw [Json.read, Json.Reader.whole, Json.text, Bytes.ofText_ofList, taken]
  rfl

section Members

variable (keyId x y : String)

theorem text?_headerOf : text? "alg" (headerOf keyId x y).canonical = some "ECDH-ES" ∧
    text? "enc" (headerOf keyId x y).canonical = some "A128GCM" ∧
    text? "kid" (headerOf keyId x y).canonical = some keyId := by
  simp [text?, member?, headerOf, Json.canonical, Json.canonicalMembers, Members.ofList, Json.members?,
    Json.text?]

theorem ephemeral?_headerOf {q : Point} {xs ys : Bytes} (hx : Base64.decode? x = some xs)
    (hy : Base64.decode? y = some ys) (lx : xs.length = 32) (ly : ys.length = 32)
    (nx : Bytes.toNat xs = q.x) (ny : Bytes.toNat ys = q.y) :
    ephemeral? (headerOf keyId x y).canonical = some q := by
  have point : Point.ofCoordinates? q.x q.y = some q := Point.ofCoordinates?_eq_some_iff.mpr ⟨rfl, rfl⟩
  simp [ephemeral?, coordinate?, text?, member?, headerOf, Json.canonical, Json.canonicalMembers,
    Members.ofList, Json.members?, Json.text?, hx, hy, lx, ly, nx, ny, point]

end Members

theorem headerSegmentOf_eq (keyId : String) (q : Point) : Token.headerSegmentOf keyId q =
    Base64.encode (Bytes.ofText (headerOf keyId (Base64.encode (Bytes.ofNat 32 q.x))
      (Base64.encode (Bytes.ofNat 32 q.y))).text) := rfl

theorem open?_compact {d : Scalar} {q z : Point} (hz : multiple d q = .ok z) {header : Bytes} {h : Json}
    (read : Json.read header = .ok h) (alg : text? "alg" h = some "ECDH-ES")
    (enc : text? "enc" h = some "A128GCM") (epk : ephemeral? h = some q) {iv encrypted tag text : Bytes}
    (opens : Gcm.decrypt? (Aes.encrypt (contentKey (Bytes.ofNat 32 z.x))) iv (ascii (Base64.encode header))
      encrypted tag = some text) :
    open? d (Token.compact (Base64.encode header) iv encrypted tag) = some (text? "kid" h, text) := by
  rw [open?, Token.splitAt_compact (Base64.dot_notMem_encode header)]
  simp [read, alg, enc, epk, hz, opens, Except.toOption]

theorem open?_sealed {d : Scalar} {q z : Point} (hz : multiple d q = .ok z) (keyId : String) {iv : Bytes}
    (hiv : iv.length = 12) (text : Bytes) :
    open? d (Token.sealed keyId q (Bytes.ofNat 32 z.x) iv text).spelling = some (some keyId, text) := by
  have width : p < 256 ^ 32 := by decide
  have epk := @ephemeral?_headerOf keyId _ _ q _ _ (Base64.decode?_encode _) (Base64.decode?_encode _)
    (Bytes.length_ofNat 32 q.x) (Bytes.length_ofNat 32 q.y)
    (Bytes.toNat_ofNat_of_lt (q.lt_p.1.trans width)) (Bytes.toNat_ofNat_of_lt (q.lt_p.2.trans width))
  obtain ⟨alg, enc, kid⟩ := text?_headerOf keyId (Base64.encode (Bytes.ofNat 32 q.x))
    (Base64.encode (Bytes.ofNat 32 q.y))
  have opens := Token.decrypt?_sealed keyId q (Bytes.ofNat 32 z.x) hiv text
  rw [Token.cipher, ← contentKey_eq, headerSegmentOf_eq, ← ascii_encode] at opens
  have opened := open?_compact hz (read_headerOf _ _ _) alg enc epk opens
  rw [kid] at opened
  exact opened

end Receiver

namespace Encryption

def SpellsCoordinate (s : String) (n : Nat) : Prop :=
  s.length = 43 ∧ ∃ bs, Base64.decode? s = some bs ∧ bs.length = 32 ∧ Bytes.toNat bs = n

def HasBytes (segment : String) (length : Nat) : Prop :=
  ∃ bs, Base64.decode? segment = some bs ∧ bs.length = length

/-- A compact token for direct key agreement, by its segments. -/
structure Standard (keyId : String) (ephemeral : Point) (length : Nat) (token header iv text tag : String) :
    Prop where
  segments : token = header ++ "." ++ "" ++ "." ++ iv ++ "." ++ text ++ "." ++ tag
  dots : token.toList.count '.' = 4
  named : ∃ x y, header = Base64.encode (Bytes.ofText (Receiver.headerOf keyId x y).text) ∧
    SpellsCoordinate x ephemeral.x ∧ SpellsCoordinate y ephemeral.y
  vector : HasBytes iv 12
  encrypted : HasBytes text length
  authenticated : HasBytes tag 16

theorem spellsCoordinate_encode {n : Nat} (h : n < p) :
    SpellsCoordinate (Base64.encode (Bytes.ofNat 32 n)) n :=
  ⟨by rw [Base64.length_encode, Bytes.length_ofNat], Bytes.ofNat 32 n, Base64.decode?_encode _,
    Bytes.length_ofNat 32 n, Bytes.toNat_ofNat_of_lt (h.trans (by decide : p < 256 ^ 32))⟩

theorem count_compact (header iv text tag : Bytes) :
    (Token.compact (Base64.encode header) iv text tag).toList.count '.' = 4 := by
  have none (bs : Bytes) : (Base64.encode bs).toList.count '.' = 0 :=
    List.count_eq_zero_of_not_mem (Base64.dot_notMem_encode bs)
  simp [Token.toList_compact, List.count_append, none]

theorem standard_compact (keyId : String) (ephemeral : Point) {iv tag : Bytes} (hiv : iv.length = 12)
    (htag : tag.length = 16) (text : Bytes) :
    Standard keyId ephemeral text.length (Token.compact (Token.headerSegmentOf keyId ephemeral) iv text tag)
      (Token.headerSegmentOf keyId ephemeral) (Base64.encode iv) (Base64.encode text)
      (Base64.encode tag) where
  segments := by simp [Token.compact, String.append_assoc]
  dots := by
    rw [Receiver.headerSegmentOf_eq]
    exact count_compact _ iv text tag
  named := ⟨_, _, Receiver.headerSegmentOf_eq keyId ephemeral, spellsCoordinate_encode ephemeral.lt_p.1,
    spellsCoordinate_encode ephemeral.lt_p.2⟩
  vector := ⟨iv, Base64.decode?_encode iv, hiv⟩
  encrypted := ⟨text, Base64.decode?_encode text, rfl⟩
  authenticated := ⟨tag, Base64.decode?_encode tag, htag⟩

theorem standard_sealed (keyId : String) (ephemeral : Point) (secret : Bytes) {iv : Bytes}
    (hiv : iv.length = 12) (text : Bytes) : ∃ header iv' encrypted tag, Standard keyId ephemeral text.length
      (Token.sealed keyId ephemeral secret iv text).spelling header iv' encrypted tag := by
  have onBlocks := Token.onBlocks_cipher secret
  have length := Gcm.length_crypt onBlocks hiv text
  have tag := Gcm.length_tag onBlocks hiv (Bytes.ofText (Token.headerSegmentOf keyId ephemeral))
    (Gcm.crypt (Token.cipher secret) iv text)
  have standard := standard_compact keyId ephemeral hiv tag (Gcm.crypt (Token.cipher secret) iv text)
  rw [length] at standard
  -- Unfolded first, so that the tag is never computed.
  simp only [Token.spelling, Token.sealed]
  exact ⟨_, _, _, _, standard⟩

end Encryption

end VpExchange
