import VpExchange.Acceptance.Evidence
import VpExchange.Audit.Trace
import VpExchange.Credential.Mdoc
import VpExchange.Credential.SdJwt
import VpExchange.Jose.Token
import VpExchange.Proofs.Json.SettledRecord
import VpExchange.Request.Basic

set_option autoImplicit false

namespace VpExchange

open Json Json.Format Json.Field

section Members

variable (name : String) (own : Nat)

theorem keepsNull_string : Format.string.KeepsNull := keepsNull_of_never fun _ => nofun

theorem settles_strings : (Format.list .string).Settles 1 := settles_list settles_string

theorem settled_nil {α : Type} (f : Format α) : f.list.Settled 1 [] :=
  fun _ => ⟨reads_list nofun, Nat.le_refl 1⟩

theorem settled_noMembers : Format.members.Settled 1 [] :=
  fun _ => ⟨reads_members trivial ⟨.nil, trivial⟩, Nat.le_refl 1⟩

theorem settles_requiredString : (Field.required name .string).Settles own :=
  settles_required (settles_string.mono (Nat.zero_le own))

theorem settles_optionalString : (Field.optional name .string).Settles own :=
  settles_optional (settles_string.mono (Nat.zero_le own)) keepsNull_string

theorem settles_trailingString : (Field.trailingOptional name .string).Settles own :=
  settles_trailingOptional (settles_string.mono (Nat.zero_le own)) keepsNull_string

theorem settles_defaultedString (value : String) : (Field.defaulted name .string value).Settles own :=
  settles_defaulted (settles_string.mono (Nat.zero_le own)) fun _ => ⟨reads_string value, Nat.zero_le own⟩

theorem settles_defaultedStrings : (Field.defaulted name (.list .string) []).Settles 1 :=
  settles_defaulted settles_strings (settled_nil _)

end Members

theorem Jwk.settles_format : Jwk.format.Settles 1 := by
  refine settles_transport (settles_record ?_ (by decide)) fun _ => rfl
  exact ⟨settles_requiredString _ _, settles_requiredString _ _,
    (settles_optionalString _ _).hidingNone rfl, (settles_optionalString _ _).hidingNone rfl,
    (settles_optionalString _ _).hidingNone rfl, trivial⟩

theorem Jwk.keepsNull_format : Jwk.format.KeepsNull := keepsNull_of_never fun _ => nofun

theorem TokenHeader.settles_format : TokenHeader.format.Settles 2 := by
  refine settles_transport (settles_record ?_ (by decide)) fun _ => rfl
  exact ⟨settles_requiredString _ _, settles_requiredString _ _,
    (settles_trailingString _ _).hidingNone rfl, settles_required Jwk.settles_format, trivial⟩

theorem KeyMaterial.settles_format : KeyMaterial.format.Settles 2 := by
  refine settles_transport (settles_record ?_ (by decide)) fun _ => rfl
  exact ⟨settles_requiredString _ _,
    (settles_trailingOptional Jwk.settles_format Jwk.keepsNull_format).hidingNone rfl,
    settles_required Jwk.settles_format, trivial⟩

theorem DcqlPreset.settles_format : DcqlPreset.format.Settles 1 := by
  refine settles_transport (settles_record ?_ (by decide)) fun _ => rfl
  exact ⟨settles_requiredString _ _, settles_trailingString _ _,
    settles_required settles_json, settles_trailingOptional settles_json keepsNull_json, trivial⟩

theorem SdJwt.settles_jsonFormat : SdJwt.jsonFormat.Settles 2 := by
  refine settles_transport (settles_record ?_ (by decide)) fun _ => rfl
  exact ⟨settles_requiredString _ _, settles_defaultedString _ _ _,
    settles_requiredString _ _, settles_defaultedStrings _,
    settles_trailingOptional settles_strings (keepsNull_of_never fun _ => nofun),
    settles_trailingString _ _, settles_defaultedStrings _, trivial⟩

theorem Mdoc.settles_jsonFormat : Mdoc.jsonFormat.Settles 2 := by
  refine settles_transport (settles_record ?_ (by decide)) fun _ => rfl
  exact ⟨settles_requiredString _ _, settles_defaultedString _ _ _,
    settles_requiredString _ _, settles_requiredString _ _,
    settles_defaulted (settles_members.mono (Nat.zero_le 1)) settled_noMembers,
    settles_defaultedStrings _, trivial⟩

theorem settles_preset {α ρ σ : Type} {fs : Fields ρ σ} {of : ρ → α} {back : α → ρ} {own : Nat} {name : String}
    (h : ((Format.record fs).transport of back).Settles (own + 1)) (fresh : name ∉ fs.names) :
    (Format.named name ((Format.record fs).transport of back)).Settles (own + 1) := by
  refine settles_named h fun a => ⟨fs.toMembers (back a), rfl, ?_⟩
  intro m inside same
  exact fresh (same ▸ Fields.name_of_mem_toMembers inside)

theorem WalletPreset.settles_jsonFormat : WalletPreset.jsonFormat.Settles 2 :=
  settles_transport (settles_preset SdJwt.settles_jsonFormat (by decide)) fun _ => rfl

theorem DevicePreset.settles_jsonFormat : DevicePreset.jsonFormat.Settles 2 :=
  settles_transport (settles_preset Mdoc.settles_jsonFormat (by decide)) fun _ => rfl

theorem StoredPresentation.settles_jsonFormat : StoredPresentation.jsonFormat.Settles 2 := by
  refine settles_transport (settles_record ?_ (by decide)) fun _ => rfl
  exact ⟨settles_requiredString _ _, settles_requiredString _ _,
    settles_requiredString _ _, settles_required (settles_members.mono (Nat.zero_le 1)),
    settles_defaultedStrings _, settles_trailingString _ _, settles_defaultedStrings _,
    trivial⟩

theorem Sent.settles_jsonFormat : Sent.jsonFormat.Settles 0 := by
  apply settles_buffered
  intro j sent taken ranged
  cases j with
  | str s =>
    cases taken
    exact ⟨trivial, Nat.le_refl 0, rfl⟩
  | obj ms =>
    cases taken
    have same := canonical_canonical (.obj ms)
    refine ⟨each_canonical ranged, depth_canonical_le (.obj ms), ?_⟩
    exact congrArg (fun ms => some (Sent.plain ms)) (Json.obj.inj same)
  | _ => cases taken

theorem InlinePresentation.settles_jsonFormat : InlinePresentation.jsonFormat.Settles 2 := by
  refine settles_transport (settles_record ?_ (by decide)) fun _ => rfl
  exact ⟨settles_requiredString _ _, settles_requiredString _ _,
    settles_required (Sent.settles_jsonFormat.mono (Nat.zero_le 1)), settles_defaultedStrings _,
    settles_trailingString _ _, settles_defaultedStrings _, trivial⟩

theorem TrustVerdict.settles_format : TrustVerdict.format.Settles 1 := by
  refine settles_transport (settles_record ?_ (by decide)) fun _ => rfl
  exact ⟨settles_requiredString _ _, settles_requiredString _ _,
    settles_requiredString _ _, settles_requiredString _ _, trivial⟩

theorem TrustVerdict.keepsNull_format : TrustVerdict.format.KeepsNull := keepsNull_of_never fun _ => nofun

theorem Presentation.settles_jsonFormat : Presentation.jsonFormat.Settles 2 := by
  refine settles_transport (settles_record ?_ (by decide)) fun _ => rfl
  exact ⟨settles_requiredString _ _, settles_requiredString _ _,
    settles_required (settles_bool.mono (Nat.zero_le 1)),
    settles_optional TrustVerdict.settles_format TrustVerdict.keepsNull_format,
    settles_required (settles_json.mono (Nat.zero_le 1)), settles_required settles_strings, trivial⟩

theorem Violation.settles_format : Violation.format.Settles 1 := by
  refine settles_transport (settles_record ?_ (by decide)) fun _ => rfl
  exact ⟨settles_requiredString _ _, settles_requiredString _ _, trivial⟩

theorem Problem.settles_format : Problem.format.Settles 3 := by
  refine settles_transport (settles_record ?_ (by decide)) fun _ => rfl
  exact ⟨settles_requiredString _ _, settles_requiredString _ _,
    settles_required ((settles_natBelow (by decide)).mono (Nat.zero_le 2)),
    settles_requiredString _ _, settles_required (settles_list Violation.settles_format), trivial⟩

theorem TrustedAuthority.settles_format : TrustedAuthority.format.Settles 1 := by
  refine settles_transport (settles_record ?_ (by decide)) fun _ => rfl
  exact ⟨settles_requiredString _ _, settles_requiredString _ _,
    settles_requiredString _ _, trivial⟩

theorem TrustSnapshot.settles_format : TrustSnapshot.format.Settles 3 := by
  refine settles_transport (settles_record ?_ (by decide)) fun _ => rfl
  exact ⟨settles_defaulted (settles_list TrustedAuthority.settles_format) ((settled_nil _).mono (by decide)),
    trivial⟩

theorem Evidence.settles_format : Evidence.format.Settles 2 := by
  refine settles_transport (settles_record ?_ (by decide)) fun _ => rfl
  exact ⟨settles_requiredString _ _, settles_optionalString _ _,
    settles_required settles_strings,
    settles_optional TrustVerdict.settles_format TrustVerdict.keepsNull_format,
    settles_optionalString _ _, settles_optionalString _ _,
    settles_required (settles_members.mono (Nat.zero_le 1)),
    settles_required (settles_bool.mono (Nat.zero_le 1)), trivial⟩

theorem TraceStep.settles_format : TraceStep.format.Settles 1 := by
  refine settles_transport (settles_record ?_ (by decide)) fun _ => rfl
  exact ⟨settles_requiredString _ _, settles_requiredString _ _,
    settles_required settles_members, trivial⟩

theorem Trace.settles_format : Trace.format.Settles 3 := by
  refine settles_transport (settles_record ?_ (by decide)) fun _ => rfl
  exact ⟨settles_requiredString _ _, settles_required (settles_members.mono (Nat.zero_le 2)),
    settles_required (settles_list TraceStep.settles_format), trivial⟩

inductive RecordKind where
  | jwk
  | tokenHeader
  | keyMaterial
  | dcqlPreset
  | sdJwt
  | walletPreset
  | mdoc
  | devicePreset
  | storedPresentation
  | inlinePresentation
  | presentation
  | problem
  | trustSnapshot
  | evidence
  | trace

namespace RecordKind

def Value : RecordKind → Type
  | .jwk => Jwk
  | .tokenHeader => TokenHeader
  | .keyMaterial => KeyMaterial
  | .dcqlPreset => DcqlPreset
  | .sdJwt => SdJwt
  | .walletPreset => WalletPreset
  | .mdoc => Mdoc
  | .devicePreset => DevicePreset
  | .storedPresentation => StoredPresentation
  | .inlinePresentation => InlinePresentation
  | .presentation => Presentation
  | .problem => Problem
  | .trustSnapshot => TrustSnapshot
  | .evidence => Evidence
  | .trace => Trace

def format : (k : RecordKind) → Format k.Value
  | .jwk => Jwk.format
  | .tokenHeader => TokenHeader.format
  | .keyMaterial => KeyMaterial.format
  | .dcqlPreset => DcqlPreset.format
  | .sdJwt => SdJwt.jsonFormat
  | .walletPreset => WalletPreset.jsonFormat
  | .mdoc => Mdoc.jsonFormat
  | .devicePreset => DevicePreset.jsonFormat
  | .storedPresentation => StoredPresentation.jsonFormat
  | .inlinePresentation => InlinePresentation.jsonFormat
  | .presentation => Presentation.jsonFormat
  | .problem => Problem.format
  | .trustSnapshot => TrustSnapshot.format
  | .evidence => Evidence.format
  | .trace => Trace.format

theorem settles_format (k : RecordKind) : k.format.Settles 3 := by
  cases k with
  | jwk => exact Jwk.settles_format.mono (by decide)
  | tokenHeader => exact TokenHeader.settles_format.mono (by decide)
  | keyMaterial => exact KeyMaterial.settles_format.mono (by decide)
  | dcqlPreset => exact DcqlPreset.settles_format.mono (by decide)
  | sdJwt => exact SdJwt.settles_jsonFormat.mono (by decide)
  | walletPreset => exact WalletPreset.settles_jsonFormat.mono (by decide)
  | mdoc => exact Mdoc.settles_jsonFormat.mono (by decide)
  | devicePreset => exact DevicePreset.settles_jsonFormat.mono (by decide)
  | storedPresentation => exact StoredPresentation.settles_jsonFormat.mono (by decide)
  | inlinePresentation => exact InlinePresentation.settles_jsonFormat.mono (by decide)
  | presentation => exact Presentation.settles_jsonFormat.mono (by decide)
  | problem => exact Problem.settles_format
  | trustSnapshot => exact TrustSnapshot.settles_format
  | evidence => exact Evidence.settles_format.mono (by decide)
  | trace => exact Trace.settles_format

end RecordKind

/-- A record that has been read from any text, and in which there is no fraction, is read from the text that is
written of it, which is written of what is read there, too. -/
theorem reading_normalises {k : RecordKind} {t : Bytes} {v : k.Value} (decoded : k.format.decode t = .ok v)
    (fractionless : (k.format.toJson v).IsFractionless) :
    k.format.decodeText (k.format.encode v) = .ok v ∧
      (k.format.decodeText (k.format.encode v)).map k.format.encode = .ok (k.format.encode v) := by
  have again := k.settles_format.decodeText_encode (by decide) decoded fractionless
  exact ⟨again, by rw [again]; rfl⟩

def samplePreset : DevicePreset :=
  ⟨"d", "c", Presentation.mdocFormat, "t", "", [("a", .arr [.bool true]), ("b", .int (-2))], []⟩

def samplePresetText : String :=
  "\x7b \"claims\" : \x7b \"b\":\"\", \"a\":[true], \"b\":-2 \x7d, \"presetId\":\"d\", \"x\":[null]," ++
  "\"docType\":\"\\u0074\", \"credentialId\":\"c\", \"deviceResponse\":\"\" \x7d"

set_option maxRecDepth 1000 in
theorem reading_normalises_sample :
    DevicePreset.jsonFormat.decodeText samplePresetText = .ok samplePreset ∧
    DevicePreset.jsonFormat.decodeText (DevicePreset.jsonFormat.encode samplePreset) = .ok samplePreset := by
  have decoded : DevicePreset.jsonFormat.decodeText samplePresetText = .ok samplePreset := rfl
  have fractionless : (DevicePreset.jsonFormat.toJson samplePreset).IsFractionless := by
    exact ⟨trivial, trivial, trivial, trivial, trivial, ⟨⟨trivial, trivial⟩, trivial, trivial⟩, trivial, trivial⟩
  exact ⟨decoded, (reading_normalises (k := .devicePreset) decoded fractionless).1⟩

end VpExchange
